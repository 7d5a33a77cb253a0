/-
  FlutterWlroots.Lib.Ledger — the blocks that are allocated.

  The ledger is the set of live blocks.  An allocator gives a block that is not in it, and may give
  a block again once it was freed.  `Allocated owned live live₁` says that the blocks `owned`, all
  different and new, are what has been added.

    • `freeAll_eq_some`     — blocks that are live are freed one after the other,
    • `Allocated.append`    — what two steps add,
    • `Allocated.free_some` — what is left when some of the new blocks are freed.
-/
import Mathlib.Data.Finset.Card
import Mathlib.Data.Finset.Dedup
import Mathlib.Data.Finset.Lattice.Lemmas
import Mathlib.Data.List.Perm.Subperm

namespace Lib.Ledger

/-- What `calloc` returns, for the blocks that are live. -/
structure Allocator where
  next : Finset Nat → Nat
  fresh : ∀ live, next live ∉ live

/-- `free`; no result for a block that is not live. -/
def free (p : Nat) (live : Finset Nat) : Option (Finset Nat) :=
  if p ∈ live then some (live.erase p) else none

def freeAll : List Nat → Finset Nat → Option (Finset Nat)
  | [], live => some live
  | p :: ps, live => (free p live).bind (freeAll ps)

variable {owned freed ps : List Nat} {live live₁ live₂ : Finset Nat}

theorem freeAll_append (ps qs : List Nat) (live : Finset Nat) :
    freeAll (ps ++ qs) live = (freeAll ps live).bind (freeAll qs) := by
  induction ps generalizing live with
  | nil => rfl
  | cons p ps ih =>
      rw [List.cons_append, freeAll, freeAll, Option.bind_assoc]
      congr 1
      funext live
      exact ih live

theorem freeAll_concat (ps : List Nat) (p : Nat) (live : Finset Nat) :
    freeAll (ps ++ [p]) live = (freeAll ps live).bind (free p) := by
  have hone : freeAll [p] = free p := funext fun live => Option.bind_fun_some (free p live)
  rw [freeAll_append, hone]

theorem freeAll_eq_some (hnodup : ps.Nodup) (hlive : ∀ p ∈ ps, p ∈ live) :
    freeAll ps live = some (live \ ps.toFinset) := by
  induction ps generalizing live with
  | nil => rw [freeAll, List.toFinset_nil, Finset.sdiff_empty]
  | cons p ps ih =>
      obtain ⟨hp, hnodup⟩ := List.nodup_cons.mp hnodup
      obtain ⟨hin, hlive⟩ := List.forall_mem_cons.mp hlive
      have hrest : ∀ q ∈ ps, q ∈ live.erase p := fun q hq =>
        Finset.mem_erase.mpr ⟨fun heq => hp (heq ▸ hq), hlive q hq⟩
      rw [freeAll, free, if_pos hin, Option.bind_some, ih hnodup hrest, List.toFinset_cons,
        Finset.sdiff_insert, Finset.erase_sdiff_comm]

/-- What has been added to the ledger. -/
structure Allocated (owned : List Nat) (live live₁ : Finset Nat) : Prop where
  nodup : owned.Nodup
  fresh : ∀ p ∈ owned, p ∉ live
  eq : live₁ = live ∪ owned.toFinset

theorem allocated_nil (live : Finset Nat) : Allocated [] live live :=
  ⟨List.nodup_nil, nofun, by rw [List.toFinset_nil, Finset.union_empty]⟩

theorem allocated_calloc (a : Allocator) (live : Finset Nat) :
    Allocated [a.next live] live (insert (a.next live) live) := by
  refine ⟨List.nodup_singleton _, fun p hp => ?_, ?_⟩
  · rw [List.mem_singleton.mp hp]
    exact a.fresh live
  · rw [List.toFinset_cons, List.toFinset_nil, insert_empty_eq, Finset.union_comm, Finset.insert_eq]

/-- **Sequencing.** -/
theorem Allocated.append {owned' : List Nat} (h : Allocated owned live live₁)
    (h' : Allocated owned' live₁ live₂) : Allocated (owned ++ owned') live live₂ := by
  have hnew : ∀ p ∈ owned', p ∉ live ∧ p ∉ owned := by
    intro p hp
    have hfresh := h'.fresh p hp
    rw [h.eq, Finset.mem_union, List.mem_toFinset, not_or] at hfresh
    exact hfresh
  refine ⟨?_, fun p hp => ?_, ?_⟩
  · refine List.nodup_append.mpr ⟨h.nodup, h'.nodup, ?_⟩
    rintro p hp q hq rfl
    exact (hnew p hq).2 hp
  · rcases List.mem_append.mp hp with hp | hp
    · exact h.fresh p hp
    · exact (hnew p hp).1
  · rw [h'.eq, h.eq, List.toFinset_append, Finset.union_assoc]

/-- **Freeing some of the blocks**: each one is live, and the others are left. -/
theorem Allocated.free_some (h : Allocated owned live live₁) (hsub : freed.Subperm owned) :
    ∃ left, freeAll freed live₁ = some left ∧ live ⊆ left
      ∧ left.card + freed.length = live.card + owned.length := by
  have hnodup : freed.Nodup := by
    obtain ⟨ps, hperm, hps⟩ := hsub
    exact hperm.nodup_iff.mp (hps.nodup h.nodup)
  have hlive : freed.toFinset ⊆ live₁ := by
    intro p hp
    rw [h.eq, Finset.mem_union, List.mem_toFinset]
    exact .inr (hsub.subset (List.mem_toFinset.mp hp))
  have hdisjoint : Disjoint live owned.toFinset := by
    rw [Finset.disjoint_right]
    intro p hp
    exact h.fresh p (List.mem_toFinset.mp hp)
  refine ⟨live₁ \ freed.toFinset,
    freeAll_eq_some hnodup fun p hp => hlive (List.mem_toFinset.mpr hp), ?_, ?_⟩
  · intro p hp
    rw [Finset.mem_sdiff, h.eq, Finset.mem_union, List.mem_toFinset]
    exact ⟨.inl hp, fun hfreed => h.fresh p (hsub.subset (List.mem_toFinset.mp hfreed)) hp⟩
  · calc (live₁ \ freed.toFinset).card + freed.length
        = (live₁ \ freed.toFinset).card + freed.toFinset.card := by
          rw [List.toFinset_card_of_nodup hnodup]
      _ = live₁.card := Finset.card_sdiff_add_card_eq_card hlive
      _ = live.card + owned.length := by
          rw [h.eq, Finset.card_union_of_disjoint hdisjoint, List.toFinset_card_of_nodup h.nodup]

end Lib.Ledger
