/-
  FlutterWlroots.Lib.LinkedList — singly linked lists in a heap.

  A heap maps addresses to nodes; `IsSeg h a cells b` says that following the links from `a` one
  meets exactly the nodes `cells`, each with its value, and then `b`.  The rules are the ones a
  program that pushes, unlinks and splices needs:

    • `IsSeg.congr`  — a segment depends on its own nodes only,
    • `IsSeg.push`   — a fresh node in front of a list,
    • `IsSeg.splice` — the last link of a list redirected to another list.
-/
import Mathlib.Data.List.AList

namespace Lib.LinkedList

/-- A node: a value and the address of the next node, if any. -/
structure Node (α : Type) where
  value : α
  next : Option Nat

/-- Finitely many nodes, by address. -/
abbrev Heap (α : Type) := AList fun _ : Nat => Node α

variable {α : Type} {h h' : Heap α} {a b c : Option Nat} {p : Nat} {v : α}
  {cells cells' : List (Nat × α)}

/-! ## §1. Segments. -/

/-- From `a`, the links lead through `cells` to `b`. -/
inductive IsSeg (h : Heap α) : Option Nat → List (Nat × α) → Option Nat → Prop where
  | nil (a : Option Nat) : IsSeg h a [] a
  | cons {p : Nat} {n : Node α} {cells : List (Nat × α)} {b : Option Nat}
      (hp : h.lookup p = some n) (hs : IsSeg h n.next cells b) :
      IsSeg h (some p) ((p, n.value) :: cells) b

/-- A list: a segment that ends at the null pointer. -/
abbrev IsList (h : Heap α) (a : Option Nat) (cells : List (Nat × α)) : Prop := IsSeg h a cells none

/-- The addresses of a segment. -/
def addrs (cells : List (Nat × α)) : List Nat := cells.map Prod.fst

/-- The values of a segment. -/
def values (cells : List (Nat × α)) : List α := cells.map Prod.snd

@[simp] theorem addrs_nil : addrs ([] : List (Nat × α)) = [] := rfl

@[simp] theorem addrs_cons : addrs ((p, v) :: cells) = p :: addrs cells := rfl

@[simp] theorem addrs_append : addrs (cells ++ cells') = addrs cells ++ addrs cells' :=
  List.map_append

@[simp] theorem values_cons : values ((p, v) :: cells) = v :: values cells := rfl

@[simp] theorem values_append : values (cells ++ cells') = values cells ++ values cells' :=
  List.map_append

theorem isList_none (hs : IsList h none cells) : cells = [] := by
  cases hs
  rfl

theorem isSeg_some (hs : IsSeg h (some p) cells b) (hb : b ≠ some p) :
    ∃ n rest, h.lookup p = some n ∧ cells = (p, n.value) :: rest ∧ IsSeg h n.next rest b := by
  cases hs with
  | nil => exact absurd rfl hb
  | cons hp hs => exact ⟨_, _, hp, rfl, hs⟩

/-- Every node of a segment is in the heap. -/
theorem IsSeg.mem_heap (hs : IsSeg h a cells b) (hp : p ∈ addrs cells) :
    ∃ n, h.lookup p = some n := by
  induction hs with
  | nil => cases hp
  | cons hq _ ih =>
      rcases List.mem_cons.mp hp with rfl | hp
      · exact ⟨_, hq⟩
      · exact ih hp

theorem IsSeg.unique_of_null (hs : IsSeg h a cells b) (hb : b = none) (hs' : IsList h a cells') :
    cells = cells' := by
  induction hs generalizing cells' with
  | nil =>
      subst hb
      exact (isList_none hs').symm
  | cons hp _ ih =>
      obtain ⟨n, rest, hn, rfl, hrest⟩ := isSeg_some hs' nofun
      rw [hp] at hn
      cases hn
      rw [ih hb hrest]

/-- **The links determine the list.** -/
theorem IsSeg.unique (hs : IsList h a cells) (hs' : IsList h a cells') : cells = cells' :=
  hs.unique_of_null rfl hs'

/-- A segment can be entered at each of its nodes. -/
theorem IsSeg.tail (hs : IsSeg h a cells b) (hp : p ∈ addrs cells) :
    ∃ pre post, cells = pre ++ post ∧ IsSeg h (some p) post b := by
  induction hs with
  | nil => cases hp
  | @cons q n cells b hq hs ih =>
      rcases List.mem_cons.mp hp with rfl | hp
      · exact ⟨[], _, rfl, .cons hq hs⟩
      · obtain ⟨pre, post, rfl, hpost⟩ := ih hp
        exact ⟨(q, n.value) :: pre, post, rfl, hpost⟩

theorem IsSeg.nodup_of_null (hs : IsSeg h a cells b) (hb : b = none) : (addrs cells).Nodup := by
  induction hs with
  | nil => exact List.nodup_nil
  | @cons p n cells b hp hs ih =>
      subst hb
      refine List.nodup_cons.mpr ⟨fun hmem => ?_, ih rfl⟩
      -- a second visit of `p` would start the whole list over
      obtain ⟨pre, post, rfl, hpost⟩ := hs.tail hmem
      have heq := congrArg List.length (hpost.unique (.cons hp hs))
      simp only [List.length_cons, List.length_append] at heq
      omega

/-- **A list has no cycle.** -/
theorem IsSeg.nodup (hs : IsList h a cells) : (addrs cells).Nodup :=
  hs.nodup_of_null rfl

/-- A list is no longer than its heap. -/
theorem IsSeg.length_le (hs : IsList h a cells) : cells.length ≤ h.keys.length := by
  -- no address is met twice, and all of them are keys of the heap
  have hsub : addrs cells ⊆ h.keys := by
    intro p hp
    obtain ⟨n, hn⟩ := hs.mem_heap hp
    exact AList.mem_keys.mp (AList.lookup_isSome.mp (by rw [hn]; rfl))
  simpa [addrs] using (List.subperm_of_subset hs.nodup hsub).length_le

theorem IsSeg.append (hs : IsSeg h a cells b) (hs' : IsSeg h b cells' c) :
    IsSeg h a (cells ++ cells') c := by
  induction hs with
  | nil => exact hs'
  | cons hp _ ih => exact .cons hp (ih hs')

/-! ## §2. Updates. -/

/-- **A segment depends on its own nodes only.** -/
theorem IsSeg.congr (hs : IsSeg h a cells b) (heq : ∀ p ∈ addrs cells, h'.lookup p = h.lookup p) :
    IsSeg h' a cells b := by
  induction hs with
  | nil => exact .nil _
  | cons hp _ ih =>
      refine .cons (by rw [heq _ List.mem_cons_self, hp]) (ih fun q hq => ?_)
      exact heq q (List.mem_cons_of_mem _ hq)

theorem IsSeg.insert (hs : IsSeg h a cells b) (hp : p ∉ addrs cells) (n : Node α) :
    IsSeg (h.insert p n) a cells b :=
  hs.congr fun _ hq => AList.lookup_insert_ne fun heq => hp (heq ▸ hq)

theorem IsSeg.erase (hs : IsSeg h a cells b) (hp : p ∉ addrs cells) : IsSeg (h.erase p) a cells b :=
  hs.congr fun _ hq => AList.lookup_erase_ne fun heq => hp (heq ▸ hq)

/-- A node put in front of a segment. -/
theorem IsSeg.push (hs : IsSeg h a cells b) (hp : p ∉ addrs cells) (v : α) :
    IsSeg (h.insert p ⟨v, a⟩) (some p) ((p, v) :: cells) b :=
  .cons (n := ⟨v, a⟩) (AList.lookup_insert h) (hs.insert hp _)

/-- **The last link of a list redirected to `b`.** -/
theorem IsSeg.relink {n : Node α} (hs : IsList h a (cells ++ [(p, v)])) (hp : p ∉ addrs cells)
    (hn : h.lookup p = some n) (b : Option Nat) :
    IsSeg (h.insert p ⟨n.value, b⟩) a (cells ++ [(p, v)]) b := by
  induction cells generalizing a with
  | nil =>
      -- `p` is the only node: its new link leads to `b`
      cases hs with
      | cons hp' _ =>
          rw [hn] at hp'
          cases hp'
          exact .cons (n := ⟨n.value, b⟩) (AList.lookup_insert h) (.nil b)
  | cons cell cells ih =>
      rw [List.cons_append] at hs ⊢
      cases hs with
      | cons hq hs =>
          rw [addrs_cons, List.mem_cons, not_or] at hp
          refine .cons ?_ (ih hs hp.2)
          rw [AList.lookup_insert_ne (Ne.symm hp.1), hq]

/-- **Two disjoint lists spliced** by redirecting the last link of the first. -/
theorem IsSeg.splice {n : Node α} (hs : IsList h a cells) (hs' : IsList h b cells')
    (hnodup : (addrs cells ++ addrs cells').Nodup) (hlast : (addrs cells).getLast? = some p)
    (hn : h.lookup p = some n) : IsList (h.insert p ⟨n.value, b⟩) a (cells ++ cells') := by
  obtain ⟨pre, cell, rfl⟩ : ∃ pre cell, cells = pre ++ [cell] := by
    rcases List.eq_nil_or_concat cells with rfl | ⟨pre, cell, rfl⟩
    · cases hlast
    · exact ⟨pre, cell, List.concat_eq_append⟩
  obtain ⟨q, v⟩ := cell
  obtain rfl : q = p := by simpa [addrs] using hlast
  obtain ⟨hpre, -, hdisj⟩ := List.nodup_append.mp hnodup
  -- the first list keeps its nodes, the second one does not contain the redirected node
  refine (hs.relink ?_ hn b).append (hs'.insert (fun hmem => ?_) _)
  · rw [addrs_append] at hpre
    exact fun hmem => (List.nodup_append.mp hpre).2.2 q hmem q List.mem_cons_self rfl
  · exact hdisj q (by simp [addrs]) q hmem rfl

end Lib.LinkedList
