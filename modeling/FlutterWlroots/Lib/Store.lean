/-
  FlutterWlroots.Lib.Store — objects that are allocated, updated and freed.

  A store maps identities to objects.  An identity is never given out twice, so that a pointer to
  a freed object stays dangling even where an allocator would reuse the address.  `Closed` says
  that the references of a kind lead to targets that are there; the rules say what each operation
  on the referring objects, and each change of the targets, has to show:

    • `Closed.alloc`, `Closed.set`, `Closed.modifyAll` — the new references have targets,
    • `Closed.free`     — nothing,
    • `Closed.retarget` — the targets that go away are not referred to.
-/
import Mathlib.Data.List.AList
import Mathlib.Logic.Function.Basic

namespace Lib

/-- What is known of a value of a function that was changed at one point. -/
theorem of_update {α β : Type} [DecidableEq α] {f : α → β} {p q : α} {x y : β}
    (h : Function.update f p x q = y) : q = p ∧ x = y ∨ q ≠ p ∧ f q = y := by
  by_cases hq : q = p
  · rw [hq, Function.update_self] at h
    exact .inl ⟨hq, h⟩
  · rw [Function.update_of_ne hq] at h
    exact .inr ⟨hq, h⟩

theorem of_update_ne {α β : Type} [DecidableEq α] {f : α → β} {p q : α} {x y : β} (hne : x ≠ y)
    (h : Function.update f p x q = y) : q ≠ p ∧ f q = y :=
  (of_update h).resolve_left fun heq => hne heq.2

theorem of_update_none {α β : Type} [DecidableEq α] {f : α → Option β} {p q : α} {y : β}
    (h : Function.update f p none q = some y) : q ≠ p ∧ f q = some y :=
  of_update_ne (fun hnone : none = some y => nomatch hnone) h

/-- Objects by identity; `next` is the identity of the next object. -/
structure Store (α : Type) where
  objects : AList fun _ : Nat => α
  next : Nat
  fresh : ∀ p ∈ objects, p < next

namespace Store

variable {α : Type} {s : Store α} {p q : Nat} {x y : α}

def empty : Store α := ⟨∅, 0, fun p hp => absurd hp (AList.notMem_empty p)⟩

/-- The object, unless it has been freed. -/
def get (s : Store α) (p : Nat) : Option α := s.objects.lookup p

/-- The object is there. -/
def Live (s : Store α) (p : Nat) : Prop := p ∈ s.objects

instance (s : Store α) (p : Nat) : Decidable (s.Live p) := inferInstanceAs (Decidable (_ ∈ _))

/-- A new object; its identity is `s.next`. -/
def alloc (s : Store α) (x : α) : Store α where
  objects := s.objects.insert s.next x
  next := s.next + 1
  fresh := by
    intro p hp
    rcases (AList.mem_insert _).mp hp with rfl | hp
    · exact Nat.lt_succ_self _
    · exact Nat.lt_succ_of_lt (s.fresh p hp)

/-- An object overwritten; nothing if it is not there. -/
def set (s : Store α) (p : Nat) (x : α) : Store α :=
  if hp : p ∈ s.objects then
    { objects := s.objects.insert p x
      next := s.next
      fresh := by
        intro q hq
        rcases (AList.mem_insert _).mp hq with rfl | hq
        · exact s.fresh _ hp
        · exact s.fresh q hq }
  else s

def free (s : Store α) (p : Nat) : Store α where
  objects := s.objects.erase p
  next := s.next
  fresh := fun q hq => s.fresh q (AList.mem_erase.mp hq).2

/-- The objects of a list updated one after the other; no result if one of them is not there. -/
def modifyAll (f : α → α) : List Nat → Store α → Option (Store α)
  | [], s => some s
  | p :: ps, s =>
      match s.get p with
      | some x => modifyAll f ps (s.set p (f x))
      | none => none

/-! ## §1. Reading after writing. -/

theorem live_iff : s.Live p ↔ ∃ x, s.get p = some x := by
  rw [Live, ← AList.lookup_isSome, Option.isSome_iff_exists]
  rfl

theorem live_of_get (h : s.get p = some x) : s.Live p := live_iff.mpr ⟨x, h⟩

theorem not_live_next (s : Store α) : ¬ s.Live s.next := fun h => Nat.lt_irrefl _ (s.fresh _ h)

theorem ne_next (h : s.Live p) : p ≠ s.next := fun heq => not_live_next s (heq ▸ h)

@[simp] theorem get_empty (p : Nat) : (empty : Store α).get p = none := AList.lookup_empty p

/-- Nothing is at the next address yet. -/
theorem get_next (s : Store α) : s.get s.next = none := AList.lookup_eq_none.mpr (not_live_next s)

theorem get_alloc_next (s : Store α) (x : α) : (s.alloc x).get s.next = some x :=
  AList.lookup_insert _

theorem get_alloc_ne (h : p ≠ s.next) : (s.alloc x).get p = s.get p := AList.lookup_insert_ne h

theorem get_alloc (h : (s.alloc x).get p = some y) : p = s.next ∧ y = x ∨ s.get p = some y := by
  by_cases hp : p = s.next
  · subst hp
    rw [get_alloc_next] at h
    exact .inl ⟨rfl, (Option.some.inj h).symm⟩
  · rw [get_alloc_ne hp] at h
    exact .inr h

theorem live_alloc : (s.alloc x).Live p ↔ p = s.next ∨ s.Live p := AList.mem_insert _

theorem live_set : (s.set q x).Live p ↔ s.Live p := by
  unfold set
  split
  case isTrue hq => exact (AList.mem_insert _).trans ⟨fun h => h.elim (· ▸ hq) id, .inr⟩
  case isFalse => rfl

theorem get_set_self (h : s.Live p) : (s.set p x).get p = some x := by
  rw [set, dif_pos (show p ∈ s.objects from h)]
  exact AList.lookup_insert _

theorem get_set_ne (h : p ≠ q) : (s.set q x).get p = s.get p := by
  unfold set
  split
  case isTrue hq => exact AList.lookup_insert_ne h
  case isFalse => rfl

theorem get_set (h : (s.set q x).get p = some y) : p = q ∧ y = x ∨ p ≠ q ∧ s.get p = some y := by
  by_cases hp : p = q
  · subst hp
    rw [get_set_self (live_set.mp (live_of_get h))] at h
    exact .inl ⟨rfl, (Option.some.inj h).symm⟩
  · rw [get_set_ne hp] at h
    exact .inr ⟨hp, h⟩

theorem live_free : (s.free q).Live p ↔ p ≠ q ∧ s.Live p := AList.mem_erase

theorem get_free_ne (hne : p ≠ q) (h : s.get p = some y) : (s.free q).get p = some y :=
  (AList.lookup_erase_ne hne).trans h

theorem get_free (h : (s.free q).get p = some y) : p ≠ q ∧ s.get p = some y := by
  have hne : p ≠ q := (live_free.mp (live_of_get h)).1
  exact ⟨hne, (AList.lookup_erase_ne hne).symm.trans h⟩

/-! The contents as a function. -/

theorem get_alloc_eq (s : Store α) (x : α) :
    (s.alloc x).get = Function.update s.get s.next (some x) := by
  funext p
  by_cases hp : p = s.next
  · rw [hp, get_alloc_next, Function.update_self]
  · rw [get_alloc_ne hp, Function.update_of_ne hp]

theorem get_set_eq (h : s.Live p) (x : α) : (s.set p x).get = Function.update s.get p (some x) := by
  funext q
  by_cases hq : q = p
  · rw [hq, get_set_self h, Function.update_self]
  · rw [get_set_ne hq, Function.update_of_ne hq]

theorem get_free_eq (s : Store α) (p : Nat) : (s.free p).get = Function.update s.get p none := by
  funext q
  by_cases hq : q = p
  · subst hq
    rw [Function.update_self]
    exact AList.lookup_erase q s.objects
  · rw [Function.update_of_ne hq]
    exact AList.lookup_erase_ne hq

@[simp] theorem next_alloc (s : Store α) (x : α) : (s.alloc x).next = s.next + 1 := rfl

@[simp] theorem next_set (s : Store α) (p : Nat) (x : α) : (s.set p x).next = s.next := by
  unfold set
  split <;> rfl

@[simp] theorem next_free (s : Store α) (p : Nat) : (s.free p).next = s.next := rfl

/-- Objects that are there can be updated one after the other. -/
theorem exists_modifyAll (f : α → α) : ∀ {ps : List Nat} {s : Store α}, (∀ p ∈ ps, s.Live p) →
    ∃ s', s.modifyAll f ps = some s'
  | [], s, _ => ⟨s, rfl⟩
  | p :: ps, s, h => by
      obtain ⟨hp, hps⟩ := List.forall_mem_cons.mp h
      obtain ⟨x, hx⟩ := live_iff.mp hp
      obtain ⟨s', hs'⟩ := exists_modifyAll f (s := s.set p (f x)) fun q hq =>
        live_set.mpr (hps q hq)
      refine ⟨s', ?_⟩
      rw [modifyAll, hx]
      exact hs'

/-- A projection that no update changes is the same of every object. -/
theorem modifyAll_map {β : Type} {f : α → α} {g : α → β} (hf : ∀ x, g (f x) = g x) :
    ∀ {ps : List Nat} {s s' : Store α}, modifyAll f ps s = some s' →
      s'.next = s.next ∧ ∀ p, (s'.get p).map g = (s.get p).map g
  | [], s, s', h => by
      cases h
      exact ⟨rfl, fun _ => rfl⟩
  | q :: ps, s, s', h => by
      rw [modifyAll] at h
      split at h
      next x hx =>
        obtain ⟨hnext, hget⟩ := modifyAll_map hf h
        refine ⟨hnext.trans (next_set s q _), fun p => (hget p).trans ?_⟩
        rw [get_set_eq (live_of_get hx)]
        by_cases hp : p = q
        · rw [hp, Function.update_self, hx, Option.map_some, Option.map_some, hf]
        · rw [Function.update_of_ne hp]
      next => cases h

/-- What is seen of the objects through a function. -/
def project {β : Type} (f : α → β) (s : Store α) (p : Nat) : Option β := (s.get p).map f

section Project

variable {β : Type} {f : α → β}

theorem project_of_get (f : α → β) (hx : s.get p = some x) : s.project f p = some (f x) :=
  congrArg (Option.map f) hx

theorem project_eq_some {b : β} : s.project f p = some b ↔ ∃ x, s.get p = some x ∧ f x = b :=
  Option.map_eq_some_iff

theorem project_next (f : α → β) (s : Store α) : s.project f s.next = none := by
  unfold project
  rw [get_next, Option.map_none]

theorem project_alloc (f : α → β) (s : Store α) (x : α) :
    (s.alloc x).project f = Function.update (s.project f) s.next (some (f x)) := by
  funext p
  unfold project
  rw [get_alloc_eq]
  by_cases hp : p = s.next
  · rw [hp, Function.update_self, Function.update_self, Option.map_some]
  · rw [Function.update_of_ne hp, Function.update_of_ne hp]

theorem project_set (f : α → β) (h : s.Live p) (x : α) :
    (s.set p x).project f = Function.update (s.project f) p (some (f x)) := by
  funext q
  unfold project
  rw [get_set_eq h]
  by_cases hq : q = p
  · rw [hq, Function.update_self, Function.update_self, Option.map_some]
  · rw [Function.update_of_ne hq, Function.update_of_ne hq]

/-- A change that is not seen. -/
theorem project_set_same (hx : s.get p = some x) (hf : f y = f x) :
    (s.set p y).project f = s.project f := by
  rw [project_set f (live_of_get hx), hf, ← project_of_get f hx, Function.update_eq_self]

theorem project_free (f : α → β) (s : Store α) (p : Nat) :
    (s.free p).project f = Function.update (s.project f) p none := by
  funext q
  unfold project
  rw [get_free_eq]
  by_cases hq : q = p
  · rw [hq, Function.update_self, Function.update_self, Option.map_none]
  · rw [Function.update_of_ne hq, Function.update_of_ne hq]

end Project

/-- The objects of the list are updated, the others are not. -/
theorem get_modifyAll {f : α → α} (hf : ∀ x, f (f x) = f x) : ∀ {ps : List Nat} {s s' : Store α},
    modifyAll f ps s = some s' → ∀ p, s'.get p = if p ∈ ps then (s.get p).map f else s.get p
  | [], s, s', h, p => by
      cases h
      exact (if_neg List.not_mem_nil).symm
  | q :: ps, s, s', h, p => by
      rw [modifyAll] at h
      split at h
      next x hx =>
        rw [get_modifyAll hf h p, get_set_eq (live_of_get hx)]
        by_cases hp : p = q
        · -- an object that comes twice is updated twice
          rw [hp, Function.update_self, hx, if_pos List.mem_cons_self, Option.map_some,
            Option.map_some, hf, ite_self]
        · rw [Function.update_of_ne hp]
          simp only [List.mem_cons, hp, false_or]
      next => cases h

theorem project_modifyAll {β : Type} {f : α → β} {g : α → α} {k : β → β} {ps : List Nat}
    {s' : Store α} (hidem : ∀ x, g (g x) = g x) (hk : ∀ x, f (g x) = k (f x))
    (h : modifyAll g ps s = some s') (p : Nat) :
    s'.project f p = if p ∈ ps then (s.project f p).map k else s.project f p := by
  unfold project
  rw [get_modifyAll hidem h p]
  split
  · rw [Option.map_map, Option.map_map]
    congr 1
    exact funext hk
  · rfl

/-- Every object has the property. -/
def Forall (s : Store α) (P : α → Prop) : Prop := ∀ p x, s.get p = some x → P x

theorem forall_iff {P : α → Prop} : s.Forall P ↔ ∀ e ∈ s.objects.entries, P e.2 :=
  ⟨fun h e he => h e.1 e.2 (AList.mem_lookup_iff.mpr he),
    fun h p x hx => h ⟨p, x⟩ (AList.mem_lookup_iff.mp hx)⟩

instance (s : Store α) (P : α → Prop) [DecidablePred P] : Decidable (s.Forall P) :=
  decidable_of_iff _ forall_iff.symm

/-- Every object has the property, which may depend on its identity. -/
def ForallAt (s : Store α) (P : Nat → α → Prop) : Prop := ∀ p x, s.get p = some x → P p x

theorem forallAt_iff {P : Nat → α → Prop} :
    s.ForallAt P ↔ ∀ e ∈ s.objects.entries, P e.1 e.2 :=
  ⟨fun h e he => h e.1 e.2 (AList.mem_lookup_iff.mpr he),
    fun h p x hx => h ⟨p, x⟩ (AList.mem_lookup_iff.mp hx)⟩

instance (s : Store α) (P : Nat → α → Prop) [∀ p x, Decidable (P p x)] :
    Decidable (s.ForallAt P) := decidable_of_iff _ forallAt_iff.symm

/-! ## §2. References. -/

/-- Every reference of the kind `ref` leads to a target. -/
def Closed (s : Store α) (ref : α → Nat → Prop) (target : Nat → Prop) : Prop :=
  ∀ p x, s.get p = some x → ∀ t, ref x t → target t

variable {ref : α → Nat → Prop} {target target' : Nat → Prop}

theorem closed_empty : (empty : Store α).Closed ref target := by
  intro p x hx
  rw [get_empty] at hx
  cases hx

theorem Closed.alloc (h : s.Closed ref target) (hx : ∀ t, ref x t → target t) :
    (s.alloc x).Closed ref target := by
  intro p y hy
  rcases get_alloc hy with ⟨-, rfl⟩ | hy
  · exact hx
  · exact h p y hy

theorem Closed.set (h : s.Closed ref target) (hx : ∀ t, ref x t → target t) :
    (s.set p x).Closed ref target := by
  intro q y hy
  rcases get_set hy with ⟨-, rfl⟩ | ⟨-, hy⟩
  · exact hx
  · exact h q y hy

theorem Closed.free (h : s.Closed ref target) : (s.free p).Closed ref target :=
  fun q y hy => h q y (get_free hy).2

/-- The references of an object that is there have targets. -/
theorem Closed.apply (h : s.Closed ref target) (hx : s.get p = some x) {t : Nat} (ht : ref x t) :
    target t := h p x hx t ht

/-- **The targets may change where nothing refers to them.** -/
theorem Closed.retarget (h : s.Closed ref target)
    (ht : ∀ p x t, s.get p = some x → ref x t → target t → target' t) : s.Closed ref target' :=
  fun p x hx t hr => ht p x t hx hr (h p x hx t hr)

theorem Closed.mono (h : s.Closed ref target) (ht : ∀ t, target t → target' t) :
    s.Closed ref target' := h.retarget fun _ _ t _ _ => ht t

theorem Closed.modifyAll {f : α → α} (hf : ∀ x t, ref (f x) t → ref x t ∨ target t) :
    ∀ {ps : List Nat} {s s' : Store α}, s.Closed ref target → Store.modifyAll f ps s = some s' →
      s'.Closed ref target
  | [], s, s', h, hs => by
      cases hs
      exact h
  | q :: ps, s, s', h, hs => by
      rw [Store.modifyAll] at hs
      split at hs
      next x hx =>
        refine Closed.modifyAll hf (h.set fun t ht => ?_) hs
        exact (hf x t ht).elim (h.apply hx) id
      next => cases hs

end Store

end Lib
