/-
  FlutterWlroots.Lib.Signals — listeners and the signals they are linked to.

  A listener is a node that can be in the list of one signal at a time.  Linking it a second time
  would leave it in both lists, and taking it out of no list would follow pointers that lead nowhere;
  both have no result.  The rules say who is linked after a sequence of either:

    • `on_addAll`    — all of them to their signals,
    • `on_removeAll` — all of them taken out, which they can be if all are linked.
-/
import Mathlib.Data.List.Nodup

namespace Lib

/-- The listeners that are linked, each with its signal, in order of registration. -/
structure Signals (Signal Listener : Type) where
  linked : List (Signal × Listener)
  unique : (linked.map Prod.snd).Nodup

namespace Signals

variable {Signal Listener : Type} {s s' : Signals Signal Listener} {signal signal' : Signal}
  {l l' : Listener}

def empty : Signals Signal Listener := ⟨[], List.nodup_nil⟩

/-- The listener is in the list of the signal. -/
def On (s : Signals Signal Listener) (signal : Signal) (l : Listener) : Prop :=
  (signal, l) ∈ s.linked

/-- The listener is in some list. -/
def Linked (s : Signals Signal Listener) (l : Listener) : Prop := l ∈ s.linked.map Prod.snd

instance [DecidableEq Listener] (s : Signals Signal Listener) (l : Listener) :
    Decidable (s.Linked l) :=
  inferInstanceAs (Decidable (_ ∈ _))

/-- The list of a signal. -/
def listeners [DecidableEq Signal] (s : Signals Signal Listener) (signal : Signal) :
    List Listener :=
  (s.linked.filter fun link => link.1 = signal).map Prod.snd

theorem linked_iff : s.Linked l ↔ ∃ signal, s.On signal l := by
  unfold Linked On
  rw [List.mem_map]
  exact ⟨fun ⟨link, hmem, hl⟩ => ⟨link.1, hl ▸ hmem⟩, fun ⟨signal, hmem⟩ => ⟨_, hmem, rfl⟩⟩

theorem On.linked (h : s.On signal l) : s.Linked l := linked_iff.mpr ⟨signal, h⟩

theorem not_linked_empty : ¬ (empty : Signals Signal Listener).Linked l := nofun

variable [DecidableEq Listener]

/-! ## §1. One listener. -/

/-- `wl_signal_add`. -/
def add (s : Signals Signal Listener) (signal : Signal) (l : Listener) :
    Option (Signals Signal Listener) :=
  if h : s.Linked l then none
  else some
    { linked := s.linked ++ [(signal, l)]
      unique := by
        rw [List.map_append]
        refine List.nodup_append.mpr ⟨s.unique, List.nodup_singleton l, fun a ha b hb heq => h ?_⟩
        rw [heq, List.mem_singleton.mp hb] at ha
        exact ha }

/-- `wl_list_remove`. -/
def remove (s : Signals Signal Listener) (l : Listener) : Option (Signals Signal Listener) :=
  if s.Linked l then some
    { linked := s.linked.filter fun link => link.2 ≠ l
      unique := s.unique.sublist (List.filter_sublist.map _) }
  else none

theorem on_add (h : s.add signal l = some s') {signal' : Signal} {l' : Listener} :
    s'.On signal' l' ↔ (signal', l') = (signal, l) ∨ s.On signal' l' := by
  unfold add at h
  split at h
  next => cases h
  next =>
    cases h
    show (signal', l') ∈ s.linked ++ [(signal, l)] ↔ _
    rw [List.mem_append, List.mem_singleton, or_comm]
    rfl

theorem on_remove (h : s.remove l = some s') {signal' : Signal} {l' : Listener} :
    s'.On signal' l' ↔ l' ≠ l ∧ s.On signal' l' := by
  unfold remove at h
  split at h
  next =>
    cases h
    show (signal', l') ∈ s.linked.filter _ ↔ _
    rw [List.mem_filter, decide_eq_true_iff, and_comm]
    rfl
  next => cases h

theorem exists_remove (h : s.Linked l) : ∃ s', s.remove l = some s' := by
  unfold remove
  rw [if_pos h]
  exact ⟨_, rfl⟩

theorem linked_remove (h : s.remove l = some s') : s'.Linked l' ↔ l' ≠ l ∧ s.Linked l' := by
  simp only [linked_iff, on_remove h, exists_and_left]

/-! ## §2. Several listeners. -/

/-- Listeners linked one after the other. -/
def addAll : List (Signal × Listener) → Signals Signal Listener → Option (Signals Signal Listener)
  | [], s => some s
  | (signal, l) :: links, s =>
      match s.add signal l with
      | some s => addAll links s
      | none => none

/-- Listeners taken out one after the other. -/
def removeAll : List Listener → Signals Signal Listener → Option (Signals Signal Listener)
  | [], s => some s
  | l :: ls, s =>
      match s.remove l with
      | some s => removeAll ls s
      | none => none

/-- **All of them are linked.** -/
theorem on_addAll : ∀ {links : List (Signal × Listener)} {s s' : Signals Signal Listener},
    s.addAll links = some s' → ∀ {signal : Signal} {l : Listener},
      s'.On signal l ↔ (signal, l) ∈ links ∨ s.On signal l
  | [], s, s', h, signal, l => by
      cases h
      exact (or_iff_right List.not_mem_nil).symm
  | (signal', l') :: links, s, s', h, signal, l => by
      rw [addAll] at h
      split at h
      next s1 hadd => rw [on_addAll h, on_add hadd, List.mem_cons, or_left_comm, or_assoc]
      next => cases h

/-- **None of them is linked.** -/
theorem on_removeAll : ∀ {ls : List Listener} {s s' : Signals Signal Listener},
    s.removeAll ls = some s' → ∀ {signal : Signal} {l : Listener},
      s'.On signal l ↔ l ∉ ls ∧ s.On signal l
  | [], s, s', h, signal, l => by
      cases h
      exact (and_iff_right List.not_mem_nil).symm
  | l' :: ls, s, s', h, signal, l => by
      rw [removeAll] at h
      split at h
      next s1 hremove =>
        rw [on_removeAll h, on_remove hremove, List.mem_cons, not_or, and_left_comm, and_assoc]
      next => cases h

theorem linked_addAll {links : List (Signal × Listener)} (h : s.addAll links = some s') :
    s'.Linked l ↔ l ∈ links.map Prod.snd ∨ s.Linked l := by
  simp only [linked_iff, on_addAll h, exists_or, List.mem_map, Prod.exists, exists_eq_right]

theorem linked_removeAll {ls : List Listener} (h : s.removeAll ls = some s') :
    s'.Linked l ↔ l ∉ ls ∧ s.Linked l := by
  simp only [linked_iff, on_removeAll h, exists_and_left]

/-- Linked listeners can be taken out. -/
theorem exists_removeAll : ∀ {ls : List Listener} {s : Signals Signal Listener},
    ls.Nodup → (∀ l ∈ ls, s.Linked l) → ∃ s', s.removeAll ls = some s'
  | [], s, _, _ => ⟨s, rfl⟩
  | l :: ls, s, hnodup, hlinked => by
      obtain ⟨hl, hrest⟩ := List.nodup_cons.mp hnodup
      obtain ⟨s1, hremove⟩ := exists_remove (hlinked l List.mem_cons_self)
      rw [removeAll, hremove]
      refine exists_removeAll hrest fun l' hl' => (linked_remove hremove).mpr ⟨?_, ?_⟩
      · rintro rfl
        exact hl hl'
      · exact hlinked l' (List.mem_cons_of_mem _ hl')

end Signals

end Lib
