/-
  FlutterWlroots.Lib.CircularList — circular lists with a sentinel.

  The elements and a sentinel (`none`) are linked in both directions, as in C code that embeds the
  links in the elements.  `l.Holds xs` says that from the sentinel one meets exactly `xs` and then the
  sentinel again, backwards in reverse order.  Going around from an element one meets the others
  and then the element itself:

    • `Path.append_iff`, `Path.nodup` — the parts of a path; it cannot meet an element twice,
    • `around_around`                 — it does not matter where a ring is cut open,
    • `iterate_visited`               — going on and on from one element with a property to the next
                                        meets all of them, the first one last.
-/
import Mathlib.Data.List.Nodup
import Mathlib.Logic.Function.Iterate

namespace Lib

/-- The links of a circular list with a sentinel. -/
structure CircularList (α : Type) where
  next : Option α → Option α
  prev : Option α → Option α

namespace CircularList

variable {α : Type} {f : Option α → Option α} {a b : Option α} {x start : α} {xs ys zs : List α}

/-! ## §1. Paths. -/

/-- From `a` one meets exactly these elements, and then `b`. -/
inductive Path (f : Option α → Option α) : Option α → List α → Option α → Prop where
  | nil (a : Option α) : Path f a [] a
  | cons {x : α} {xs : List α} {b : Option α} (h : Path f (f (some x)) xs b) :
      Path f (some x) (x :: xs) b

theorem Path.append_iff : Path f a (xs ++ x :: ys) b ↔
    Path f a xs (some x) ∧ Path f (f (some x)) ys b := by
  induction xs generalizing a with
  | nil =>
      refine ⟨fun h => ?_, fun ⟨hx, h⟩ => ?_⟩
      · cases h with
        | cons h => exact ⟨.nil _, h⟩
      · cases hx
        exact .cons h
  | cons y xs ih =>
      refine ⟨fun h => ?_, fun ⟨hx, hb⟩ => ?_⟩
      · cases h with
        | cons h =>
            obtain ⟨hx, hb⟩ := ih.mp h
            exact ⟨.cons hx, hb⟩
      · cases hx with
        | cons h => exact .cons (ih.mpr ⟨h, hb⟩)

/-- There is one way from an element to the sentinel. -/
theorem Path.unique (h : Path f a xs none) (h' : Path f a ys none) : xs = ys := by
  generalize hb : (none : Option α) = b at h
  induction h generalizing ys with
  | nil =>
      subst hb
      cases h'
      rfl
  | cons _ ih =>
      cases h' with
      | cons h' => rw [ih h' hb]

/-- An element met twice would be met again and again. -/
theorem Path.nodup (h : Path f a xs none) : xs.Nodup := by
  generalize hb : (none : Option α) = b at h
  induction h with
  | nil => exact .nil
  | @cons x xs _ h ih =>
      subst hb
      refine List.nodup_cons.mpr ⟨fun hmem => ?_, ih rfl⟩
      obtain ⟨before, after, hxs⟩ := List.append_of_mem hmem
      obtain ⟨-, hafter⟩ := append_iff.mp (hxs ▸ h)
      have hlength := congrArg List.length (hxs.symm.trans (h.unique hafter))
      rw [List.length_append, List.length_cons] at hlength
      omega

/-- The list holds the elements in this order. -/
structure Holds (l : CircularList α) (xs : List α) : Prop where
  next : Path l.next (l.next none) xs none
  prev : Path l.prev (l.prev none) xs.reverse none

/-! ## §2. Around. -/

section Around

variable [DecidableEq α]

/-- From behind `start` to the end, then from the beginning to `start`. -/
def around (start : α) (xs : List α) : List α :=
  (xs.dropWhile (· ≠ start)).tail ++ xs.takeWhile (· ≠ start) ++ [start]

theorem around_append (h : (xs ++ start :: ys).Nodup) :
    around start (xs ++ start :: ys) = ys ++ xs ++ [start] := by
  have hnot : start ∉ xs ++ ys := (List.nodup_cons.mp (List.nodup_middle.mp h)).1
  have hne : ∀ x ∈ xs, decide (x ≠ start) = true := fun x hx =>
    decide_eq_true fun heq => hnot (List.mem_append_left _ (heq ▸ hx))
  rw [around, List.dropWhile_append_of_pos hne, List.takeWhile_append_of_pos hne,
    List.dropWhile_cons_of_neg (by simp), List.takeWhile_cons_of_neg (by simp), List.append_nil,
    List.tail_cons]

/-- Another place where the ring is cut open. -/
theorem around_append_comm (h : (xs ++ ys).Nodup) (hx : x ∈ xs) :
    around x (xs ++ ys) = around x (ys ++ xs) := by
  have h' : (ys ++ xs).Nodup := List.perm_append_comm.nodup_iff.mp h
  obtain ⟨before, after, rfl⟩ := List.append_of_mem hx
  rw [List.append_assoc, List.cons_append] at h ⊢
  rw [← List.append_assoc] at h' ⊢
  rw [around_append h, around_append h']
  simp only [List.append_assoc]

/-- **It does not matter where a ring is cut open.** -/
theorem around_around (hnodup : xs.Nodup) (hstart : start ∈ xs) (hx : x ∈ xs) :
    around x (around start xs) = around x xs := by
  obtain ⟨before, after, rfl⟩ := List.append_of_mem hstart
  rw [around_append hnodup, List.append_assoc]
  have hparts : before ++ start :: after = (before ++ [start]) ++ after := by simp
  rw [hparts] at hnodup hx ⊢
  rcases List.mem_append.mp hx with hbefore | hafter
  · exact (around_append_comm hnodup hbefore).symm
  · exact around_append_comm (List.perm_append_comm.nodup_iff.mp hnodup) hafter

theorem around_perm (hnodup : xs.Nodup) (hstart : start ∈ xs) : (around start xs).Perm xs := by
  obtain ⟨before, after, rfl⟩ := List.append_of_mem hstart
  rw [around_append hnodup, List.append_assoc]
  have hparts : before ++ start :: after = (before ++ [start]) ++ after := by simp
  rw [hparts]
  exact List.perm_append_comm

/-! ## §3. On and on. -/

variable {p : α → Bool} {e e' : α} {k : Nat}

/-- The first element with the property, going around from `start`. -/
def nextAround (p : α → Bool) (xs : List α) (start : α) : Option α := (around start xs).find? p

/-- All elements with the property, in the order in which they are met. -/
def visited (p : α → Bool) (xs : List α) (start : α) : List α := (around start xs).filter p

theorem nextAround_eq_none_iff (hnodup : xs.Nodup) (hstart : start ∈ xs) :
    nextAround p xs start = none ↔ ∀ x ∈ xs, p x = false := by
  rw [nextAround, List.find?_eq_none]
  simp only [(around_perm hnodup hstart).mem_iff, Bool.not_eq_true]

/-- The element after one that has been visited. -/
theorem nextAround_of_visited (hnodup : xs.Nodup) (hstart : start ∈ xs)
    (h : visited p xs start = ys ++ e :: e' :: zs) : nextAround p xs e = some e' := by
  obtain ⟨l1, l2, hl, -, h2⟩ := List.filter_eq_append_iff.mp h
  obtain ⟨m1, m2, rfl, -, -, hm2⟩ := List.filter_eq_cons_iff.mp h2
  have hperm := around_perm hnodup hstart
  have he : e ∈ xs := hperm.mem_iff.mp (hl ▸ by simp)
  rw [nextAround, ← around_around hnodup hstart he, hl, ← List.append_assoc,
    around_append (by rw [List.append_assoc, ← hl]; exact hperm.nodup_iff.mpr hnodup),
    ← List.head?_filter, List.append_assoc, List.filter_append, hm2]
  rfl

theorem mem_of_mem_visited (hnodup : xs.Nodup) (hstart : start ∈ xs)
    (hx : x ∈ visited p xs start) : x ∈ xs :=
  (around_perm hnodup hstart).mem_iff.mp (List.mem_of_mem_filter hx)

/-- **Going on and on** with a search that goes around, one comes to the first element visited, and so
    on. -/
theorem iterate_visited {search : α → Option α} (hnodup : xs.Nodup) (hstart : start ∈ xs)
    (hsearch : ∀ x ∈ xs, search x = nextAround p xs x) (hk : k < (visited p xs start).length) :
    (fun o => o.bind search)^[k + 1] (some start) = some (visited p xs start)[k] := by
  induction k with
  | zero =>
      show search start = _
      rw [hsearch start hstart, nextAround, ← List.head?_filter]
      exact List.head?_eq_getElem?.trans (List.getElem?_eq_getElem hk)
  | succ k ih =>
      have hk' := Nat.lt_of_succ_lt hk
      rw [Function.iterate_succ_apply', ih hk', Option.bind_some,
        hsearch _ (mem_of_mem_visited hnodup hstart (List.getElem_mem hk'))]
      have hsplit : visited p xs start = (visited p xs start).take k
          ++ (visited p xs start)[k] :: (visited p xs start)[k + 1]
            :: (visited p xs start).drop (k + 2) := by
        rw [← List.drop_eq_getElem_cons, ← List.drop_eq_getElem_cons, List.take_append_drop]
      exact nextAround_of_visited hnodup hstart hsplit

/-- Each element with the property is visited once. -/
theorem visited_perm (hnodup : xs.Nodup) (hstart : start ∈ xs) :
    (visited p xs start).Perm (xs.filter p) :=
  (around_perm hnodup hstart).filter p

/-- The element itself comes last. -/
theorem getLast?_visited (hp : p start = true) : (visited p xs start).getLast? = some start := by
  rw [visited, around, List.filter_append, List.filter_singleton, hp]
  exact List.getLast?_concat

/-! ## §4. The links of a list. -/

/-- The links of a list in one direction. -/
def links (xs : List α) : Option α → Option α
  | none => xs.head?
  | some x => (xs.dropWhile (· ≠ x)).tail.head?

theorem path_links (h : (xs ++ ys).Nodup) : Path (links (xs ++ ys)) ys.head? ys none := by
  induction ys generalizing xs with
  | nil => exact .nil none
  | cons y ys ih =>
      have hnot : y ∉ xs ++ ys := (List.nodup_cons.mp (List.nodup_middle.mp h)).1
      have hne : ∀ x ∈ xs, decide (x ≠ y) = true := fun x hx =>
        decide_eq_true fun heq => hnot (List.mem_append_left _ (heq ▸ hx))
      have hnext : links (xs ++ y :: ys) (some y) = ys.head? := by
        rw [links, List.dropWhile_append_of_pos hne, List.dropWhile_cons_of_neg (by simp),
          List.tail_cons]
      have hparts : xs ++ y :: ys = (xs ++ [y]) ++ ys := by simp
      refine .cons ?_
      rw [hnext, hparts]
      exact ih (hparts ▸ h)

/-- A circular list with these elements. -/
def ofList (xs : List α) : CircularList α := ⟨links xs, links xs.reverse⟩

theorem holds_ofList (h : xs.Nodup) : (ofList xs).Holds xs := by
  have hnext : ([] ++ xs).Nodup := h
  have hprev : ([] ++ xs.reverse).Nodup := List.nodup_reverse.mpr h
  exact ⟨path_links hnext, path_links hprev⟩

end Around

end CircularList

end Lib
