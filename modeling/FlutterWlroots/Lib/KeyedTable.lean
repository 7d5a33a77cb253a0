/-
  FlutterWlroots.Lib.KeyedTable — a hash map whose values know their keys.

  The rows have different keys; their order means nothing, and operations may change it.  Most facts
  about a table count the rows with some property, and the rules say how each operation changes that:

    • `count_put`, `count_erase`, `count_mapRows` — a row put in, taken out, all rows changed,
    • `count_key`                                 — the rows with a given key,
    • `find_put`, `find_erase`, `find_mapRows`    — what is found after that.
-/
import Mathlib.Data.List.Nodup

namespace Lib

/-- Rows with different keys. -/
structure KeyedTable (α : Type) {κ : Type} (key : α → κ) where
  rows : List α
  nodup : (rows.map key).Nodup

namespace KeyedTable

variable {α κ : Type} {key : α → κ}

def empty : KeyedTable α key := ⟨[], List.nodup_nil⟩

def isEmpty (t : KeyedTable α key) : Bool := t.rows.isEmpty

/-- The number of rows with a property. -/
def count (t : KeyedTable α key) (p : α → Bool) : Nat := t.rows.countP p

/-- All rows changed, under their keys. -/
def mapRows (t : KeyedTable α key) (f : α → α) (hf : ∀ x, key (f x) = key x) :
    KeyedTable α key where
  rows := t.rows.map f
  nodup := by
    rw [List.map_map, show key ∘ f = key from funext hf]
    exact t.nodup

theorem count_mapRows (t : KeyedTable α key) (f : α → α) (hf : ∀ x, key (f x) = key x)
    (p : α → Bool) : (t.mapRows f hf).count p = t.count (p ∘ f) := List.countP_map

theorem isEmpty_mapRows (t : KeyedTable α key) (f : α → α) (hf : ∀ x, key (f x) = key x) :
    (t.mapRows f hf).isEmpty = t.isEmpty := List.isEmpty_map

theorem count_of_isEmpty {t : KeyedTable α key} (h : t.isEmpty) (p : α → Bool) : t.count p = 0 := by
  unfold count
  rw [List.isEmpty_iff.mp h, List.countP_nil]

variable [DecidableEq κ]

/-- The row with a key. -/
def find (t : KeyedTable α key) (k : κ) : Option α := t.rows.find? (key · = k)

def erase (t : KeyedTable α key) (k : κ) : KeyedTable α key where
  rows := t.rows.filter (key · ≠ k)
  nodup := t.nodup.sublist (List.filter_sublist.map key)

/-- A row put in; the one with its key goes. -/
def put (t : KeyedTable α key) (x : α) : KeyedTable α key where
  rows := x :: (t.erase (key x)).rows
  nodup := by
    rw [List.map_cons]
    refine List.nodup_cons.mpr ⟨fun hmem => ?_, (t.erase (key x)).nodup⟩
    obtain ⟨y, hy, heq⟩ := List.mem_map.mp hmem
    exact of_decide_eq_true (List.mem_filter.mp hy).2 heq

theorem find_key {t : KeyedTable α key} {k : κ} {x : α} (h : t.find k = some x) : key x = k := by
  have hfound := List.find?_some (show t.rows.find? (key · = k) = some x from h)
  exact of_decide_eq_true hfound

theorem isEmpty_put (t : KeyedTable α key) (x : α) : (t.put x).isEmpty = false := rfl

theorem count_put (t : KeyedTable α key) (x : α) (p : α → Bool) :
    (t.put x).count p = (t.erase (key x)).count p + if p x then 1 else 0 := List.countP_cons

/-- The other rows, and the one that goes. -/
theorem count_erase {t : KeyedTable α key} {k : κ} {x : α} (h : t.find k = some x) (p : α → Bool) :
    t.count p = (t.erase k).count p + if p x then 1 else 0 := by
  obtain ⟨rows, nodup⟩ := t
  have hkey : key x = k := find_key h
  show rows.countP p = (rows.filter (key · ≠ k)).countP p + _
  replace h : rows.find? (key · = k) = some x := h
  induction rows with
  | nil => cases h
  | cons y rows ih =>
      obtain ⟨hy, hrows⟩ := List.nodup_cons.mp nodup
      by_cases hyk : key y = k
      · -- this is the row, and no other has its key
        rw [List.find?_cons_of_pos (by simpa using hyk)] at h
        cases h
        have hothers : rows.filter (key · ≠ k) = rows := by
          refine List.filter_eq_self.mpr fun z hz => decide_eq_true fun hzk => hy ?_
          rw [hyk, ← hzk]
          exact List.mem_map_of_mem hz
        rw [List.filter_cons_of_neg (by simpa using hyk), hothers, List.countP_cons]
      · rw [List.find?_cons_of_neg (by simpa using hyk)] at h
        rw [List.filter_cons_of_pos (by simpa using hyk), List.countP_cons, List.countP_cons,
          ih hrows h]
        omega

theorem count_erase_of_none {t : KeyedTable α key} {k : κ} (h : t.find k = none) (p : α → Bool) :
    (t.erase k).count p = t.count p := by
  have hrows : t.rows.filter (key · ≠ k) = t.rows :=
    List.filter_eq_self.mpr fun x hx => by simpa using List.find?_eq_none.mp h x hx
  show (t.rows.filter (key · ≠ k)).countP p = t.rows.countP p
  rw [hrows]

theorem find_mapRows (t : KeyedTable α key) (f : α → α) (hf : ∀ x, key (f x) = key x) (k : κ) :
    (t.mapRows f hf).find k = (t.find k).map f := by
  show (t.rows.map f).find? _ = _
  rw [List.find?_map]
  congr 2
  funext x
  simp [hf x]

theorem find_erase (t : KeyedTable α key) (k k' : κ) :
    (t.erase k').find k = if k = k' then none else t.find k := by
  show (t.rows.filter (key · ≠ k')).find? _ = _
  rw [List.find?_filter]
  split
  · rw [List.find?_eq_none]
    intro x hx
    simp_all
  · congr 1
    funext x
    grind

theorem find_put (t : KeyedTable α key) (x : α) (k : κ) :
    (t.put x).find k = if k = key x then some x else t.find k := by
  show (x :: (t.erase (key x)).rows).find? _ = _
  by_cases hk : k = key x
  · rw [if_pos hk, List.find?_cons_of_pos (by simp [hk])]
  · rw [if_neg hk, List.find?_cons_of_neg (by simp [Ne.symm hk])]
    exact (find_erase t k (key x)).trans (if_neg hk)

/-- At most one row has the key. -/
theorem count_key (t : KeyedTable α key) (k : κ) :
    t.count (key · = k) = if (t.find k).isSome then 1 else 0 := by
  have hothers : (t.erase k).count (key · = k) = 0 := by
    refine List.countP_eq_zero.mpr fun x hx => ?_
    simpa using (List.mem_filter.mp hx).2
  cases h : t.find k with
  | none => rw [← count_erase_of_none h, hothers, Option.isSome_none, if_neg Bool.false_ne_true]
  | some x =>
      rw [count_erase h, hothers, decide_eq_true (find_key h), Option.isSome_some, Nat.zero_add]

end KeyedTable

end Lib
