/-
  FlutterWlroots.Lib.TextField — a text with a selection.

  `base` is where the selection was begun and `extent` where the caret is; either may come first.
  Both lie in the text, as part of the type, so that every operation shows where it leaves them.

    • `replace`, `insert`             — the selection gives way to a text; `insert` if there is room,
    • `backspace`, `delete`           — the selection, or else one element at the caret,
    • `left`, `right`, `home`, `fin`  — the selection collapses to a caret.
-/
import Mathlib.Data.List.Infix

namespace Lib

structure TextField (α : Type) where
  text : List α
  base : Nat
  extent : Nat
  base_le : base ≤ text.length
  extent_le : extent ≤ text.length

namespace TextField

variable {α : Type} (f : TextField α)

/-! ## §1. Operations. -/

/-- The first place of the selection. -/
def start : Nat := min f.base f.extent

/-- The place behind the selection. -/
def stop : Nat := max f.base f.extent

theorem start_le_stop : f.start ≤ f.stop := Nat.le_trans (Nat.min_le_left ..) (Nat.le_max_left ..)

theorem stop_le : f.stop ≤ f.text.length := Nat.max_le.mpr ⟨f.base_le, f.extent_le⟩

theorem start_le : f.start ≤ f.text.length := Nat.le_trans f.start_le_stop f.stop_le

/-- A text with the caret at `pos`. -/
def caretAt (text : List α) (pos : Nat) (h : pos ≤ text.length) : TextField α :=
  ⟨text, pos, pos, h, h⟩

theorem caretAt_congr {text text' : List α} {pos pos' : Nat} {h : pos ≤ text.length}
    {h' : pos' ≤ text'.length} (htext : text = text') (hpos : pos = pos') :
    caretAt text pos h = caretAt text' pos' h' := by
  subst htext hpos
  rfl

/-- The selection replaced; the caret comes behind what has been put in. -/
def replace (str : List α) : TextField α :=
  caretAt (f.text.take f.start ++ str ++ f.text.drop f.stop) (f.start + str.length) (by
    have h := f.start_le
    rw [List.length_append, List.length_append, List.length_take]
    omega)

/-- The selection replaced, if the text stays shorter than `capacity` without the selection taken
    out. -/
def insert (capacity : Nat) (str : List α) : TextField α :=
  if capacity ≤ f.text.length + str.length then f else f.replace str

/-- The element at `pos` taken out, with the caret in its place. -/
def remove (pos : Nat) (h : pos < f.text.length) : TextField α :=
  caretAt (f.text.take pos ++ f.text.drop (pos + 1)) pos (by
    rw [List.length_append, List.length_take]
    omega)

/-- The selection, or the element in front of the caret. -/
def backspace : TextField α :=
  if f.base ≠ f.extent then f.replace []
  else if h : 0 < f.base then
    f.remove (f.base - 1) (by
      have hle := f.base_le
      omega)
  else f

/-- The selection, or the element at the caret. -/
def delete : TextField α :=
  if f.base ≠ f.extent then f.replace []
  else if h : f.base < f.text.length then f.remove f.base h
  else f

def left : TextField α :=
  if 0 < f.base then caretAt f.text (f.base - 1) (Nat.le_trans (Nat.sub_le ..) f.base_le) else f

def right : TextField α :=
  if h : f.base < f.text.length then caretAt f.text (f.base + 1) h else f

def home : TextField α := caretAt f.text 0 (Nat.zero_le _)

def fin : TextField α := caretAt f.text f.text.length (Nat.le_refl _)

/-! ## §2. The selection taken out. -/

theorem text_replace_nil : (f.replace []).text = f.text.take f.start ++ f.text.drop f.stop := by
  simp [replace, caretAt]

theorem replace_nil_of_eq (h : f.base = f.extent) : f.replace [] = f := by
  obtain ⟨text, base, extent, hbase, hextent⟩ := f
  dsimp only at h
  subst h
  simp [replace, caretAt, start, stop]

/-- Taking the selection out and then inserting is replacing it. -/
theorem replace_replace (str : List α) : (f.replace []).replace str = f.replace str := by
  have hle := f.start_le
  have hlen : (f.text.take f.start).length = f.start := List.length_take_of_le hle
  have hstart : (f.replace []).start = f.start := Nat.min_self _
  have hstop : (f.replace []).stop = f.start := Nat.max_self _
  refine caretAt_congr ?_ ?_
  · rw [hstart, hstop, f.text_replace_nil, List.take_left' hlen, List.drop_left' hlen]
  · rw [hstart]

end TextField

end Lib
