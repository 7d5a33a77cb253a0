/-
  FlutterWlroots.Lib.Corners — affine functions on a rectangle.

  `x ↦ x * a + y * b + c` is monotone or antitone in each variable, so that its least and its greatest
  value on a rectangle are values at corners, whatever the signs are.  Integers enclose a set with a
  least and a greatest element exactly if they enclose the floor of the one and the ceiling of the
  other.

    • `encloses_iff`            — the smallest integer interval around a set,
    • `isLeast_affineImage`     — the least value, at a corner,
    • `isGreatest_affineImage`  — the greatest value, at a corner.
-/
import Mathlib.Algebra.Order.Floor.Ring
import Mathlib.Algebra.Order.Ring.Defs
import Mathlib.Algebra.Order.Monoid.Unbundled.MinMax
import Mathlib.Order.Bounds.Basic

namespace Lib.Corners

variable {K : Type} [CommRing K] [LinearOrder K]

/-! ## §1. Integers around a set. -/

/-- **The integer hull.** -/
theorem encloses_iff [FloorRing K] {S : Set K} {m M : K} (hm : IsLeast S m) (hM : IsGreatest S M)
    (lo hi : Int) : (∀ v ∈ S, (lo : K) ≤ v ∧ v ≤ hi) ↔ lo ≤ ⌊m⌋ ∧ ⌈M⌉ ≤ hi := by
  rw [Int.le_floor, Int.ceil_le]
  constructor
  · intro h
    exact ⟨(h m hm.1).1, (h M hM.1).2⟩
  · intro h v hv
    exact ⟨h.1.trans (hm.2 hv), (hM.2 hv).trans h.2⟩

/-! ## §2. Affine functions. -/

/-- The values on a rectangle. -/
def affineImage (a b c left top right bottom : K) : Set K :=
  {v | ∃ x y, (left ≤ x ∧ x ≤ right) ∧ (top ≤ y ∧ y ≤ bottom) ∧ x * a + y * b + c = v}

section OneVariable

variable {left right x : K}

/-- An end of the interval has the least value. -/
theorem exists_min (a : K) (h : left ≤ right) :
    ∃ x, (left ≤ x ∧ x ≤ right) ∧ x * a = min (left * a) (right * a) := by
  rcases min_choice (left * a) (right * a) with hmin | hmin
  · exact ⟨left, ⟨le_rfl, h⟩, hmin.symm⟩
  · exact ⟨right, ⟨h, le_rfl⟩, hmin.symm⟩

theorem exists_max (a : K) (h : left ≤ right) :
    ∃ x, (left ≤ x ∧ x ≤ right) ∧ x * a = max (left * a) (right * a) := by
  rcases max_choice (left * a) (right * a) with hmax | hmax
  · exact ⟨left, ⟨le_rfl, h⟩, hmax.symm⟩
  · exact ⟨right, ⟨h, le_rfl⟩, hmax.symm⟩

variable [IsStrictOrderedRing K]

theorem min_le_mul (a : K) (h : left ≤ x ∧ x ≤ right) : min (left * a) (right * a) ≤ x * a := by
  rcases le_total 0 a with ha | ha
  · exact min_le_of_left_le (mul_le_mul_of_nonneg_right h.1 ha)
  · exact min_le_of_right_le (mul_le_mul_of_nonpos_right h.2 ha)

theorem mul_le_max (a : K) (h : left ≤ x ∧ x ≤ right) : x * a ≤ max (left * a) (right * a) := by
  rcases le_total 0 a with ha | ha
  · exact le_max_of_le_right (mul_le_mul_of_nonneg_right h.2 ha)
  · exact le_max_of_le_left (mul_le_mul_of_nonpos_right h.1 ha)

end OneVariable

variable [IsStrictOrderedRing K] (a b c : K) {left top right bottom : K}

/-- **The least value** is that of a corner. -/
theorem isLeast_affineImage (hx : left ≤ right) (hy : top ≤ bottom) :
    IsLeast (affineImage a b c left top right bottom)
      (min (min (left * a + top * b + c) (right * a + top * b + c))
        (min (left * a + bottom * b + c) (right * a + bottom * b + c))) := by
  simp only [min_add_add_right, min_add_add_left]
  constructor
  · obtain ⟨x, hin, hxmin⟩ := exists_min a hx
    obtain ⟨y, hin', hymin⟩ := exists_min b hy
    exact ⟨x, y, hin, hin', by rw [hxmin, hymin]⟩
  · rintro v ⟨x, y, hin, hin', rfl⟩
    exact add_le_add_left (add_le_add (min_le_mul a hin) (min_le_mul b hin')) c

/-- **The greatest value** is that of a corner. -/
theorem isGreatest_affineImage (hx : left ≤ right) (hy : top ≤ bottom) :
    IsGreatest (affineImage a b c left top right bottom)
      (max (max (left * a + top * b + c) (right * a + top * b + c))
        (max (left * a + bottom * b + c) (right * a + bottom * b + c))) := by
  simp only [max_add_add_right, max_add_add_left]
  constructor
  · obtain ⟨x, hin, hxmax⟩ := exists_max a hx
    obtain ⟨y, hin', hymax⟩ := exists_max b hy
    exact ⟨x, y, hin, hin', by rw [hxmax, hymax]⟩
  · rintro v ⟨x, y, hin, hin', rfl⟩
    exact add_le_add_left (add_le_add (mul_le_max a hin) (mul_le_max b hin')) c

end Lib.Corners
