/-
  FlutterWlroots.Lib.Rounding — rounding to the nearest integer, with halves away from zero.

  `lround x` is the integer next to `x`, and `offset x` is how far `x` lies above it, between −1/2
  and 1/2.  A sum is rounded to the sum of the rounded terms exactly if the offsets do not add up to
  a half or more, and never misses it by more than one.

    • `lround_eq_iff`       — the nearest integer, by where the number lies around it,
    • `lround_add_iff`      — when rounding is additive,
    • `abs_lround_add_le`   — how far it is from being so.
-/
import Mathlib.Algebra.Order.Floor.Ring
import Mathlib.Algebra.Order.Field.Basic
import Mathlib.Tactic.Linarith
import Mathlib.Tactic.Ring

namespace Lib.Rounding

variable {K : Type} [Field K] [LinearOrder K] [IsStrictOrderedRing K] [FloorRing K] {x y : K}
  {n : Int}

/-! ## §1. The nearest integer. -/

/-- `lround`. -/
def lround (x : K) : Int := if 0 ≤ x then ⌊x + 1 / 2⌋ else ⌈x - 1 / 2⌉

/-- How far the number lies above the integer next to it. -/
def offset (x : K) : K := x - lround x

/-- The number `x` lies around `n`; halves belong to the integer that is further away from zero, of
    which `z` tells the side. -/
def Around (x z : K) (n : Int) : Prop :=
  (n - 1 / 2 < x ∧ x < n + 1 / 2) ∨ (x = n - 1 / 2 ∧ 0 < z) ∨ (x = n + 1 / 2 ∧ z < 0)

/-- A half is no integer. -/
theorem intCast_ne_half (n : Int) : (n : K) ≠ 1 / 2 := by
  intro h
  have htwo : ((2 * n : Int) : K) = (1 : Int) := by
    push_cast
    linarith
  have hint : 2 * n = 1 := Int.cast_injective htwo
  omega

theorem lround_eq_iff_of_nonneg (h : 0 ≤ x) : lround x = n ↔ n - 1 / 2 ≤ x ∧ x < n + 1 / 2 := by
  unfold lround
  rw [if_pos h, Int.floor_eq_iff, sub_le_iff_le_add]
  constructor
  · rintro ⟨hle, hlt⟩
    exact ⟨hle, by linarith⟩
  · rintro ⟨hle, hlt⟩
    exact ⟨hle, by linarith⟩

theorem lround_eq_iff_of_neg (h : x < 0) : lround x = n ↔ n - 1 / 2 < x ∧ x ≤ n + 1 / 2 := by
  unfold lround
  rw [if_neg (not_le.mpr h), Int.ceil_eq_iff, sub_le_iff_le_add]
  constructor
  · rintro ⟨hlt, hle⟩
    exact ⟨by linarith, hle⟩
  · rintro ⟨hlt, hle⟩
    exact ⟨by linarith, hle⟩

/-- **The nearest integer**, by where the number lies around it. -/
theorem lround_eq_iff : lround x = n ↔ Around x x n := by
  have hhalf : ∀ {m : Int}, x = m - 1 / 2 → x ≠ 0 := fun {m} hm hzero =>
    intCast_ne_half (K := K) m (by linarith)
  rcases lt_or_ge x 0 with hneg | hnonneg
  · rw [lround_eq_iff_of_neg hneg]
    constructor
    · rintro ⟨hlt, hle⟩
      rcases hle.lt_or_eq with hlt' | heq
      · exact .inl ⟨hlt, hlt'⟩
      · exact .inr (.inr ⟨heq, hneg⟩)
    · rintro (⟨hlt, hlt'⟩ | ⟨-, hpos⟩ | ⟨heq, -⟩)
      · exact ⟨hlt, hlt'.le⟩
      · exact absurd hpos (not_lt.mpr hneg.le)
      · exact ⟨by linarith, heq.le⟩
  · rw [lround_eq_iff_of_nonneg hnonneg]
    constructor
    · rintro ⟨hle, hlt⟩
      rcases hle.lt_or_eq with hlt' | heq
      · exact .inl ⟨hlt', hlt⟩
      · exact .inr (.inl ⟨heq.symm, lt_of_le_of_ne hnonneg (hhalf heq.symm).symm⟩)
    · rintro (⟨hlt, hlt'⟩ | ⟨heq, -⟩ | ⟨-, hneg⟩)
      · exact ⟨hlt.le, hlt'⟩
      · exact ⟨heq.ge, by linarith⟩
      · exact absurd hneg (not_lt.mpr hnonneg)

theorem around_lround (x : K) : Around x x (lround x) := lround_eq_iff.mp rfl

theorem lround_intCast (n : Int) : lround (n : K) = n :=
  lround_eq_iff.mpr (.inl ⟨by linarith, by linarith⟩)

/-! ## §2. Offsets. -/

theorem abs_offset_le (x : K) : |offset x| ≤ 1 / 2 := by
  unfold offset
  rw [abs_le]
  rcases around_lround x with ⟨hlt, hlt'⟩ | ⟨heq, -⟩ | ⟨heq, -⟩
  · constructor <;> linarith
  · constructor <;> linarith
  · constructor <;> linarith

/-- The offsets of two numbers add up to less than a half, or to a half that the sum is rounded back
    from. -/
def Additive (x y : K) : Prop := Around (offset x + offset y) (x + y) 0

omit [FloorRing K] in
theorem around_intCast_add {d z : K} : Around (n + d) z n ↔ Around d z 0 := by
  unfold Around
  simp only [sub_eq_add_neg, add_lt_add_iff_left, add_right_inj, Int.cast_zero, zero_add]

/-- **When rounding is additive.** -/
theorem lround_add_iff : lround x + lround y = lround (x + y) ↔ Additive x y := by
  have hsum : ((lround x + lround y : Int) : K) + (offset x + offset y) = x + y := by
    unfold offset
    push_cast
    ring
  -- the sum lies around the sum of the rounded terms as the offsets lie around 0
  rw [eq_comm, lround_eq_iff, Additive, ← around_intCast_add, hsum]

/-- **It never misses by more than one.** -/
theorem abs_lround_add_le (x y : K) : |lround x + lround y - lround (x + y)| ≤ 1 := by
  have hx := abs_le.mp (abs_offset_le x)
  have hy := abs_le.mp (abs_offset_le y)
  have hsum := abs_le.mp (abs_offset_le (x + y))
  have hmiss : ((lround x + lround y - lround (x + y) : Int) : K)
      = offset (x + y) - offset x - offset y := by
    unfold offset
    push_cast
    ring
  -- three halves at most, and an integer
  have hhigh : lround x + lround y - lround (x + y) < 2 := by
    rw [← Int.cast_lt (R := K), hmiss]
    push_cast
    linarith
  have hlow : -2 < lround x + lround y - lround (x + y) := by
    rw [← Int.cast_lt (R := K), hmiss]
    push_cast
    linarith
  rw [abs_le]
  omega

end Lib.Rounding
