/-
  FlutterWlroots.Lib.Double — integers out of doubles.

  A `double` is given by its 64 bits (IEEE 754 binary64): sign, exponent, fraction.  `truncate` drops
  the digits after the point; a number that is not finite has no integer.  `isZero`, `isPositive` and
  `isFinite` are the comparisons with zero and `isfinite`, `neg` is the sign changed.  `value` is the
  number itself, and `integer?` the numbers that are integers (`integer?_eq_some_iff`).
-/
import Mathlib.Algebra.Order.Field.Rat
import Mathlib.Tactic.Linarith
import Mathlib.Tactic.Ring

namespace Lib.Double

/-- The sign bit. -/
def negative (bits : BitVec 64) : Bool := bits.getLsbD 63

/-- The biased exponent. -/
def exponent (bits : BitVec 64) : Nat := bits.toNat / 2 ^ 52 % 2 ^ 11

/-- The fraction; with the hidden bit if the number is normal. -/
def significand (bits : BitVec 64) : Nat :=
  if exponent bits = 0 then bits.toNat % 2 ^ 52 else bits.toNat % 2 ^ 52 + 2 ^ 52

/-- The number without the digits after the point. -/
def truncate (bits : BitVec 64) : Option Int :=
  if exponent bits = 2047 then none
  else
    let shift := max (exponent bits) 1
    let magnitude :=
      if 1075 ≤ shift then significand bits * 2 ^ (shift - 1075)
      else significand bits / 2 ^ (1075 - shift)
    some (if negative bits then -(magnitude : Int) else magnitude)

/-- Conversion to a signed type of `w` bits.  What a number outside the range becomes is up to the
    target. -/
def toInt (w : Nat) (outside : BitVec 64 → BitVec w) (bits : BitVec 64) : Int :=
  match truncate bits with
  | some x => if -2 ^ (w - 1) ≤ x ∧ x < 2 ^ (w - 1) then x else (outside bits).toInt
  | none => (outside bits).toInt

/-- `x == 0.0`, for both zeros. -/
def isZero (bits : BitVec 64) : Bool := exponent bits = 0 ∧ significand bits = 0

def isFinite (bits : BitVec 64) : Bool := exponent bits ≠ 2047

/-- `x > 0.0`: neither a zero, nor negative, nor a NaN. -/
def isPositive (bits : BitVec 64) : Bool :=
  ¬ negative bits ∧ ¬ isZero bits ∧ (isFinite bits ∨ bits.toNat % 2 ^ 52 = 0)

/-- `-x`. -/
def neg (bits : BitVec 64) : BitVec 64 := bits ^^^ (1#64 <<< 63)

def isNaN (bits : BitVec 64) : Bool := exponent bits = 2047 ∧ bits.toNat % 2 ^ 52 ≠ 0

/-- `x == y`: the zeros are equal, and a NaN is equal to nothing. -/
def equal (x y : BitVec 64) : Bool :=
  ¬ isNaN x ∧ ¬ isNaN y ∧ (x = y ∨ (isZero x ∧ isZero y))

theorem equal_refl {x : BitVec 64} (h : isNaN x = false) : equal x x = true := by
  simp [equal, h]

theorem isZero_neg (bits : BitVec 64) : isZero (neg bits) = isZero bits := by
  -- the sign is above the exponent and the fraction
  have hneg : (neg bits).toNat = bits.toNat ^^^ 2 ^ 63 := by
    rw [neg, BitVec.toNat_xor]
    rfl
  have hexponent : exponent (neg bits) = exponent bits := by
    unfold exponent
    rw [hneg, Nat.xor_div_two_pow, Nat.xor_mod_two_pow]
    exact Nat.xor_zero _
  have hfraction : (neg bits).toNat % 2 ^ 52 = bits.toNat % 2 ^ 52 := by
    rw [hneg, Nat.xor_mod_two_pow]
    exact Nat.xor_zero _
  unfold isZero significand
  rw [hexponent, hfraction]

theorem isZero_zero : isZero 0#64 = true := by decide

/-! ## The numbers themselves. -/

/-- What a finite number stands for. -/
def value (bits : BitVec 64) : ℚ :=
  (if negative bits then -1 else 1) * significand bits
    * (2 : ℚ) ^ (((max (exponent bits) 1 : Nat) : ℤ) - 1075)

/-- The number, if there are no digits to be dropped. -/
def integer? (bits : BitVec 64) : Option Int :=
  if significand bits % 2 ^ (1075 - max (exponent bits) 1) = 0 then truncate bits else none

theorem two_zpow_of_le {a b : Nat} (h : b ≤ a) : (2 : ℚ) ^ ((a : ℤ) - b) = (2 ^ (a - b) : Nat) := by
  rw [← Int.ofNat_sub h, zpow_natCast, Nat.cast_pow, Nat.cast_ofNat]

theorem two_zpow_of_ge {a b : Nat} (h : a ≤ b) :
    (2 : ℚ) ^ ((a : ℤ) - b) * (2 ^ (b - a) : Nat) = 1 := by
  rw [← neg_sub, zpow_neg, two_zpow_of_le h]
  exact inv_mul_cancel₀ (Nat.cast_ne_zero.mpr (Nat.two_pow_pos _).ne')

/-- With the sign, as an integer. -/
theorem sign_mul_eq_iff (negative : Bool) (m : Nat) (z : ℤ) :
    (if negative then -1 else 1) * (m : ℚ) = z ↔ (if negative then -(m : ℤ) else m) = z := by
  cases negative with
  | true =>
      rw [if_pos rfl, if_pos rfl, neg_one_mul, ← Int.cast_natCast, ← Int.cast_neg, Int.cast_inj]
  | false => rw [if_neg nofun, if_neg nofun, one_mul, ← Int.cast_natCast, Int.cast_inj]

/-- **The integers among the doubles.** -/
theorem integer?_eq_some_iff {bits : BitVec 64} {z : ℤ} :
    integer? bits = some z ↔ isFinite bits = true ∧ value bits = z := by
  have hfinite : isFinite bits = true ↔ exponent bits ≠ 2047 := decide_eq_true_iff
  rw [hfinite]
  unfold integer? truncate value
  generalize max (exponent bits) 1 = shift
  by_cases hexp : exponent bits = 2047
  · simp [hexp]
  rw [if_neg hexp, and_iff_right hexp]
  dsimp only
  rcases Nat.le_total 1075 shift with hle | hle
  · -- no digits after the point
    rw [Nat.sub_eq_zero_of_le hle, pow_zero, Nat.mod_one, if_pos rfl, if_pos hle, Option.some.injEq,
      ← sign_mul_eq_iff, Nat.cast_mul, ← two_zpow_of_le hle, Nat.cast_ofNat, mul_assoc]
  · have hone := two_zpow_of_ge hle
    rw [Nat.cast_ofNat] at hone
    by_cases hmod : significand bits % 2 ^ (1075 - shift) = 0
    · obtain ⟨c, hc⟩ := Nat.dvd_of_mod_eq_zero hmod
      have hmagnitude : (if 1075 ≤ shift then significand bits * 2 ^ (shift - 1075)
          else significand bits / 2 ^ (1075 - shift)) = c := by
        rcases hle.lt_or_eq with hlt | heq
        · rw [if_neg (by omega), hc, Nat.mul_div_cancel_left _ (Nat.two_pow_pos _)]
        · rw [if_pos heq.ge, hc, heq, Nat.sub_self, pow_zero, one_mul, mul_one]
      rw [if_pos hmod, hmagnitude, Option.some.injEq, ← sign_mul_eq_iff, hc, Nat.cast_mul]
      rw [show ∀ a b c d : ℚ, a * (b * c) * d = a * c * (d * b) from fun a b c d => by ring, hone,
        mul_one]
    · -- an integer times the power of two would be a significand without those digits
      rw [if_neg hmod]
      refine iff_of_false nofun fun hvalue => hmod ?_
      have hscaled : (if negative bits then -1 else 1) * (significand bits : ℚ)
          = (z * (2 ^ (1075 - shift) : Nat) : ℤ) := by
        rw [Int.cast_mul, ← hvalue, Int.cast_natCast, mul_assoc, hone, mul_one]
      have hint := (sign_mul_eq_iff _ _ _).mp hscaled
      have hdvd : ((2 ^ (1075 - shift) : Nat) : ℤ) ∣ significand bits := by
        cases hneg : negative bits with
        | true =>
            rw [hneg, if_pos rfl] at hint
            exact ⟨-z, by linarith⟩
        | false =>
            rw [hneg, if_neg nofun] at hint
            exact ⟨z, by linarith⟩
      exact Nat.mod_eq_zero_of_dvd (Int.natCast_dvd_natCast.mp hdvd)

-- 5.75, -3.5 and infinity
example : truncate 0x4017000000000000#64 = some 5 := by decide
example : truncate 0xC00C000000000000#64 = some (-3) := by decide
example : truncate 0x7FF0000000000000#64 = none := by decide
-- -6 is an integer, 5.75 is not
example : integer? 0xC018000000000000#64 = some (-6) := by decide
example : integer? 0x4017000000000000#64 = none := by decide

end Lib.Double
