/-
  FlutterWlroots.Lib.CInt — C integer conversions and power-of-two alignment.

  The conversions are those of an LP64 target with two's complement narrowing: `toInt32` and
  `toInt64` are the values an `int` and an `int64_t` take, `toSizeT` the value a `size_t` (or any
  unsigned 64-bit type) takes.  `padding p a` is the number of bytes from `p` to the next multiple
  of `a`; `alignMask_sub` shows that the usual add-mask-subtract idiom computes it.
-/
import Mathlib.Data.Nat.Bitwise
import Mathlib.Data.Int.Init
import Mathlib.Tactic.Ring

namespace Lib.CInt

/-! ## §1. Conversions. -/

/-- Conversion to a 32-bit `int`. -/
def toInt32 (x : Int) : Int := x.bmod (2 ^ 32)

/-- Conversion to a 64-bit `int64_t`. -/
def toInt64 (x : Int) : Int := x.bmod (2 ^ 64)

/-- Conversion to a 64-bit unsigned type. -/
def toSizeT (x : Int) : Nat := (x % 2 ^ 64).toNat

/-- Unsigned 64-bit subtraction. -/
def sizeSub (a b : Nat) : Nat := if b ≤ a then a - b else 2 ^ 64 + a - b

theorem toInt32_of_lt {n : Nat} (h : n < 2 ^ 31) : toInt32 n = n := by
  unfold toInt32
  rw [Int.bmod_def]
  norm_num at h ⊢
  omega

theorem toInt64_of_lt {n : Nat} (h : n < 2 ^ 63) : toInt64 n = n := by
  unfold toInt64
  rw [Int.bmod_def]
  norm_num at h ⊢
  omega

theorem toInt64_of_ge {n : Nat} (h : 2 ^ 63 ≤ n) (hlt : n < 2 ^ 64) :
    toInt64 n = -((2 ^ 64 - n : Nat) : Int) := by
  unfold toInt64
  rw [Int.bmod_def]
  norm_num at h hlt ⊢
  omega

/-- What `int` makes a non-positive value of. -/
theorem toInt32_nonpos_iff {x : Int} :
    toInt32 x ≤ 0 ↔ x % 2 ^ 32 = 0 ∨ 2 ^ 31 ≤ x % 2 ^ 32 := by
  unfold toInt32
  rw [Int.bmod_def]
  norm_num
  omega

theorem toSizeT_of_lt {n : Nat} (h : n < 2 ^ 64) : toSizeT n = n := by
  unfold toSizeT
  omega

/-- A small length survives the way through `int`. -/
theorem toSizeT_toInt32_of_lt {n : Nat} (h : n < 2 ^ 31) : toSizeT (toInt32 n) = n := by
  rw [toInt32_of_lt h, toSizeT_of_lt (Nat.lt_trans h (by decide))]

theorem sizeSub_of_le {a b : Nat} (h : b ≤ a) : sizeSub a b = a - b := if_pos h

/-! ## §2. Alignment. -/

/-- Bytes from `p` to the next multiple of `a`. -/
def padding (p a : Nat) : Nat := (a - p % a) % a

theorem padding_lt (p : Nat) {a : Nat} (ha : 0 < a) : padding p a < a := Nat.mod_lt _ ha

/-- A base that is itself aligned does not change the padding. -/
theorem padding_add_left {base a : Nat} (p : Nat) (h : base % a = 0) :
    padding (base + p) a = padding p a := by
  unfold padding
  rw [Nat.add_mod, h, Nat.zero_add, Nat.mod_mod]

theorem or_two_pow_sub_one (n k : Nat) : n ||| (2 ^ k - 1) = n / 2 ^ k * 2 ^ k + (2 ^ k - 1) := by
  have hlt : 2 ^ k - 1 < 2 ^ k := Nat.sub_lt (Nat.two_pow_pos k) Nat.one_pos
  rw [Nat.mul_comm, Nat.two_pow_add_eq_or_of_lt hlt]
  apply Nat.eq_of_testBit_eq
  intro i
  rw [Nat.testBit_or, Nat.testBit_or, Nat.testBit_two_pow_sub_one, Nat.testBit_two_pow_mul,
    Nat.testBit_div_two_pow]
  by_cases hi : i < k
  · simp [hi]
  · simp [hi, show k ≤ i by omega]

/-- **The alignment idiom**: `((v + m) | m) - m` with `m = 2^k - 1` rounds `v` up to a multiple
of `2^k`. -/
theorem alignMask_sub (v k : Nat) :
    ((v + (2 ^ k - 1)) ||| (2 ^ k - 1)) - (2 ^ k - 1) - v = padding v (2 ^ k) := by
  have hpos : 0 < 2 ^ k := Nat.two_pow_pos k
  rw [or_two_pow_sub_one, Nat.add_sub_cancel]
  unfold padding
  generalize 2 ^ k = a at hpos ⊢
  obtain ⟨q, r, hr, rfl⟩ : ∃ q r, r < a ∧ v = a * q + r :=
    ⟨v / a, v % a, Nat.mod_lt v hpos, (Nat.div_add_mod v a).symm⟩
  rw [Nat.mul_add_mod, Nat.mod_eq_of_lt hr, Nat.add_assoc, Nat.mul_add_div hpos]
  -- already aligned, or `r` bytes past a multiple
  rcases Nat.eq_zero_or_pos r with h0 | h0
  · have hdiv : (r + (a - 1)) / a = 0 := Nat.div_eq_of_lt (by omega)
    rw [hdiv, h0, Nat.sub_zero, Nat.mod_self, Nat.add_zero, Nat.add_zero, Nat.mul_comm,
      Nat.sub_self]
  · have hdiv : (r + (a - 1)) / a = 1 := by
      rw [show r + (a - 1) = (r - 1) + a by omega, Nat.add_div_right _ hpos,
        Nat.div_eq_of_lt (by omega)]
    rw [hdiv, Nat.mod_eq_of_lt (by omega), Nat.add_mul, Nat.one_mul, Nat.mul_comm]
    omega

end Lib.CInt
