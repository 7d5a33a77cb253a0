/-
  FlutterWlroots.Lib.PrintfG — what `printf("%g")` makes of an integer.

  `%g` prints six significant digits: a number of more digits is rounded to six (half to even) and
  printed with an exponent, and the zeros at the end of its digits are dropped.

    • `printG_number`  — the text is a number of the JSON grammar, and what it stands for,
    • `rounded_eq_iff` — that is the number itself if and only if six digits are enough for it.
-/
import Mathlib.Data.List.TakeWhile
import Mathlib.Data.Nat.Digits.Lemmas
import Mathlib.Tactic.Ring
import FlutterWlroots.Lib.Rfc8259Unique

namespace Lib.PrintfG

open Lib.Rfc8259

/-! ## §1. Digits. -/

def digitByte (d : Nat) : UInt8 := UInt8.ofNat (0x30 + d)

/-- The text of some digits; they are given as `Nat.digits` does, from the right. -/
def digitBytes (ds : List Nat) : List UInt8 := ds.reverse.map digitByte

/-- `%u` -/
def decimal (n : Nat) : List UInt8 := if n = 0 then [0x30] else digitBytes (Nat.digits 10 n)

theorem digitByte_spec {d : Nat} (h : d < 10) :
    isDigit (digitByte d) = true ∧ (digitByte d).toNat - 0x30 = d := by
  have hall : ∀ d < 10, isDigit (digitByte d) = true ∧ (digitByte d).toNat - 0x30 = d := by decide
  exact hall d h

theorem digitByte_ne_zero {d : Nat} (h : d < 10) (hd : d ≠ 0) : digitByte d ≠ 0x30 := by
  have hall : ∀ d < 10, d ≠ 0 → digitByte d ≠ 0x30 := by decide
  exact hall d h hd

theorem digits_lt {n : Nat} : ∀ d ∈ Nat.digits 10 n, d < 10 := fun _ hd =>
  Nat.digits_lt_base (by decide) hd

theorem natOf_concat (bytes : List UInt8) (b : UInt8) :
    natOf (bytes ++ [b]) = 10 * natOf bytes + (b.toNat - 0x30) := by
  rw [natOf, natOf, List.foldl_append, List.foldl_cons, List.foldl_nil]

/-- A zero in front changes nothing. -/
theorem natOf_zero_cons (bytes : List UInt8) : natOf (0x30 :: bytes) = natOf bytes := by
  rw [natOf, natOf, List.foldl_cons]
  rfl

theorem digitBytes_cons (d : Nat) (ds : List Nat) :
    digitBytes (d :: ds) = digitBytes ds ++ [digitByte d] := by
  rw [digitBytes, digitBytes, List.reverse_cons, List.map_append, List.map_singleton]

theorem natOf_digitBytes : ∀ {ds : List Nat}, (∀ d ∈ ds, d < 10) →
    natOf (digitBytes ds) = Nat.ofDigits 10 ds
  | [], _ => rfl
  | d :: ds, h => by
      obtain ⟨hd, hds⟩ := List.forall_mem_cons.mp h
      rw [digitBytes_cons, natOf_concat, natOf_digitBytes hds, (digitByte_spec hd).2,
        Nat.ofDigits_cons, Nat.add_comm]

theorem digitBytes_isDigit {ds : List Nat} (h : ∀ d ∈ ds, d < 10) :
    ∀ b ∈ digitBytes ds, isDigit b = true := by
  intro b hb
  obtain ⟨d, hd, rfl⟩ := List.mem_map.mp hb
  exact (digitByte_spec (h d (List.mem_reverse.mp hd))).1

theorem natOf_decimal (n : Nat) : natOf (decimal n) = n := by
  unfold decimal
  split
  next h =>
    rw [h]
    rfl
  next => rw [natOf_digitBytes digits_lt, Nat.ofDigits_digits]

theorem decimal_ne_nil (n : Nat) : decimal n ≠ [] := by
  unfold decimal
  split
  next => exact List.cons_ne_nil _ _
  next h =>
    rw [digitBytes, Ne, List.map_eq_nil_iff, List.reverse_eq_nil_iff]
    exact Nat.digits_ne_nil_iff_ne_zero.mpr h

theorem decimal_isDigit (n : Nat) : ∀ b ∈ decimal n, isDigit b = true := by
  unfold decimal
  split
  next => exact List.forall_mem_singleton.mpr rfl
  next => exact digitBytes_isDigit digits_lt

/-- No zero in front. -/
theorem decimal_head (n : Nat) : decimal n = [0x30] ∨ (decimal n).head? ≠ some 0x30 := by
  unfold decimal
  split
  next => exact .inl rfl
  next h =>
    refine .inr fun hhead => ?_
    have hne := Nat.digits_ne_nil_iff_ne_zero (b := 10).mpr h
    rw [digitBytes, List.head?_map, List.head?_reverse, List.getLast?_eq_some_getLast hne,
      Option.map_some, Option.some.injEq] at hhead
    exact digitByte_ne_zero (digits_lt _ (List.getLast_mem hne)) (Nat.getLast_digit_ne_zero 10 h)
      hhead

/-! ## §2. Six significant digits. -/

/-- `n / 10 ^ k` to the nearest integer; from the middle to an even one. -/
def roundTo (k n : Nat) : Nat :=
  if 10 ^ k < 2 * (n % 10 ^ k) ∨ (10 ^ k = 2 * (n % 10 ^ k) ∧ n / 10 ^ k % 2 = 1) then
    n / 10 ^ k + 1
  else n / 10 ^ k

/-- The digits beyond the first six. -/
def beyond (n : Nat) : Nat := (Nat.digits 10 n).length - 6

/-- The number that is printed. -/
def rounded (n : Nat) : Nat := roundTo (beyond n) n * 10 ^ beyond n

/-- There is no digit but zero beyond the first six. -/
def SixDigits (n : Nat) : Prop := 10 ^ beyond n ∣ n

instance : DecidablePred SixDigits := fun n => inferInstanceAs (Decidable (10 ^ beyond n ∣ n))

theorem rounded_eq_iff (n : Nat) : rounded n = n ↔ SixDigits n := by
  have hpos : 0 < 10 ^ beyond n := Nat.pow_pos (by decide)
  constructor
  · intro h
    exact ⟨roundTo (beyond n) n, by rw [Nat.mul_comm]; exact h.symm⟩
  · intro h
    rw [rounded, roundTo, Nat.mod_eq_zero_of_dvd h, if_neg (by omega)]
    exact Nat.div_mul_cancel h

/-- The digits without the zeros at the end. -/
def significant (m : Nat) : List Nat := (Nat.digits 10 m).dropWhile (· = 0)

theorem significant_lt {m : Nat} : ∀ d ∈ significant m, d < 10 := fun d hd =>
  digits_lt d ((List.dropWhile_sublist _).subset hd)

/-- The zeros are powers of ten. -/
theorem exists_zeros (m : Nat) : ∃ t, (Nat.digits 10 m).length = t + (significant m).length
    ∧ m = Nat.ofDigits 10 (significant m) * 10 ^ t := by
  obtain ⟨zeros, hsplit, hzero⟩ : ∃ zeros, zeros ++ significant m = Nat.digits 10 m
      ∧ ∀ d ∈ zeros, d = 0 :=
    ⟨_, List.takeWhile_append_dropWhile, fun d hd => by simpa using List.mem_takeWhile_imp hd⟩
  have hzeros : Nat.ofDigits 10 zeros = 0 := by
    rw [List.eq_replicate_iff.mpr ⟨rfl, hzero⟩, Nat.ofDigits_replicate_zero]
  refine ⟨zeros.length, ?_, ?_⟩
  · rw [← hsplit, List.length_append]
  · conv_lhs => rw [← Nat.ofDigits_digits 10 m, ← hsplit, Nat.ofDigits_append]
    rw [hzeros, Nat.zero_add, Nat.mul_comm]

theorem significant_ne_nil {m : Nat} (hm : m ≠ 0) : significant m ≠ [] := by
  intro hnil
  obtain ⟨t, -, hvalue⟩ := exists_zeros m
  rw [hnil, Nat.ofDigits_nil, Nat.zero_mul] at hvalue
  exact hm hvalue

/-! ## §3. The text. -/

/-- The point behind the first digit. -/
def pointed : List UInt8 → List UInt8
  | [] => []
  | [b] => [b]
  | b :: frac => b :: 0x2E :: frac

/-- Two digits at least. -/
def exponentDigits (x : Nat) : List UInt8 := if x < 10 then 0x30 :: decimal x else decimal x

def exponentText (x : Nat) : List UInt8 := 0x65 :: 0x2B :: exponentDigits x

/-- `%g` -/
def printG (n : Nat) : List UInt8 :=
  if beyond n = 0 then decimal n
  else
    let m := roundTo (beyond n) n
    pointed (digitBytes (significant m))
      ++ exponentText ((Nat.digits 10 m).length - 1 + beyond n)

example : printG 123456 = [0x31, 0x32, 0x33, 0x34, 0x35, 0x36] := by decide
-- 1.23457e+06, 1e+06
example : printG 1234567
    = [0x31, 0x2E, 0x32, 0x33, 0x34, 0x35, 0x37, 0x65, 0x2B, 0x30, 0x36] := by decide
example : printG 999999999 = [0x31, 0x65, 0x2B, 0x30, 0x39] := by decide

/-- An exponent of the grammar. -/
theorem exists_exponent (x : Nat) : ∃ e : Exponent, e.render = exponentText x ∧ e.value = x := by
  have hspec : exponentDigits x ≠ [] ∧ (∀ b ∈ exponentDigits x, isDigit b = true)
      ∧ natOf (exponentDigits x) = x := by
    unfold exponentDigits
    split
    next =>
      exact ⟨List.cons_ne_nil _ _, List.forall_mem_cons.mpr ⟨by decide, decimal_isDigit x⟩,
        (natOf_zero_cons _).trans (natOf_decimal x)⟩
    next => exact ⟨decimal_ne_nil x, decimal_isDigit x, natOf_decimal x⟩
  obtain ⟨hne, hdigits, hvalue⟩ := hspec
  refine ⟨⟨false, some false, ⟨_, hne, hdigits⟩⟩, rfl, ?_⟩
  rw [Exponent.value, if_neg (show some false ≠ some true by decide), hvalue]

/-- A first digit, the others behind the point, and an exponent. -/
theorem exists_scientific {b : UInt8} {frac : List UInt8} (x : Nat) (hb : isDigit b = true)
    (hfrac : ∀ c ∈ frac, isDigit c = true) : ∃ num : Number, num.negative = false
      ∧ num.render = pointed (b :: frac) ++ exponentText x
      ∧ num.value = (natOf (b :: frac) : ℚ) * (10 : ℚ) ^ ((x : ℤ) - frac.length) := by
  obtain ⟨e, he, hvalue⟩ := exists_exponent x
  have hint : ∀ c ∈ [b], isDigit c = true := by simpa using hb
  have hzero : [b] = [0x30] ∨ [b].head? ≠ some 0x30 := by
    rcases eq_or_ne b 0x30 with rfl | hne
    · exact .inl rfl
    · exact .inr (by simpa using hne)
  cases frac with
  | nil =>
      refine ⟨⟨false, ⟨[b], List.cons_ne_nil _ _, hint⟩, hzero, none, some e⟩, rfl, ?_, ?_⟩
      · rw [← he]
        rfl
      · rw [Number.value, if_neg Bool.false_ne_true, one_mul, ← hvalue]
        rfl
  | cons c frac =>
      refine ⟨⟨false, ⟨[b], List.cons_ne_nil _ _, hint⟩, hzero,
        some ⟨c :: frac, List.cons_ne_nil _ _, hfrac⟩, some e⟩, rfl, ?_, ?_⟩
      · rw [← he]
        rfl
      · rw [Number.value, if_neg Bool.false_ne_true, one_mul, ← hvalue]
        rfl

theorem roundTo_ne_zero {n : Nat} (h : beyond n ≠ 0) : roundTo (beyond n) n ≠ 0 := by
  have hlength : beyond n < (Nat.digits 10 n).length := by
    unfold beyond at h ⊢
    omega
  have hle : 10 ^ beyond n ≤ n := (Nat.lt_digits_length_iff (by decide) n).mp hlength
  have hquot : 0 < n / 10 ^ beyond n := Nat.div_pos hle (Nat.pow_pos (by decide))
  unfold roundTo
  split
  · exact Nat.succ_ne_zero _
  · exact hquot.ne'

/-- **A text of `%g`** in the grammar, without its sign. -/
theorem exists_number (n : Nat) : ∃ num : Number, num.negative = false ∧ num.render = printG n
    ∧ num.value = rounded n := by
  unfold printG
  split
  next h =>
    refine ⟨⟨false, ⟨decimal n, decimal_ne_nil n, decimal_isDigit n⟩, decimal_head n, none, none⟩,
      rfl, ?_, ?_⟩
    · simp [Number.render]
    · have hsix : rounded n = n := (rounded_eq_iff n).mpr (by
        rw [SixDigits, h, pow_zero]
        exact Nat.one_dvd n)
      simp [Number.value, Number.fracBytes, natOf_decimal, hsix]
  next h =>
    dsimp only
    have hm := roundTo_ne_zero h
    rw [rounded]
    generalize roundTo (beyond n) n = m at hm ⊢
    obtain ⟨t, hlength, hvalue⟩ := exists_zeros m
    obtain ⟨b, frac, hbytes⟩ : ∃ b frac, digitBytes (significant m) = b :: frac := by
      refine List.exists_cons_of_ne_nil ?_
      rw [digitBytes, Ne, List.map_eq_nil_iff, List.reverse_eq_nil_iff]
      exact significant_ne_nil hm
    have hcount : frac.length + 1 = (significant m).length := by
      rw [← List.length_cons (a := b), ← hbytes, digitBytes, List.length_map, List.length_reverse]
    have hall := digitBytes_isDigit (significant_lt (m := m))
    rw [hbytes, List.forall_mem_cons] at hall
    obtain ⟨num, hneg, hrender, hnum⟩ := exists_scientific
      ((Nat.digits 10 m).length - 1 + beyond n) hall.1 hall.2
    refine ⟨num, hneg, by rw [hrender, hbytes], ?_⟩
    rw [hnum, ← hbytes, natOf_digitBytes significant_lt]
    -- the zeros that were dropped are in the exponent
    rw [show (((Nat.digits 10 m).length - 1 + beyond n : Nat) : ℤ) - frac.length
      = ((t + beyond n : Nat) : ℤ) by omega, zpow_natCast]
    conv_rhs => rw [hvalue]
    push_cast
    ring

/-- **A text of `%g`** in the grammar. -/
theorem printG_number (negative : Bool) (n : Nat) : ∃ num : Number, num.negative = negative
    ∧ num.render = (if negative then [0x2D] else []) ++ printG n
      ∧ num.value = (if negative then -1 else 1) * (rounded n : ℚ) := by
  obtain ⟨num, hneg, hrender, hvalue⟩ := exists_number n
  refine ⟨{ num with negative := negative }, rfl, ?_, ?_⟩
  · rw [← hrender, Number.render, Number.render, hneg]
    rfl
  · rw [← hvalue, Number.value, Number.value, hneg, if_neg Bool.false_ne_true, one_mul, mul_assoc]
    rfl

end Lib.PrintfG
