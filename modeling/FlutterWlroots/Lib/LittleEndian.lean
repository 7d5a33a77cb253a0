/-
  FlutterWlroots.Lib.LittleEndian — fixed-width little-endian numbers as byte lists.

  `leBytes k n` is what a `k`-byte store of `n` leaves in memory on a little-endian machine,
  `leNat` is what the matching load reads back.  The two are inverse up to truncation
  (`leNat_leBytes`) and, on lists of one length, `leNat` is injective (`leNat_inj`), so a load
  returns the stored number exactly when the bytes in memory are the stored ones.
-/
import Mathlib.Data.List.Basic
import Mathlib.Tactic.Ring

namespace Lib.LittleEndian

/-! ## §1. Stores and loads. -/

/-- The `k` low bytes of `n`, least significant first. -/
def leBytes : Nat → Nat → List UInt8
  | 0, _ => []
  | k + 1, n => UInt8.ofNat n :: leBytes k (n / 256)

/-- The number a little-endian load of these bytes returns. -/
def leNat : List UInt8 → Nat
  | [] => 0
  | b :: bs => b.toNat + 256 * leNat bs

@[simp] theorem length_leBytes (k : Nat) : ∀ n, (leBytes k n).length = k := by
  induction k with
  | zero => intro n; rfl
  | succ k ih => intro n; simp [leBytes, ih]

theorem leNat_lt : ∀ bs : List UInt8, leNat bs < 256 ^ bs.length
  | [] => Nat.one_pos
  | b :: bs => by
      have hb := b.toNat_lt
      have hbs := leNat_lt bs
      rw [leNat, List.length_cons, Nat.pow_succ]
      omega

/-- A load after a store returns the stored number truncated to `k` bytes. -/
theorem leNat_leBytes (k : Nat) : ∀ n, leNat (leBytes k n) = n % 256 ^ k := by
  induction k with
  | zero => intro n; simp [leBytes, leNat, Nat.mod_one]
  | succ k ih =>
      intro n
      show (UInt8.ofNat n).toNat + 256 * leNat (leBytes k (n / 256)) = n % 256 ^ (k + 1)
      have hb : (UInt8.ofNat n).toNat = n % 256 := UInt8.toNat_ofNat'
      rw [ih, hb, pow_succ' 256 k, Nat.mod_mul]

theorem leNat_leBytes_of_lt {k n : Nat} (h : n < 256 ^ k) : leNat (leBytes k n) = n := by
  rw [leNat_leBytes, Nat.mod_eq_of_lt h]

/-- Among byte lists of one length, the loaded number determines the bytes. -/
theorem leNat_inj : ∀ {bs cs : List UInt8}, bs.length = cs.length → leNat bs = leNat cs → bs = cs
  | [], [], _, _ => rfl
  | b :: bs, c :: cs, hlen, h => by
      have hb := b.toNat_lt
      have hc := c.toNat_lt
      have h' : b.toNat + 256 * leNat bs = c.toNat + 256 * leNat cs := h
      have hhead : b = c := UInt8.toNat_inj.mp (by omega)
      have htail : bs = cs := leNat_inj (by simpa using hlen) (by omega)
      rw [hhead, htail]

/-! ## §2. Machine words. -/

/-- A word of `8 * k` bits survives a store and a load of its `k` bytes. -/
theorem ofNat_leNat_leBytes (k : Nat) (v : BitVec (8 * k)) :
    BitVec.ofNat (8 * k) (leNat (leBytes k v.toNat)) = v := by
  have hlt : v.toNat < 256 ^ k := by
    have h := v.isLt
    rwa [Nat.pow_mul] at h
  rw [leNat_leBytes_of_lt hlt, BitVec.ofNat_toNat, BitVec.setWidth_eq]

end Lib.LittleEndian
