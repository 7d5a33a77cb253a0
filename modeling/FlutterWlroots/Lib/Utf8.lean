/-
  FlutterWlroots.Lib.Utf8 — texts in UTF-8, byte by byte.

  `Utf8 bs` says that the bytes encode some characters; the encoding of one character is Lean's.  It is
  a prefix code (`encode_append_inj`), so a valid text in front can be cancelled, and a byte at either
  end can be taken off a valid text if and only if it is a character of its own:

    • `Utf8.concat_iff` — the last byte,
    • `Utf8.cons_iff`   — the first byte,
    • `Boundary`        — a place between two characters, and the place next to it.
-/
import Mathlib.Data.List.Basic

namespace Lib

open String (utf8EncodeChar)

/-! ## §1. One character. -/

/-- **A prefix code**: the first character of a text is determined, and so is the rest. -/
theorem encode_append_inj {c c' : Char} {x y : List UInt8}
    (h : utf8EncodeChar c ++ x = utf8EncodeChar c' ++ y) : c = c' ∧ x = y := by
  have hdecode : ∀ (c : Char) (x : List UInt8),
      ByteArray.utf8DecodeChar? (utf8EncodeChar c ++ x).toByteArray 0 = some c := by
    intro c x
    rw [List.toByteArray_append]
    exact ByteArray.utf8DecodeChar?_utf8EncodeChar_append
  have hc : c = c' := Option.some.inj ((hdecode c x).symm.trans (h ▸ hdecode c' y))
  subst hc
  exact ⟨rfl, List.append_cancel_left h⟩

theorem le_or (x : UInt8) {m : UInt8} (hm : 0x80 ≤ m) : 0x80 ≤ (x ||| m) := by
  rw [UInt8.le_iff_toNat_le, UInt8.toNat_or]
  exact Nat.le_trans (UInt8.le_iff_toNat_le.mp hm) Nat.right_le_or

/-- A byte below 0x80 is a character of its own, and in no other. -/
theorem ascii_iff {c : Char} {b : UInt8} (hb : b ∈ utf8EncodeChar c) :
    b < 0x80 ↔ utf8EncodeChar c = [b] := by
  have hle := c.utf8Size_le_four
  have hpos := c.utf8Size_pos
  -- in a longer character every byte has the highest bit
  have hlong : ∀ {bs : List UInt8}, utf8EncodeChar c = bs → 1 < bs.length →
      (∀ b' ∈ bs, ¬ b' < 0x80) → (b < 0x80 ↔ utf8EncodeChar c = [b]) := by
    intro bs henc hlen hall
    rw [henc] at hb ⊢
    refine iff_of_false (hall b hb) fun hone => ?_
    rw [hone] at hlen
    exact absurd hlen (Nat.lt_irrefl 1)
  rcases (by omega : c.utf8Size = 1 ∨ c.utf8Size = 2 ∨ c.utf8Size = 3 ∨ c.utf8Size = 4)
    with h | h | h | h
  · have henc := String.utf8EncodeChar_eq_singleton h
    rw [henc, List.mem_singleton] at hb
    rw [henc, hb]
    refine iff_of_true ?_ rfl
    have hval := UInt32.le_iff_toNat_le.mp (Char.utf8Size_eq_one_iff.mp h)
    have h127 : (127 : UInt32).toNat = 127 := rfl
    have h128 : (0x80 : UInt8).toNat = 128 := rfl
    rw [UInt8.lt_iff_toNat_lt, UInt32.toNat_toUInt8]
    omega
  · exact hlong (String.utf8EncodeChar_eq_cons_cons h) (Nat.le_add_left ..) (by simp [le_or])
  · exact hlong (String.utf8EncodeChar_eq_cons_cons_cons h) (Nat.le_add_left ..) (by simp [le_or])
  · exact hlong (String.utf8EncodeChar_eq_cons_cons_cons_cons h) (Nat.le_add_left ..) (by simp [le_or])

theorem encode_ascii {b : UInt8} (hb : b < 0x80) : ∃ c, utf8EncodeChar c = [b] := by
  have hlt := UInt8.lt_iff_toNat_lt.mp hb
  have h128 : (0x80 : UInt8).toNat = 128 := rfl
  have hvalid : b.toUInt32.isValidChar := .inl (by
    rw [UInt8.toNat_toUInt32]
    omega)
  refine ⟨⟨b.toUInt32, hvalid⟩, ?_⟩
  unfold utf8EncodeChar
  dsimp only
  rw [UInt8.toNat_toUInt32, if_pos (by omega), UInt8.ofNat_toNat]

/-! ## §2. Texts. -/

/-- The bytes are the encoding of some characters. -/
def Utf8 (bs : List UInt8) : Prop := ∃ cs : List Char, bs = cs.flatMap utf8EncodeChar

variable {a b t : List UInt8} {x : UInt8} {i : Nat}

theorem utf8_nil : Utf8 [] := ⟨[], rfl⟩

theorem utf8_char (c : Char) : Utf8 (utf8EncodeChar c) :=
  ⟨[c], by rw [List.flatMap_cons, List.flatMap_nil, List.append_nil]⟩

theorem Utf8.append (ha : Utf8 a) (hb : Utf8 b) : Utf8 (a ++ b) := by
  obtain ⟨cs, rfl⟩ := ha
  obtain ⟨ds, rfl⟩ := hb
  exact ⟨cs ++ ds, List.flatMap_append.symm⟩

theorem utf8_ascii (hx : x < 0x80) : Utf8 [x] := by
  obtain ⟨c, hc⟩ := encode_ascii hx
  exact hc ▸ utf8_char c

theorem Utf8.ascii_cons (ht : Utf8 t) (hx : x < 0x80) : Utf8 (x :: t) := (utf8_ascii hx).append ht

theorem utf8_of_ascii : ∀ {t : List UInt8}, (∀ x ∈ t, x < 0x80) → Utf8 t
  | [], _ => utf8_nil
  | x :: t, h => by
      obtain ⟨hx, ht⟩ := List.forall_mem_cons.mp h
      exact (utf8_of_ascii ht).ascii_cons hx

theorem utf8_of_all (h : t.all (· < 0x80) = true) : Utf8 t :=
  utf8_of_ascii fun x hx => of_decide_eq_true (List.all_eq_true.mp h x hx)

/-- A character is one byte below 0x80, or has no such byte. -/
theorem ascii_or_high (c : Char) : (∃ b, b < 0x80 ∧ utf8EncodeChar c = [b])
    ∨ ∀ b ∈ utf8EncodeChar c, ¬ b < 0x80 := by
  by_cases h : ∃ b ∈ utf8EncodeChar c, b < 0x80
  · obtain ⟨b, hmem, hlt⟩ := h
    exact .inl ⟨b, hlt, (ascii_iff hmem).mp hlt⟩
  · exact .inr fun b hb hlt => h ⟨b, hb, hlt⟩

/-- **A valid text in front is cancelled.** -/
theorem Utf8.of_append (ha : Utf8 a) (h : Utf8 (a ++ b)) : Utf8 b := by
  obtain ⟨cs, rfl⟩ := ha
  obtain ⟨ds, hds⟩ := h
  induction cs generalizing ds with
  | nil => exact ⟨ds, hds⟩
  | cons c cs ih =>
      rw [List.flatMap_cons, List.append_assoc] at hds
      cases ds with
      | nil => exact absurd (List.append_eq_nil_iff.mp hds).1 String.utf8EncodeChar_ne_nil
      | cons d ds => exact ih ds (encode_append_inj hds).2

/-- A text that is not empty has a last character. -/
theorem Utf8.exists_concat (h : Utf8 t) (hne : t ≠ []) : ∃ a c, Utf8 a ∧ t = a ++ utf8EncodeChar c := by
  obtain ⟨cs, rfl⟩ := h
  rcases List.eq_nil_or_concat cs with rfl | ⟨cs, c, rfl⟩
  · exact absurd rfl hne
  · refine ⟨cs.flatMap utf8EncodeChar, c, ⟨cs, rfl⟩, ?_⟩
    rw [List.concat_eq_append, List.flatMap_append, List.flatMap_cons, List.flatMap_nil,
      List.append_nil]

theorem Utf8.exists_cons (h : Utf8 t) (hne : t ≠ []) : ∃ c a, Utf8 a ∧ t = utf8EncodeChar c ++ a := by
  obtain ⟨cs, rfl⟩ := h
  cases cs with
  | nil => exact absurd rfl hne
  | cons c cs => exact ⟨c, _, ⟨cs, rfl⟩, rfl⟩

/-- **The last byte of a text** is taken off. -/
theorem Utf8.concat_iff (h : Utf8 (a ++ [x])) : Utf8 a ↔ x < 0x80 := by
  obtain ⟨a', c, ha', heq⟩ := h.exists_concat (List.append_ne_nil_of_right_ne_nil _ (List.cons_ne_nil x []))
  constructor
  · -- what is cancelled leaves the byte as a text
    intro ha
    obtain ⟨c', r, -, hr⟩ := (ha.of_append h).exists_cons (List.cons_ne_nil x [])
    have hone : utf8EncodeChar c' = [x] := by
      rcases List.append_eq_singleton_iff.mp hr.symm with ⟨hnil, -⟩ | ⟨hone, -⟩
      · exact absurd hnil String.utf8EncodeChar_ne_nil
      · exact hone
    exact (ascii_iff (hone ▸ List.mem_singleton_self x)).mpr hone
  · -- the last character is the byte alone
    intro hx
    have hlast : (utf8EncodeChar c).getLast? = some x := by
      have hl := congrArg List.getLast? heq
      rw [List.getLast?_concat, List.getLast?_append_of_ne_nil _ String.utf8EncodeChar_ne_nil] at hl
      exact hl.symm
    have hone := (ascii_iff (List.mem_of_getLast? hlast)).mp hx
    rw [hone] at heq
    rw [List.append_cancel_right heq]
    exact ha'

/-- **The first byte of a text** is taken off. -/
theorem Utf8.cons_iff (h : Utf8 (x :: a)) : Utf8 a ↔ x < 0x80 := by
  obtain ⟨c, r, hr, heq⟩ := h.exists_cons (List.cons_ne_nil _ _)
  obtain ⟨y, ys, henc⟩ := List.exists_cons_of_ne_nil (String.utf8EncodeChar_ne_nil (c := c))
  rw [henc, List.cons_append, List.cons.injEq] at heq
  obtain ⟨rfl, rfl⟩ := heq
  rw [ascii_iff (henc ▸ List.mem_cons_self), henc]
  constructor
  · -- the bytes behind the first one of a character are not the start of a text
    intro ha
    cases ys with
    | nil => rfl
    | cons y ys =>
        obtain ⟨c', r', -, heq'⟩ := ha.exists_cons (List.cons_ne_nil _ _)
        have hfirst : y.IsUTF8FirstByte := by
          have h0 := UInt8.isUTF8FirstByte_getElem_zero_utf8EncodeChar (c := c')
          obtain ⟨z, zs, hz⟩ := List.exists_cons_of_ne_nil (String.utf8EncodeChar_ne_nil (c := c'))
          simp only [hz, List.cons_append, List.cons.injEq] at heq' h0
          rw [heq'.1]
          exact h0
        have hsecond : y.IsUTF8FirstByte ↔ 1 = 0 := by
          have hlen : 1 < (utf8EncodeChar c).length := by
            rw [henc]
            exact Nat.le_add_left 2 _
          have h1 : (utf8EncodeChar c)[1].IsUTF8FirstByte ↔ 1 = 0 :=
            UInt8.isUTF8FirstByte_getElem_utf8EncodeChar
          simpa only [henc, List.getElem_cons_succ, List.getElem_cons_zero] using h1
        exact absurd (hsecond.mp hfirst) Nat.one_ne_zero
  · intro hone
    have hnil : ys = [] := (List.cons.inj hone).2
    rw [hnil]
    exact hr

/-! ## §3. Places in a text. -/

/-- The text is valid in front of the place and behind it. -/
structure Boundary (t : List UInt8) (i : Nat) : Prop where
  front : Utf8 (t.take i)
  back : Utf8 (t.drop i)

theorem Boundary.text (h : Boundary t i) : Utf8 t := by
  have happend := h.front.append h.back
  rwa [List.take_append_drop] at happend

theorem Utf8.boundary_zero (h : Utf8 t) : Boundary t 0 := ⟨utf8_nil, h⟩

theorem Utf8.boundary_length (h : Utf8 t) : Boundary t t.length := by
  refine ⟨?_, ?_⟩
  · rwa [List.take_length]
  · rw [List.drop_length]
    exact utf8_nil

/-- The place between two texts. -/
theorem boundary_append_iff {n : Nat} (hn : a.length = n) :
    Boundary (a ++ b) n ↔ Utf8 a ∧ Utf8 b := by
  constructor
  · rintro ⟨hfront, hback⟩
    rw [List.take_left' hn] at hfront
    rw [List.drop_left' hn] at hback
    exact ⟨hfront, hback⟩
  · rintro ⟨ha, hb⟩
    refine ⟨?_, ?_⟩
    · rwa [List.take_left' hn]
    · rwa [List.drop_left' hn]

theorem take_succ_eq (h : i < t.length) : t.take (i + 1) = t.take i ++ [t[i]] :=
  (List.take_append_getElem h).symm

/-- **One byte further on.** -/
theorem Boundary.succ_iff (h : Boundary t i) (hi : i < t.length) :
    Boundary t (i + 1) ↔ t[i] < 0x80 := by
  have hback := h.back
  rw [List.drop_eq_getElem_cons hi] at hback
  constructor
  · exact fun hsucc => hback.cons_iff.mp hsucc.back
  · intro hascii
    refine ⟨?_, hback.cons_iff.mpr hascii⟩
    rw [take_succ_eq hi]
    exact h.front.append (utf8_ascii hascii)

/-- **One byte back.** -/
theorem Boundary.pred_iff (h : Boundary t (i + 1)) (hi : i < t.length) :
    Boundary t i ↔ t[i] < 0x80 := by
  have hfront := h.front
  rw [take_succ_eq hi] at hfront
  constructor
  · exact fun hpred => hfront.concat_iff.mp hpred.front
  · intro hascii
    refine ⟨hfront.concat_iff.mpr hascii, ?_⟩
    rw [List.drop_eq_getElem_cons hi]
    exact (utf8_ascii hascii).append h.back

/-- **The byte in front of the place taken out.** -/
theorem Boundary.remove_before_iff (h : Boundary t (i + 1)) (hi : i < t.length) :
    Boundary (t.take i ++ t.drop (i + 1)) i ↔ t[i] < 0x80 := by
  have hfront := h.front
  rw [take_succ_eq hi] at hfront
  rw [boundary_append_iff (List.length_take_of_le (Nat.le_of_lt hi)), and_iff_left h.back,
    hfront.concat_iff]

/-- **The byte behind the place taken out.** -/
theorem Boundary.remove_behind_iff (h : Boundary t i) (hi : i < t.length) :
    Boundary (t.take i ++ t.drop (i + 1)) i ↔ t[i] < 0x80 := by
  have hback := h.back
  rw [List.drop_eq_getElem_cons hi] at hback
  rw [boundary_append_iff (List.length_take_of_le (Nat.le_of_lt hi)), and_iff_right h.front,
    hback.cons_iff]

end Lib
