/-
  FlutterWlroots.Lib.Rfc8259Raw — JSON strings that are written as they are.

  An escape is longer than what it stands for, and the only quotation marks between those around a
  string are escapes of one.  So:

    • `body_eq_denote_iff` — a string is written as it is if and only if there is no backslash in it,
    • `raw_aligned`        — bytes between quotation marks are read back as themselves only if all
                             of them may stand there as they are.
-/
import Mathlib.Data.List.Count
import FlutterWlroots.Lib.Rfc8259

namespace Lib.Rfc8259

open String (utf8EncodeChar)

theorem length_encode_le (c : Char) : (utf8EncodeChar c).length ≤ 4 := by
  rw [String.length_utf8EncodeChar]
  exact c.utf8Size_le_four

/-! ## §1. One piece. -/

theorem Hex4.length_bytes (x : Hex4) : x.bytes.length = 4 := rfl

theorem Piece.length_denote_le (p : Piece) : p.denote.length ≤ p.render.length := by
  cases p with
  | plain b hb => exact Nat.le_refl 1
  | escape letter meaning hm => exact Nat.le_succ 1
  | unicode x hx =>
      rw [show (unicode x hx).render.length = 6 from rfl]
      exact Nat.le_trans (length_encode_le _) (Nat.le_add_right 4 2)
  | pair high low h =>
      rw [show (pair high low h).render.length = 12 from rfl, denote]
      exact (length_encode_le _).trans (Nat.le_add_right 4 8)

/-- **An escape is longer than what it stands for.** -/
theorem Piece.length_denote_eq {p : Piece} (h : p.denote.length = p.render.length) :
    ∃ b, isPlain b = true ∧ p.render = [b] ∧ p.denote = [b] := by
  cases p with
  | plain b hb => exact ⟨b, hb, rfl, rfl⟩
  | escape letter meaning hm => exact absurd h (by decide : (1 : Nat) ≠ 2)
  | unicode x hx =>
      have hle := length_encode_le (Char.ofNat x.value)
      have hlen : (utf8EncodeChar (Char.ofNat x.value)).length = 6 := h
      omega
  | pair high low hpair =>
      have hle := length_encode_le
        (Char.ofNat (0x10000 + 0x400 * (high.value - 0xD800) + (low.value - 0xDC00)))
      have hlen : (utf8EncodeChar
        (Char.ofNat (0x10000 + 0x400 * (high.value - 0xD800) + (low.value - 0xDC00)))).length = 12 := h
      omega

theorem Hex4.no_quote (x : Hex4) : x.bytes.count 0x22 = 0 := by
  refine List.count_eq_zero.mpr fun hmem => ?_
  exact absurd (x.digits _ hmem) (by decide)

/-- **A quotation mark is an escape of itself.** -/
theorem Piece.count_quote_le (p : Piece) : p.render.count 0x22 ≤ p.denote.count 0x22 := by
  cases p with
  | plain b hb => exact Nat.le_refl _
  | escape letter meaning hm =>
      rcases eq_or_ne letter 0x22 with rfl | hne
      · obtain rfl : (0x22 : UInt8) = meaning := Option.some.inj hm
        exact Nat.le_refl 1
      · rw [Piece.render, List.count_cons_of_ne (by decide), List.count_cons_of_ne hne,
          List.count_nil]
        exact Nat.zero_le _
  | unicode x hx =>
      rw [Piece.render, List.count_cons_of_ne (by decide), List.count_cons_of_ne (by decide),
        x.no_quote]
      exact Nat.zero_le _
  | pair high low h =>
      rw [Piece.render, List.count_cons_of_ne (by decide), List.count_cons_of_ne (by decide),
        List.count_append, List.count_cons_of_ne (by decide), List.count_cons_of_ne (by decide),
        high.no_quote, low.no_quote]
      exact Nat.zero_le _

/-- An escape begins with a backslash. -/
theorem Piece.plain_of_no_backslash {p : Piece} (h : 0x5C ∉ p.render) : p.render = p.denote := by
  cases p with
  | plain b hb => rfl
  | escape | unicode | pair => exact absurd List.mem_cons_self h

/-! ## §2. Strings. -/

theorem bodyText_cons (p : Piece) (s : List Piece) : bodyText (p :: s) = p.render ++ bodyText s :=
  List.flatMap_cons

theorem stringDenote_cons (p : Piece) (s : List Piece) :
    stringDenote (p :: s) = p.denote ++ stringDenote s := List.flatMap_cons

theorem length_stringDenote_le : ∀ s : List Piece, (stringDenote s).length ≤ (bodyText s).length
  | [] => Nat.le_refl 0
  | p :: s => by
      rw [bodyText_cons, stringDenote_cons, List.length_append, List.length_append]
      exact Nat.add_le_add p.length_denote_le (length_stringDenote_le s)

theorem count_quote_le : ∀ s : List Piece, (bodyText s).count 0x22 ≤ (stringDenote s).count 0x22
  | [] => Nat.le_refl 0
  | p :: s => by
      rw [bodyText_cons, stringDenote_cons, List.count_append, List.count_append]
      exact Nat.add_le_add p.count_quote_le (count_quote_le s)

/-- A string that is not longer than what it stands for has no escape. -/
theorem plain_of_length : ∀ {s : List Piece}, (bodyText s).length ≤ (stringDenote s).length →
    bodyText s = stringDenote s ∧ ∀ b ∈ stringDenote s, isPlain b = true
  | [], _ => ⟨rfl, nofun⟩
  | p :: s, h => by
      rw [bodyText_cons, stringDenote_cons] at h ⊢
      rw [List.length_append, List.length_append] at h
      have hpiece := p.length_denote_le
      have hrest := length_stringDenote_le s
      obtain ⟨b, hb, hrender, hdenote⟩ := Piece.length_denote_eq (p := p) (by omega)
      obtain ⟨hbody, hall⟩ := plain_of_length (s := s) (by omega)
      rw [hrender, hdenote, hbody]
      exact ⟨rfl, List.forall_mem_cons.mpr ⟨hb, hall⟩⟩

/-- **Without a backslash**, and only then, a string is written as it is. -/
theorem body_eq_denote_iff (s : List Piece) : bodyText s = stringDenote s ↔ 0x5C ∉ bodyText s := by
  constructor
  · intro h hmem
    have hall := (plain_of_length (congrArg List.length h).le).2
    rw [h] at hmem
    exact absurd (hall _ hmem) (by decide)
  · intro h
    induction s with
    | nil => rfl
    | cons p s ih =>
        rw [bodyText_cons, List.mem_append, not_or] at h
        rw [bodyText_cons, stringDenote_cons, Piece.plain_of_no_backslash h.1, ih h.2]

/-- **Bytes between quotation marks** that are read as themselves. -/
theorem raw_aligned {s : List Piece} {y y' : List UInt8}
    (h : bodyText s ++ 0x22 :: y = stringDenote s ++ 0x22 :: y') :
    (∀ b ∈ stringDenote s, isPlain b = true) ∧ y = y' := by
  have hle := length_stringDenote_le s
  -- if the string went on behind the second quotation mark, it would have one more than it denotes
  have hlength : (bodyText s).length ≤ (stringDenote s).length := by
    by_contra hlt
    have hleft : stringDenote s ++ [0x22] <+: stringDenote s ++ 0x22 :: y' := ⟨y', by simp⟩
    have hright : bodyText s <+: stringDenote s ++ 0x22 :: y' := h ▸ List.prefix_append _ _
    have hprefix : stringDenote s ++ [0x22] <+: bodyText s := by
      refine List.prefix_of_prefix_length_le hleft hright ?_
      rw [List.length_append, List.length_singleton]
      omega
    have hcount := hprefix.sublist.count_le 0x22
    rw [List.count_append, List.count_singleton_self] at hcount
    have hquotes := count_quote_le s
    omega
  obtain ⟨hbody, hall⟩ := plain_of_length hlength
  rw [hbody] at h
  exact ⟨hall, (List.cons.inj (List.append_cancel_left h)).2⟩

end Lib.Rfc8259
