/-
  FlutterWlroots.TextInput.KeyUtf8 — keys and characters of more than one byte.

  Backspace, Delete and the arrow keys move by one byte.  The text stays valid UTF-8 with both ends of
  the selection between characters if and only if they meet no character of more bytes
  (`StepsOverAscii`); the other keys, and deleting a selection, always keep it (`key_utf8_iff`).

    • `utf8_eq_encode`                           — the encoder of `fwr_text_input_handle_key`,
    • `Utf8Safe.replace`                         — what is put in place of a selection,
    • `Utf8Safe.backspace_iff`, `.delete_iff`, … — one byte on either side of the caret,
    • `handleKey_utf8_iff`                       — a pressed key.
-/
import FlutterWlroots.Lib.Utf8
import FlutterWlroots.TextInput.KeyEditing

namespace FlutterWlroots.TextInput

open Lib Lib.CInt

/-! ## §1. The encoder. -/

/-- A mark in front of bits that it leaves free. -/
theorem marked_eq {mark bits : UInt32} {i k n : Nat} (hmark : mark.toNat = 2 ^ i * k)
    (hbits : bits.toNat = n) (hn : n < 2 ^ i) :
    TextInputState.marked mark bits = UInt8.ofNat (n + 2 ^ i * k) := by
  rw [← UInt8.toNat_inj, TextInputState.marked, UInt32.toNat_toUInt8, UInt32.toNat_or, hmark, hbits,
    ← Nat.two_pow_add_eq_or_of_lt hn, UInt8.toNat_ofNat', Nat.add_comm]

/-- **The encoder is that of UTF-8**, on every scalar value. -/
theorem utf8_eq_encode (c : Char) : TextInputState.utf8 c.val = String.utf8EncodeChar c := by
  have hrange : c.val.toNat < 0x110000 := by
    have hvalid := c.valid
    rcases hvalid with h | ⟨-, h⟩
    · omega
    · exact h
  have hsix : ∀ v : UInt32, (v &&& 0x3F).toNat = v.toNat % 64 := fun v =>
    Nat.and_two_pow_sub_one_eq_mod v.toNat 6
  have hshift : ∀ (v : UInt32) (k : UInt32), k.toNat < 32 →
      (v >>> k).toNat = v.toNat / 2 ^ k.toNat := by
    intro v k hk
    rw [UInt32.toNat_shiftRight, Nat.mod_eq_of_lt hk, Nat.shiftRight_eq_div_pow]
  have h6 : (c.val >>> 6).toNat = c.val.toNat / 64 := hshift c.val 6 (by decide)
  have h12 : (c.val >>> 12).toNat = c.val.toNat / 4096 := hshift c.val 12 (by decide)
  have h18 : (c.val >>> 18).toNat = c.val.toNat / 262144 := hshift c.val 18 (by decide)
  -- the bytes behind the first one
  have hlast : TextInputState.marked 0x80 (c.val &&& 0x3F)
      = UInt8.ofNat (c.val.toNat % 64 + 0x80) :=
    marked_eq (i := 6) (k := 2) rfl (hsix _) (by omega)
  have hmid : TextInputState.marked 0x80 ((c.val >>> 6) &&& 0x3F)
      = UInt8.ofNat (c.val.toNat / 64 % 64 + 0x80) :=
    marked_eq (i := 6) (k := 2) rfl ((hsix _).trans (by rw [h6])) (by omega)
  have hhigh : TextInputState.marked 0x80 ((c.val >>> 12) &&& 0x3F)
      = UInt8.ofNat (c.val.toNat / 4096 % 64 + 0x80) :=
    marked_eq (i := 6) (k := 2) rfl ((hsix _).trans (by rw [h12])) (by omega)
  -- the first byte
  have htwo : c.val.toNat < 0x800 → TextInputState.marked 0xC0 (c.val >>> 6)
      = UInt8.ofNat (c.val.toNat / 64 % 32 + 0xC0) := fun h =>
    marked_eq (i := 5) (k := 6) rfl (h6.trans (by omega)) (by omega)
  have hthree : c.val.toNat < 0x10000 → TextInputState.marked 0xE0 (c.val >>> 12)
      = UInt8.ofNat (c.val.toNat / 4096 % 16 + 0xE0) := fun h =>
    marked_eq (i := 4) (k := 14) rfl (h12.trans (by omega)) (by omega)
  have hfour : TextInputState.marked 0xF0 (c.val >>> 18)
      = UInt8.ofNat (c.val.toNat / 262144 % 8 + 0xF0) :=
    marked_eq (i := 3) (k := 30) rfl (h18.trans (by omega)) (by omega)
  unfold TextInputState.utf8 String.utf8EncodeChar
  simp only [UInt32.lt_iff_toNat_lt]
  split
  next h1 => rw [if_pos (Nat.le_of_lt_succ h1), ← UInt8.ofNat_uInt32ToNat]
  next h1 =>
    rw [if_neg fun hle => h1 (Nat.lt_succ_of_le hle)]
    split
    next h2 => rw [if_pos (Nat.le_of_lt_succ h2), hlast, htwo h2]
    next h2 =>
      rw [if_neg fun hle => h2 (Nat.lt_succ_of_le hle)]
      split
      next h3 => rw [if_pos (Nat.le_of_lt_succ h3), hlast, hmid, hthree h3]
      next h3 => rw [if_neg fun hle => h3 (Nat.lt_succ_of_le hle), hlast, hmid, hhigh, hfour]

/-! ## §2. Fields. -/

/-- The text is valid, and both ends of the selection are between characters. -/
structure Utf8Safe (f : TextField UInt8) : Prop where
  base : Boundary f.text f.base
  extent : Boundary f.text f.extent

variable {f : TextField UInt8} {str : List UInt8}

theorem utf8Safe_caretAt {t : List UInt8} {pos : Nat} {h : pos ≤ t.length} :
    Utf8Safe (.caretAt t pos h) ↔ Boundary t pos := ⟨fun hs => hs.base, fun hb => ⟨hb, hb⟩⟩

theorem Utf8Safe.start (h : Utf8Safe f) : Boundary f.text f.start := by
  rcases Nat.le_total f.base f.extent with hle | hle
  · rw [TextField.start, Nat.min_eq_left hle]
    exact h.base
  · rw [TextField.start, Nat.min_eq_right hle]
    exact h.extent

theorem Utf8Safe.stop (h : Utf8Safe f) : Boundary f.text f.stop := by
  rcases Nat.le_total f.base f.extent with hle | hle
  · rw [TextField.stop, Nat.max_eq_right hle]
    exact h.extent
  · rw [TextField.stop, Nat.max_eq_left hle]
    exact h.base

/-- **A valid text in place of the selection.** -/
theorem Utf8Safe.replace (h : Utf8Safe f) (hstr : Utf8 str) : Utf8Safe (f.replace str) := by
  have hlen : (f.text.take f.start ++ str).length = f.start + str.length := by
    rw [List.length_append, List.length_take_of_le f.start_le]
  exact utf8Safe_caretAt.mpr
    ((boundary_append_iff hlen).mpr ⟨h.start.front.append hstr, h.stop.back⟩)

theorem Utf8Safe.insert (h : Utf8Safe f) (hstr : Utf8 str) (capacity : Nat) :
    Utf8Safe (f.insert capacity str) := by
  unfold TextField.insert
  split
  · exact h
  · exact h.replace hstr

/-- The byte in front of `base` is a character of its own, if there is one. -/
def AsciiBefore (f : TextField UInt8) : Prop := ∀ x ∈ (f.text.take f.base).getLast?, x < 0x80

/-- The byte behind `base`. -/
def AsciiAfter (f : TextField UInt8) : Prop := ∀ x ∈ f.text[f.base]?, x < 0x80

theorem pred_base_lt (h : 0 < f.base) : f.base - 1 < f.text.length :=
  Nat.lt_of_lt_of_le (Nat.sub_one_lt_of_lt h) f.base_le

theorem asciiBefore_iff (h : 0 < f.base) (hlt : f.base - 1 < f.text.length) :
    AsciiBefore f ↔ f.text[f.base - 1] < 0x80 := by
  have htake := take_succ_eq hlt
  rw [Nat.sub_add_cancel h] at htake
  unfold AsciiBefore
  rw [htake, List.getLast?_concat]
  simp

theorem asciiBefore_zero (h : f.base = 0) : AsciiBefore f := by
  intro x hx
  rw [h] at hx
  exact absurd hx (by simp)

theorem asciiAfter_iff (h : f.base < f.text.length) : AsciiAfter f ↔ f.text[f.base] < 0x80 := by
  unfold AsciiAfter
  rw [List.getElem?_eq_getElem h]
  simp

theorem asciiAfter_end (h : ¬ f.base < f.text.length) : AsciiAfter f := by
  intro x hx
  rw [List.getElem?_eq_none (Nat.not_lt.mp h)] at hx
  exact absurd hx (by simp)

/-- The key takes out or passes over nothing, a selection, or a character of one byte. -/
def StepsOverAscii (f : TextField UInt8) : TextInputState.Keysym → Prop
  | .backSpace => f.base ≠ f.extent ∨ AsciiBefore f
  | .delete => f.base ≠ f.extent ∨ AsciiAfter f
  | .left => AsciiBefore f
  | .right => AsciiAfter f
  | _ => True

/-! ## §3. Keys. -/

theorem Utf8Safe.backspace_iff (h : Utf8Safe f) :
    Utf8Safe f.backspace ↔ f.base ≠ f.extent ∨ AsciiBefore f := by
  unfold TextField.backspace
  split
  next hne => exact iff_of_true (h.replace utf8_nil) (.inl hne)
  next heq =>
    rw [or_iff_right heq]
    split
    next hpos =>
      have hbase := h.base
      rw [← Nat.sub_add_cancel hpos] at hbase
      rw [TextField.remove, utf8Safe_caretAt, hbase.remove_before_iff (pred_base_lt hpos),
        asciiBefore_iff hpos (pred_base_lt hpos)]
    next hzero => exact iff_of_true h (asciiBefore_zero (Nat.eq_zero_of_not_pos hzero))

theorem Utf8Safe.delete_iff (h : Utf8Safe f) :
    Utf8Safe f.delete ↔ f.base ≠ f.extent ∨ AsciiAfter f := by
  unfold TextField.delete
  split
  next hne => exact iff_of_true (h.replace utf8_nil) (.inl hne)
  next heq =>
    rw [or_iff_right heq]
    split
    next hlt =>
      rw [TextField.remove, utf8Safe_caretAt, h.base.remove_behind_iff hlt, asciiAfter_iff hlt]
    next hend => exact iff_of_true h (asciiAfter_end hend)

theorem Utf8Safe.left_iff (h : Utf8Safe f) : Utf8Safe f.left ↔ AsciiBefore f := by
  unfold TextField.left
  split
  next hpos =>
    have hbase := h.base
    rw [← Nat.sub_add_cancel hpos] at hbase
    rw [utf8Safe_caretAt, hbase.pred_iff (pred_base_lt hpos),
      asciiBefore_iff hpos (pred_base_lt hpos)]
  next hzero => exact iff_of_true h (asciiBefore_zero (Nat.eq_zero_of_not_pos hzero))

theorem Utf8Safe.right_iff (h : Utf8Safe f) : Utf8Safe f.right ↔ AsciiAfter f := by
  unfold TextField.right
  split
  next hlt => rw [utf8Safe_caretAt, h.base.succ_iff hlt, asciiAfter_iff hlt]
  next hend => exact iff_of_true h (asciiAfter_end hend)

/-- The character that a printable key stands for. -/
theorem exists_char {unicode : UInt32} (h : unicode = 0 ∨ unicode.isValidChar) (h' : unicode ≥ 0x20) :
    ∃ c : Char, c.val = unicode := by
  rcases h with rfl | hvalid
  · exact absurd h' (by decide)
  · exact ⟨⟨unicode, hvalid⟩, rfl⟩

/-- **The reference with bytes as elements** keeps a valid text valid if and only if it meets no
    character of more than one. -/
theorem key_utf8_iff (h : Utf8Safe f) (multiline : Bool) {unicode : UInt32}
    (hunicode : unicode = 0 ∨ unicode.isValidChar) (keysym : TextInputState.Keysym) :
    Utf8Safe (TextField.key f multiline unicode keysym) ↔ StepsOverAscii f keysym := by
  have hreturn : Utf8Safe (if multiline then f.insert textInputMaxLength [10] else f) := by
    split
    · exact h.insert (utf8_ascii (by decide)) _
    · exact h
  cases keysym with
  | backSpace => exact h.backspace_iff
  | delete => exact h.delete_iff
  | left => exact h.left_iff
  | right => exact h.right_iff
  | home => exact iff_of_true (utf8Safe_caretAt.mpr h.base.text.boundary_zero) trivial
  | endKey => exact iff_of_true (utf8Safe_caretAt.mpr h.base.text.boundary_length) trivial
  | returnKey => exact iff_of_true hreturn trivial
  | kpEnter => exact iff_of_true hreturn trivial
  | tab => exact iff_of_true h trivial
  | other =>
      refine iff_of_true ?_ trivial
      unfold TextField.key
      dsimp only
      split
      next hprintable =>
        obtain ⟨c, rfl⟩ := exists_char hunicode hprintable.1
        rw [utf8_eq_encode]
        exact h.insert (utf8_char c) _
      next => exact h

namespace TextInputState

variable {s s' : TextInputState}

theorem Represents.unique {f' : TextField UInt8} (h : s.Represents f) (h' : s.Represents f') :
    f = f' := by
  obtain ⟨text, base, extent, hbase, hextent⟩ := f
  obtain ⟨text', base', extent', hbase', hextent'⟩ := f'
  obtain rfl : text = text' := h.starts.unique h'.starts
  obtain rfl : base = base' := Int.ofNat.inj (h.base.symm.trans h'.base)
  obtain rfl : extent = extent' := Int.ofNat.inj (h.extent.symm.trans h'.extent)
  rfl

/-- The text of the state is valid UTF-8, with both ends of the selection between characters. -/
def KeepsUtf8 (s : TextInputState) : Prop := ∃ f, s.Represents f ∧ Utf8Safe f

/-- The key is printable, there is room for the character, and it has taken the place of the
    selection. -/
def InsertsEncoded (s' : TextInputState) (f : TextField UInt8) (keysym : Keysym) (unicode : UInt32) :
    Prop :=
  keysym = .other → ∀ c : Char, c.val = unicode → 0x20 ≤ unicode → unicode ≠ 0x7F →
    f.text.length + (String.utf8EncodeChar c).length < textInputMaxLength →
      s'.text.Starts (f.text.take f.start ++ String.utf8EncodeChar c ++ f.text.drop f.stop)

theorem Represents.insertsEncoded {unicode : UInt32} {keysym : Keysym} {multiline : Bool}
    (h : s'.Represents (TextField.key f multiline unicode keysym)) :
    s'.InsertsEncoded f keysym unicode := by
  rintro rfl c rfl hprintable hdelete hroom
  have hstarts := h.starts
  rw [TextField.key, if_pos ⟨hprintable, hdelete⟩, utf8_eq_encode, TextField.insert,
    if_neg (Nat.not_le.mpr hroom)] at hstarts
  exact hstarts

/-- **Keys and UTF-8**: a pressed key in an open field keeps the text valid and the selection between
    characters, and inserts the encoding of a printable character, if and only if it does not step
    over a character of more than one byte. -/
theorem handleKey_utf8_iff (s : TextInputState) (f : TextField UInt8) (keysym : Keysym)
    (unicode : UInt32) (hactive : s.active = true) (h : s.Represents f) (hsafe : Utf8Safe f)
    (hunicode : unicode = 0 ∨ unicode.isValidChar) :
    ∃ s' sent, s.fwrTextInputHandleKey keysym unicode true = some (s', sent)
      ∧ (s'.KeepsUtf8 ∧ s'.InsertsEncoded f keysym unicode ↔ StepsOverAscii f keysym) := by
  obtain ⟨s', sent, hs', h', -⟩ := h.handleKey hactive keysym unicode
  refine ⟨s', sent, hs', ?_⟩
  rw [and_iff_left h'.insertsEncoded, ← key_utf8_iff hsafe s.multiline hunicode keysym]
  constructor
  · rintro ⟨f', hf', hsafe'⟩
    rwa [h'.unique hf']
  · exact fun hsafe' => ⟨_, h', hsafe'⟩

/-- A field with one character of two bytes and the caret behind it. -/
def accented : TextField UInt8 := ⟨[0xC3, 0xA9], 2, 2, Nat.le_refl 2, Nat.le_refl 2⟩

def behindAccented : TextInputState :=
  { init with
    active := true
    text := ⟨[0xC3, 0xA9, 0] ++ List.replicate 8189 0, by
      rw [List.length_append, List.length_replicate]
      rfl⟩
    textLength := 2
    selectionBase := 2
    selectionExtent := 2 }

theorem behindAccented_represents : behindAccented.Represents accented :=
  ⟨⟨by decide, List.prefix_append ..⟩, rfl, rfl, rfl⟩

theorem accented_utf8Safe : Utf8Safe accented := by
  have hbase : Boundary accented.text accented.base :=
    (show Utf8 [0xC3, 0xA9] from utf8_char (Char.ofNat 0xE9)).boundary_length
  exact ⟨hbase, hbase⟩

/-- A letter is inserted behind the character. -/
theorem handleKey_utf8_iff_letter :
    ∃ s' sent, behindAccented.fwrTextInputHandleKey .other 0x20AC true = some (s', sent)
      ∧ s'.KeepsUtf8 ∧ s'.text.Starts [0xC3, 0xA9, 0xE2, 0x82, 0xAC] := by
  obtain ⟨s', sent, hs', hiff⟩ := handleKey_utf8_iff behindAccented accented .other 0x20AC rfl
    behindAccented_represents accented_utf8Safe (.inr (by decide))
  obtain ⟨hkeeps, hinserts⟩ := hiff.mpr trivial
  exact ⟨s', sent, hs', hkeeps, hinserts rfl (Char.ofNat 0x20AC) rfl (by decide) (by decide) (by decide)⟩

/-- **Backspace behind a character of two bytes** leaves the first one. -/
theorem backspace_splits_character :
    behindAccented.active = true ∧ behindAccented.KeepsUtf8 ∧
      ∃ s' sent, behindAccented.fwrTextInputHandleKey .backSpace 0 true = some (s', sent)
        ∧ ¬ s'.KeepsUtf8 := by
  refine ⟨rfl, ⟨accented, behindAccented_represents, accented_utf8Safe⟩, ?_⟩
  obtain ⟨s', sent, hs', h', -⟩ := behindAccented_represents.handleKey rfl .backSpace 0
  refine ⟨s', sent, hs', ?_⟩
  rintro ⟨f, hf, hsafe⟩
  rw [hf.unique h'] at hsafe
  rcases (key_utf8_iff accented_utf8Safe _ (.inl rfl) .backSpace).mp hsafe with hne | hascii
  · exact hne rfl
  · exact absurd (hascii 0xA9 rfl) (by decide)

end TextInputState

end FlutterWlroots.TextInput
