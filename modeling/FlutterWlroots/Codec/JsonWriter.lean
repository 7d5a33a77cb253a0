/-
  FlutterWlroots.Codec.JsonWriter — what the text of a JSON value stands for.

  `toJson` is the value itself, without C: strings as their bytes, numbers as rational numbers.  The
  values are those with integers for numbers and with UTF-8 for strings and keys (`WellFormed`).  The
  text that `platch_write_value_to_buffer_json` prints is a JSON text for `toJson` if and only if the
  value is `Escapable`:

    • in a string there is no `"`, and no control character but those with a letter of their own,
    • in a key there is nothing that needs an escape,
    • no number has more than six significant digits.

  One direction builds the syntax tree (`parses_jsonText`); in the other one, a syntax tree for the
  value and the text are read from the left together (`readBack`).
-/
import FlutterWlroots.Codec.JsonPasses
import FlutterWlroots.Lib.Double
import FlutterWlroots.Lib.PrintfG
import FlutterWlroots.Lib.Rfc8259Raw

namespace FlutterWlroots.PlatformChannel

open Lib Lib.Double Lib.PrintfG Lib.Rfc8259
open FlutterWlroots.Codec

/-! ## §1. Values. -/

mutual
/-- The value itself. -/
def toJson : JsonValue → Json
  | .kJsonNull => .null
  | .kJsonTrue => .bool true
  | .kJsonFalse => .bool false
  | .kJsonNumber number_value => .number (value number_value)
  | .kJsonString string_value => .string string_value.bytes
  | .kJsonArray array => .array (toJsonList array)
  | .kJsonObject entries => .object (toJsonMembers entries)
def toJsonList : List JsonValue → List Json
  | [] => []
  | v :: array => toJson v :: toJsonList array
def toJsonMembers : List (CString × JsonValue) → List (List UInt8 × Json)
  | [] => []
  | (key, v) :: entries => (key.bytes, toJson v) :: toJsonMembers entries
end

/-- All numbers, strings and keys of a value. -/
inductive Every (number : BitVec 64 → Prop) (string key : CString → Prop) : JsonValue → Prop
  | kJsonNull : Every number string key .kJsonNull
  | kJsonTrue : Every number string key .kJsonTrue
  | kJsonFalse : Every number string key .kJsonFalse
  | kJsonNumber {x : BitVec 64} : number x → Every number string key (.kJsonNumber x)
  | kJsonString {s : CString} : string s → Every number string key (.kJsonString s)
  | kJsonArray {vs : List JsonValue} :
      (∀ v ∈ vs, Every number string key v) → Every number string key (.kJsonArray vs)
  | kJsonObject {es : List (CString × JsonValue)} :
      (∀ e ∈ es, key e.1) → (∀ e ∈ es, Every number string key e.2) →
        Every number string key (.kJsonObject es)

/-- The double is an integer. -/
def IsInteger (x : BitVec 64) : Prop := isFinite x = true ∧ ∃ z : ℤ, value x = z

/-- The text of the string is UTF-8. -/
def IsUtf8 (s : CString) : Prop := Utf8 s.bytes

/-- Integers, and strings and keys in UTF-8. -/
def WellFormed (v : JsonValue) : Prop := Every IsInteger IsUtf8 IsUtf8 v

/-! ## §2. What is printed right. -/

/-- No `"`, and below the space only what has a letter of its own. -/
def printable (b : UInt8) : Bool :=
  b ≠ 0x22 ∧ (0x20 ≤ b ∨ b ∈ [0x08, 0x0C, 0x0A, 0x0D, 0x09])

def Printable (s : CString) : Prop := ∀ b ∈ s.bytes, printable b = true

/-- Nothing that needs an escape. -/
def PlainKey (s : CString) : Prop := ∀ b ∈ s.bytes, isPlain b = true

/-- An integer of six significant digits. -/
def SixDigit (x : BitVec 64) : Prop := ∀ z, integer? x = some z → SixDigits z.natAbs

def Escapable (v : JsonValue) : Prop := Every SixDigit Printable PlainKey v

/-! ## §3. Numbers. -/

/-- The text of an integer. -/
def integerText (negative : Bool) (n : Nat) : CString where
  bytes := (if negative then [0x2D] else []) ++ printG n
  nulFree := by
    obtain ⟨num, -, hrender, -⟩ := printG_number negative n
    rw [← hrender]
    intro hmem
    exact absurd (num.render_numberBytes _ hmem) (by decide)

variable (other : BitVec 64 → CString)

/-- `sprintf("%g")`: the integers; `other` is the text of other numbers. -/
def percentG (number_value : BitVec 64) : CString :=
  match integer? number_value with
  | some z => integerText (negative number_value) z.natAbs
  | none => other number_value

variable {other}

variable (other) in
/-- **A printed integer** is a number, and the right one if six digits are enough. -/
theorem percentG_number {x : BitVec 64} (h : IsInteger x) : ∃ num : Number,
    num.negative = negative x ∧ num.render = (percentG other x).bytes
      ∧ (num.value = value x ↔ SixDigit x) := by
  obtain ⟨hfinite, z, hz⟩ := h
  have hint := integer?_eq_some_iff.mpr ⟨hfinite, hz⟩
  have htruncate : truncate x = some z := by
    unfold integer? at hint
    split at hint
    next => exact hint
    next => cases hint
  -- the sign of the number is the sign bit
  have hsign : (z : ℚ) = (if negative x then -1 else 1) * (z.natAbs : ℚ) := by
    have hmagnitude : ∃ m : Nat, z = if negative x then -(m : ℤ) else m := by
      unfold truncate at htruncate
      split at htruncate
      next => cases htruncate
      next => exact ⟨_, (Option.some.inj htruncate).symm⟩
    obtain ⟨m, hm⟩ := hmagnitude
    have habs : z.natAbs = m := by
      rw [hm]
      split <;> simp
    rw [habs]
    exact ((sign_mul_eq_iff _ _ _).mpr hm.symm).symm
  obtain ⟨num, hnegative, hrender, hvalue⟩ := printG_number (negative x) z.natAbs
  refine ⟨num, hnegative, ?_, ?_⟩
  · rw [hrender, percentG, hint]
    rfl
  · have hunit : (if negative x then -1 else 1 : ℚ) ≠ 0 := by
      split <;> decide
    rw [hvalue, hz, hsign, mul_right_inj' hunit, Nat.cast_inj, rounded_eq_iff]
    constructor
    · intro hsix z' hz'
      cases hint.symm.trans hz'
      exact hsix
    · exact fun hsix => hsix z hint

/-! ## §4. Strings. -/

theorem escape_plain {b : UInt8} (h : isPlain b = true) : escape b = [b] := by
  have hne : ∀ c : UInt8, isPlain c = false → b ≠ c := by
    rintro c hc rfl
    rw [h] at hc
    cases hc
  unfold escape
  rw [if_neg (hne _ (by decide)), if_neg (hne _ (by decide)), if_neg (hne _ (by decide)),
    if_neg (hne _ (by decide)), if_neg (hne _ (by decide)), if_neg (hne _ (by decide)),
    if_neg (hne _ (by decide))]

theorem printable_of_isPlain {b : UInt8} (h : isPlain b = true) : printable b = true := by
  simp only [isPlain, decide_eq_true_eq] at h
  simp only [printable, decide_eq_true_eq]
  exact ⟨h.2.1, .inl h.1⟩

/-- **An escape** is printed right, unless it stands for a quotation mark. -/
theorem escape_aligned {letter meaning : UInt8} (hm : escapeOf letter = some meaning)
    {y y' : List UInt8} (h : 0x5C :: letter :: y = escape meaning ++ y') :
    printable meaning = true ∧ y = y' := by
  unfold escapeOf at hm
  split_ifs at hm with hquote hbackslash hslash <;> cases hm
  · -- `\t` is printed for it
    rw [hquote] at h
    exact absurd (List.cons.inj (List.cons.inj h).2).1 (by decide)
  · exact ⟨by decide, (List.cons.inj (List.cons.inj h).2).2⟩
  · exact absurd (List.cons.inj h).1 (by decide)
  all_goals exact ⟨by decide, (List.cons.inj (List.cons.inj h).2).2⟩

/-- `\u` is never printed. -/
theorem escape_ne_unicode {b : UInt8} {y y' : List UInt8} : escape b ++ y' ≠ 0x5C :: 0x75 :: y := by
  intro h
  unfold escape at h
  split_ifs at h with h1 h2 h3 h4 h5 h6 h7
  all_goals first
    | exact h7 (List.cons.inj h).1
    | exact absurd (List.cons.inj (List.cons.inj h).2).1 (by decide)

theorem escapeText_cons (b : UInt8) (s : List UInt8) :
    escapeText (b :: s) = escape b ++ escapeText s := List.flatMap_cons

/-- **A printed string** that is read as itself: piece by piece, each is what is printed for the byte
    that it stands for. -/
theorem escapeText_aligned : ∀ {ps : List Piece} {y y' : List UInt8},
    bodyText ps ++ 0x22 :: y = escapeText (stringDenote ps) ++ 0x22 :: y' →
      (∀ b ∈ stringDenote ps, printable b = true) ∧ y = y'
  | [], y, y', h => ⟨nofun, (List.cons.inj h).2⟩
  | p :: ps, y, y', h => by
      rw [bodyText_cons, stringDenote_cons, List.append_assoc] at h
      rw [stringDenote_cons]
      -- a character that is not empty, and `\u` in front of it
      have hunicode : ∀ {c : Char} {z : List UInt8},
          0x5C :: 0x75 :: z ≠ escapeText (String.utf8EncodeChar c ++ stringDenote ps) ++ 0x22 :: y' := by
        intro c z heq
        obtain ⟨b, bs, hc⟩ := List.exists_cons_of_ne_nil (String.utf8EncodeChar_ne_nil (c := c))
        rw [hc, List.cons_append, escapeText_cons, List.append_assoc] at heq
        exact escape_ne_unicode heq.symm
      cases p with
      | plain b hb =>
          rw [Piece.denote, List.singleton_append, escapeText_cons, escape_plain hb] at h
          obtain ⟨hall, hrest⟩ := escapeText_aligned (List.cons.inj h).2
          exact ⟨List.forall_mem_cons.mpr ⟨printable_of_isPlain hb, hall⟩, hrest⟩
      | escape letter meaning hm =>
          rw [Piece.denote, List.singleton_append, escapeText_cons, List.append_assoc] at h
          obtain ⟨hprintable, hbody⟩ := escape_aligned hm h
          obtain ⟨hall, hrest⟩ := escapeText_aligned hbody
          exact ⟨List.forall_mem_cons.mpr ⟨hprintable, hall⟩, hrest⟩
      | unicode | pair =>
          rw [Piece.denote, Piece.render, List.cons_append, List.cons_append] at h
          exact absurd h hunicode

/-- A byte that is printed right is a piece. -/
theorem exists_piece {b : UInt8} (h : printable b = true) :
    ∃ p : Piece, p.render = escape b ∧ p.denote = [b] := by
  by_cases hplain : isPlain b = true
  · exact ⟨.plain b hplain, (escape_plain hplain).symm, rfl⟩
  · -- a backslash, or a control character with a letter
    have hcases : b ∈ ([0x08, 0x0C, 0x0A, 0x0D, 0x09, 0x5C] : List UInt8) := by
      simp only [printable, decide_eq_true_eq] at h
      simp only [isPlain, decide_eq_true_eq, not_and, Decidable.not_not] at hplain
      obtain ⟨hquote, hspace | hcontrol⟩ := h
      · rw [hplain hspace hquote]
        decide
      · exact List.mem_append_left [0x5C] hcontrol
    simp only [List.mem_cons, List.not_mem_nil, or_false] at hcases
    rcases hcases with rfl | rfl | rfl | rfl | rfl | rfl
    · exact ⟨.escape 0x62 0x08 rfl, rfl, rfl⟩
    · exact ⟨.escape 0x66 0x0C rfl, rfl, rfl⟩
    · exact ⟨.escape 0x6E 0x0A rfl, rfl, rfl⟩
    · exact ⟨.escape 0x72 0x0D rfl, rfl, rfl⟩
    · exact ⟨.escape 0x74 0x09 rfl, rfl, rfl⟩
    · exact ⟨.escape 0x5C 0x5C rfl, rfl, rfl⟩

theorem exists_pieces : ∀ {s : List UInt8}, (∀ b ∈ s, printable b = true) →
    ∃ ps : List Piece, bodyText ps = escapeText s ∧ stringDenote ps = s
  | [], _ => ⟨[], rfl, rfl⟩
  | b :: s, h => by
      obtain ⟨hb, hs⟩ := List.forall_mem_cons.mp h
      obtain ⟨p, hrender, hdenote⟩ := exists_piece hb
      obtain ⟨ps, hbody, hall⟩ := exists_pieces hs
      refine ⟨p :: ps, ?_, ?_⟩
      · rw [bodyText_cons, hrender, hbody, escapeText_cons]
      · rw [stringDenote_cons, hdenote, hall, List.singleton_append]

/-- Bytes that need no escape. -/
theorem exists_raw : ∀ {s : List UInt8}, (∀ b ∈ s, isPlain b = true) →
    ∃ ps : List Piece, bodyText ps = s ∧ stringDenote ps = s
  | [], _ => ⟨[], rfl, rfl⟩
  | b :: s, h => by
      obtain ⟨hb, hs⟩ := List.forall_mem_cons.mp h
      obtain ⟨ps, hbody, hdenote⟩ := exists_raw hs
      refine ⟨.plain b hb :: ps, ?_, ?_⟩
      · rw [bodyText_cons, hbody]
        rfl
      · rw [stringDenote_cons, hdenote]
        rfl

/-- **Escapes keep a text valid**: they replace ASCII characters. -/
theorem utf8_escapeText {s : List UInt8} (h : Utf8 s) : Utf8 (escapeText s) := by
  have hescape : ∀ b : UInt8, b < 0x80 → Utf8 (escape b) := by
    intro b hb
    refine utf8_of_ascii ?_
    unfold escape
    split_ifs <;> simp [hb]
  have hhigh : ∀ {t : List UInt8}, (∀ b ∈ t, ¬ b < 0x80) → escapeText t = t := by
    intro t ht
    induction t with
    | nil => rfl
    | cons b t ih =>
        obtain ⟨hb, htail⟩ := List.forall_mem_cons.mp ht
        rw [escapeText_cons, ih htail, escape_plain, List.singleton_append]
        have hle : 0x80 ≤ b := UInt8.not_lt.mp hb
        simp only [isPlain, decide_eq_true_eq]
        refine ⟨UInt8.le_trans (by decide) hle, ?_, ?_⟩
        all_goals
          rintro rfl
          exact absurd hle (by decide)
  obtain ⟨cs, rfl⟩ := h
  induction cs with
  | nil => exact utf8_nil
  | cons c cs ih =>
      rw [List.flatMap_cons, escapeText, List.flatMap_append]
      refine Utf8.append ?_ ih
      rcases ascii_or_high c with ⟨b, hb, hc⟩ | hall
      · rw [hc, List.flatMap_singleton]
        exact hescape b hb
      · rw [show (String.utf8EncodeChar c).flatMap escape = String.utf8EncodeChar c from hhigh hall]
        exact utf8_char c

/-! ## §5. Arrays and objects. -/

section Sequences

variable (percentG : BitVec 64 → CString)

/-- The values of an array behind the first one. -/
def moreValues : List JsonValue → List UInt8
  | [] => []
  | v :: array => 0x2C :: (jsonText percentG v ++ moreValues array)

/-- The entries of an object behind the first one. -/
def moreEntries : List (CString × JsonValue) → List UInt8
  | [] => []
  | (key, v) :: entries =>
      0x2C :: ((keyText key).bytes ++ (jsonText percentG v ++ moreEntries entries))

theorem arrayText_cons : ∀ (v : JsonValue) (array : List JsonValue),
    arrayText percentG (v :: array) = jsonText percentG v ++ moreValues percentG array
  | v, [] => by rw [arrayText, moreValues, List.append_nil]
  | v, v' :: array => by
      rw [arrayText, arrayText_cons v' array, moreValues]
      exact List.cons_ne_nil _ _

theorem membersText_cons : ∀ (key : CString) (v : JsonValue) (entries : List (CString × JsonValue)),
    membersText percentG ((key, v) :: entries)
      = (keyText key).bytes ++ (jsonText percentG v ++ moreEntries percentG entries)
  | key, v, [] => by rw [membersText, moreEntries, List.append_nil]
  | key, v, (key', v') :: entries => by
      rw [membersText, membersText_cons key' v' entries, moreEntries]
      exact List.cons_ne_nil _ _

theorem moreValues_ends (array : List JsonValue) (y : List UInt8) :
    Text.Ends (moreValues percentG array ++ 0x5D :: y) := by
  cases array with
  | nil => exact Text.ends_cons (by decide) _
  | cons v array => exact Text.ends_cons (by decide) _

theorem moreEntries_ends (entries : List (CString × JsonValue)) (y : List UInt8) :
    Text.Ends (moreEntries percentG entries ++ 0x7D :: y) := by
  cases entries with
  | nil => exact Text.ends_cons (by decide) _
  | cons e entries => exact Text.ends_cons (by decide) _

/-- `"key":` and what follows. -/
theorem keyText_append (key : CString) (x : List UInt8) :
    (keyText key).bytes ++ x = 0x22 :: (key.bytes ++ 0x22 :: 0x3A :: x) := by
  simp [keyText]

end Sequences

/-! ## §6. A text for the value. -/

theorem parses_values {array : List JsonValue}
    (h : ∀ v ∈ array, Parses (jsonText (percentG other) v) (toJson v)) :
    Utf8 (moreValues (percentG other) array) ∧ ∃ ts : List Text,
      Text.moreElements ts = moreValues (percentG other) array
        ∧ Text.denoteList ts = toJsonList array := by
  induction array with
  | nil => exact ⟨utf8_nil, [], by rw [Text.moreElements, moreValues], by
      rw [Text.denoteList, toJsonList]⟩
  | cons v array ih =>
      obtain ⟨⟨hutf8, t, hrender, hdenote⟩, hrest⟩ := List.forall_mem_cons.mp h
      obtain ⟨hmore, ts, htext, hlist⟩ := ih hrest
      refine ⟨(hutf8.append hmore).ascii_cons (by decide), t :: ts, ?_, ?_⟩
      · rw [Text.moreElements, moreValues, ← htext, ← hrender, Text.render_append]
      · rw [Text.denoteList, toJsonList, hdenote, hlist]

/-- An array without its brackets. -/
theorem parses_elements {array : List JsonValue}
    (h : ∀ v ∈ array, Parses (jsonText (percentG other) v) (toJson v)) :
    Utf8 (arrayText (percentG other) array) ∧ ∃ ts : List Text,
      Text.elementsText Ws.none ts = arrayText (percentG other) array
        ∧ Text.denoteList ts = toJsonList array := by
  cases array with
  | nil => exact ⟨utf8_nil, [], rfl, rfl⟩
  | cons v array =>
      obtain ⟨⟨hutf8, t, hrender, hdenote⟩, hrest⟩ := List.forall_mem_cons.mp h
      obtain ⟨hmore, ts, htext, hlist⟩ := parses_values hrest
      rw [arrayText_cons]
      refine ⟨hutf8.append hmore, t :: ts, ?_, ?_⟩
      · rw [← hrender, ← htext, Text.render_append, Text.elementsText]
      · rw [Text.denoteList, toJsonList, hdenote, hlist]

theorem utf8_keyText {key : CString} {x : List UInt8} (hkey : IsUtf8 key) (hx : Utf8 x) :
    Utf8 ((keyText key).bytes ++ x) := by
  rw [keyText_append]
  have hcolon := (hx.ascii_cons (x := 0x3A) (by decide)).ascii_cons (x := 0x22) (by decide)
  exact (hkey.append hcolon).ascii_cons (by decide)

/-- A key that needs no escape. -/
theorem exists_key {key : CString} (h : PlainKey key) : ∃ k : Key,
    stringDenote k.literal = key.bytes
      ∧ ∀ x, Text.keyText k ++ 0x3A :: x = (keyText key).bytes ++ x := by
  obtain ⟨ps, hbody, hname⟩ := exists_raw h
  refine ⟨⟨Ws.none, ps, Ws.none⟩, hname, fun x => ?_⟩
  rw [keyText_append, Text.keyText, stringText, hbody]
  simp [Ws.none]

theorem parses_entries {entries : List (CString × JsonValue)} (hutf8 : ∀ e ∈ entries, IsUtf8 e.1)
    (hplain : ∀ e ∈ entries, PlainKey e.1)
    (h : ∀ e ∈ entries, Parses (jsonText (percentG other) e.2) (toJson e.2)) :
    Utf8 (moreEntries (percentG other) entries) ∧ ∃ ms : List (Key × Text),
      Text.moreMembers ms = moreEntries (percentG other) entries
        ∧ Text.denoteMembers ms = toJsonMembers entries := by
  induction entries with
  | nil => exact ⟨utf8_nil, [], by rw [Text.moreMembers, moreEntries], by
      rw [Text.denoteMembers, toJsonMembers]⟩
  | cons e entries ih =>
      obtain ⟨key, v⟩ := e
      obtain ⟨⟨hvalue, t, hrender, hdenote⟩, hrest⟩ := List.forall_mem_cons.mp h
      obtain ⟨hkey, hkeys⟩ := List.forall_mem_cons.mp hutf8
      obtain ⟨hraw, hraws⟩ := List.forall_mem_cons.mp hplain
      obtain ⟨hmore, ms, htext, hmembers⟩ := ih hkeys hraws hrest
      obtain ⟨k, hname, hkeyText⟩ := exists_key hraw
      dsimp only at hrender hdenote
      refine ⟨?_, (k, t) :: ms, ?_, ?_⟩
      · rw [moreEntries]
        exact (utf8_keyText hkey (hvalue.append hmore)).ascii_cons (by decide)
      · rw [Text.moreMembers, moreEntries, ← htext, ← hrender, Text.render_append, hkeyText]
      · rw [Text.denoteMembers, toJsonMembers, hname, hdenote, hmembers]

/-- An object without its braces. -/
theorem parses_members {entries : List (CString × JsonValue)} (hutf8 : ∀ e ∈ entries, IsUtf8 e.1)
    (hplain : ∀ e ∈ entries, PlainKey e.1)
    (h : ∀ e ∈ entries, Parses (jsonText (percentG other) e.2) (toJson e.2)) :
    Utf8 (membersText (percentG other) entries) ∧ ∃ ms : List (Key × Text),
      Text.membersText Ws.none ms = membersText (percentG other) entries
        ∧ Text.denoteMembers ms = toJsonMembers entries := by
  cases entries with
  | nil => exact ⟨utf8_nil, [], rfl, rfl⟩
  | cons e entries =>
      obtain ⟨key, v⟩ := e
      obtain ⟨⟨hvalue, t, hrender, hdenote⟩, hrest⟩ := List.forall_mem_cons.mp h
      obtain ⟨hkey, hkeys⟩ := List.forall_mem_cons.mp hutf8
      obtain ⟨hraw, hraws⟩ := List.forall_mem_cons.mp hplain
      obtain ⟨hmore, ms, htext, hmembers⟩ := parses_entries hkeys hraws hrest
      obtain ⟨k, hname, hkeyText⟩ := exists_key hraw
      dsimp only at hrender hdenote
      rw [membersText_cons]
      refine ⟨utf8_keyText hkey (hvalue.append hmore), (k, t) :: ms, ?_, ?_⟩
      · rw [← hrender, ← htext, Text.render_append, ← hkeyText, Text.membersText]
      · rw [Text.denoteMembers, toJsonMembers, hname, hdenote, hmembers]

theorem isNumberByte_ascii {b : UInt8} (h : isNumberByte b = true) : b < 0x80 := by
  simp only [isNumberByte, isDigit, List.mem_cons, List.not_mem_nil, or_false,
    decide_eq_true_eq] at h
  rcases h with ⟨-, hle⟩ | rfl | rfl | rfl | rfl | rfl
  · exact UInt8.lt_of_le_of_lt hle (by decide)
  all_goals decide

variable (other) in
/-- **What is printed right** stands for the value. -/
theorem parses_jsonText {v : JsonValue} (hwell : WellFormed v) (hesc : Escapable v) :
    Parses (jsonText (percentG other) v) (toJson v) := by
  have hbracket : ∀ {t : List UInt8} {b c : UInt8}, b < 0x80 → c < 0x80 → Utf8 t →
      Utf8 (b :: t ++ [c]) := fun hb hc ht => (ht.ascii_cons hb).append (utf8_ascii hc)
  induction v with
  | kJsonNull =>
      refine ⟨?_, .null Ws.none Ws.none, rfl, rfl⟩
      rw [jsonText]
      exact utf8_of_all rfl
  | kJsonTrue =>
      refine ⟨?_, .bool Ws.none true Ws.none, rfl, rfl⟩
      rw [jsonText]
      exact utf8_of_all rfl
  | kJsonFalse =>
      refine ⟨?_, .bool Ws.none false Ws.none, rfl, rfl⟩
      rw [jsonText]
      exact utf8_of_all rfl
  | kJsonNumber x =>
      cases hwell with
      | kJsonNumber hint =>
      cases hesc with
      | kJsonNumber hsix =>
      obtain ⟨num, -, hrender, hvalue⟩ := percentG_number other hint
      rw [jsonText, ← hrender]
      refine ⟨utf8_of_ascii fun b hb => isNumberByte_ascii (num.render_numberBytes b hb),
        .number Ws.none num Ws.none, List.append_nil _, ?_⟩
      rw [Text.denote, toJson, hvalue.mpr hsix]
  | kJsonString s =>
      cases hwell with
      | kJsonString hutf8 =>
      cases hesc with
      | kJsonString hprintable =>
      obtain ⟨ps, hbody, hdenote⟩ := exists_pieces hprintable
      rw [jsonText]
      refine ⟨hbracket (by decide) (by decide) (utf8_escapeText hutf8), .string Ws.none ps Ws.none,
        ?_, ?_⟩
      · rw [← hbody]
        exact List.append_nil _
      · rw [Text.denote, toJson, hdenote]
  | kJsonArray vs ih =>
      cases hwell with
      | kJsonArray hwell =>
      cases hesc with
      | kJsonArray hesc =>
      obtain ⟨hutf8, ts, htext, hlist⟩ := parses_elements fun v hv => ih v hv (hwell v hv) (hesc v hv)
      rw [jsonText]
      refine ⟨hbracket (by decide) (by decide) hutf8, .array Ws.none Ws.none ts Ws.none, ?_, ?_⟩
      · rw [← htext, Text.render, Text.core]
        exact List.append_nil _
      · rw [Text.denote, toJson, hlist]
  | kJsonObject es ih =>
      cases hwell with
      | kJsonObject hkeys hwell =>
      cases hesc with
      | kJsonObject hplain hesc =>
      obtain ⟨hutf8, ms, htext, hmembers⟩ := parses_members hkeys hplain
        fun e he => ih e he (hwell e he) (hesc e he)
      rw [jsonText]
      refine ⟨hbracket (by decide) (by decide) hutf8, .object Ws.none Ws.none ms Ws.none, ?_, ?_⟩
      · rw [← htext, Text.render, Text.core]
        exact List.append_nil _
      · rw [Text.denote, toJson, hmembers]

/-! ## §7. The value out of a text. -/

/-- The white space in front of the value. -/
theorem core_of_render {t : Text} {x y : List UInt8} (hy : Stops isWs y) (h : t.render ++ x = y) :
    Text.core t ++ (t.after.bytes ++ x) = y := by
  rw [Text.render_append] at h
  exact Ws.eq_of_append (Text.core_stops_ws t _) hy h

theorem after_eq {w : Ws} {x x' : List UInt8} (hx : Text.Ends x) (hx' : Text.Ends x')
    (h : w.bytes ++ x = x') : x = x' :=
  Ws.eq_of_append hx.stops_ws hx'.stops_ws h

variable (other) in
/-- A text that denotes the value and is what is printed for it. -/
def ReadBack (v : JsonValue) : Prop := ∀ (t : Text) (x x' : List UInt8), Text.Ends x → Text.Ends x' →
  t.denote = toJson v → t.render ++ x = jsonText (percentG other) v ++ x' → Escapable v ∧ x = x'

/-- A leaf: the text is known, so what it denotes is known. -/
theorem readBack_of_text {v : JsonValue} (t₀ : Text)
    (hrender : t₀.render = jsonText (percentG other) v)
    (h : t₀.denote = toJson v → Escapable v) : ReadBack other v := by
  intro t x x' hx hx' hdenote heq
  rw [← hrender] at heq
  obtain ⟨hsame, hrest⟩ := Text.determined t t₀ x x' hx hx' heq
  exact ⟨h (hsame.symm.trans hdenote), hrest⟩

/-- The first value of an array, in front of others that are read back. -/
theorem readBack_firstValue {v : JsonValue} {array : List JsonValue} (hv : ReadBack other v)
    {t : Text} {ts : List Text} {y y' : List UInt8}
    (hdenote : Text.denoteList (t :: ts) = toJsonList (v :: array))
    (heq : t.render ++ (Text.moreElements ts ++ 0x5D :: y)
      = jsonText (percentG other) v ++ (moreValues (percentG other) array ++ 0x5D :: y'))
    (hrest : Text.denoteList ts = toJsonList array →
      Text.moreElements ts ++ 0x5D :: y = moreValues (percentG other) array ++ 0x5D :: y' →
      (∀ v ∈ array, Escapable v) ∧ y = y') :
    (∀ w ∈ v :: array, Escapable w) ∧ y = y' := by
  rw [Text.denoteList, toJsonList, List.cons.injEq] at hdenote
  obtain ⟨hesc, hmore⟩ := hv t _ _ (Text.moreElements_ends ts y) (moreValues_ends _ array y')
    hdenote.1 heq
  obtain ⟨hall, hend⟩ := hrest hdenote.2 hmore
  exact ⟨List.forall_mem_cons.mpr ⟨hesc, hall⟩, hend⟩

theorem readBack_values {array : List JsonValue} (h : ∀ v ∈ array, ReadBack other v)
    {ts : List Text} {y y' : List UInt8} (hdenote : Text.denoteList ts = toJsonList array)
    (heq : Text.moreElements ts ++ 0x5D :: y = moreValues (percentG other) array ++ 0x5D :: y') :
    (∀ v ∈ array, Escapable v) ∧ y = y' := by
  induction array generalizing ts with
  | nil =>
      cases ts with
      | nil => exact ⟨List.forall_mem_nil _, (List.cons.inj heq).2⟩
      | cons t ts =>
          rw [Text.denoteList, toJsonList] at hdenote
          cases hdenote
  | cons v array ih =>
      obtain ⟨hv, hrest⟩ := List.forall_mem_cons.mp h
      cases ts with
      | nil =>
          rw [Text.denoteList, toJsonList] at hdenote
          cases hdenote
      | cons t ts =>
          rw [Text.moreElements, moreValues, ← Text.render_append, List.cons_append, List.cons_append,
            List.cons.injEq, List.append_assoc, List.append_assoc] at heq
          exact readBack_firstValue hv hdenote heq.2 (ih hrest)

/-- **The values of an array**, up to the bracket. -/
theorem readBack_elements {array : List JsonValue} (h : ∀ v ∈ array, ReadBack other v)
    {w : Ws} {ts : List Text} {y y' : List UInt8} (hdenote : Text.denoteList ts = toJsonList array)
    (heq : Text.elementsText w ts ++ 0x5D :: y = arrayText (percentG other) array ++ 0x5D :: y') :
    (∀ v ∈ array, Escapable v) ∧ y = y' := by
  cases array with
  | nil =>
      cases ts with
      | nil =>
          have hclose : ∀ z, Stops isWs (0x5D :: z) := stops_cons (by decide)
          rw [Text.elementsText, arrayText] at heq
          exact ⟨List.forall_mem_nil _, (List.cons.inj (Ws.eq_of_append (hclose y) (hclose y') heq)).2⟩
      | cons t ts =>
          rw [Text.denoteList, toJsonList] at hdenote
          cases hdenote
  | cons v array =>
      obtain ⟨hv, hrest⟩ := List.forall_mem_cons.mp h
      cases ts with
      | nil =>
          rw [Text.denoteList, toJsonList] at hdenote
          cases hdenote
      | cons t ts =>
          rw [Text.elementsText, arrayText_cons, ← Text.render_append, List.append_assoc,
            List.append_assoc] at heq
          exact readBack_firstValue hv hdenote heq (readBack_values hrest)

/-- **A key**, up to its colon. -/
theorem readBack_key {k : Key} {key : CString} {x x' : List UInt8}
    (hname : stringDenote k.literal = key.bytes)
    (h : Text.keyText k ++ 0x3A :: x = (keyText key).bytes ++ x') : PlainKey key ∧ x = x' := by
  have hcolon : ∀ z, Stops isWs (0x3A :: z) := stops_cons (by decide)
  rw [keyText_append, Text.keyText, stringText, List.append_assoc, List.append_assoc,
    List.cons_append, List.append_assoc] at h
  have hstring := Ws.eq_of_append (stops_cons (by decide) _) (stops_cons (by decide) _) h
  rw [List.cons.injEq, ← hname] at hstring
  obtain ⟨hplain, hafter⟩ := raw_aligned hstring.2
  rw [hname] at hplain
  exact ⟨hplain, (List.cons.inj (Ws.eq_of_append (hcolon x) (hcolon x') hafter)).2⟩

/-- The first entry of an object, in front of others that are read back. -/
theorem readBack_firstEntry {e : CString × JsonValue} {entries : List (CString × JsonValue)}
    (hv : ReadBack other e.2) {m : Key × Text} {ms : List (Key × Text)} {y y' : List UInt8}
    (hdenote : Text.denoteMembers (m :: ms) = toJsonMembers (e :: entries))
    (heq : Text.keyText m.1 ++ 0x3A :: (m.2.render ++ (Text.moreMembers ms ++ 0x7D :: y))
      = (keyText e.1).bytes ++ (jsonText (percentG other) e.2
        ++ (moreEntries (percentG other) entries ++ 0x7D :: y')))
    (hrest : Text.denoteMembers ms = toJsonMembers entries →
      Text.moreMembers ms ++ 0x7D :: y = moreEntries (percentG other) entries ++ 0x7D :: y' →
      (∀ e ∈ entries, PlainKey e.1) ∧ (∀ e ∈ entries, Escapable e.2) ∧ y = y') :
    (∀ d ∈ e :: entries, PlainKey d.1) ∧ (∀ d ∈ e :: entries, Escapable d.2) ∧ y = y' := by
  obtain ⟨key, v⟩ := e
  obtain ⟨k, t⟩ := m
  rw [Text.denoteMembers, toJsonMembers, List.cons.injEq, Prod.mk.injEq] at hdenote
  obtain ⟨⟨hname, hvalue⟩, hmembers⟩ := hdenote
  obtain ⟨hplain, hcolon⟩ := readBack_key hname heq
  obtain ⟨hesc, hmore⟩ := hv t _ _ (Text.moreMembers_ends ms y) (moreEntries_ends _ entries y')
    hvalue hcolon
  obtain ⟨hkeys, hall, hend⟩ := hrest hmembers hmore
  exact ⟨List.forall_mem_cons.mpr ⟨hplain, hkeys⟩, List.forall_mem_cons.mpr ⟨hesc, hall⟩, hend⟩

theorem readBack_entries {entries : List (CString × JsonValue)}
    (h : ∀ e ∈ entries, ReadBack other e.2) {ms : List (Key × Text)} {y y' : List UInt8}
    (hdenote : Text.denoteMembers ms = toJsonMembers entries)
    (heq : Text.moreMembers ms ++ 0x7D :: y = moreEntries (percentG other) entries ++ 0x7D :: y') :
    (∀ e ∈ entries, PlainKey e.1) ∧ (∀ e ∈ entries, Escapable e.2) ∧ y = y' := by
  induction entries generalizing ms with
  | nil =>
      cases ms with
      | nil => exact ⟨List.forall_mem_nil _, List.forall_mem_nil _, (List.cons.inj heq).2⟩
      | cons m ms =>
          rw [Text.denoteMembers, toJsonMembers] at hdenote
          cases hdenote
  | cons e entries ih =>
      obtain ⟨hv, hrest⟩ := List.forall_mem_cons.mp h
      cases ms with
      | nil =>
          rw [Text.denoteMembers, toJsonMembers] at hdenote
          cases hdenote
      | cons m ms =>
          rw [Text.moreMembers, moreEntries, ← Text.render_append, List.cons_append, List.cons_append,
            List.cons.injEq] at heq
          simp only [List.append_assoc, List.cons_append] at heq
          exact readBack_firstEntry hv hdenote heq.2 (ih hrest)

/-- **The entries of an object**, up to the brace. -/
theorem readBack_members {entries : List (CString × JsonValue)}
    (h : ∀ e ∈ entries, ReadBack other e.2) {w : Ws} {ms : List (Key × Text)}
    {y y' : List UInt8} (hdenote : Text.denoteMembers ms = toJsonMembers entries)
    (heq : Text.membersText w ms ++ 0x7D :: y = membersText (percentG other) entries ++ 0x7D :: y') :
    (∀ e ∈ entries, PlainKey e.1) ∧ (∀ e ∈ entries, Escapable e.2) ∧ y = y' := by
  cases entries with
  | nil =>
      cases ms with
      | nil =>
          have hclose : ∀ z, Stops isWs (0x7D :: z) := stops_cons (by decide)
          rw [Text.membersText, membersText] at heq
          exact ⟨List.forall_mem_nil _, List.forall_mem_nil _,
            (List.cons.inj (Ws.eq_of_append (hclose y) (hclose y') heq)).2⟩
      | cons m ms =>
          rw [Text.denoteMembers, toJsonMembers] at hdenote
          cases hdenote
  | cons e entries =>
      obtain ⟨key, v⟩ := e
      obtain ⟨hv, hrest⟩ := List.forall_mem_cons.mp h
      cases ms with
      | nil =>
          rw [Text.denoteMembers, toJsonMembers] at hdenote
          cases hdenote
      | cons m ms =>
          rw [Text.membersText, membersText_cons, ← Text.render_append] at heq
          simp only [List.append_assoc, List.cons_append] at heq
          exact readBack_firstEntry hv hdenote heq (readBack_entries hrest)

variable (other) in
/-- **Only what is printed right** is read back. -/
theorem readBack {v : JsonValue} (hwell : WellFormed v) : ReadBack other v := by
  induction v with
  | kJsonNull => exact readBack_of_text (.null Ws.none Ws.none) rfl fun _ => .kJsonNull
  | kJsonTrue => exact readBack_of_text (.bool Ws.none true Ws.none) rfl fun _ => .kJsonTrue
  | kJsonFalse => exact readBack_of_text (.bool Ws.none false Ws.none) rfl fun _ => .kJsonFalse
  | kJsonNumber n =>
      cases hwell with
      | kJsonNumber hint =>
      obtain ⟨num, -, hrender, hvalue⟩ := percentG_number other hint
      refine readBack_of_text (.number Ws.none num Ws.none) ?_ fun hdenote => ?_
      · rw [jsonText, ← hrender]
        exact List.append_nil _
      · rw [Text.denote, toJson, Json.number.injEq] at hdenote
        exact .kJsonNumber (hvalue.mp hdenote)
  | kJsonString s =>
      intro t x x' hx hx' hdenote heq
      cases t with
      | string l ps r =>
          rw [Text.denote, toJson, Json.string.injEq] at hdenote
          rw [jsonText, List.cons_append, List.cons_append, List.append_assoc] at heq
          have hcore := core_of_render (stops_cons (by decide) _) heq
          rw [Text.core, stringText, List.cons_append, List.cons.injEq, List.append_assoc,
            ← hdenote] at hcore
          obtain ⟨hprintable, hafter⟩ := escapeText_aligned hcore.2
          rw [hdenote] at hprintable
          exact ⟨.kJsonString hprintable, after_eq hx hx' hafter⟩
      | _ =>
          rw [Text.denote, toJson] at hdenote
          cases hdenote
  | kJsonArray vs ih =>
      cases hwell with
      | kJsonArray hwell =>
      intro t x x' hx hx' hdenote heq
      cases t with
      | array l w ts r =>
          rw [Text.denote, toJson, Json.array.injEq] at hdenote
          rw [jsonText, List.cons_append, List.cons_append, List.append_assoc] at heq
          have hcore := core_of_render (stops_cons (by decide) _) heq
          rw [Text.core, List.cons_append, List.cons.injEq, List.append_assoc] at hcore
          obtain ⟨hall, hafter⟩ := readBack_elements (fun v hv => ih v hv (hwell v hv)) hdenote
            hcore.2
          exact ⟨.kJsonArray hall, after_eq hx hx' hafter⟩
      | _ =>
          rw [Text.denote, toJson] at hdenote
          cases hdenote
  | kJsonObject es ih =>
      cases hwell with
      | kJsonObject hkeys hwell =>
      intro t x x' hx hx' hdenote heq
      cases t with
      | object l w ms r =>
          rw [Text.denote, toJson, Json.object.injEq] at hdenote
          rw [jsonText, List.cons_append, List.cons_append, List.append_assoc] at heq
          have hcore := core_of_render (stops_cons (by decide) _) heq
          rw [Text.core, List.cons_append, List.cons.injEq, List.append_assoc] at hcore
          obtain ⟨hplain, hall, hafter⟩ := readBack_members (fun e he => ih e he (hwell e he)) hdenote
            hcore.2
          exact ⟨.kJsonObject hplain hall, after_eq hx hx' hafter⟩
      | _ =>
          rw [Text.denote, toJson] at hdenote
          cases hdenote

/-! ## §8. The writer. -/

/-- **The printed text stands for the value**, and for no other, if and only if the value is
    escapable. -/
theorem writer_denotes_iff (other : BitVec 64 → CString) {v : JsonValue} (hwell : WellFormed v) :
    ∃ text, Prints (platchWriteValueToBufferJson (percentG other) v) text
      ∧ ((Parses text (toJson v) ∧ ∀ j, Parses text j → j = toJson v) ↔ Escapable v) := by
  refine ⟨_, platchWriteValueToBufferJson_prints v, ?_⟩
  constructor
  · rintro ⟨⟨-, t, hrender, hdenote⟩, -⟩
    refine (readBack other hwell t [] [] Text.ends_nil Text.ends_nil hdenote ?_).1
    rw [List.append_nil, List.append_nil, hrender]
  · intro hesc
    have hparses := parses_jsonText other hwell hesc
    exact ⟨hparses, fun j hj => hj.unique hparses⟩

theorem isInteger_of_integer? {x : BitVec 64} {z : ℤ} (h : integer? x = some z) : IsInteger x := by
  obtain ⟨hfinite, hvalue⟩ := integer?_eq_some_iff.mp h
  exact ⟨hfinite, z, hvalue⟩

/-- A line break and a number of six digits, in an object. -/
theorem writer_denotes_iff_object :
    ∃ text, Prints (platchWriteValueToBufferJson (percentG fun _ => .ofLiteral "inf")
        (.kJsonObject [(.ofLiteral "text", .kJsonString (.ofLiteral "a\n")),
          (.ofLiteral "n", .kJsonNumber 0x40F86A0000000000#64)])) text
      ∧ ((Parses text (toJson (.kJsonObject [(.ofLiteral "text", .kJsonString (.ofLiteral "a\n")),
            (.ofLiteral "n", .kJsonNumber 0x40F86A0000000000#64)]))
          ∧ ∀ j, Parses text j → j = toJson (.kJsonObject
            [(.ofLiteral "text", .kJsonString (.ofLiteral "a\n")),
              (.ofLiteral "n", .kJsonNumber 0x40F86A0000000000#64)]))
        ↔ Escapable (.kJsonObject [(.ofLiteral "text", .kJsonString (.ofLiteral "a\n")),
            (.ofLiteral "n", .kJsonNumber 0x40F86A0000000000#64)])) := by
  refine writer_denotes_iff _ (.kJsonObject ?_ ?_)
  · exact List.forall_mem_cons.mpr ⟨utf8_of_all rfl, List.forall_mem_singleton.mpr (utf8_of_all rfl)⟩
  · refine List.forall_mem_cons.mpr ⟨.kJsonString (utf8_of_all rfl),
      List.forall_mem_singleton.mpr (.kJsonNumber ?_)⟩
    exact isInteger_of_integer? (z := 100000) (by decide)

/-- A quotation mark is printed as `\t`. -/
theorem quotation_mark_becomes_tab :
    WellFormed (.kJsonString (.ofLiteral "\"")) ∧ ∃ text,
      Prints (platchWriteValueToBufferJson (percentG fun _ => .ofLiteral "inf")
        (.kJsonString (.ofLiteral "\""))) text
      ∧ Parses text (.string [0x09])
      ∧ ¬ Parses text (toJson (.kJsonString (.ofLiteral "\""))) := by
  refine ⟨.kJsonString (utf8_of_all rfl), _, platchWriteValueToBufferJson_prints _, ?_⟩
  have htab : Parses (jsonText (percentG fun _ => .ofLiteral "inf")
      (.kJsonString (.ofLiteral "\""))) (.string [0x09]) := by
    refine ⟨?_, .string Ws.none [.escape 0x74 0x09 rfl] Ws.none, ?_, rfl⟩
    · rw [jsonText]
      exact utf8_of_all rfl
    · rw [jsonText]
      decide
  refine ⟨htab, fun hquote => ?_⟩
  have heq := htab.unique hquote
  rw [toJson, Json.string.injEq] at heq
  exact absurd heq (by decide)

end FlutterWlroots.PlatformChannel
