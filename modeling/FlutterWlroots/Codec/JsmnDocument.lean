/-
  FlutterWlroots.Codec.JsmnDocument — the tokens of a JSON document.

  For a text of the grammar the tokenizer has one token for each value and one for each key, in the
  order in which they begin (`documentTokens`): of a string what stands between the quotation marks, of
  an array or object the number of its members, and a key counts its value as a member.

    • `scanString_bodyText`, `scanPrimitive_append` — how far a leaf goes,
    • `TokensOf`                                    — what the loop does with the text of a value,
    • `tokensOf`                                    — that, for every value,
    • `jsmnParse_render`                            — the tokens of a document.
-/
import FlutterWlroots.Codec.JsmnTokens
import FlutterWlroots.Lib.Rfc8259Unique

namespace FlutterWlroots.Jsmn

open Lib.Rfc8259 Lib.StateRun

/-! ## §1. Tokens of a document. -/

/-- The type of a token, its text if it is a string or a primitive, and its size. -/
abbrev View := TokenType × List UInt8 × Nat

def Token.view (js : List UInt8) (t : Token) : View :=
  (t.type, (t.leaf.map (·.text js)).getD [], t.size)

mutual
/-- One token for each value and one for each key. -/
def documentTokens : Text → List View
  | .null _ _ => [(.JSMN_PRIMITIVE, [0x6E, 0x75, 0x6C, 0x6C], 0)]
  | .bool _ true _ => [(.JSMN_PRIMITIVE, [0x74, 0x72, 0x75, 0x65], 0)]
  | .bool _ false _ => [(.JSMN_PRIMITIVE, [0x66, 0x61, 0x6C, 0x73, 0x65], 0)]
  | .number _ n _ => [(.JSMN_PRIMITIVE, n.render, 0)]
  | .string _ s _ => [(.JSMN_STRING, bodyText s, 0)]
  | .array _ _ elements _ => (.JSMN_ARRAY, [], elements.length) :: elementTokens elements
  | .object _ _ members _ => (.JSMN_OBJECT, [], members.length) :: memberTokens members
def elementTokens : List Text → List View
  | [] => []
  | t :: ts => documentTokens t ++ elementTokens ts
def memberTokens : List (Key × Text) → List View
  | [] => []
  | (key, t) :: ms =>
      (.JSMN_STRING, bodyText key.literal, 1) :: (documentTokens t ++ memberTokens ms)
end

/-- The tokens are closed and look like this. -/
def Shows (js : List UInt8) (tokens : List Token) (views : List View) : Prop :=
  tokens.map (·.view js) = views ∧ ∀ t ∈ tokens, t.isOpen = false

theorem shows_nil (js : List UInt8) : Shows js [] [] := ⟨rfl, List.forall_mem_nil _⟩

theorem Shows.append {js : List UInt8} {a b : List Token} {va vb : List View} (ha : Shows js a va)
    (hb : Shows js b vb) : Shows js (a ++ b) (va ++ vb) := by
  refine ⟨?_, List.forall_mem_append.mpr ⟨ha.2, hb.2⟩⟩
  rw [List.map_append, ha.1, hb.1]

theorem Shows.length_eq {js : List UInt8} {a : List Token} {va : List View} (h : Shows js a va) :
    a.length = va.length := by
  rw [← h.1, List.length_map]

theorem shows_leaf {js a x : List UInt8} {pos size : Nat} {type : TokenType}
    (htype : type = .JSMN_STRING ∨ type = .JSMN_PRIMITIVE) (h : js.drop pos = a ++ x) :
    Shows js [⟨type, pos, some (pos + a.length), size⟩] [(type, a, size)] := by
  refine ⟨?_, List.forall_mem_singleton.mpr rfl⟩
  have htext : (js.drop pos).take (pos + a.length - pos) = a := by
    rw [h, Nat.add_sub_cancel_left, List.take_left]
  rcases htype with rfl | rfl
  all_goals
    rw [List.map_singleton, Token.view, Token.leaf, Option.map_some, Option.getD_some, Leaf.text, htext]

/-! ## §2. Leaves. -/

theorem drop_of_append {α : Type} {js a x : List α} {pos : Nat} (h : js.drop pos = a ++ x) :
    js.drop (pos + a.length) = x := by
  rw [← List.drop_drop, h, List.drop_left]

/-- The hexadecimal digits of an escape. -/
theorem scanString_hex : ∀ {hs : List UInt8} (x : List UInt8), (∀ b ∈ hs, isHex b = true) →
    scanString hs.length (hs ++ x) = (scanString 0 x).map (· + hs.length)
  | [], x, _ => by
      cases hscan : scanString 0 x with
      | error e => simp [hscan, Except.map]
      | ok n => simp [hscan, Except.map]
  | b :: hs, x, h => by
      obtain ⟨hb, hhs⟩ := List.forall_mem_cons.mp h
      have hne : b ≠ 0 := by
        rintro rfl
        exact absurd hb (by decide)
      rw [List.cons_append, List.length_cons, scanString, if_neg hne,
        if_pos (show isHexDigit b = true from hb), scanString_hex x hhs]
      cases scanString 0 x with
      | error e => rfl
      | ok n => rfl

theorem scanString_hex4 (h : Hex4) (x : List UInt8) :
    scanString 0 (0x5C :: 0x75 :: (h.bytes ++ x)) = (scanString 0 x).map (· + 6) := by
  have hdigits : scanString 4 (h.bytes ++ x) = (scanString 0 x).map (· + 4) :=
    scanString_hex x h.digits
  rw [scanString, if_neg (by decide), if_neg (by decide), if_pos rfl, if_neg (by decide), if_pos rfl,
    hdigits]
  cases scanString 0 x with
  | error e => rfl
  | ok n => rfl

/-- A character that is none of those with a meaning. -/
theorem scanString_char {b : UInt8} (hnul : b ≠ 0) (hquote : b ≠ 0x22) (hbackslash : b ≠ 0x5C)
    (x : List UInt8) : scanString 0 (b :: x) = (scanString 0 x).map (· + 1) := by
  rw [scanString.eq_def]
  dsimp only
  rw [if_neg hnul, if_neg hquote, if_neg hbackslash]

theorem scanString_piece (p : Piece) (x : List UInt8) :
    scanString 0 (p.render ++ x) = (scanString 0 x).map (· + p.render.length) := by
  cases p with
  | plain b hb =>
      have hne : ∀ c : UInt8, isPlain c = false → b ≠ c := by
        rintro c hc rfl
        rw [hb] at hc
        cases hc
      rw [Piece.render, List.singleton_append, scanString_char (hne 0 (by decide))
        (hne 0x22 (by decide)) (hne 0x5C (by decide))]
      rfl
  | escape letter meaning hm =>
      have hsimple : isSimpleEscape letter = true := by
        unfold escapeOf at hm
        split_ifs at hm <;> simp_all [isSimpleEscape]
      rw [Piece.render, List.cons_append, List.singleton_append, scanString, if_neg (by decide),
        if_neg (by decide), if_pos rfl, if_pos hsimple]
      rfl
  | unicode h hh =>
      rw [Piece.render, List.cons_append, List.cons_append, scanString_hex4]
      rfl
  | pair high low hh =>
      rw [Piece.pair_append, scanString_hex4, scanString_hex4]
      cases scanString 0 x with
      | error e => rfl
      | ok n => rfl

/-- **A string** goes to its closing quotation mark. -/
theorem scanString_bodyText : ∀ (s : List Piece) (x : List UInt8),
    scanString 0 (bodyText s ++ 0x22 :: x) = .ok (bodyText s).length
  | [], x => by
      rw [show bodyText [] = [] from rfl, List.nil_append, scanString.eq_def]
      rfl
  | p :: s, x => by
      rw [show bodyText (p :: s) = p.render ++ bodyText s from List.flatMap_cons, List.append_assoc,
        scanString_piece, scanString_bodyText s x, List.length_append, Nat.add_comm]
      rfl

/-- The bytes of a primitive. -/
def isWord (b : UInt8) : Bool := 32 ≤ b ∧ b < 127 ∧ ¬ isDelimiter b ∧ b ∉ [0x22, 0x5B, 0x7B]

/-- **A primitive** goes up to a delimiter. -/
theorem scanPrimitive_append : ∀ {a x : List UInt8}, (∀ b ∈ a, isWord b = true) →
    (∀ b, x.head? = some b → isDelimiter b = true) → scanPrimitive (a ++ x) = .ok a.length
  | [], [], _, _ => rfl
  | [], b :: x, _, hx => by
      rw [List.nil_append, scanPrimitive, if_pos (hx b rfl)]
      split
      · rfl
      · rfl
  | b :: a, x, ha, hx => by
      obtain ⟨hb, ha⟩ := List.forall_mem_cons.mp ha
      simp only [isWord, decide_eq_true_eq] at hb
      obtain ⟨hlow, hhigh, hdelim, -⟩ := hb
      have hne : b ≠ 0 := by
        rintro rfl
        exact absurd hlow (by decide)
      rw [List.cons_append, scanPrimitive, if_neg hne, if_neg hdelim,
        if_neg (not_or.mpr ⟨UInt8.not_lt.mpr hlow, UInt8.not_le.mpr hhigh⟩), scanPrimitive_append ha hx]
      rfl

theorem isWord_of_isNumberByte {b : UInt8} (h : isNumberByte b = true) : isWord b = true := by
  simp only [isNumberByte, isDigit, List.mem_cons, List.not_mem_nil, or_false,
    decide_eq_true_eq] at h
  have hne : ∀ c : UInt8, ¬ (0x30 ≤ c ∧ c ≤ 0x39) → 0x30 ≤ b ∧ b ≤ 0x39 → b ≠ c := by
    rintro c hc hb rfl
    exact hc hb
  rcases h with hb | rfl | rfl | rfl | rfl | rfl
  · simp only [isWord, isDelimiter, List.mem_cons, List.not_mem_nil, or_false, decide_eq_true_eq,
      not_or]
    refine ⟨UInt8.le_trans (by decide) hb.1, UInt8.lt_of_le_of_lt hb.2 (by decide), ?_, ?_⟩
    · exact ⟨hne _ (by decide) hb, hne _ (by decide) hb, hne _ (by decide) hb, hne _ (by decide) hb,
        hne _ (by decide) hb, hne _ (by decide) hb, hne _ (by decide) hb, hne _ (by decide) hb⟩
    · exact ⟨hne _ (by decide) hb, hne _ (by decide) hb, hne _ (by decide) hb⟩
  all_goals decide

/-! ## §3. The loop. -/

variable {num_tokens : Nat}

theorem parseFrom_skip : ∀ (a x : List UInt8) (pos : Nat) (p : Parser),
    parseFrom num_tokens (a ++ x) a.length pos p = parseFrom num_tokens x 0 (pos + a.length) p
  | [], _, _, _ => rfl
  | b :: a, x, pos, p => by
      rw [List.cons_append, List.length_cons, parseFrom, parseFrom_skip a x, Nat.add_right_comm,
        Nat.add_assoc]

/-- One round. -/
theorem parseFrom_cons {c : UInt8} {js : List UInt8} {pos skip : Nat} {p p' : Parser} (hc : c ≠ 0)
    (h : parseByte num_tokens c js pos p = .ok (p', skip)) :
    parseFrom num_tokens (c :: js) 0 pos p = parseFrom num_tokens js skip (pos + 1) p' := by
  rw [parseFrom, if_neg hc, h]
  rfl

theorem parseFrom_ws (w : Ws) (x : List UInt8) (pos : Nat) (p : Parser) :
    parseFrom num_tokens (w.bytes ++ x) 0 pos p
      = parseFrom num_tokens x 0 (pos + w.bytes.length) p := by
  obtain ⟨bytes, hblank⟩ := w
  dsimp only
  induction bytes generalizing pos with
  | nil => rfl
  | cons b bytes ih =>
      obtain ⟨hb, hbytes⟩ := List.forall_mem_cons.mp hblank
      have hround : b ≠ 0 ∧ parseByte num_tokens b (bytes ++ x) pos p = .ok (p, 0) := by
        simp only [isWs, List.mem_cons, List.not_mem_nil, or_false, decide_eq_true_eq] at hb
        rcases hb with rfl | rfl | rfl | rfl <;> exact ⟨by decide, rfl⟩
      rw [List.cons_append, parseFrom_cons hround.1 hround.2, ih _ hbytes, List.length_cons,
        Nat.add_assoc, Nat.add_comm 1]

theorem addLeaf_of_lt {type : TokenType} {start stop : Nat} {p : Parser}
    (h : p.tokens.length < num_tokens) : addLeaf num_tokens type start stop p
      = .ok ⟨countIn p.toksuper (p.tokens ++ [⟨type, start, some stop, 0⟩]), p.toksuper⟩ := by
  unfold addLeaf allocToken
  rw [if_neg (Nat.not_le.mpr h)]
  rfl

/-- **A primitive** becomes a token. -/
theorem parseFrom_primitive {a x : List UInt8} {pos : Nat} {p : Parser} (hne : a ≠ [])
    (ha : ∀ b ∈ a, isWord b = true) (hx : ∀ b, x.head? = some b → isDelimiter b = true)
    (hroom : p.tokens.length < num_tokens) :
    parseFrom num_tokens (a ++ x) 0 pos p = parseFrom num_tokens x 0 (pos + a.length)
      ⟨countIn p.toksuper (p.tokens ++ [⟨.JSMN_PRIMITIVE, pos, some (pos + a.length), 0⟩]),
        p.toksuper⟩ := by
  have hscan := scanPrimitive_append ha hx
  obtain ⟨b, a, rfl⟩ := List.exists_cons_of_ne_nil hne
  have hb := (List.forall_mem_cons.mp ha).1
  -- the byte is none of those with a case of their own
  have hcase : ∀ c : UInt8, isWord c = false → b ≠ c := by
    rintro c hc rfl
    rw [hb] at hc
    cases hc
  have hround : parseByte num_tokens b (a ++ x) pos p
      = .ok (⟨countIn p.toksuper (p.tokens ++ [⟨.JSMN_PRIMITIVE, pos, some (pos + (b :: a).length), 0⟩]),
        p.toksuper⟩, a.length) := by
    unfold parseByte
    rw [if_neg (hcase _ (by decide)), if_neg (hcase _ (by decide)), if_neg (hcase _ (by decide)),
      if_neg (hcase _ (by decide)), if_neg (hcase _ (by decide)), if_neg ?_,
      if_neg (hcase _ (by decide)), if_neg (hcase _ (by decide)), ← List.cons_append, hscan]
    · show (addLeaf _ _ _ _ _ >>= _) = _
      rw [addLeaf_of_lt hroom]
      rfl
    · simp only [List.mem_cons, List.not_mem_nil, or_false, not_or]
      exact ⟨hcase _ (by decide), hcase _ (by decide), hcase _ (by decide), hcase _ (by decide)⟩
  rw [List.cons_append, parseFrom_cons (hcase 0 (by decide)) hround, parseFrom_skip, List.length_cons,
    Nat.add_assoc, Nat.add_comm 1]

/-- **A string** becomes a token. -/
theorem parseFrom_string {s : List Piece} {x : List UInt8} {pos : Nat} {p : Parser}
    (hroom : p.tokens.length < num_tokens) :
    parseFrom num_tokens (stringText s ++ x) 0 pos p
      = parseFrom num_tokens x 0 (pos + (stringText s).length)
        ⟨countIn p.toksuper
          (p.tokens ++ [⟨.JSMN_STRING, pos + 1, some (pos + 1 + (bodyText s).length), 0⟩]),
          p.toksuper⟩ := by
  have hround : parseByte num_tokens 0x22 (bodyText s ++ 0x22 :: x) pos p
      = .ok (⟨countIn p.toksuper
          (p.tokens ++ [⟨.JSMN_STRING, pos + 1, some (pos + 1 + (bodyText s).length), 0⟩]),
          p.toksuper⟩, (bodyText s).length + 1) := by
    show (scanString 0 (bodyText s ++ 0x22 :: x) >>= _) = _
    rw [scanString_bodyText]
    show (addLeaf _ _ _ _ _ >>= _) = _
    rw [addLeaf_of_lt hroom]
    rfl
  have hlength : (bodyText s).length + 1 = (bodyText s ++ [0x22]).length := by
    rw [List.length_append, List.length_singleton]
  rw [stringText, List.cons_append, List.append_assoc, List.singleton_append,
    parseFrom_cons (by decide) hround, hlength, List.length_cons, ← List.singleton_append (l := x),
    ← List.append_assoc, parseFrom_skip, Nat.add_assoc, Nat.add_comm 1]

/-! ## §4. Open tokens. -/

theorem length_countIn (toksuper : Option Nat) (tokens : List Token) :
    (countIn toksuper tokens).length = tokens.length := by
  cases toksuper with
  | none => rfl
  | some i => exact List.length_modify _ _ _

/-- The token that is counted in is one of the first. -/
theorem countIn_append {toksuper : Option Nat} {a : List Token}
    (h : ∀ i, toksuper = some i → i < a.length) (b : List Token) :
    countIn toksuper (a ++ b) = countIn toksuper a ++ b := by
  cases toksuper with
  | none => rfl
  | some i =>
      have hi := h i rfl
      refine List.ext_getElem? fun j => ?_
      rw [countIn, countIn, List.getElem?_modify]
      rcases Nat.lt_or_ge j a.length with hlt | hge
      · rw [List.getElem?_append_left hlt, List.getElem?_append_left (by rwa [List.length_modify]),
          List.getElem?_modify]
      · rw [List.getElem?_append_right hge,
          List.getElem?_append_right (by rwa [List.length_modify]), List.length_modify]
        simp [show i ≠ j by omega]

theorem lastOpen_append : ∀ a b : List Token,
    lastOpen (a ++ b) = ((lastOpen b).map (· + a.length)).or (lastOpen a)
  | [], b => by
      cases h : lastOpen b with
      | none => simp [h, lastOpen]
      | some i => simp [h, lastOpen]
  | t :: a, b => by
      rw [List.cons_append, lastOpen, lastOpen_append a b]
      cases h : lastOpen b with
      | none => simp [lastOpen]
      | some i => simp [Nat.add_assoc]

theorem lastOpen_closed : ∀ {tokens : List Token}, (∀ t ∈ tokens, t.isOpen = false) →
    lastOpen tokens = none
  | [], _ => rfl
  | t :: tokens, h => by
      obtain ⟨ht, htokens⟩ := List.forall_mem_cons.mp h
      rw [lastOpen, lastOpen_closed htokens, ht]
      rfl

/-- Closed tokens behind do not matter. -/
theorem lastOpen_append_closed {a b : List Token} (hb : ∀ t ∈ b, t.isOpen = false) :
    lastOpen (a ++ b) = lastOpen a := by
  rw [lastOpen_append, lastOpen_closed hb]
  rfl

/-- **The open token** with only closed ones behind it. -/
theorem lastOpen_middle {a b : List Token} {t : Token} (ht : t.isOpen = true)
    (hb : ∀ t ∈ b, t.isOpen = false) : lastOpen (a ++ t :: b) = some a.length := by
  have hlast : lastOpen (t :: b) = some 0 := by
    rw [lastOpen, lastOpen_closed hb, ht]
    rfl
  rw [lastOpen_append, hlast]
  simp

theorem lastOpen_congr : ∀ {a b : List Token}, a.map Token.isOpen = b.map Token.isOpen →
    lastOpen a = lastOpen b
  | [], [], _ => rfl
  | t :: a, u :: b, h => by
      rw [List.map_cons, List.map_cons, List.cons.injEq] at h
      rw [lastOpen, lastOpen, lastOpen_congr h.2, h.1]

theorem lastOpen_countIn (toksuper : Option Nat) (tokens : List Token) :
    lastOpen (countIn toksuper tokens) = lastOpen tokens := by
  cases toksuper with
  | none => rfl
  | some i =>
      refine lastOpen_congr (List.ext_getElem? fun j => ?_)
      rw [countIn, List.getElem?_map, List.getElem?_map, List.getElem?_modify]
      cases tokens[j]? with
      | none => rfl
      | some t =>
          show some _ = some _
          split <;> rfl

theorem countIn_middle : ∀ (a b : List Token) (t : Token),
    countIn (some a.length) (a ++ t :: b) = a ++ { t with size := t.size + 1 } :: b
  | [], b, t => rfl
  | u :: a, b, t => by
      have ih := countIn_middle a b t
      rw [countIn] at ih ⊢
      rw [List.cons_append, List.length_cons, List.modify_succ_cons, ih]
      rfl

theorem getElem?_middle (a b : List Token) (t : Token) : (a ++ t :: b)[a.length]? = some t := by
  rw [List.getElem?_append_right (Nat.le_refl _), Nat.sub_self]
  rfl

/-! ## §5. Brackets, braces and commas. -/

/-- An opening and a closing byte for a type. -/
inductive Brackets : TokenType → UInt8 → UInt8 → Prop
  | array : Brackets .JSMN_ARRAY 0x5B 0x5D
  | object : Brackets .JSMN_OBJECT 0x7B 0x7D

theorem openToken_of_lt {type : TokenType} {pos : Nat} {p : Parser}
    (hroom : p.tokens.length < num_tokens) : openToken num_tokens type pos p
      = .ok ⟨countIn p.toksuper (p.tokens ++ [⟨type, pos, none, 0⟩]), some p.tokens.length⟩ := by
  unfold openToken allocToken
  rw [if_neg (Nat.not_le.mpr hroom)]
  rfl

/-- **An opening byte.** -/
theorem parseFrom_open {type : TokenType} {c d : UInt8} (hc : Brackets type c d) {x : List UInt8}
    {pos : Nat} {p : Parser} (hroom : p.tokens.length < num_tokens)
    (hsuper : ∀ i, p.toksuper = some i → i < p.tokens.length) :
    parseFrom num_tokens (c :: x) 0 pos p = parseFrom num_tokens x 0 (pos + 1)
      ⟨countIn p.toksuper p.tokens ++ [⟨type, pos, none, 0⟩],
        some (countIn p.toksuper p.tokens).length⟩ := by
  have hround : c ≠ 0 ∧ parseByte num_tokens c x pos p
      = .ok (⟨countIn p.toksuper p.tokens ++ [⟨type, pos, none, 0⟩],
        some (countIn p.toksuper p.tokens).length⟩, 0) := by
    rw [length_countIn, ← countIn_append hsuper]
    cases hc
    all_goals
      refine ⟨by decide, ?_⟩
      show (openToken _ _ _ _).map _ = _
      rw [openToken_of_lt hroom]
      rfl
  exact parseFrom_cons hround.1 hround.2

/-- **A closing byte**, for the token that is open. -/
theorem parseFrom_close {type : TokenType} {c d : UInt8} (hc : Brackets type c d) {x : List UInt8}
    {pos start n : Nat} {a b : List Token} {toksuper : Option Nat} (hb : ∀ t ∈ b, t.isOpen = false) :
    parseFrom num_tokens (d :: x) 0 pos ⟨a ++ ⟨type, start, none, n⟩ :: b, toksuper⟩
      = parseFrom num_tokens x 0 (pos + 1)
        ⟨a ++ ⟨type, start, some (pos + 1), n⟩ :: b, lastOpen a⟩ := by
  have hclose : closeToken type pos ⟨a ++ ⟨type, start, none, n⟩ :: b, toksuper⟩
      = .ok ⟨a ++ ⟨type, start, some (pos + 1), n⟩ :: b, lastOpen a⟩ := by
    unfold closeToken
    dsimp only
    rw [lastOpen_middle rfl hb]
    dsimp only
    rw [getElem?_middle]
    dsimp only
    rw [if_neg (not_not.mpr rfl), List.set_append_right _ _ (Nat.le_refl _), Nat.sub_self,
      List.set_cons_zero, lastOpen_append_closed (List.forall_mem_cons.mpr ⟨rfl, hb⟩)]
  have hround : d ≠ 0 ∧ parseByte num_tokens d x pos ⟨a ++ ⟨type, start, none, n⟩ :: b, toksuper⟩
      = .ok (⟨a ++ ⟨type, start, some (pos + 1), n⟩ :: b, lastOpen a⟩, 0) := by
    cases hc
    all_goals
      refine ⟨by decide, ?_⟩
      show (closeToken _ _ _).map _ = _
      rw [hclose]
      rfl
  exact parseFrom_cons hround.1 hround.2

/-- The superior token behind a member is the container, or the key of the member. -/
def Superior (tokens : List Token) (i : Nat) (toksuper : Option Nat) : Prop :=
  toksuper = some i ∨ ∃ j t, toksuper = some j ∧ tokens[j]? = some t ∧ t.type = .JSMN_STRING

/-- **A comma** goes back to the container. -/
theorem parseFrom_comma {type : TokenType} (hc : IsContainer type) {x : List UInt8}
    {pos start n : Nat} {a b : List Token} {toksuper : Option Nat} (hb : ∀ t ∈ b, t.isOpen = false)
    (hsuper : Superior (a ++ ⟨type, start, none, n⟩ :: b) a.length toksuper) :
    parseFrom num_tokens (0x2C :: x) 0 pos ⟨a ++ ⟨type, start, none, n⟩ :: b, toksuper⟩
      = parseFrom num_tokens x 0 (pos + 1) ⟨a ++ ⟨type, start, none, n⟩ :: b, some a.length⟩ := by
  have hcomma : comma ⟨a ++ ⟨type, start, none, n⟩ :: b, toksuper⟩
      = ⟨a ++ ⟨type, start, none, n⟩ :: b, some a.length⟩ := by
    unfold comma
    rcases hsuper with rfl | ⟨j, t, rfl, ht, htype⟩
    · dsimp only
      rw [getElem?_middle]
      dsimp only
      rw [if_neg]
      rintro ⟨harray, hobject⟩
      exact hc.elim hobject harray
    · dsimp only
      rw [ht]
      dsimp only
      rw [htype, if_pos (by decide), lastOpen_middle rfl hb]
  refine parseFrom_cons (by decide) ?_
  show Except.ok (comma _, 0) = _
  rw [hcomma]

/-! ## §6. Values. -/

variable {js : List UInt8}

variable (num_tokens js) in
/-- **The text of a value**: its tokens are added, one is counted in the superior token, which stays or
    goes back to the last open one. -/
def TokensOf (t : Text) : Prop := ∀ (rest : List UInt8) (pos : Nat) (p : Parser),
  js.drop pos = t.render ++ rest → Text.Ends rest →
    p.tokens.length + (documentTokens t).length ≤ num_tokens →
    (∀ i, p.toksuper = some i → i < p.tokens.length) →
    ∃ new toksuper, parseFrom num_tokens (t.render ++ rest) 0 pos p
        = parseFrom num_tokens rest 0 (pos + t.render.length)
          ⟨countIn p.toksuper p.tokens ++ new, toksuper⟩
      ∧ Shows js new (documentTokens t)
      ∧ (toksuper = p.toksuper ∨ toksuper = lastOpen p.tokens)

theorem ends_delimiter {w : Ws} {rest : List UInt8} (h : Text.Ends rest) :
    ∀ b, (w.bytes ++ rest).head? = some b → isDelimiter b = true := by
  have hws : ∀ b, isWs b = true → isDelimiter b = true := by
    intro b hb
    simp only [isWs, List.mem_cons, List.not_mem_nil, or_false, decide_eq_true_eq] at hb
    rcases hb with rfl | rfl | rfl | rfl <;> decide
  obtain ⟨bytes, hblank⟩ := w
  cases bytes with
  | nil =>
      intro b hb
      have hmem := h b hb
      simp only [List.mem_cons, List.not_mem_nil, or_false] at hmem
      rcases hmem with rfl | rfl | rfl <;> decide
  | cons c bytes =>
      intro b hb
      cases hb
      exact hws c (hblank c List.mem_cons_self)

/-- A value is one leaf between white space. -/
theorem tokensOf_leaf {t : Text} {type : TokenType} {a : List UInt8} (start : Nat)
    (htype : type = .JSMN_STRING ∨ type = .JSMN_PRIMITIVE)
    (hview : documentTokens t = [(type, a, 0)])
    (htext : ∀ (x : List UInt8) (pos : Nat), js.drop pos = Text.core t ++ x →
      ∃ y, js.drop (pos + start) = a ++ y)
    (hparse : ∀ (rest : List UInt8) (pos : Nat) (p : Parser), Text.Ends rest →
      p.tokens.length < num_tokens →
      parseFrom num_tokens (Text.core t ++ (t.after.bytes ++ rest)) 0 pos p
        = parseFrom num_tokens (t.after.bytes ++ rest) 0 (pos + (Text.core t).length)
          ⟨countIn p.toksuper
            (p.tokens ++ [⟨type, pos + start, some (pos + start + a.length), 0⟩]), p.toksuper⟩) :
    TokensOf num_tokens js t := by
  intro rest pos p hdrop hends hroom hsuper
  rw [hview, List.length_singleton] at hroom
  rw [Text.render_append] at hdrop
  obtain ⟨y, hy⟩ := htext _ _ (drop_of_append hdrop)
  refine ⟨[⟨type, pos + t.before.bytes.length + start,
    some (pos + t.before.bytes.length + start + a.length), 0⟩], p.toksuper, ?_, ?_, .inl rfl⟩
  · rw [Text.render_append, parseFrom_ws, hparse _ _ _ hends (by omega), parseFrom_ws,
      countIn_append hsuper, Text.render, List.length_append, List.length_append, ← Nat.add_assoc,
      ← Nat.add_assoc]
  · rw [hview]
    exact shows_leaf htype hy

/-- A primitive. -/
theorem tokensOf_primitive {t : Text} (hview : documentTokens t = [(.JSMN_PRIMITIVE, Text.core t, 0)])
    (hne : Text.core t ≠ []) (hword : ∀ b ∈ Text.core t, isWord b = true) :
    TokensOf num_tokens js t := by
  refine tokensOf_leaf 0 (.inr rfl) hview (fun x pos h => ⟨x, h⟩) ?_
  intro rest pos p hends hroom
  exact parseFrom_primitive hne hword (ends_delimiter hends) hroom

section Containers

variable (type : TokenType) (start : Nat) {n : Nat} {a b : List Token}

/-- **A member of a container.** -/
theorem TokensOf.member {t : Text} (h : TokensOf num_tokens js t) {rest : List UInt8} {pos : Nat}
    (hdrop : js.drop pos = t.render ++ rest) (hends : Text.Ends rest)
    (hb : ∀ t ∈ b, t.isOpen = false)
    (hroom : a.length + 1 + b.length + (documentTokens t).length ≤ num_tokens) :
    ∃ new, parseFrom num_tokens (t.render ++ rest) 0 pos ⟨a ++ ⟨type, start, none, n⟩ :: b, some a.length⟩
        = parseFrom num_tokens rest 0 (pos + t.render.length)
          ⟨a ++ ⟨type, start, none, n + 1⟩ :: (b ++ new), some a.length⟩
      ∧ Shows js new (documentTokens t) := by
  have hlength : (a ++ (⟨type, start, none, n⟩ : Token) :: b).length = a.length + 1 + b.length := by
    rw [List.length_append, List.length_cons]
    omega
  obtain ⟨new, toksuper, hparse, hshows, hsuper⟩ := h rest pos ⟨_, some a.length⟩ hdrop hends
    (by rwa [hlength]) (by
      rintro i hi
      cases hi
      rw [hlength]
      omega)
  refine ⟨new, ?_, hshows⟩
  have hlast : toksuper = some a.length := by
    rcases hsuper with hsuper | hsuper
    · exact hsuper
    · rw [hsuper, lastOpen_middle rfl hb]
  rw [hparse, hlast, countIn_middle, List.append_assoc]
  rfl

/-- The members of an array behind the first one, up to the bracket. -/
theorem parseFrom_moreElements : ∀ {ts : List Text} {b : List Token} {n pos : Nat} {rest : List UInt8},
    (∀ t ∈ ts, TokensOf num_tokens js t) → js.drop pos = Text.moreElements ts ++ 0x5D :: rest →
    (∀ t ∈ b, t.isOpen = false) → a.length + 1 + b.length + (elementTokens ts).length ≤ num_tokens →
    ∃ new stop, parseFrom num_tokens (Text.moreElements ts ++ 0x5D :: rest) 0 pos
        ⟨a ++ ⟨.JSMN_ARRAY, start, none, n⟩ :: b, some a.length⟩
      = parseFrom num_tokens rest 0 (pos + (Text.moreElements ts).length + 1)
        ⟨a ++ ⟨.JSMN_ARRAY, start, some stop, n + ts.length⟩ :: (b ++ new), lastOpen a⟩
      ∧ Shows js new (elementTokens ts)
  | [], b, n, pos, rest, _, _, hb, _ => by
      refine ⟨[], pos + 1, ?_, shows_nil js⟩
      rw [Text.moreElements, List.nil_append, parseFrom_close .array hb, List.append_nil]
      rfl
  | t :: ts, b, n, pos, rest, hall, hdrop, hb, hroom => by
      obtain ⟨ht, hts⟩ := List.forall_mem_cons.mp hall
      rw [elementTokens, List.length_append] at hroom
      rw [Text.moreElements, ← Text.render_append, List.cons_append, List.append_assoc] at hdrop
      have htail : js.drop (pos + 1) = t.render ++ (Text.moreElements ts ++ 0x5D :: rest) :=
        drop_of_append (a := [0x2C]) hdrop
      obtain ⟨new, hparse, hshows⟩ := ht.member .JSMN_ARRAY start (n := n) (a := a) htail
        (Text.moreElements_ends ts rest) hb (by omega)
      have hlength := hshows.length_eq
      obtain ⟨news, stop, hmore, hshow⟩ := parseFrom_moreElements (n := n + 1) (b := b ++ new) hts
        (drop_of_append htail) (List.forall_mem_append.mpr ⟨hb, hshows.2⟩) (by
          rw [List.length_append]
          omega)
      refine ⟨new ++ news, stop, ?_, ?_⟩
      · rw [Text.moreElements, ← Text.render_append, List.cons_append, List.append_assoc,
          parseFrom_comma (.inr rfl) hb (.inl rfl), hparse, hmore, List.append_assoc,
          List.length_cons, List.length_cons, List.length_append]
        congr 1
        · omega
        · rw [Nat.add_right_comm n, Nat.add_assoc n]
      · rw [elementTokens]
        exact hshows.append hshow

/-- **The elements of an array**, up to the bracket. -/
theorem parseFrom_elements {w : Ws} {ts : List Text} {pos : Nat} {rest : List UInt8}
    (hall : ∀ t ∈ ts, TokensOf num_tokens js t)
    (hdrop : js.drop pos = Text.elementsText w ts ++ 0x5D :: rest)
    (hroom : a.length + 1 + (elementTokens ts).length ≤ num_tokens) :
    ∃ new stop, parseFrom num_tokens (Text.elementsText w ts ++ 0x5D :: rest) 0 pos
        ⟨a ++ [⟨.JSMN_ARRAY, start, none, 0⟩], some a.length⟩
      = parseFrom num_tokens rest 0 (pos + (Text.elementsText w ts).length + 1)
        ⟨a ++ ⟨.JSMN_ARRAY, start, some stop, ts.length⟩ :: new, lastOpen a⟩
      ∧ Shows js new (elementTokens ts) := by
  cases ts with
  | nil =>
      refine ⟨[], pos + w.bytes.length + 1, ?_, shows_nil js⟩
      rw [Text.elementsText, parseFrom_ws, parseFrom_close .array (List.forall_mem_nil _)]
      rfl
  | cons t ts =>
      obtain ⟨ht, hts⟩ := List.forall_mem_cons.mp hall
      rw [elementTokens, List.length_append] at hroom
      rw [Text.elementsText, ← Text.render_append, List.append_assoc] at hdrop ⊢
      obtain ⟨new, hparse, hshows⟩ := ht.member .JSMN_ARRAY start (n := 0)
        (a := a) (b := []) hdrop (Text.moreElements_ends ts rest) (List.forall_mem_nil _) (by
          rw [List.length_nil]
          omega)
      have hlength := hshows.length_eq
      obtain ⟨news, stop, hmore, hshow⟩ := parseFrom_moreElements start (n := 1) (a := a)
        (b := new) hts (drop_of_append hdrop) hshows.2 (by omega)
      refine ⟨new ++ news, stop, ?_, ?_⟩
      · rw [hparse, List.nil_append, hmore, List.length_append, List.length_cons, Nat.add_comm 1,
          Nat.add_assoc pos]
      · rw [elementTokens]
        exact hshows.append hshow

theorem length_middle (a b : List Token) (t : Token) :
    (a ++ t :: b).length = a.length + 1 + b.length := by
  rw [List.length_append, List.length_cons]
  omega

/-- **A key** and its colon: it is counted in the object, and becomes the superior token. -/
theorem parseFrom_key {k : Key} {x : List UInt8} {pos : Nat}
    (hdrop : js.drop pos = Text.keyText k ++ 0x3A :: x)
    (hroom : a.length + 1 + b.length < num_tokens) :
    ∃ key : Token, parseFrom num_tokens (Text.keyText k ++ 0x3A :: x) 0 pos
          ⟨a ++ ⟨type, start, none, n⟩ :: b, some a.length⟩
        = parseFrom num_tokens x 0 (pos + (Text.keyText k).length + 1)
          ⟨(a ++ ⟨type, start, none, n + 1⟩ :: b) ++ [key], some (a.length + 1 + b.length)⟩
      ∧ key.type = .JSMN_STRING
      ∧ Shows js [{ key with size := key.size + 1 }] [(.JSMN_STRING, bodyText k.literal, 1)] := by
  rw [Text.keyText, List.append_assoc] at hdrop
  have hquote := drop_of_append hdrop
  rw [stringText, List.cons_append, List.cons_append, List.append_assoc, List.append_assoc] at hquote
  have hbody := drop_of_append (a := [0x22]) hquote
  refine ⟨⟨.JSMN_STRING, pos + k.before.bytes.length + 1,
    some (pos + k.before.bytes.length + 1 + (bodyText k.literal).length), 0⟩, ?_, rfl,
    shows_leaf (.inl rfl) hbody⟩
  rw [Text.keyText, List.append_assoc, List.append_assoc, parseFrom_ws,
    parseFrom_string (by rwa [length_middle]), parseFrom_ws]
  dsimp only
  rw [countIn_append (fun i hi => ?_), countIn_middle]
  · refine (parseFrom_cons (by decide) rfl).trans ?_
    rw [colon, if_neg (by simp), List.length_append, length_middle, List.length_singleton,
      Nat.add_sub_cancel, List.length_append, List.length_append, ← Nat.add_assoc, ← Nat.add_assoc]
  · cases hi
    rw [length_middle]
    omega

/-- **A member of an object**: behind it the key, or the object, is the superior token. -/
theorem TokensOf.keyed {t : Text} (h : TokensOf num_tokens js t) {k : Key} {rest : List UInt8}
    {pos : Nat} (hdrop : js.drop pos = Text.keyText k ++ 0x3A :: (t.render ++ rest))
    (hends : Text.Ends rest) (hb : ∀ t ∈ b, t.isOpen = false)
    (hroom : a.length + 1 + b.length + 1 + (documentTokens t).length ≤ num_tokens) :
    ∃ new toksuper, parseFrom num_tokens (Text.keyText k ++ 0x3A :: (t.render ++ rest)) 0 pos
          ⟨a ++ ⟨type, start, none, n⟩ :: b, some a.length⟩
        = parseFrom num_tokens rest 0 (pos + (Text.keyText k).length + 1 + t.render.length)
          ⟨a ++ ⟨type, start, none, n + 1⟩ :: (b ++ new), toksuper⟩
      ∧ Superior (a ++ ⟨type, start, none, n + 1⟩ :: (b ++ new)) a.length toksuper
      ∧ Shows js new ((.JSMN_STRING, bodyText k.literal, 1) :: documentTokens t) := by
  have hvalue : js.drop (pos + (Text.keyText k).length + 1) = t.render ++ rest :=
    drop_of_append (a := [0x3A]) (drop_of_append hdrop)
  obtain ⟨key, hkey, htype, hshow⟩ := parseFrom_key type start (n := n) (a := a)
    (b := b) hdrop (show a.length + 1 + b.length < num_tokens by omega)
  have hclosed : key.isOpen = false :=
    hshow.2 { key with size := key.size + 1 } (List.mem_singleton_self _)
  have hopen : (⟨type, start, none, n + 1⟩ : Token).isOpen = true := rfl
  generalize (⟨type, start, none, n + 1⟩ : Token) = container at hkey hopen ⊢
  have hlength : (a ++ container :: b ++ [key]).length = a.length + 1 + b.length + 1 := by
    rw [List.length_append, length_middle, List.length_singleton]
  obtain ⟨new, toksuper, hparse, hshows, hsuper⟩ := h rest _ ⟨_, some (a.length + 1 + b.length)⟩ hvalue
    hends (by rwa [hlength]) (by
      rintro i hi
      cases hi
      rw [hlength]
      exact Nat.lt_succ_self _)
  have hcount := countIn_middle (a ++ container :: b) [] key
  rw [length_middle] at hcount
  dsimp only at hparse hsuper
  rw [hcount] at hparse
  have hsplit : a ++ container :: (b ++ { key with size := key.size + 1 } :: new)
      = a ++ container :: b ++ { key with size := key.size + 1 } :: new := by
    rw [List.append_assoc, List.cons_append]
  refine ⟨{ key with size := key.size + 1 } :: new, toksuper, ?_, ?_, hshow.append hshows⟩
  · rw [hkey, hparse, hsplit, List.append_assoc (a ++ container :: b), List.singleton_append]
  · rcases hsuper with hsuper | hsuper
    · refine .inr ⟨_, { key with size := key.size + 1 }, hsuper, ?_, htype⟩
      rw [hsplit, ← length_middle a b container]
      exact getElem?_middle _ _ _
    · refine .inl (hsuper.trans ?_)
      rw [lastOpen_append_closed (List.forall_mem_singleton.mpr hclosed), lastOpen_middle hopen hb]

/-- The members of an object behind the first one, up to the brace. -/
theorem parseFrom_moreMembers : ∀ {ms : List (Key × Text)} {b : List Token} {n pos : Nat}
    {rest : List UInt8} {toksuper : Option Nat}, (∀ m ∈ ms, TokensOf num_tokens js m.2) →
    js.drop pos = Text.moreMembers ms ++ 0x7D :: rest → (∀ t ∈ b, t.isOpen = false) →
    Superior (a ++ ⟨.JSMN_OBJECT, start, none, n⟩ :: b) a.length toksuper →
    a.length + 1 + b.length + (memberTokens ms).length ≤ num_tokens →
    ∃ new stop, parseFrom num_tokens (Text.moreMembers ms ++ 0x7D :: rest) 0 pos
        ⟨a ++ ⟨.JSMN_OBJECT, start, none, n⟩ :: b, toksuper⟩
      = parseFrom num_tokens rest 0 (pos + (Text.moreMembers ms).length + 1)
        ⟨a ++ ⟨.JSMN_OBJECT, start, some stop, n + ms.length⟩ :: (b ++ new), lastOpen a⟩
      ∧ Shows js new (memberTokens ms)
  | [], b, n, pos, rest, _, _, _, hb, _, _ => by
      refine ⟨[], pos + 1, ?_, shows_nil js⟩
      rw [Text.moreMembers, List.nil_append, parseFrom_close .object hb, List.append_nil]
      rfl
  | (k, t) :: ms, b, n, pos, rest, toksuper, hall, hdrop, hb, hsuper, hroom => by
      obtain ⟨ht, hms⟩ := List.forall_mem_cons.mp hall
      dsimp only at ht
      rw [memberTokens, List.length_cons, List.length_append] at hroom
      have htext : Text.moreMembers ((k, t) :: ms) ++ 0x7D :: rest
          = 0x2C :: (Text.keyText k ++ 0x3A :: (t.render ++ (Text.moreMembers ms ++ 0x7D :: rest))) := by
        rw [Text.moreMembers, ← Text.render_append]
        simp only [List.cons_append, List.append_assoc]
      have hlength : (Text.moreMembers ((k, t) :: ms)).length
          = 1 + (Text.keyText k).length + 1 + t.render.length + (Text.moreMembers ms).length := by
        rw [Text.moreMembers, ← Text.render_append]
        simp only [List.length_cons, List.length_append]
        omega
      rw [htext] at hdrop
      have htail : js.drop (pos + 1)
          = Text.keyText k ++ 0x3A :: (t.render ++ (Text.moreMembers ms ++ 0x7D :: rest)) :=
        drop_of_append (a := [0x2C]) hdrop
      obtain ⟨new, toksuper', hparse, hsuper', hshows⟩ := TokensOf.keyed .JSMN_OBJECT start (n := n) (a := a) ht htail
        (Text.moreMembers_ends ms rest) hb (by omega)
      have hnew := hshows.length_eq
      rw [List.length_cons] at hnew
      have hvalue : js.drop (pos + 1 + (Text.keyText k).length + 1 + t.render.length)
          = Text.moreMembers ms ++ 0x7D :: rest :=
        drop_of_append (drop_of_append (a := [0x3A]) (drop_of_append htail))
      obtain ⟨news, stop, hmore, hshow⟩ := parseFrom_moreMembers (n := n + 1) (b := b ++ new) hms
        hvalue (List.forall_mem_append.mpr ⟨hb, hshows.2⟩) hsuper' (by
          rw [List.length_append]
          omega)
      refine ⟨new ++ news, stop, ?_, ?_⟩
      · rw [htext, parseFrom_comma (.inl rfl) hb hsuper, hparse, hmore, List.append_assoc,
          List.length_cons, hlength]
        congr 1
        · omega
        · rw [Nat.add_right_comm n, Nat.add_assoc n]
      · rw [memberTokens, ← List.cons_append]
        exact hshows.append hshow

/-- **The members of an object**, up to the brace. -/
theorem parseFrom_members {w : Ws} {ms : List (Key × Text)} {pos : Nat} {rest : List UInt8}
    (hall : ∀ m ∈ ms, TokensOf num_tokens js m.2)
    (hdrop : js.drop pos = Text.membersText w ms ++ 0x7D :: rest)
    (hroom : a.length + 1 + (memberTokens ms).length ≤ num_tokens) :
    ∃ new stop, parseFrom num_tokens (Text.membersText w ms ++ 0x7D :: rest) 0 pos
        ⟨a ++ [⟨.JSMN_OBJECT, start, none, 0⟩], some a.length⟩
      = parseFrom num_tokens rest 0 (pos + (Text.membersText w ms).length + 1)
        ⟨a ++ ⟨.JSMN_OBJECT, start, some stop, ms.length⟩ :: new, lastOpen a⟩
      ∧ Shows js new (memberTokens ms) := by
  cases ms with
  | nil =>
      refine ⟨[], pos + w.bytes.length + 1, ?_, shows_nil js⟩
      rw [Text.membersText, parseFrom_ws, parseFrom_close .object (List.forall_mem_nil _)]
      rfl
  | cons m ms =>
      obtain ⟨k, t⟩ := m
      obtain ⟨ht, hms⟩ := List.forall_mem_cons.mp hall
      dsimp only at ht
      rw [memberTokens, List.length_cons, List.length_append] at hroom
      have htext : Text.membersText w ((k, t) :: ms) ++ 0x7D :: rest
          = Text.keyText k ++ 0x3A :: (t.render ++ (Text.moreMembers ms ++ 0x7D :: rest)) := by
        rw [Text.membersText, ← Text.render_append]
        simp only [List.cons_append, List.append_assoc]
      have hlength : (Text.membersText w ((k, t) :: ms)).length
          = (Text.keyText k).length + 1 + t.render.length + (Text.moreMembers ms).length := by
        rw [Text.membersText, ← Text.render_append]
        simp only [List.length_cons, List.length_append]
        omega
      rw [htext] at hdrop ⊢
      obtain ⟨new, toksuper, hparse, hsuper, hshows⟩ := TokensOf.keyed .JSMN_OBJECT start (n := 0)
        (a := a) (b := []) ht hdrop (Text.moreMembers_ends ms rest)
        (List.forall_mem_nil _) (by
          rw [List.length_nil]
          omega)
      have hnew := hshows.length_eq
      rw [List.length_cons] at hnew
      have hvalue : js.drop (pos + (Text.keyText k).length + 1 + t.render.length)
          = Text.moreMembers ms ++ 0x7D :: rest :=
        drop_of_append (drop_of_append (a := [0x3A]) (drop_of_append hdrop))
      obtain ⟨news, stop, hmore, hshow⟩ := parseFrom_moreMembers start (n := 1) (a := a)
        (b := new) hms hvalue hshows.2 hsuper (by omega)
      refine ⟨new ++ news, stop, ?_, ?_⟩
      · rw [hparse, List.nil_append, hmore, List.length_cons, hlength, Nat.add_comm 1]
        congr 1
        omega
      · rw [memberTokens, ← List.cons_append]
        exact hshows.append hshow

end Containers

/-! ## §7. Documents. -/

/-- A container between white space. -/
theorem tokensOf_container {t : Text} {type : TokenType} {c d : UInt8} (hc : Brackets type c d)
    {inner : List UInt8} {views : List View} {n : Nat} (hcore : Text.core t = c :: (inner ++ [d]))
    (hview : documentTokens t = (type, [], n) :: views)
    (hinner : ∀ (a : List Token) (start pos : Nat) (rest : List UInt8),
      js.drop pos = inner ++ d :: rest → a.length + 1 + views.length ≤ num_tokens →
      ∃ new stop, parseFrom num_tokens (inner ++ d :: rest) 0 pos
          ⟨a ++ [⟨type, start, none, 0⟩], some a.length⟩
        = parseFrom num_tokens rest 0 (pos + inner.length + 1)
          ⟨a ++ ⟨type, start, some stop, n⟩ :: new, lastOpen a⟩
        ∧ Shows js new views) : TokensOf num_tokens js t := by
  intro rest pos p hdrop hends hroom hsuper
  rw [hview, List.length_cons] at hroom
  have htext : t.render ++ rest
      = t.before.bytes ++ c :: (inner ++ d :: (t.after.bytes ++ rest)) := by
    rw [Text.render_append, hcore]
    simp only [List.cons_append, List.append_assoc, List.nil_append]
  have hlength : t.render.length = t.before.bytes.length + 1 + inner.length + 1
      + t.after.bytes.length := by
    rw [Text.render, hcore]
    simp only [List.length_cons, List.length_append, List.length_nil]
    omega
  rw [htext] at hdrop
  have hdropInner : js.drop (pos + t.before.bytes.length + 1)
      = inner ++ d :: (t.after.bytes ++ rest) :=
    drop_of_append (a := [c]) (drop_of_append hdrop)
  obtain ⟨new, stop, hparse, hshows⟩ := hinner (countIn p.toksuper p.tokens)
    (pos + t.before.bytes.length) _ _ hdropInner (by
      rw [length_countIn]
      omega)
  refine ⟨⟨type, pos + t.before.bytes.length, some stop, n⟩ :: new, lastOpen p.tokens, ?_, ?_, .inr rfl⟩
  · rw [htext, parseFrom_ws, parseFrom_open hc (by omega) hsuper, hparse, parseFrom_ws,
      lastOpen_countIn, hlength]
    congr 1
    omega
  · refine ⟨?_, List.forall_mem_cons.mpr ⟨rfl, hshows.2⟩⟩
    rw [List.map_cons, hshows.1, hview]
    cases hc <;> rfl

variable (num_tokens js) in
/-- **The tokens of every value.** -/
theorem tokensOf (t : Text) : TokensOf num_tokens js t := by
  induction t using Text.induct with
  | null l r => exact tokensOf_primitive rfl (List.cons_ne_nil _ _) (List.all_eq_true.mp rfl)
  | bool l b r =>
      cases b
      · exact tokensOf_primitive rfl (List.cons_ne_nil _ _) (List.all_eq_true.mp rfl)
      · exact tokensOf_primitive rfl (List.cons_ne_nil _ _) (List.all_eq_true.mp rfl)
  | number l n r =>
      obtain ⟨b, y, hcore, -⟩ := Text.core_head (.number l n r)
      refine tokensOf_primitive rfl ?_ fun b hb => isWord_of_isNumberByte (n.render_numberBytes b hb)
      rw [hcore]
      exact List.cons_ne_nil _ _
  | string l s r =>
      refine tokensOf_leaf 1 (.inl rfl) rfl (fun x pos h => ?_) ?_
      · rw [Text.core, stringText, List.cons_append, List.append_assoc] at h
        exact ⟨_, drop_of_append (a := [0x22]) h⟩
      · intro rest pos p hends hroom
        exact parseFrom_string hroom
  | array l w ts r ih =>
      exact tokensOf_container .array (by rw [Text.core]) (by rw [documentTokens])
        fun a start pos rest hdrop hroom => parseFrom_elements start ih hdrop hroom
  | object l w ms r ih =>
      exact tokensOf_container .object (by rw [Text.core]) (by rw [documentTokens])
        fun a start pos rest hdrop hroom => parseFrom_members start ih hdrop hroom

/-- **The tokens of a document**, if there is room for them. -/
theorem jsmnParse_render {t : Text} (hroom : (documentTokens t).length ≤ num_tokens) :
    ∃ tokens, jsmnParse t.render num_tokens = .ok tokens
      ∧ tokens.map (·.view t.render) = documentTokens t := by
  obtain ⟨new, toksuper, hparse, hshows, -⟩ := tokensOf num_tokens t.render t [] 0 jsmnInit
    (by rw [List.drop_zero, List.append_nil]) Text.ends_nil
    (by rw [jsmnInit, List.length_nil, Nat.zero_add]; exact hroom) nofun
  rw [List.append_nil] at hparse
  refine ⟨new, ?_, hshows.1⟩
  have hdone : parseFrom num_tokens t.render 0 0 jsmnInit = .ok ⟨new, toksuper⟩ := hparse
  unfold jsmnParse
  rw [hdone]
  show (if (lastOpen new).isSome then _ else _) = _
  rw [lastOpen_closed hshows.2]
  rfl

end FlutterWlroots.Jsmn
