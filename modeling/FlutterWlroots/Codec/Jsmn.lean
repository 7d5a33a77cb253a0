/-
  FlutterWlroots.Codec.Jsmn — the JSON tokenizer (jsmn.h).

  Compiled without `JSMN_STRICT` and without `JSMN_PARENT_LINKS`, and called with a token array.  The
  text is what is left of it from `parser->pos` on, up to `len`; a NUL ends it as well.

    • `scanPrimitive`, `scanString` — how far a primitive or a string goes,
    • `parseByte`                   — one round of the loop of `jsmn_parse`,
    • `parseFrom`, `jsmnParse`      — the loop and the check behind it.

  The `tokens` of the parser are those allocated so far, so `toknext` is their number.  A string or a
  primitive moves `pos` over its bytes: the loop skips them.
-/
import Mathlib.Init

namespace FlutterWlroots.Jsmn

/-! ## §1. Tokens. -/

/-- `jsmntype_t`. -/
inductive TokenType where
  | JSMN_UNDEFINED
  | JSMN_OBJECT
  | JSMN_ARRAY
  | JSMN_STRING
  | JSMN_PRIMITIVE
  deriving DecidableEq, Repr

/-- `enum jsmnerr`. -/
inductive JsmnError where
  | JSMN_ERROR_NOMEM
  | JSMN_ERROR_INVAL
  | JSMN_ERROR_PART
  deriving DecidableEq, Repr

/-- `jsmntok_t`.  The `end` of an object or array that is still open is −1, here `none`. -/
structure Token where
  type : TokenType
  start : Nat
  stop : Option Nat
  size : Nat
  deriving DecidableEq, Repr

/-- `token->start != -1 && token->end == -1`; only objects and arrays are ever open. -/
def Token.isOpen (t : Token) : Bool := t.stop.isNone

/-- `jsmn_parser`, with the tokens; `toksuper` is −1 as `none`. -/
structure Parser where
  tokens : List Token
  toksuper : Option Nat
  deriving DecidableEq, Repr

/-- `jsmn_init`. -/
def jsmnInit : Parser := ⟨[], none⟩

/-- The index of the last open token: the loops from `toknext - 1` down. -/
def lastOpen : List Token → Option Nat
  | [] => none
  | t :: tokens =>
      match lastOpen tokens with
      | some i => some (i + 1)
      | none => if t.isOpen then some 0 else none

/-- `tokens[toksuper].size++`, if there is a superior token. -/
def countIn (toksuper : Option Nat) (tokens : List Token) : List Token :=
  match toksuper with
  | some i => tokens.modify i fun t => { t with size := t.size + 1 }
  | none => tokens

/-! ## §2. Strings and primitives. -/

/-- The bytes that end a primitive: `:`, white space, `,`, `]` and the closing brace. -/
def isDelimiter (c : UInt8) : Bool := c ∈ [0x3A, 0x09, 0x0D, 0x0A, 0x20, 0x2C, 0x5D, 0x7D]

/-- The loop of `jsmn_parse_primitive`: the number of bytes up to a delimiter or the end. -/
def scanPrimitive : List UInt8 → Except JsmnError Nat
  | [] => .ok 0
  | c :: js =>
      if c = 0 then .ok 0
      else if isDelimiter c then .ok 0
      else if c < 32 ∨ 127 ≤ c then .error .JSMN_ERROR_INVAL
      else (scanPrimitive js).map (· + 1)

def isHexDigit (c : UInt8) : Bool := (48 ≤ c ∧ c ≤ 57) ∨ (65 ≤ c ∧ c ≤ 70) ∨ (97 ≤ c ∧ c ≤ 102)

/-- The characters behind a backslash, apart from `u`. -/
def isSimpleEscape (c : UInt8) : Bool := c ∈ [0x22, 0x2F, 0x5C, 0x62, 0x66, 0x72, 0x6E, 0x74]

/-- The loop of `jsmn_parse_string`: the number of bytes up to the closing quote.  `hex` is how many
    digits of a `\uXXXX` may still come. -/
def scanString : (hex : Nat) → List UInt8 → Except JsmnError Nat
  | _, [] => .error .JSMN_ERROR_PART
  | hex + 1, c :: js =>
      if c = 0 then .error .JSMN_ERROR_PART
      else if isHexDigit c then (scanString hex js).map (· + 1)
      else .error .JSMN_ERROR_INVAL
  | 0, c :: js =>
      if c = 0 then .error .JSMN_ERROR_PART
      else if c = 0x22 then .ok 0
      else if c = 0x5C then
        match js with
        -- a backslash at the very end is no escape
        | [] => .error .JSMN_ERROR_PART
        | e :: js =>
            if isSimpleEscape e then (scanString 0 js).map (· + 2)
            else if e = 0x75 then (scanString 4 js).map (· + 2)
            else .error .JSMN_ERROR_INVAL
      else (scanString 0 js).map (· + 1)

/-! ## §3. `jsmn_parse`. -/

/-- `jsmn_alloc_token` and `jsmn_fill_token`. -/
def allocToken (num_tokens : Nat) (p : Parser) (t : Token) : Except JsmnError Parser :=
  if num_tokens ≤ p.tokens.length then .error .JSMN_ERROR_NOMEM
  else .ok { p with tokens := p.tokens ++ [t] }

/-- The cases of the opening bracket and brace. -/
def openToken (num_tokens : Nat) (type : TokenType) (pos : Nat) (p : Parser) :
    Except JsmnError Parser := do
  let p' ← allocToken num_tokens p ⟨type, pos, none, 0⟩
  return ⟨countIn p.toksuper p'.tokens, some p.tokens.length⟩

/-- The cases of the closing bracket and brace. -/
def closeToken (type : TokenType) (pos : Nat) (p : Parser) : Except JsmnError Parser :=
  match lastOpen p.tokens with
  | none => .error .JSMN_ERROR_INVAL
  | some i =>
      match p.tokens[i]? with
      | none => .error .JSMN_ERROR_INVAL
      | some t =>
          if t.type ≠ type then .error .JSMN_ERROR_INVAL
          else
            let tokens := p.tokens.set i { t with stop := some (pos + 1) }
            .ok ⟨tokens, lastOpen tokens⟩

/-- A string or a primitive. -/
def addLeaf (num_tokens : Nat) (type : TokenType) (start stop : Nat) (p : Parser) :
    Except JsmnError Parser := do
  let p' ← allocToken num_tokens p ⟨type, start, some stop, 0⟩
  return { p' with tokens := countIn p.toksuper p'.tokens }

/-- The `':'` case. -/
def colon (p : Parser) : Parser :=
  { p with toksuper := if p.tokens.length = 0 then none else some (p.tokens.length - 1) }

/-- The `','` case. -/
def comma (p : Parser) : Parser :=
  match p.toksuper with
  | none => p
  | some i =>
      match p.tokens[i]? with
      | none => p
      | some t =>
          if t.type ≠ .JSMN_ARRAY ∧ t.type ≠ .JSMN_OBJECT then
            match lastOpen p.tokens with
            | some i => { p with toksuper := some i }
            | none => p
          else p

/-- One round of the loop, for the byte `c` at `pos` and the text `js` behind it: the parser, and by
    how many bytes more `pos` is moved. -/
def parseByte (num_tokens : Nat) (c : UInt8) (js : List UInt8) (pos : Nat) (p : Parser) :
    Except JsmnError (Parser × Nat) :=
  if c = 0x7B then (openToken num_tokens .JSMN_OBJECT pos p).map (·, 0)
  else if c = 0x5B then (openToken num_tokens .JSMN_ARRAY pos p).map (·, 0)
  else if c = 0x7D then (closeToken .JSMN_OBJECT pos p).map (·, 0)
  else if c = 0x5D then (closeToken .JSMN_ARRAY pos p).map (·, 0)
  else if c = 0x22 then do
    let n ← scanString 0 js
    let p ← addLeaf num_tokens .JSMN_STRING (pos + 1) (pos + 1 + n) p
    return (p, n + 1)
  else if c ∈ [0x09, 0x0D, 0x0A, 0x20] then .ok (p, 0)
  else if c = 0x3A then .ok (colon p, 0)
  else if c = 0x2C then .ok (comma p, 0)
  else do
    let n ← scanPrimitive (c :: js)
    let p ← addLeaf num_tokens .JSMN_PRIMITIVE pos (pos + n) p
    return (p, n - 1)

/-- The loop of `jsmn_parse`; `skip` bytes have been read already. -/
def parseFrom (num_tokens : Nat) : List UInt8 → (skip pos : Nat) → Parser → Except JsmnError Parser
  | [], _, _, p => .ok p
  | _ :: js, skip + 1, pos, p => parseFrom num_tokens js skip (pos + 1) p
  | c :: js, 0, pos, p =>
      if c = 0 then .ok p
      else do
        let (p, skip) ← parseByte num_tokens c js pos p
        parseFrom num_tokens js skip (pos + 1) p

/-- `jsmn_parse`, after `jsmn_init`: the tokens, `count` of them. -/
def jsmnParse (js : List UInt8) (num_tokens : Nat) : Except JsmnError (List Token) := do
  let p ← parseFrom num_tokens js 0 0 jsmnInit
  if (lastOpen p.tokens).isSome then .error .JSMN_ERROR_PART else return p.tokens

end FlutterWlroots.Jsmn
