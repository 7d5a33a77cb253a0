/-
  FlutterWlroots.Lib.Rfc8259 — the grammar of JSON texts and what they denote.

  A `Text` is a syntax tree of the grammar of RFC 8259, down to the white space, the escapes of a string
  and the digits of a number; what the grammar excludes cannot be built.  `Text.render` is the text
  itself, byte by byte, and `Text.denote` the value that it stands for: strings in UTF-8 with their
  escapes replaced, numbers as rational numbers, the members of objects in order.

  A surrogate in a `\uXXXX` escape stands for something only as the first or second half of a pair.
-/
import Mathlib.Algebra.Order.Field.Rat
import FlutterWlroots.Lib.Utf8

namespace Lib.Rfc8259

open String (utf8EncodeChar)

/-! ## §1. Values. -/

inductive Json where
  | null
  | bool (b : Bool)
  | number (q : ℚ)
  | string (s : List UInt8)
  | array (vs : List Json)
  | object (members : List (List UInt8 × Json))

/-! ## §2. White space. -/

/-- Space, tab, line feed and carriage return. -/
def isWs (b : UInt8) : Bool := b ∈ [0x20, 0x09, 0x0A, 0x0D]

structure Ws where
  bytes : List UInt8
  blank : ∀ b ∈ bytes, isWs b = true

def Ws.none : Ws := ⟨[], nofun⟩

/-! ## §3. Strings. -/

/-- The bytes that may stand in a string as they are. -/
def isPlain (b : UInt8) : Bool := 0x20 ≤ b ∧ b ≠ 0x22 ∧ b ≠ 0x5C

/-- What a backslash and this letter stand for. -/
def escapeOf (letter : UInt8) : Option UInt8 :=
  if letter = 0x22 then some 0x22
  else if letter = 0x5C then some 0x5C
  else if letter = 0x2F then some 0x2F
  else if letter = 0x62 then some 0x08
  else if letter = 0x66 then some 0x0C
  else if letter = 0x6E then some 0x0A
  else if letter = 0x72 then some 0x0D
  else if letter = 0x74 then some 0x09
  else none

def isHex (b : UInt8) : Bool := (0x30 ≤ b ∧ b ≤ 0x39) ∨ (0x41 ≤ b ∧ b ≤ 0x46) ∨ (0x61 ≤ b ∧ b ≤ 0x66)

def hexDigit (b : UInt8) : Nat :=
  if b ≤ 0x39 then b.toNat - 0x30 else if b ≤ 0x46 then b.toNat - 0x37 else b.toNat - 0x57

/-- Four hexadecimal digits. -/
structure Hex4 where
  a : UInt8
  b : UInt8
  c : UInt8
  d : UInt8
  digits : ∀ x ∈ [a, b, c, d], isHex x = true

def Hex4.bytes (x : Hex4) : List UInt8 := [x.a, x.b, x.c, x.d]

def Hex4.value (x : Hex4) : Nat :=
  4096 * hexDigit x.a + 256 * hexDigit x.b + 16 * hexDigit x.c + hexDigit x.d

def isHigh (n : Nat) : Bool := 0xD800 ≤ n ∧ n < 0xDC00

def isLow (n : Nat) : Bool := 0xDC00 ≤ n ∧ n < 0xE000

/-- A character of a string; bytes that are no ASCII characters are one piece each. -/
inductive Piece where
  | plain (b : UInt8) (h : isPlain b = true)
  | escape (letter meaning : UInt8) (h : escapeOf letter = some meaning)
  | unicode (x : Hex4) (h : isHigh x.value = false ∧ isLow x.value = false)
  | pair (high low : Hex4) (h : isHigh high.value = true ∧ isLow low.value = true)

def Piece.render : Piece → List UInt8
  | .plain b _ => [b]
  | .escape letter _ _ => [0x5C, letter]
  | .unicode x _ => 0x5C :: 0x75 :: x.bytes
  | .pair high low _ => 0x5C :: 0x75 :: (high.bytes ++ 0x5C :: 0x75 :: low.bytes)

def Piece.denote : Piece → List UInt8
  | .plain b _ => [b]
  | .escape _ meaning _ => [meaning]
  | .unicode x _ => utf8EncodeChar (Char.ofNat x.value)
  | .pair high low _ =>
      utf8EncodeChar (Char.ofNat (0x10000 + 0x400 * (high.value - 0xD800) + (low.value - 0xDC00)))

/-- What stands between the quotation marks. -/
def bodyText (s : List Piece) : List UInt8 := s.flatMap Piece.render

def stringDenote (s : List Piece) : List UInt8 := s.flatMap Piece.denote

def stringText (s : List Piece) : List UInt8 := 0x22 :: (bodyText s ++ [0x22])

/-! ## §4. Numbers. -/

def isDigit (b : UInt8) : Bool := 0x30 ≤ b ∧ b ≤ 0x39

structure Digits where
  bytes : List UInt8
  nonempty : bytes ≠ []
  digits : ∀ b ∈ bytes, isDigit b = true

/-- Digits as a number. -/
def natOf (bytes : List UInt8) : Nat := bytes.foldl (fun n b => 10 * n + (b.toNat - 0x30)) 0

structure Exponent where
  /-- `E` instead of `e`. -/
  upper : Bool
  /-- `+` or `-`. -/
  sign : Option Bool
  digits : Digits

structure Number where
  negative : Bool
  int : Digits
  noLeadingZero : int.bytes = [0x30] ∨ int.bytes.head? ≠ some 0x30
  frac : Option Digits
  exp : Option Exponent

def Exponent.render (e : Exponent) : List UInt8 :=
  (if e.upper then 0x45 else 0x65) ::
    ((match e.sign with
      | none => []
      | some true => [0x2D]
      | some false => [0x2B]) ++ e.digits.bytes)

def Exponent.value (e : Exponent) : ℤ :=
  if e.sign = some true then -(natOf e.digits.bytes : ℤ) else natOf e.digits.bytes

def Number.fracBytes (n : Number) : List UInt8 := (n.frac.map (·.bytes)).getD []

def Number.render (n : Number) : List UInt8 :=
  (if n.negative then [0x2D] else []) ++ (n.int.bytes
    ++ ((match n.frac with
      | none => []
      | some f => 0x2E :: f.bytes)
    ++ (match n.exp with
      | none => []
      | some e => e.render)))

/-- All digits as one number, with the point moved. -/
def Number.value (n : Number) : ℚ :=
  (if n.negative then -1 else 1) * (natOf (n.int.bytes ++ n.fracBytes) : ℚ)
    * (10 : ℚ) ^ ((n.exp.map (·.value)).getD 0 - n.fracBytes.length)

/-! ## §5. Texts. -/

/-- A key with the white space around it. -/
structure Key where
  before : Ws
  literal : List Piece
  after : Ws

/-- A value with the white space around it; `blank` is what stands in an empty array or object. -/
inductive Text where
  | null (before after : Ws)
  | bool (before : Ws) (b : Bool) (after : Ws)
  | number (before : Ws) (n : Number) (after : Ws)
  | string (before : Ws) (s : List Piece) (after : Ws)
  | array (before blank : Ws) (elements : List Text) (after : Ws)
  | object (before blank : Ws) (members : List (Key × Text)) (after : Ws)

namespace Text

/-- Structural induction: arrays and objects from all their members. -/
@[elab_as_elim]
theorem induct {P : Text → Prop} (null : ∀ l r, P (.null l r)) (bool : ∀ l b r, P (.bool l b r))
    (number : ∀ l n r, P (.number l n r)) (string : ∀ l s r, P (.string l s r))
    (array : ∀ l w ts r, (∀ t ∈ ts, P t) → P (.array l w ts r))
    (object : ∀ l w (ms : List (Key × Text)) r, (∀ m ∈ ms, P m.2) → P (.object l w ms r))
    (t : Text) : P t := by
  refine @Text.rec P (fun ts => ∀ t ∈ ts, P t) (fun ms => ∀ m ∈ ms, P m.2) (fun m => P m.2)
    null bool number string (fun l w ts r => array l w ts r) (fun l w ms r => object l w ms r)
    ?_ ?_ ?_ ?_ ?_ t
  -- the elements of an array
  · intro t ht
    exact absurd ht List.not_mem_nil
  · intro t ts ht hts
    exact List.forall_mem_cons.mpr ⟨ht, hts⟩
  -- the members of an object
  · intro m hm
    exact absurd hm List.not_mem_nil
  · intro m ms hm hms
    exact List.forall_mem_cons.mpr ⟨hm, hms⟩
  · intro _ _ ht
    exact ht

def before : Text → Ws
  | null l _ | bool l _ _ | number l _ _ | string l _ _ | array l _ _ _ | object l _ _ _ => l

def after : Text → Ws
  | null _ r | bool _ _ r | number _ _ r | string _ _ r | array _ _ _ r | object _ _ _ r => r

def keyText (key : Key) : List UInt8 := key.before.bytes ++ (stringText key.literal ++ key.after.bytes)

mutual
/-- The value without the white space around it. -/
def core : Text → List UInt8
  | null _ _ => [0x6E, 0x75, 0x6C, 0x6C]
  | bool _ true _ => [0x74, 0x72, 0x75, 0x65]
  | bool _ false _ => [0x66, 0x61, 0x6C, 0x73, 0x65]
  | number _ n _ => n.render
  | string _ s _ => stringText s
  | array _ blank elements _ => 0x5B :: (elementsText blank elements ++ [0x5D])
  | object _ blank members _ => 0x7B :: (membersText blank members ++ [0x7D])
def elementsText (blank : Ws) : List Text → List UInt8
  | [] => blank.bytes
  | t :: ts => t.before.bytes ++ (core t ++ (t.after.bytes ++ moreElements ts))
def moreElements : List Text → List UInt8
  | [] => []
  | t :: ts => 0x2C :: (t.before.bytes ++ (core t ++ (t.after.bytes ++ moreElements ts)))
def membersText (blank : Ws) : List (Key × Text) → List UInt8
  | [] => blank.bytes
  | (key, t) :: ms =>
      keyText key ++ 0x3A :: (t.before.bytes ++ (core t ++ (t.after.bytes ++ moreMembers ms)))
def moreMembers : List (Key × Text) → List UInt8
  | [] => []
  | (key, t) :: ms =>
      0x2C :: (keyText key ++ 0x3A :: (t.before.bytes ++ (core t ++ (t.after.bytes ++ moreMembers ms))))
end

/-- The text. -/
def render (t : Text) : List UInt8 := t.before.bytes ++ (core t ++ t.after.bytes)

mutual
/-- What it stands for. -/
def denote : Text → Json
  | null _ _ => .null
  | bool _ b _ => .bool b
  | number _ n _ => .number n.value
  | string _ s _ => .string (stringDenote s)
  | array _ _ elements _ => .array (denoteList elements)
  | object _ _ members _ => .object (denoteMembers members)
def denoteList : List Text → List Json
  | [] => []
  | t :: ts => denote t :: denoteList ts
def denoteMembers : List (Key × Text) → List (List UInt8 × Json)
  | [] => []
  | (key, t) :: ms => (stringDenote key.literal, denote t) :: denoteMembers ms
end

end Text

/-- The bytes are a JSON text for the value. -/
def Parses (bytes : List UInt8) (v : Json) : Prop :=
  Utf8 bytes ∧ ∃ t : Text, t.render = bytes ∧ t.denote = v

end Lib.Rfc8259
