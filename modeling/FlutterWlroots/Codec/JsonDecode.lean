/-
  FlutterWlroots.Codec.JsonDecode — decoding of the JSON codecs in platform_channel.c.

  The text is tokenized, and `platch_decode_value_json` walks through the tokens with `*pptoken`.  The
  message is changed on the way: a string is handed out as a pointer into the message, with a NUL
  stored behind it, and there is a NUL behind the text of a number while `strtod` reads it.

  The state is the message, with what is behind it in memory as far as it may be touched, and the
  index of the next token.  `*ptokensremaining` is left out; it is counted down and never looked at.
  An access outside the message or the token array ends the walk, as an `errno` does.  Allocations
  are assumed to succeed.  `strtod` is a parameter, a function of the C string.
-/
import FlutterWlroots.Codec.Jsmn
import FlutterWlroots.Codec.JsonValue
import FlutterWlroots.Codec.PlatchDecode

namespace FlutterWlroots.PlatformChannel

open FlutterWlroots.Codec FlutterWlroots.Jsmn

/-! ## §1. The walk. -/

/-- `JSON_DECODE_TOKENLIST_SIZE`. -/
def tokenlistSize : Nat := 128

/-- A decoded value; a string is its place in the message. -/
inductive DecodedJson where
  | kJsonNull
  | kJsonTrue
  | kJsonFalse
  | kJsonNumber (number_value : BitVec 64)
  | kJsonString (string_value : Nat)
  | kJsonArray (array : List DecodedJson)
  | kJsonObject (entries : List (Nat × DecodedJson))

/-- The message and `*pptoken`, as an index. -/
structure JsonCursor where
  message : List UInt8
  ptoken : Nat

abbrev JsonM := EStateM DecodeStop JsonCursor

/-- `message[i]`. -/
def load (i : Nat) : JsonM UInt8 := do
  let c ← get
  match c.message[i]? with
  | some b => return b
  | none => throw .outOfBounds

/-- `message[i] = b`. -/
def store (i : Nat) (b : UInt8) : JsonM Unit := do
  let c ← get
  if i < c.message.length then set { c with message := c.message.set i b } else throw .outOfBounds

/-- The C string at `start`. -/
def cString (message : List UInt8) (start : Nat) : CString := CString.ofMemory (message.drop start)

/-- `memset(tokens, 0, sizeof(tokens))`, and what the tokenizer puts into it. -/
def tokenArray (tokens : List Token) : List Token :=
  tokens ++ List.replicate (tokenlistSize - tokens.length) ⟨.JSMN_UNDEFINED, 0, some 0, 0⟩

/-- `ptoken = *pptoken; (*pptoken) += 1;` and the token that is looked at then. -/
def nextToken (tokens : List Token) : JsonM Token := do
  let c ← get
  set { c with ptoken := c.ptoken + 1 }
  match tokens[c.ptoken]? with
  | some t => return t
  | none => throw .outOfBounds

/-- `ptoken->end` as an index; −1 is outside the message. -/
def endOf (t : Token) : JsonM Nat :=
  match t.stop with
  | some stop => return stop
  | none => throw .outOfBounds

/-- The `JSMN_PRIMITIVE` case. -/
def decodePrimitive (strtod : CString → BitVec 64) (t : Token) : JsonM DecodedJson := do
  let first ← load t.start
  if first = 0x6E then return .kJsonNull
  else if first = 0x74 then return .kJsonTrue
  else if first = 0x66 then return .kJsonFalse
  else do
    let stop ← endOf t
    let old ← load stop
    store stop 0
    let c ← get
    let number_value := strtod (cString c.message t.start)
    store stop old
    return .kJsonNumber number_value

/-- `strtod` on the text `1`, the only number of the runs below on fixed messages. -/
def strtodOne (s : CString) : BitVec 64 := if s.bytes = [0x31] then 0x3FF0000000000000 else 0

/-- The `JSMN_STRING` case. -/
def decodeJsonString (t : Token) : JsonM DecodedJson := do
  let stop ← endOf t
  store stop 0
  return .kJsonString t.start

/-- The loop of the `JSMN_ARRAY` case. -/
def decodeElements {σ α : Type} (decode : EStateM DecodeStop σ α) :
    Nat → EStateM DecodeStop σ (List α)
  | 0 => return []
  | size + 1 => do
      let v ← decode
      let array ← decodeElements decode size
      return v :: array

/-- The loop of the `JSMN_OBJECT` case; a key has to be a string. -/
def decodeMembers {σ α κ : Type} (string? : α → Option κ) (decode : EStateM DecodeStop σ α) :
    Nat → EStateM DecodeStop σ (List (κ × α))
  | 0 => return []
  | size + 1 => do
      let key ← decode
      match string? key with
      | none => throw (.errno .EBADMSG)
      | some string_value => do
          let v ← decode
          let entries ← decodeMembers string? decode size
          return (string_value, v) :: entries

def DecodedJson.string? : DecodedJson → Option Nat
  | .kJsonString string_value => some string_value
  | _ => none

/-- `platch_decode_value_json` with a token list. -/
def decodeToken (strtod : CString → BitVec 64) (tokens : List Token) : Nat → JsonM DecodedJson
  | 0 => throw .outOfFuel
  | fuel + 1 => do
      let t ← nextToken tokens
      match t.type with
      | .JSMN_UNDEFINED => throw (.errno .EBADMSG)
      | .JSMN_PRIMITIVE => decodePrimitive strtod t
      | .JSMN_STRING => decodeJsonString t
      | .JSMN_ARRAY => do
          let array ← decodeElements (decodeToken strtod tokens fuel) t.size
          return .kJsonArray array
      | .JSMN_OBJECT => do
          let entries ← decodeMembers DecodedJson.string? (decodeToken strtod tokens fuel) t.size
          return .kJsonObject entries

/-- `platch_decode_value_json` without a token list: one unit of fuel for each token and one more. -/
def platchDecodeValueJson (strtod : CString → BitVec 64) (size : Nat) : JsonM DecodedJson := do
  let c ← get
  match jsmnParse (c.message.take size) tokenlistSize with
  | .error _ => throw (.errno .EBADMSG)
  | .ok tokens => do
      set { c with ptoken := 0 }
      decodeToken strtod (tokenArray tokens) (tokenlistSize + 1)

/-! ## §2. Channel objects. -/

/-- `enum platch_codec`, for JSON. -/
inductive JsonCodec where
  | kNotImplemented
  | kJSONMessageCodec
  | kJSONMethodCall
  | kJSONMethodCallResponse
  deriving DecidableEq, Repr

/-- What is assigned to `*object_out`; `none` is a field that is left as it was. -/
structure JsonPlatchObj where
  codec : JsonCodec
  json_value : Option DecodedJson := none
  method : Option Nat := none
  json_arg : Option DecodedJson := none
  success : Option Bool := none
  json_result : Option DecodedJson := none
  error_code : Option Nat := none
  /-- May be NULL. -/
  error_msg : Option (Option Nat) := none
  json_error_details : Option DecodedJson := none

/-- The loop of the `kJSONMethodCall` case over the entries of the object. -/
def assignEntries (message : List UInt8) : List (Nat × DecodedJson) → JsonPlatchObj →
    Except DecodeStop JsonPlatchObj
  | [], object_out => .ok object_out
  | (key, v) :: entries, object_out =>
      match (if cString message key = .ofLiteral "method" then v.string? else none) with
      | some string_value =>
          assignEntries message entries { object_out with method := some string_value }
      | none =>
          if cString message key = .ofLiteral "args" then
            assignEntries message entries { object_out with json_arg := some v }
          else .error (.errno .EBADMSG)

/-- The `kJSONMethodCallResponse` case; the string of a `null` is NULL, as the array was zeroed. -/
def assignResponse (array : List DecodedJson) (object_out : JsonPlatchObj) :
    Except DecodeStop JsonPlatchObj :=
  match array with
  | [json_result] => .ok { object_out with success := some true, json_result := some json_result }
  | [.kJsonString error_code, .kJsonString error_msg, details] =>
      .ok { object_out with
        success := some false, error_code := some error_code,
        error_msg := some (some error_msg), json_error_details := some details }
  | [.kJsonString error_code, .kJsonNull, details] =>
      .ok { object_out with
        success := some false, error_code := some error_code,
        error_msg := some none, json_error_details := some details }
  | _ => .error (.errno .EBADMSG)

/-- `platch_decode` for the JSON codecs. -/
def platchDecodeJson (strtod : CString → BitVec 64) (isNull : Bool) (size : Nat) (codec : JsonCodec) :
    JsonM JsonPlatchObj :=
  if size = 0 ∧ isNull then return { codec := .kNotImplemented }
  -- the tokenizer would read from NULL
  else if isNull then throw .outOfBounds
  else do
    let object_out : JsonPlatchObj := { codec := codec }
    match codec with
    | .kNotImplemented => throw (.errno .EINVAL)
    | .kJSONMessageCodec => do
        let json_value ← platchDecodeValueJson strtod size
        return { object_out with json_value := some json_value }
    | .kJSONMethodCall => do
        let root_jsvalue ← platchDecodeValueJson strtod size
        match root_jsvalue with
        | .kJsonObject entries => do
            let c ← get
            match assignEntries c.message entries object_out with
            | .ok object_out => return object_out
            | .error e => throw e
        | _ => throw (.errno .EBADMSG)
    | .kJSONMethodCallResponse => do
        let root_jsvalue ← platchDecodeValueJson strtod size
        match root_jsvalue with
        | .kJsonArray array =>
            match assignResponse array object_out with
            | .ok object_out => return object_out
            | .error e => throw e
        | _ => throw (.errno .EBADMSG)

/-! ## §3. What is read afterwards. -/

mutual
/-- A decoded value, with the strings that stand in the message now. -/
def DecodedJson.load (message : List UInt8) : DecodedJson → JsonValue
  | .kJsonNull => .kJsonNull
  | .kJsonTrue => .kJsonTrue
  | .kJsonFalse => .kJsonFalse
  | .kJsonNumber number_value => .kJsonNumber number_value
  | .kJsonString string_value => .kJsonString (cString message string_value)
  | .kJsonArray array => .kJsonArray (loadList message array)
  | .kJsonObject entries => .kJsonObject (loadEntries message entries)
def DecodedJson.loadList (message : List UInt8) : List DecodedJson → List JsonValue
  | [] => []
  | v :: array => v.load message :: loadList message array
def DecodedJson.loadEntries (message : List UInt8) :
    List (Nat × DecodedJson) → List (CString × JsonValue)
  | [] => []
  | (key, v) :: entries => (cString message key, v.load message) :: loadEntries message entries
end

end FlutterWlroots.PlatformChannel
