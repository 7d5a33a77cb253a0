/-
  FlutterWlroots.Codec.JsonEncode — encoding of the JSON codecs in platform_channel.c.

  As for the standard codecs there are two passes: `platch_calc_value_size_json` adds up the length of
  the text, and `platch_write_value_to_buffer_json` prints it through a cursor.  Most of it is printed
  with `sprintf`, which also stores a NUL behind the text, at the place the cursor has come to;
  `platch_encode` allocates one byte more for the last of them.

  `sprintf("%g")` is a parameter, the same function for both passes.
-/
import FlutterWlroots.Codec.JsonValue
import FlutterWlroots.Codec.PlatchEncode

namespace FlutterWlroots.PlatformChannel

open Lib.Mem
open FlutterWlroots.Codec

variable (percentG : BitVec 64 → CString)

/-! ## §1. Escapes. -/

/-- `\b`, `\f`, `\n`, `\r`, `\t`, `"` and `\`. -/
def isEscaped (s : UInt8) : Bool := s ∈ [0x08, 0x0C, 0x0A, 0x0D, 0x09, 0x22, 0x5C]

/-- What is printed for one character of a string. -/
def escape (s : UInt8) : List UInt8 :=
  if s = 0x08 then [0x5C, 0x62]
  else if s = 0x0C then [0x5C, 0x66]
  else if s = 0x0A then [0x5C, 0x6E]
  else if s = 0x0D then [0x5C, 0x72]
  else if s = 0x09 then [0x5C, 0x74]
  -- a quotation mark becomes `\t` as well
  else if s = 0x22 then [0x5C, 0x74]
  else if s = 0x5C then [0x5C, 0x5C]
  else [s]

/-! ## §2. The size pass. -/

/-- The loop over a string. -/
def calcString (size : Nat) : List UInt8 → Nat
  | [] => size
  | s :: string_value => calcString (if isEscaped s then size + 2 else size + 1) string_value

mutual
/-- `platch_calc_value_size_json`. -/
def platchCalcValueSizeJson : JsonValue → Nat
  | .kJsonNull | .kJsonTrue => 4
  | .kJsonFalse => 5
  | .kJsonNumber number_value => (percentG number_value).strlen
  | .kJsonString string_value => calcString 2 string_value.bytes
  | .kJsonArray array => calcArray 2 array
  | .kJsonObject entries => calcMembers 2 entries
/-- The loop of the `kJsonArray` case; `[_]` is the last round. -/
def calcArray (size : Nat) : List JsonValue → Nat
  | [] => size
  | [v] => size + platchCalcValueSizeJson v
  | v :: array => calcArray (size + platchCalcValueSizeJson v + 1) array
/-- The loop of the `kJsonObject` case. -/
def calcMembers (size : Nat) : List (CString × JsonValue) → Nat
  | [] => size
  | [(key, v)] => size + (key.strlen + 3 + platchCalcValueSizeJson v)
  | (key, v) :: entries => calcMembers (size + (key.strlen + 3 + platchCalcValueSizeJson v) + 1) entries
end

/-! ## §3. The write pass. -/

/-- `*pbuffer += sprintf(*pbuffer, ...)`: the text and a NUL are stored, the cursor comes to the
    NUL. -/
def sprintf (text : CString) : WriteM Unit := do
  write (text.bytes ++ [0])
  modify fun w => { w with pos := w.pos - 1 }

/-- `"%s":` -/
def keyText (key : CString) : CString where
  bytes := 0x22 :: key.bytes ++ [0x22, 0x3A]
  nulFree := by
    have h := key.nulFree
    simp [h]

/-- The loop over a string: plain stores. -/
def writeEscaped : List UInt8 → WriteM Unit
  | [] => return ()
  | s :: string_value => do
      write (escape s)
      writeEscaped string_value

mutual
/-- `platch_write_value_to_buffer_json`. -/
def platchWriteValueToBufferJson : JsonValue → WriteM Unit
  | .kJsonNull => sprintf (.ofLiteral "null")
  | .kJsonTrue => sprintf (.ofLiteral "true")
  | .kJsonFalse => sprintf (.ofLiteral "false")
  | .kJsonNumber number_value => sprintf (percentG number_value)
  | .kJsonString string_value => do
      write [0x22]
      writeEscaped string_value.bytes
      write [0x22]
  | .kJsonArray array => do
      sprintf (.ofLiteral "[")
      printArray array
      sprintf (.ofLiteral "]")
  | .kJsonObject entries => do
      sprintf (.ofLiteral "\x7b")
      printMembers entries
      sprintf (.ofLiteral "\x7d")
/-- The loop of the `kJsonArray` case; no comma in the last round. -/
def printArray : List JsonValue → WriteM Unit
  | [] => return ()
  | [v] => platchWriteValueToBufferJson v
  | v :: array => do
      platchWriteValueToBufferJson v
      sprintf (.ofLiteral ",")
      printArray array
/-- The loop of the `kJsonObject` case. -/
def printMembers : List (CString × JsonValue) → WriteM Unit
  | [] => return ()
  | [(key, v)] => do
      sprintf (keyText key)
      platchWriteValueToBufferJson v
  | (key, v) :: entries => do
      sprintf (keyText key)
      platchWriteValueToBufferJson v
      sprintf (.ofLiteral ",")
      printMembers entries
end

/-! ## §4. Messages. -/

/-- The contents of a `struct platch_obj` with one of the JSON codecs. -/
inductive JsonObj where
  | kJSONMessageCodec (json_value : JsonValue)
  | kJSONMethodCall (call : JsonMethodCall)
  /-- `success`. -/
  | kJSONMethodCallSuccess (json_result : JsonValue)
  /-- Not `success`; `error_msg` may be NULL. -/
  | kJSONMethodCallError (error_code : CString) (error_msg : Option CString)
      (json_error_details : JsonValue)

/-- The value that `platch_encode` gives to both passes. -/
def JsonObj.value : JsonObj → JsonValue
  | .kJSONMessageCodec json_value => json_value
  | .kJSONMethodCall call =>
      .kJsonObject [(.ofLiteral "method", .kJsonString call.method),
        (.ofLiteral "args", call.json_arg)]
  | .kJSONMethodCallSuccess json_result => .kJsonArray [json_result]
  | .kJSONMethodCallError error_code error_msg json_error_details =>
      .kJsonArray [.kJsonString error_code,
        match error_msg with
        | some error_msg => .kJsonString error_msg
        | none => .kJsonNull,
        json_error_details]

/-- `platch_encode` for the JSON codecs: `*buffer_out` and `*size_out`. -/
def platchEncodeJson (object : JsonObj) : Except EncodeStop (Option Block × Nat) := do
  let size := platchCalcValueSizeJson percentG object.value + 1
  let buffer ← allocAndWrite (.ok size) (platchWriteValueToBufferJson percentG object.value)
  return (buffer, size - 1)

end FlutterWlroots.PlatformChannel
