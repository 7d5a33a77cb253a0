/-
  FlutterWlroots.Codec.PlatchDecode — decoding in platform_channel.c.

  The decoder walks a message with a pair of variables, the pointer `*pbuffer` and the byte count
  `*premaining`; they are the state of `DecodeM`, the pointer as an offset into the message.  An
  `errno` result is an exception, and so is a read outside the message, which the source leaves
  undefined.  `_align` rounds the *address*, so the address of the message is a parameter.

  Allocations are assumed to succeed.  The recursion of `platch_decode_value_std` takes fuel; one
  unit per nesting level, and a message nests no deeper than it has bytes.
-/
import FlutterWlroots.Lib.CInt
import FlutterWlroots.Codec.StdValue

namespace FlutterWlroots.PlatformChannel

open Lib.LittleEndian Lib.CInt
open FlutterWlroots.Codec

/-! ## §1. The cursor. -/

/-- The `errno` values that the codec returns. -/
inductive Errno where
  | EBADMSG
  | EINVAL
  deriving DecidableEq, Repr

/-- Why decoding stops without a value. -/
inductive DecodeStop where
  | errno (e : Errno)
  /-- A read outside the message. -/
  | outOfBounds
  | outOfFuel
  deriving DecidableEq, Repr

/-- `*pbuffer` (as an offset into the message) and `*premaining`. -/
structure Cursor where
  pos : Nat
  remaining : Nat
  deriving DecidableEq, Repr

abbrev DecodeM := EStateM DecodeStop Cursor

/-- `_check_remaining`: the `int` is converted to `size_t` for the comparison. -/
def checkRemaining (min_remaining : Int) : DecodeM Unit := do
  let c ← get
  if c.remaining < toSizeT min_remaining then throw (.errno .EBADMSG)

/-- `_read`. -/
def read (buffer : List UInt8) (n_bytes : Int) : DecodeM (List UInt8) := do
  checkRemaining n_bytes
  let c ← get
  let n := toSizeT n_bytes
  if c.pos + n ≤ buffer.length then
    set (⟨c.pos + n, c.remaining - n⟩ : Cursor)
    return (buffer.drop c.pos).take n
  else throw .outOfBounds

/-- `_read_u8`, `_read_u16`, `_read_u32`, and their signed and floating-point siblings before the
bits are interpreted: `n` bytes as a number. -/
def readUInt (buffer : List UInt8) (n : Nat) : DecodeM Nat := do
  let bs ← read buffer n
  return leNat bs

/-- `_advance`. -/
def advance (n_bytes : Int) : DecodeM Unit := do
  checkRemaining n_bytes
  modify fun c => ⟨c.pos + toSizeT n_bytes, c.remaining - toSizeT n_bytes⟩

/-- The distance `_align` computes for the pointer value `value`. -/
def alignDiff (value alignment : Nat) : Nat :=
  ((value + (alignment - 1)) ||| (alignment - 1)) - (alignment - 1) - value

/-- `_align`. -/
def align (base alignment : Nat) : DecodeM Unit := do
  let c ← get
  advance (toInt32 (alignDiff (base + c.pos) alignment))

/-- `_readSize`. -/
def readSize (buffer : List UInt8) : DecodeM Nat := do
  let size8 ← readUInt buffer 1
  if size8 ≤ 253 then return size8
  else if size8 = 254 then readUInt buffer 2
  else readUInt buffer 4

/-! ## §2. Values. -/

/-- The `kStdInt32Array`, `kStdInt64Array` and `kStdFloat64Array` cases: the array is not copied,
and `size*w` is computed in `uint32_t`. -/
def decodeArray (base : Nat) (buffer : List UInt8) (w : Nat) :
    DecodeM (Borrowed (BitVec (8 * w))) := do
  let size ← readSize buffer
  align base w
  let c ← get
  if c.remaining < size * w % 2 ^ 32 then throw (.errno .EBADMSG)
  advance (toInt32 (size * w % 2 ^ 32 : Nat))
  return ⟨c.pos, size⟩

/-- The `kStdUInt8Array` case. -/
def decodeUInt8Array (buffer : List UInt8) : DecodeM (Borrowed UInt8) := do
  let size ← readSize buffer
  let c ← get
  if c.remaining < size then throw (.errno .EBADMSG)
  advance (toInt32 size)
  return ⟨c.pos, size⟩

/-- The `kStdString` and `kStdLargeInt` cases: the bytes go to a zeroed block of `size+1` bytes. -/
def decodeString (buffer : List UInt8) : DecodeM CString := do
  let size ← readSize buffer
  let bytes ← read buffer (toInt32 size)
  return CString.ofMemory bytes

/-- The loop of the `kStdList` case. -/
def decodeTimes {α : Type} (decode : DecodeM α) : Nat → DecodeM (List α)
  | 0 => return []
  | n + 1 => do
      let x ← decode
      let xs ← decodeTimes decode n
      return x :: xs

/-- The loop of the `kStdMap` case. -/
def decodePairs {α : Type} (decode : DecodeM α) : Nat → DecodeM (List (α × α))
  | 0 => return []
  | n + 1 => do
      let k ← decode
      let v ← decode
      let es ← decodePairs decode n
      return (k, v) :: es

/-- `platch_decode_value_std`. -/
def platchDecodeValueStd (base : Nat) (buffer : List UInt8) : Nat → DecodeM DecodedValue
  | 0 => throw .outOfFuel
  | fuel + 1 => do
      let type_byte ← readUInt buffer 1
      match type_byte with
      | 0 => return .kStdNull
      | 1 => return .kStdTrue
      | 2 => return .kStdFalse
      | 3 => do
          let n ← readUInt buffer 4
          return .kStdInt32 (BitVec.ofNat 32 n)
      | 4 => do
          let n ← readUInt buffer 8
          return .kStdInt64 (BitVec.ofNat 64 n)
      | 5 => do
          let s ← decodeString buffer
          return .kStdLargeInt s
      | 6 => do
          align base 8
          let n ← readUInt buffer 8
          return .kStdFloat64 (BitVec.ofNat 64 n)
      | 7 => do
          let s ← decodeString buffer
          return .kStdString s
      | 8 => do
          let a ← decodeUInt8Array buffer
          return .kStdUInt8Array a
      | 9 => do
          let a ← decodeArray base buffer 4
          return .kStdInt32Array a
      | 10 => do
          let a ← decodeArray base buffer 8
          return .kStdInt64Array a
      | 11 => do
          let a ← decodeArray base buffer 8
          return .kStdFloat64Array a
      | 12 => do
          let size ← readSize buffer
          let xs ← decodeTimes (platchDecodeValueStd base buffer fuel) size
          return .kStdList xs
      | 13 => do
          let size ← readSize buffer
          let es ← decodePairs (platchDecodeValueStd base buffer fuel) size
          return .kStdMap es
      | _ => throw (.errno .EBADMSG)

/-! ## §3. Channel objects. -/

/-- The fields of `struct platch_obj` for a method call response. -/
inductive MethodCallResponse (A : Type → Type) where
  /-- `success` is true. -/
  | success (std_result : StdTree A)
  /-- `success` is false; `error_msg` may be NULL. -/
  | failure (error_code : CString) (error_msg : Option CString) (std_error_details : StdTree A)

/-- `struct platch_obj`, for the codecs without JSON. -/
inductive PlatchObj (A : Type → Type) where
  | kNotImplemented
  | kStringCodec (string_value : CString)
  | kBinaryCodec (binarydata : List UInt8)
  | kStandardMessageCodec (std_value : StdTree A)
  | kStandardMethodCall (method : CString) (std_arg : StdTree A)
  | kStandardMethodCallResponse (response : MethodCallResponse A)

/-- `enum platch_codec`, without JSON. -/
inductive PlatchCodec where
  | kNotImplemented
  | kStringCodec
  | kBinaryCodec
  | kStandardMessageCodec
  | kStandardMethodCall
  | kStandardMethodCallResponse
  deriving DecidableEq, Repr

/-- The `kStandardMethodCallResponse` case of `platch_decode`.  The result of `_read_u8` is not
looked at; a message without a first byte has no further values either, so the decoder of the
next value reports it. -/
def decodeResponse (buffer : List UInt8) (value : DecodeM DecodedValue) :
    DecodeM (MethodCallResponse Borrowed) := do
  let success ← tryCatch (readUInt buffer 1) fun _ => pure 0
  if success ≠ 0 then do
    let std_result ← value
    return .success std_result
  else do
    let error_code ← value
    let error_msg ← value
    let std_error_details ← value
    match error_code, error_msg with
    | .kStdString code, .kStdString msg => return .failure code (some msg) std_error_details
    | .kStdString code, .kStdNull => return .failure code none std_error_details
    | _, _ => throw (.errno .EBADMSG)

/-- `platch_decode`; `none` is the NULL buffer of an empty message. -/
def platchDecode (base : Nat) (message : Option (List UInt8)) (codec : PlatchCodec) :
    DecodeM (PlatchObj Borrowed) :=
  match message with
  | none => return .kNotImplemented
  | some buffer =>
      let value := platchDecodeValueStd base buffer (buffer.length + 1)
      match codec with
      | .kNotImplemented => throw (.errno .EINVAL)
      | .kStringCodec => return .kStringCodec (CString.ofMemory buffer)
      | .kBinaryCodec => return .kBinaryCodec buffer
      | .kStandardMessageCodec => do
          let std_value ← value
          return .kStandardMessageCodec std_value
      | .kStandardMethodCall => do
          let methodname ← value
          match methodname with
          | .kStdString method => do
              let std_arg ← value
              return .kStandardMethodCall method std_arg
          | _ => throw (.errno .EBADMSG)
      | .kStandardMethodCallResponse => do
          let response ← decodeResponse buffer value
          return .kStandardMethodCallResponse response

/-- Run `platch_decode` on a whole message: `remaining` starts at its size. -/
def runDecode (base : Nat) (message : List UInt8) (codec : PlatchCodec) :
    EStateM.Result DecodeStop Cursor (PlatchObj Borrowed) :=
  (platchDecode base (some message) codec).run ⟨0, message.length⟩

end FlutterWlroots.PlatformChannel
