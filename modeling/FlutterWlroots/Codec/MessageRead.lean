/-
  FlutterWlroots.Codec.MessageRead — `message_read` of standard_message_codec.c.

  The second decoder of the repository, independent of `platch_decode_value_std`.  Its state is the
  one variable `*offset`; alignment is relative to the offset, not to the address.  `REQUIRE_DATA`
  leaves the function with false, and a load outside the buffer is undefined; both end a run.

  Allocations are assumed to succeed.  The recursion takes fuel as that of the other decoder does.
-/
import FlutterWlroots.Lib.LittleEndian
import FlutterWlroots.Lib.CInt

namespace FlutterWlroots.StandardMessageCodec

open Lib.LittleEndian Lib.CInt

/-! ## §1. Values. -/

/-- `struct dart_value`, with the types that `message_read` can set. -/
inductive DartValue where
  | dvNull
  | dvBool (boolean : Bool)
  /-- `integer` is an `int64_t`. -/
  | dvInteger (integer : Int)
  /-- A `double`, as its bits. -/
  | dvFloat64 (f64 : BitVec 64)
  /-- `string` without the NUL that `message_read` puts behind it. -/
  | dvString (length : Nat) (string : List UInt8)
  | dvList (length : Nat) (values : List DartValue)
  /-- `values` holds keys and values in turn. -/
  | dvMap (length : Nat) (values : List DartValue)

/-! ## §2. The reader. -/

/-- Why `message_read` stops without a value. -/
inductive ReadStop where
  | returnsFalse
  /-- A load outside the buffer. -/
  | outOfBounds
  | outOfFuel
  deriving DecidableEq, Repr

/-- The state is `*offset`. -/
abbrev ReadM := EStateM ReadStop Nat

/-- `REQUIRE_DATA`; the subtraction is one of `size_t`. -/
def requireData (length n : Nat) : ReadM Unit := do
  let offset ← get
  if sizeSub length offset < n then throw .returnsFalse

/-- `n` bytes at `buffer + *offset`, and `*offset += n`. -/
def takeBytes (buffer : List UInt8) (n : Nat) : ReadM (List UInt8) := do
  let offset ← get
  if offset + n ≤ buffer.length then
    set (offset + n)
    return (buffer.drop offset).take n
  else throw .outOfBounds

/-- A load through a cast pointer: `n` bytes as a number, and `*offset += n`. -/
def takeUInt (buffer : List UInt8) (n : Nat) : ReadM Nat := do
  let bs ← takeBytes buffer n
  return leNat bs

/-- `READ_LENGTH`. -/
def readLength (buffer : List UInt8) (length : Nat) : ReadM Nat := do
  requireData length 1
  let first ← takeUInt buffer 1
  if first = 255 then
    requireData length 4
    takeUInt buffer 4
  else if first = 254 then
    requireData length 2
    takeUInt buffer 2
  else return first

/-- `READ_ALIGN_TO`. -/
def readAlignTo (length n : Nat) : ReadM Unit := do
  let offset ← get
  if offset % n ≠ 0 then
    requireData length (n - offset % n)
    set (offset + (n - offset % n))

/-- The loop of the `kValueList` case. -/
def readTimes (read : ReadM DartValue) : Nat → ReadM (List DartValue)
  | 0 => return []
  | n + 1 => do
      let value ← read
      let values ← readTimes read n
      return value :: values

/-- The loop of the `kValueMap` case: a key to `values[i*2]`, its value to `values[i*2+1]`. -/
def readPairs (read : ReadM DartValue) : Nat → ReadM (List DartValue)
  | 0 => return []
  | n + 1 => do
      let key ← read
      let value ← read
      let values ← readPairs read n
      return key :: value :: values

/-- `message_read`. -/
def messageRead (buffer : List UInt8) (length : Nat) : Nat → ReadM DartValue
  | 0 => throw .outOfFuel
  | fuel + 1 => do
      requireData length 1
      let type ← takeUInt buffer 1
      match type with
      | 0 => return .dvNull
      | 1 => return .dvBool true
      | 2 => return .dvBool false
      | 3 => do
          requireData length 4
          -- the bytes are loaded as `uint32_t`, so the `int64_t` is never negative
          let n ← takeUInt buffer 4
          return .dvInteger n
      | 4 => do
          requireData length 8
          let n ← takeUInt buffer 8
          return .dvInteger (toInt64 n)
      | 6 => do
          readAlignTo length 8
          requireData length 8
          let n ← takeUInt buffer 8
          return .dvFloat64 (BitVec.ofNat 64 n)
      | 7 => do
          let s_len ← readLength buffer length
          requireData length s_len
          let string ← takeBytes buffer s_len
          return .dvString s_len string
      | 12 => do
          let s_len ← readLength buffer length
          let values ← readTimes (messageRead buffer length fuel) s_len
          return .dvList s_len values
      | 13 => do
          let s_len ← readLength buffer length
          let values ← readPairs (messageRead buffer length fuel) s_len
          -- the type is set to `dvList` here too
          return .dvList s_len values
      | _ => throw .returnsFalse

/-- `message_read` of a whole message from offset 0. -/
def runMessageRead (buffer : List UInt8) : EStateM.Result ReadStop Nat DartValue :=
  (messageRead buffer buffer.length (buffer.length + 1)).run 0

end FlutterWlroots.StandardMessageCodec
