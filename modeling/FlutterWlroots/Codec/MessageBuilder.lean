/-
  FlutterWlroots.Codec.MessageBuilder — the message builder of standard_message_codec.c.

  The builder appends values to a growing block.  Its state is the block with the fill `bufferLen`
  and the level of the segment that may be written to; `buffer_capacity` is the size of the block.
  A segment is a record of the caller that every push reads and updates.  Diagnostics go to a log
  and change nothing else.

  Reallocation is assumed to succeed, so that the sums of `size_t` sizes do not wrap.  A store
  outside the block is undefined and ends the run.
-/
import FlutterWlroots.Lib.Block
import FlutterWlroots.Lib.CInt
import FlutterWlroots.Codec.StdValue

namespace FlutterWlroots.StandardMessageCodec

open Lib.LittleEndian Lib.Mem Lib.CInt
open FlutterWlroots.Codec

/-! ## §1. State. -/

/-- What `wlr_log` is called with. -/
inductive Diagnostic where
  | wrongLevel
  | incompleteSegment (written size : UInt32)
  deriving DecidableEq, Repr

/-- `struct message_builder_state`. -/
structure MessageBuilderState where
  buffer : Block
  bufferLen : Nat
  currentLevel : UInt32
  log : List Diagnostic

/-- `struct message_builder_segment`, without its pointer to the state. -/
structure MessageBuilderSegment where
  size : UInt32
  written : UInt32
  level : UInt32
  deriving DecidableEq, Repr

/-- A store outside the buffer. -/
inductive BuilderStop where
  | outOfBounds
  deriving DecidableEq, Repr

abbrev BuilderM := EStateM BuilderStop MessageBuilderState

/-- `message_builder_new`. -/
def messageBuilderNew : MessageBuilderState := ⟨Block.alloc 32, 0, 0, []⟩

/-! ## §2. Stores. -/

/-- `growth_strategy`. -/
def growthStrategy (current required : Nat) : Nat := max (max (current * 2) required) 32

/-- The buffer after `reserve`. -/
def MessageBuilderState.reserved (s : MessageBuilderState) (required : Nat) : MessageBuilderState :=
  if sizeSub s.buffer.size s.bufferLen < required then
    { s with
      buffer := s.buffer.realloc (growthStrategy s.buffer.size (s.bufferLen + required)) }
  else s

/-- `reserve`. -/
def reserve (required : Nat) : BuilderM Unit := modify fun s => s.reserved required

/-- A store through `state->buffer`. -/
def storeAt (offset : Nat) (bs : List UInt8) : BuilderM Unit := do
  let s ← get
  match s.buffer.store offset bs with
  | some buffer => set { s with buffer }
  | none => throw .outOfBounds

/-- `state->buffer_len += n`. -/
def advanceLen (n : Nat) : BuilderM Unit :=
  modify fun s => { s with bufferLen := s.bufferLen + n }

/-- A store at `state->buffer + state->buffer_len` that the fill is then advanced over. -/
def putBytes (bs : List UInt8) : BuilderM Unit := do
  let s ← get
  storeAt s.bufferLen bs
  advanceLen bs.length

/-- `state->buffer[state->buffer_len++] = b`. -/
def putByte (b : UInt8) : BuilderM Unit := putBytes [b]

/-- `CALC_SIZE_LEN`. -/
def calcSizeLen (size : Nat) : Nat :=
  if size > 0xFFFF then 5
  else if size ≥ 254 then 3
  else 1

/-- `WRITE_SIZE_LEN`: the two longer forms store the size through `state->buffer`, not through
`state->buffer + state->buffer_len`. -/
def writeSizeLen (size : Nat) : BuilderM Unit :=
  if size > 0xFFFF then do
    putByte 255
    storeAt 0 (leBytes 4 size)
    advanceLen 4
  else if size ≥ 254 then do
    putByte 254
    storeAt 0 (leBytes 2 size)
    advanceLen 2
  else putByte (UInt8.ofNat size)

/-- The loop of `WRITE_ALIGN_TO`. -/
def putZeros : Nat → BuilderM Unit
  | 0 => return ()
  | n + 1 => do
      putByte 0
      putZeros n

/-- `WRITE_ALIGN_TO`. -/
def writeAlignTo (n : Nat) : BuilderM Unit := do
  let s ← get
  if s.bufferLen % n ≠ 0 then putZeros (n - s.bufferLen % n)

/-! ## §3. Segments. -/

/-- `ASSERT_LEVEL`. -/
def assertLevel (segment : MessageBuilderSegment) : BuilderM Unit :=
  modify fun s =>
    if segment.level ≠ s.currentLevel then { s with log := s.log ++ [.wrongLevel] } else s

/-- `segment->written += 1`. -/
def MessageBuilderSegment.wrote (segment : MessageBuilderSegment) : MessageBuilderSegment :=
  { segment with written := segment.written + 1 }

/-- `message_builder_segment`. -/
def messageBuilderSegment : BuilderM MessageBuilderSegment := do
  modify fun s => { s with currentLevel := 1 }
  return ⟨1, 0, 1⟩

/-- `message_builder_segment_finish`. -/
def segmentFinish (segment : MessageBuilderSegment) : BuilderM Unit := do
  assertLevel segment
  modify fun s =>
    { s with
      log := if segment.written ≠ segment.size then
          s.log ++ [.incompleteSegment segment.written segment.size] else s.log
      currentLevel := s.currentLevel - 1 }

/-- `message_builder_finish`: `*buffer`, whose size is `*size`. -/
def messageBuilderFinish (s : MessageBuilderState) : Block :=
  if s.bufferLen = s.buffer.size then s.buffer else s.buffer.realloc s.bufferLen

/-! ## §4. Pushing scalars. -/

/-- `message_builder_segment_push_null`. -/
def pushNull (segment : MessageBuilderSegment) : BuilderM MessageBuilderSegment := do
  assertLevel segment
  reserve 1
  putByte 0
  return segment.wrote

/-- `message_builder_segment_push_bool`; it leaves `written` alone. -/
def pushBool (segment : MessageBuilderSegment) (value : Bool) : BuilderM MessageBuilderSegment := do
  assertLevel segment
  reserve 1
  putByte (if value then 1 else 2)
  return segment

/-- `message_builder_segment_push_int32`. -/
def pushInt32 (segment : MessageBuilderSegment) (value : BitVec 32) :
    BuilderM MessageBuilderSegment := do
  assertLevel segment
  reserve (1 + 4)
  putByte 3
  putBytes (leBytes 4 value.toNat)
  return segment.wrote

/-- `message_builder_segment_push_int64`. -/
def pushInt64 (segment : MessageBuilderSegment) (value : BitVec 64) :
    BuilderM MessageBuilderSegment := do
  assertLevel segment
  reserve (1 + 8)
  putByte 4
  putBytes (leBytes 8 value.toNat)
  return segment.wrote

/-- `message_builder_segment_push_float64`, of a `double` as its bits. -/
def pushFloat64 (segment : MessageBuilderSegment) (value : BitVec 64) :
    BuilderM MessageBuilderSegment := do
  assertLevel segment
  reserve (1 + 8 + 8)
  putByte 6
  writeAlignTo 8
  putBytes (leBytes 8 value.toNat)
  return segment.wrote

/-! ## §5. Pushing sized values. -/

/-- The common body of the string and byte list pushes. -/
def pushSizedBytes (tag : UInt8) (bytes : List UInt8) (segment : MessageBuilderSegment) :
    BuilderM MessageBuilderSegment := do
  assertLevel segment
  reserve (1 + calcSizeLen bytes.length + bytes.length)
  putByte tag
  writeSizeLen bytes.length
  putBytes bytes
  return segment.wrote

/-- `message_builder_segment_push_string`. -/
def pushString (segment : MessageBuilderSegment) (string : CString) :
    BuilderM MessageBuilderSegment :=
  pushSizedBytes 7 string.bytes segment

/-- `message_builder_segment_push_uint8_list`. -/
def pushUInt8List (segment : MessageBuilderSegment) (vals : List UInt8) :
    BuilderM MessageBuilderSegment :=
  pushSizedBytes 8 vals segment

/-- The elements of a typed list: all their bytes are stored, but `bufferLen` is advanced by the
number of elements. -/
def putElems (w : Nat) (vals : List (BitVec (8 * w))) : BuilderM Unit := do
  let s ← get
  storeAt s.bufferLen (elemBytes w vals)
  advanceLen vals.length

/-- The common body of the int32, int64 and float64 list pushes. -/
def pushTypedList (tag : UInt8) (w : Nat) (vals : List (BitVec (8 * w)))
    (segment : MessageBuilderSegment) : BuilderM MessageBuilderSegment := do
  assertLevel segment
  reserve (1 + calcSizeLen vals.length + (vals.length + 1) * w)
  writeAlignTo w
  putByte tag
  writeSizeLen vals.length
  putElems w vals
  return segment.wrote

/-- `message_builder_segment_push_int32_list`. -/
def pushInt32List (segment : MessageBuilderSegment) (vals : List (BitVec 32)) :
    BuilderM MessageBuilderSegment :=
  pushTypedList 9 4 vals segment

/-- `message_builder_segment_push_int64_list`. -/
def pushInt64List (segment : MessageBuilderSegment) (vals : List (BitVec 64)) :
    BuilderM MessageBuilderSegment :=
  pushTypedList 10 8 vals segment

/-- `message_builder_segment_push_float64_list`. -/
def pushFloat64List (segment : MessageBuilderSegment) (vals : List (BitVec 64)) :
    BuilderM MessageBuilderSegment :=
  pushTypedList 11 8 vals segment

/-- `message_builder_segment_push_float32_list`: alignment comes before `reserve` here. -/
def pushFloat32List (segment : MessageBuilderSegment) (vals : List (BitVec 32)) :
    BuilderM MessageBuilderSegment := do
  assertLevel segment
  writeAlignTo 4
  reserve (1 + calcSizeLen vals.length + (vals.length + 1) * 4)
  putByte 14
  writeSizeLen vals.length
  putElems 4 vals
  return segment.wrote

/-- The common body of the list and map pushes: the segment for the members, and the caller's. -/
def pushContainer (tag : UInt8) (size members : Nat) (segment : MessageBuilderSegment) :
    BuilderM (MessageBuilderSegment × MessageBuilderSegment) := do
  assertLevel segment
  reserve (1 + calcSizeLen size)
  putByte tag
  writeSizeLen size
  modify fun s => { s with currentLevel := s.currentLevel + 1 }
  let s ← get
  return (⟨UInt32.ofNat members, 0, s.currentLevel⟩, segment.wrote)

/-- `message_builder_segment_push_list`. -/
def pushList (segment : MessageBuilderSegment) (size : Nat) :
    BuilderM (MessageBuilderSegment × MessageBuilderSegment) :=
  pushContainer 12 size size segment

/-- `message_builder_segment_push_map`. -/
def pushMap (segment : MessageBuilderSegment) (size : Nat) :
    BuilderM (MessageBuilderSegment × MessageBuilderSegment) :=
  pushContainer 13 size (size * 2) segment

end FlutterWlroots.StandardMessageCodec
