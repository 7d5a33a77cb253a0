/-
  FlutterWlroots.Codec.PlatchEncode — encoding in platform_channel.c.

  `platch_encode` makes two passes over an object: `platch_calc_value_size_std` adds up the size,
  `malloc` gives a block of that size, and `platch_write_value_to_buffer_std` fills it through a
  cursor that only moves forward.  Both passes call the helpers of the decoder with a NULL
  `remaining`, so nothing is checked: a write outside the block is undefined and ends the run.

  A `size_t` counter wraps at `2^64`, and every distance it is advanced by goes through `int`.
  The address of the block is a parameter because `_align` rounds addresses.
-/
import FlutterWlroots.Lib.Block
import FlutterWlroots.Codec.PlatchDecode

namespace FlutterWlroots.PlatformChannel

open Lib.LittleEndian Lib.Mem Lib.CInt
open FlutterWlroots.Codec

/-! ## §1. The size pass. -/

/-- `_advance` without `remaining`; `n_bytes` is converted to `int` by the call. -/
def advanceSize (value n_bytes : Nat) : Nat := (value + toSizeT (toInt32 n_bytes)) % 2 ^ 64

/-- `_align` without `remaining`. -/
def alignSize (value alignment : Nat) : Nat := advanceSize value (alignDiff value alignment)

/-- `_advance_size_bytes` without `remaining`. -/
def advanceSizeBytes (value size : Nat) : Nat :=
  if size < 254 then advanceSize value 1
  else if size ≤ 0xFFFF then advanceSize value 3
  else advanceSize value 5

/-- The array cases: size bytes, alignment, `element_size*w` bytes. -/
def calcArraySize (value w element_size : Nat) : Nat :=
  advanceSize (alignSize (advanceSizeBytes value element_size) w) (element_size * w)

/-- The byte array and string cases. -/
def calcBytesSize (value element_size : Nat) : Nat :=
  advanceSize (advanceSizeBytes value element_size) element_size

mutual
/-- `platch_calc_value_size_std`; `size` is `*size_out` on entry. -/
def platchCalcValueSizeStd (size : Nat) : StdValue → Except Errno Nat
  | .kStdNull | .kStdTrue | .kStdFalse => return advanceSize size 1
  | .kStdInt32 _ => return advanceSize (advanceSize size 1) 4
  | .kStdInt64 _ => return advanceSize (advanceSize size 1) 8
  | .kStdFloat64 _ => return advanceSize (alignSize (advanceSize size 1) 8) 8
  | .kStdString s | .kStdLargeInt s => return calcBytesSize (advanceSize size 1) s.strlen
  | .kStdUInt8Array a => return calcBytesSize (advanceSize size 1) a.length
  | .kStdInt32Array a => return calcArraySize (advanceSize size 1) 4 a.length
  | .kStdInt64Array a => return calcArraySize (advanceSize size 1) 8 a.length
  | .kStdFloat64Array a => return calcArraySize (advanceSize size 1) 8 a.length
  | .kStdList xs => calcList (advanceSizeBytes (advanceSize size 1) xs.length) xs
  | .kStdMap es => calcEntries (advanceSizeBytes (advanceSize size 1) es.length) es
  | .unknown _ _ => throw .EINVAL
/-- The loop of the `kStdList` case. -/
def calcList (size : Nat) : List StdValue → Except Errno Nat
  | [] => return size
  | x :: xs => do
      let size ← platchCalcValueSizeStd size x
      calcList size xs
/-- The loop of the `kStdMap` case. -/
def calcEntries (size : Nat) : List (StdValue × StdValue) → Except Errno Nat
  | [] => return size
  | (k, v) :: es => do
      let size ← platchCalcValueSizeStd size k
      let size ← platchCalcValueSizeStd size v
      calcEntries size es
end

/-! ## §2. The write pass. -/

/-- Why encoding stops without a message. -/
inductive EncodeStop where
  | errno (e : Errno)
  /-- A write outside the block. -/
  | outOfBounds
  /-- `strlen` of a NULL string. -/
  | nullString
  deriving DecidableEq, Repr

/-- The block and `*pbuffer` as an offset into it. -/
structure Writer where
  block : Block
  pos : Nat
  deriving DecidableEq, Repr

abbrev WriteM := EStateM EncodeStop Writer

/-- `_write` without `remaining`. -/
def write (src : List UInt8) : WriteM Unit := do
  let w ← get
  match w.block.store w.pos src with
  | some block => set (⟨block, w.pos + src.length⟩ : Writer)
  | none => throw .outOfBounds

/-- `_write_u8`, `_write_u16` and so on: the `n` bytes of a value. -/
def writeUInt (n value : Nat) : WriteM Unit := write (leBytes n value)

/-- `_writeSize`: `size` is an `int`. -/
def writeSize (size : Int) : WriteM Unit :=
  if size < 254 then writeUInt 1 (toSizeT size)
  else if size ≤ 0xFFFF then do
    writeUInt 1 0xFE
    writeUInt 2 (toSizeT size)
  else do
    writeUInt 1 0xFF
    writeUInt 4 (toSizeT size)

/-- `_align` of `*pbuffer`. -/
def alignWriter (base alignment : Nat) : WriteM Unit :=
  modify fun w =>
    { w with pos := w.pos + toSizeT (toInt32 (alignDiff (base + w.pos) alignment)) }

/-- The loop over a string or a byte array. -/
def writeBytes : List UInt8 → WriteM Unit
  | [] => return ()
  | b :: bs => do
      writeUInt 1 b.toNat
      writeBytes bs

/-- The loop over an array of `w`-byte elements. -/
def writeElems (w : Nat) : List (BitVec (8 * w)) → WriteM Unit
  | [] => return ()
  | v :: a => do
      writeUInt w v.toNat
      writeElems w a

/-- The `kStdInt32Array`, `kStdInt64Array` and `kStdFloat64Array` cases. -/
def writeArray (base w : Nat) (a : List (BitVec (8 * w))) : WriteM Unit := do
  writeSize (toInt32 a.length)
  alignWriter base w
  writeElems w a

mutual
/-- `platch_write_value_to_buffer_std`. -/
def platchWriteValueToBufferStd (base : Nat) : StdValue → WriteM Unit
  | .kStdNull => writeUInt 1 0
  | .kStdTrue => writeUInt 1 1
  | .kStdFalse => writeUInt 1 2
  | .kStdInt32 v => do
      writeUInt 1 3
      writeUInt 4 v.toNat
  | .kStdInt64 v => do
      writeUInt 1 4
      writeUInt 8 v.toNat
  | .kStdLargeInt s => do
      writeUInt 1 5
      writeSize (toInt32 s.strlen)
      writeBytes s.bytes
  | .kStdFloat64 v => do
      writeUInt 1 6
      alignWriter base 8
      writeUInt 8 v.toNat
  | .kStdString s => do
      writeUInt 1 7
      writeSize (toInt32 s.strlen)
      writeBytes s.bytes
  | .kStdUInt8Array a => do
      writeUInt 1 8
      writeSize (toInt32 a.length)
      writeBytes a
  | .kStdInt32Array a => do
      writeUInt 1 9
      writeArray base 4 a
  | .kStdInt64Array a => do
      writeUInt 1 10
      writeArray base 8 a
  | .kStdFloat64Array a => do
      writeUInt 1 11
      writeArray base 8 a
  | .kStdList xs => do
      writeUInt 1 12
      writeSize (toInt32 xs.length)
      writeList base xs
  | .kStdMap es => do
      writeUInt 1 13
      writeSize (toInt32 es.length)
      writeEntries base es
  | .unknown type _ => do
      writeUInt 1 type
      throw (.errno .EINVAL)
/-- The loop of the `kStdList` case. -/
def writeList (base : Nat) : List StdValue → WriteM Unit
  | [] => return ()
  | x :: xs => do
      platchWriteValueToBufferStd base x
      writeList base xs
/-- The loop of the `kStdMap` case. -/
def writeEntries (base : Nat) : List (StdValue × StdValue) → WriteM Unit
  | [] => return ()
  | (k, v) :: es => do
      platchWriteValueToBufferStd base k
      platchWriteValueToBufferStd base v
      writeEntries base es
end

/-! ## §3. Messages. -/

/-- The middle of `platch_encode`: `malloc(size)`, then the write pass over the block. -/
def allocAndWrite (size : Except Errno Nat) (pass : WriteM Unit) :
    Except EncodeStop (Option Block) :=
  match size with
  | .error e => .error (.errno e)
  | .ok size =>
      match pass.run ⟨Block.alloc size, 0⟩ with
      | .ok _ w => .ok (some w.block)
      | .error e _ => .error e

/-- `platch_encode`, with `*buffer_out` as result (its size is `*size_out`); `none` is NULL. -/
def platchEncode (base : Nat) : PlatchObj List → Except EncodeStop (Option Block)
  | .kNotImplemented => .ok none
  | .kStringCodec s => allocAndWrite (.ok s.strlen) (write s.bytes)
  | .kBinaryCodec binarydata => .ok (some ⟨binarydata.map some⟩)
  | .kStandardMessageCodec std_value =>
      allocAndWrite (platchCalcValueSizeStd 0 std_value) (platchWriteValueToBufferStd base std_value)
  | .kStandardMethodCall method std_arg =>
      let stdmethod : StdValue := .kStdString method
      allocAndWrite
        (do
          let size ← platchCalcValueSizeStd 0 stdmethod
          platchCalcValueSizeStd size std_arg)
        (do
          platchWriteValueToBufferStd base stdmethod
          platchWriteValueToBufferStd base std_arg)
  | .kStandardMethodCallResponse (.success std_result) =>
      allocAndWrite (platchCalcValueSizeStd 1 std_result)
        (do
          writeUInt 1 0x00
          platchWriteValueToBufferStd base std_result)
  | .kStandardMethodCallResponse (.failure error_code error_msg std_error_details) =>
      match error_msg with
      | none => .error .nullString
      | some error_msg =>
          let stderrcode : StdValue := .kStdString error_code
          let stderrmessage : StdValue := .kStdString error_msg
          allocAndWrite
            (do
              let size ← platchCalcValueSizeStd 1 stderrcode
              let size ← platchCalcValueSizeStd size stderrmessage
              platchCalcValueSizeStd size std_error_details)
            (do
              writeUInt 1 0x01
              platchWriteValueToBufferStd base stderrcode
              platchWriteValueToBufferStd base stderrmessage
              platchWriteValueToBufferStd base std_error_details)

end FlutterWlroots.PlatformChannel
