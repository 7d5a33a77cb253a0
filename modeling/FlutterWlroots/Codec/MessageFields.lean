/-
  FlutterWlroots.Codec.MessageFields — fields that are narrower than what is stored in them.

  The decoders of messages.c store the integers of a list, which have 64 bits, in the fields of a
  struct, which have 8, 32 or 64.  An integer that does not fit is cut off, and a map that was read as
  a list is taken for one.  `Decoder` gives for each of the eight the length of its list and the
  positions and types of its fields.

    • `decode_eq`           — the decoders by their tables,
    • `decode_faithful_iff` — the messages whose fields are the entries of the list.
-/
import FlutterWlroots.Codec.MessageReadWire
import FlutterWlroots.Codec.Messages

namespace FlutterWlroots.Messages

open FlutterWlroots.StandardMessageCodec FlutterWlroots.Codec

/-! ## §1. Fields. -/

/-- The types of the fields in messages.h. -/
inductive FieldType where
  | uint8
  | uint32
  | uint64
  | int64
  | double
  deriving DecidableEq, Repr

namespace FieldType

/-- The integer in the field after the assignment of an `int64_t`. -/
def narrow : FieldType → Int → Int
  | uint8, n => n % 2 ^ 8
  | uint32, n => n % 2 ^ 32
  | uint64, n => n % 2 ^ 64
  | int64, n => n
  | double, n => n

/-- What the field holds after `DECODE`, as a number. -/
def store (t : FieldType) : DartValue → Option DartValue
  | .dvInteger n => if t = double then none else some (.dvInteger (t.narrow n))
  | .dvFloat64 f64 => if t = double then some (.dvFloat64 f64) else none
  | _ => none

/-- The entry is an integer, or a double for a double. -/
def Reads : FieldType → DartValue → Prop
  | double, .dvFloat64 _ => True
  | double, _ => False
  | _, .dvInteger _ => True
  | _, _ => False

/-- The entry is a number of the type. -/
def Holds : FieldType → DartValue → Prop
  | uint8, .dvInteger n => 0 ≤ n ∧ n < 2 ^ 8
  | uint32, .dvInteger n => 0 ≤ n ∧ n < 2 ^ 32
  | uint64, .dvInteger n => 0 ≤ n ∧ n < 2 ^ 64
  | int64, .dvInteger _ => True
  | double, .dvFloat64 _ => True
  | _, _ => False

end FieldType

/-- The fields of a message, by the position of the entry each was assigned from. -/
abbrev Stored := List (Nat × DartValue)

def SurfacePointerEventMessage.stored (m : SurfacePointerEventMessage) : Stored :=
  [(0, .dvInteger m.surfaceHandle.toNat), (1, .dvInteger m.buttons.toInt),
   (7, .dvInteger m.embedderId.toInt), (8, .dvInteger m.deviceKind.toNat),
   (11, .dvFloat64 m.localPosX), (12, .dvFloat64 m.localPosY),
   (15, .dvInteger m.platformId.toInt), (16, .dvInteger m.pointer.toInt),
   (17, .dvFloat64 m.globalPosX), (18, .dvFloat64 m.globalPosY),
   (25, .dvInteger m.timestamp.toInt), (26, .dvInteger m.eventType.toNat),
   (27, .dvFloat64 m.widgetSizeX), (28, .dvFloat64 m.widgetSizeY),
   (29, .dvFloat64 m.scrollDeltaX), (30, .dvFloat64 m.scrollDeltaY)]

def SurfaceKeyboardKeyMessage.stored (m : SurfaceKeyboardKeyMessage) : Stored :=
  [(0, .dvInteger m.surfaceHandle.toNat), (1, .dvInteger m.keycode.toNat),
   (2, .dvInteger m.eventType.toNat), (3, .dvInteger m.timestamp.toInt)]

def SurfaceToplevelSetSizeMessage.stored (m : SurfaceToplevelSetSizeMessage) : Stored :=
  [(0, .dvInteger m.surfaceHandle.toNat), (1, .dvInteger m.sizeX), (2, .dvInteger m.sizeY)]

def SurfaceToplevelSetMaximizedMessage.stored (m : SurfaceToplevelSetMaximizedMessage) : Stored :=
  [(0, .dvInteger m.surfaceHandle.toNat), (1, .dvInteger m.maximized)]

def SurfaceBeginResizeMessage.stored (m : SurfaceBeginResizeMessage) : Stored :=
  [(0, .dvInteger m.surfaceHandle.toNat), (1, .dvInteger m.edges)]

def SurfaceSetPositionMessage.stored (m : SurfaceSetPositionMessage) : Stored :=
  [(0, .dvInteger m.surfaceHandle.toNat), (1, .dvInteger m.x), (2, .dvInteger m.y)]

/-- The message that is a handle. -/
def storedHandle (surfaceHandle : UInt32) : Stored := [(0, .dvInteger surfaceHandle.toNat)]

/-- The decoders. -/
inductive Decoder where
  | surfacePointerEvent
  | surfaceKeyboardKey
  | surfaceToplevelSetSize
  | surfaceToplevelSetMaximized
  | surfaceToplevelClose
  | surfaceBeginMove
  | surfaceBeginResize
  | surfaceSetPosition
  deriving DecidableEq, Repr

namespace Decoder

/-- What the function stores. -/
def decode : Decoder → DartValue → Option Stored
  | surfacePointerEvent, value =>
      (decodeSurfacePointerEventMessage value).map SurfacePointerEventMessage.stored
  | surfaceKeyboardKey, value =>
      (decodeSurfaceKeyboardKeyMessage value).map SurfaceKeyboardKeyMessage.stored
  | surfaceToplevelSetSize, value =>
      (decodeSurfaceToplevelSetSizeMessage value).map SurfaceToplevelSetSizeMessage.stored
  | surfaceToplevelSetMaximized, value =>
      (decodeSurfaceToplevelSetMaximizedMessage value).map
        SurfaceToplevelSetMaximizedMessage.stored
  | surfaceToplevelClose, value => (decodeSurfaceToplevelCloseMessage value).map storedHandle
  | surfaceBeginMove, value => (decodeSurfaceBeginMoveMessage value).map storedHandle
  | surfaceBeginResize, value =>
      (decodeSurfaceBeginResizeMessage value).map SurfaceBeginResizeMessage.stored
  | surfaceSetPosition, value =>
      (decodeSurfaceSetPositionMessage value).map SurfaceSetPositionMessage.stored

/-- The length of the list. -/
def length : Decoder → Nat
  | surfacePointerEvent => 31
  | surfaceKeyboardKey => 4
  | surfaceToplevelSetSize => 3
  | surfaceToplevelSetMaximized => 2
  | surfaceToplevelClose => 1
  | surfaceBeginMove => 1
  | surfaceBeginResize => 2
  | surfaceSetPosition => 3

/-- The positions that are read, with the types of their fields. -/
def fields : Decoder → List (Nat × FieldType)
  | surfacePointerEvent =>
      [(0, .uint32), (1, .int64), (7, .int64), (8, .uint8), (11, .double), (12, .double),
       (15, .int64), (16, .int64), (17, .double), (18, .double), (25, .int64), (26, .uint8),
       (27, .double), (28, .double), (29, .double), (30, .double)]
  | surfaceKeyboardKey => [(0, .uint32), (1, .uint64), (2, .uint8), (3, .int64)]
  | surfaceToplevelSetSize => [(0, .uint32), (1, .int64), (2, .int64)]
  | surfaceToplevelSetMaximized => [(0, .uint32), (1, .int64)]
  | surfaceToplevelClose => [(0, .uint32)]
  | surfaceBeginMove => [(0, .uint32)]
  | surfaceBeginResize => [(0, .uint32), (1, .int64)]
  | surfaceSetPosition => [(0, .uint32), (1, .int64), (2, .int64)]

end Decoder

/-- The entry of a list. -/
def entryAt : DartValue → Nat → Option DartValue
  | .dvList _ values, i => values[i]?
  | _, _ => none

/-- A list with as many values as its length; a map has been read with twice as many. -/
def IsList : DartValue → Prop
  | .dvList length values => values.length = length
  | _ => False

/-- The integers are `int64_t`, as in every `dart_value`. -/
def Int64Entries : DartValue → Prop
  | .dvList _ values => ∀ n, .dvInteger n ∈ values → -2 ^ 63 ≤ n ∧ n < 2 ^ 63
  | _ => True

namespace Decoder

/-- If the message is accepted, it is a list, and every field is the entry at its position. -/
def Faithful (d : Decoder) (value : DartValue) : Prop :=
  ∀ stored, d.decode value = some stored →
    IsList value ∧ ∀ field ∈ stored, entryAt value field.1 = some field.2

/-- The type and the length are right, and the types of the entries that are read. -/
def Shaped (d : Decoder) (value : DartValue) : Prop :=
  ∃ values, value = .dvList d.length values ∧
    ∀ field ∈ d.fields, ∃ x, values[field.1]? = some x ∧ field.2.Reads x

/-- The entries that are read are numbers of the types of their fields. -/
def InRange (d : Decoder) (value : DartValue) : Prop :=
  ∀ field ∈ d.fields, ∃ x, entryAt value field.1 = some x ∧ field.2.Holds x

end Decoder

/-! ## §2. The decoders by their tables. -/

/-- The fields of a table. -/
def storeAll (values : List DartValue) : List (Nat × FieldType) → Option Stored
  | [] => some []
  | (i, t) :: fields =>
      (values[i]?.bind t.store).bind fun y => (storeAll values fields).map ((i, y) :: ·)

section Tables

variable {Message : Type} {values : List DartValue} {fields : List (Nat × FieldType)} {i : Nat}
  {t : FieldType} {stored : Message → Stored} {before : Stored → Stored}

/-- An integer is decoded. -/
theorem bind_integerAt {k : Int → Option Message} (ht : t ≠ .double)
    (h : ∀ n, integerAt values i = some n → (k n).map stored
      = (storeAll values fields).map fun rest => before ((i, .dvInteger (t.narrow n)) :: rest)) :
    ((integerAt values i).bind k).map stored
      = (storeAll values ((i, t) :: fields)).map before := by
  rw [storeAll]
  cases hx : values[i]? with
  | none => simp [integerAt, hx]
  | some x =>
      cases x with
      | dvInteger n =>
          have hn : integerAt values i = some n := by rw [integerAt, hx]; rfl
          have hstore : t.store (.dvInteger n) = some (.dvInteger (t.narrow n)) := if_neg ht
          rw [hn, Option.bind_some, h n hn, Option.bind_some, hstore, Option.bind_some,
            Option.map_map]
          rfl
      | dvFloat64 f64 =>
          have hstore : t.store (.dvFloat64 f64) = none := if_neg ht
          simp [integerAt, hx, decodeInteger, hstore]
      | _ => simp [integerAt, hx, decodeInteger, FieldType.store]

/-- A double is decoded. -/
theorem bind_float64At {k : BitVec 64 → Option Message}
    (h : ∀ x, (k x).map stored
      = (storeAll values fields).map fun rest => before ((i, .dvFloat64 x) :: rest)) :
    ((float64At values i).bind k).map stored
      = (storeAll values ((i, .double) :: fields)).map before := by
  rw [storeAll]
  cases hx : values[i]? with
  | none => simp [float64At, hx]
  | some x =>
      cases x with
      | dvFloat64 f64 =>
          have hf : float64At values i = some f64 := by rw [float64At, hx]; rfl
          rw [hf, Option.bind_some, h f64, Option.bind_some]
          show _ = ((some (DartValue.dvFloat64 f64)).bind _).map before
          rw [Option.bind_some, Option.map_map]
          rfl
      | _ => simp [float64At, hx, decodeFloat64, FieldType.store]

theorem toNat_ofInt32 (n : Int) : ((UInt32.ofInt n).toNat : Int) = n % 2 ^ 32 := by
  rw [UInt32.ofInt, UInt32.toNat_ofNat']
  omega

theorem toNat_ofInt8 (n : Int) : ((UInt8.ofInt n).toNat : Int) = n % 2 ^ 8 := by
  rw [UInt8.ofInt, UInt8.toNat_ofNat']
  omega

theorem toNat_ofInt64 (n : Int) : ((UInt64.ofInt n).toNat : Int) = n % 2 ^ 64 := by
  rw [UInt64.ofInt, UInt64.toNat_ofNat']
  omega

theorem toInt_ofInt64 {n : Int} (hn : -2 ^ 63 ≤ n ∧ n < 2 ^ 63) : (BitVec.ofInt 64 n).toInt = n := by
  rw [BitVec.toInt_ofInt]
  exact Int.bmod_eq_of_le (by omega) (by omega)

/-- The integers of the list. -/
theorem mem_of_integerAt {n : Int} (h : integerAt values i = some n) : .dvInteger n ∈ values := by
  obtain ⟨x, hx, hdecode⟩ := Option.bind_eq_some_iff.mp h
  cases x with
  | dvInteger m =>
      cases hdecode
      exact List.mem_of_getElem? hx
  | _ => cases hdecode

end Tables

section Decoders

variable {Message : Type} {value : DartValue} {values : List DartValue}

/-- A list of the right length is decoded. -/
theorem bind_decodeList {length : Nat} {fields : List (Nat × FieldType)}
    {k : List DartValue → Option Message} {stored : Message → Stored}
    (h : ∀ values, decodeList length value = some values →
      (k values).map stored = (storeAll values fields).map id) :
    ((decodeList length value).bind k).map stored
      = (decodeList length value).bind fun values => storeAll values fields := by
  rw [Option.map_bind]
  refine Option.bind_congr fun values hvalues => ?_
  rw [Function.comp_apply, h values hvalues, Option.map_id, id]

/-- The integers of the list that is decoded are `int64_t`. -/
theorem int64_of_integerAt {length i : Nat} {n : Int} (hv : Int64Entries value)
    (hvalues : decodeList length value = some values) (h : integerAt values i = some n) :
    (BitVec.ofInt 64 n).toInt = n := by
  cases value with
  | dvList m entries =>
      obtain ⟨-, heq⟩ := Option.ite_none_right_eq_some.mp hvalues
      cases heq
      exact toInt_ofInt64 (hv n (mem_of_integerAt h))
  | _ => cases hvalues

theorem decode_pointer_eq (hv : Int64Entries value) :
    (decodeSurfacePointerEventMessage value).map SurfacePointerEventMessage.stored
      = (decodeList 31 value).bind fun values =>
          storeAll values Decoder.surfacePointerEvent.fields := by
  refine bind_decodeList fun values hvalues => ?_
  have hint : ∀ {i n}, integerAt values i = some n → (BitVec.ofInt 64 n).toInt = n :=
    int64_of_integerAt hv hvalues
  refine bind_integerAt (by decide) fun surfaceHandle _ => ?_
  refine bind_integerAt (by decide) fun buttons hbuttons => ?_
  refine bind_integerAt (by decide) fun embedderId hembedderId => ?_
  refine bind_integerAt (by decide) fun deviceKind _ => ?_
  refine bind_float64At fun localPosX => ?_
  refine bind_float64At fun localPosY => ?_
  refine bind_integerAt (by decide) fun platformId hplatformId => ?_
  refine bind_integerAt (by decide) fun pointer hpointer => ?_
  refine bind_float64At fun globalPosX => ?_
  refine bind_float64At fun globalPosY => ?_
  refine bind_integerAt (by decide) fun timestamp htimestamp => ?_
  refine bind_integerAt (by decide) fun eventType _ => ?_
  refine bind_float64At fun widgetSizeX => ?_
  refine bind_float64At fun widgetSizeY => ?_
  refine bind_float64At fun scrollDeltaX => ?_
  refine bind_float64At fun scrollDeltaY => ?_
  show some (SurfacePointerEventMessage.stored _) = some _
  rw [SurfacePointerEventMessage.stored, toNat_ofInt32, hint hbuttons, hint hembedderId,
    toNat_ofInt8, hint hplatformId, hint hpointer, hint htimestamp, toNat_ofInt8]
  rfl

/-- **The decoders by their tables.** -/
theorem decode_eq (d : Decoder) (hv : Int64Entries value) :
    d.decode value = (decodeList d.length value).bind fun values => storeAll values d.fields := by
  have hhandle : ∀ values, decodeList 1 value = some values →
      ((integerAt values 0).bind fun n => some (UInt32.ofInt n)).map storedHandle
        = (storeAll values [(0, .uint32)]).map id := by
    intro values _
    refine bind_integerAt (by decide) fun surfaceHandle _ => ?_
    show some (storedHandle _) = some _
    rw [storedHandle, toNat_ofInt32]
    rfl
  cases d with
  | surfacePointerEvent => exact decode_pointer_eq hv
  | surfaceKeyboardKey =>
      refine bind_decodeList fun values hvalues => ?_
      refine bind_integerAt (by decide) fun surfaceHandle _ => ?_
      refine bind_integerAt (by decide) fun keycode _ => ?_
      refine bind_integerAt (by decide) fun eventType _ => ?_
      refine bind_integerAt (by decide) fun timestamp htimestamp => ?_
      show some (SurfaceKeyboardKeyMessage.stored _) = some _
      rw [SurfaceKeyboardKeyMessage.stored, toNat_ofInt32, toNat_ofInt64, toNat_ofInt8,
        int64_of_integerAt hv hvalues htimestamp]
      rfl
  | surfaceToplevelSetSize =>
      refine bind_decodeList fun values _ => ?_
      refine bind_integerAt (by decide) fun surfaceHandle _ => ?_
      refine bind_integerAt (by decide) fun sizeX _ => ?_
      refine bind_integerAt (by decide) fun sizeY _ => ?_
      show some (SurfaceToplevelSetSizeMessage.stored _) = some _
      rw [SurfaceToplevelSetSizeMessage.stored, toNat_ofInt32]
      rfl
  | surfaceToplevelSetMaximized =>
      refine bind_decodeList fun values _ => ?_
      refine bind_integerAt (by decide) fun surfaceHandle _ => ?_
      refine bind_integerAt (by decide) fun maximized _ => ?_
      show some (SurfaceToplevelSetMaximizedMessage.stored _) = some _
      rw [SurfaceToplevelSetMaximizedMessage.stored, toNat_ofInt32]
      rfl
  | surfaceToplevelClose => exact bind_decodeList hhandle
  | surfaceBeginMove => exact bind_decodeList hhandle
  | surfaceBeginResize =>
      refine bind_decodeList fun values _ => ?_
      refine bind_integerAt (by decide) fun surfaceHandle _ => ?_
      refine bind_integerAt (by decide) fun edges _ => ?_
      show some (SurfaceBeginResizeMessage.stored _) = some _
      rw [SurfaceBeginResizeMessage.stored, toNat_ofInt32]
      rfl
  | surfaceSetPosition =>
      refine bind_decodeList fun values _ => ?_
      refine bind_integerAt (by decide) fun surfaceHandle _ => ?_
      refine bind_integerAt (by decide) fun x _ => ?_
      refine bind_integerAt (by decide) fun y _ => ?_
      show some (SurfaceSetPositionMessage.stored _) = some _
      rw [SurfaceSetPositionMessage.stored, toNat_ofInt32]
      rfl

end Decoders

/-! ## §3. What is stored. -/

section Stores

variable {t : FieldType} {x y : DartValue} {values : List DartValue}
  {fields : List (Nat × FieldType)} {stored : Stored}

theorem store_isSome_iff : (t.store x).isSome ↔ t.Reads x := by
  cases x <;> cases t <;> simp [FieldType.store, FieldType.Reads]

/-- **A field keeps the numbers of its type.** -/
theorem eq_of_store_iff (h : t.store x = some y) : y = x ↔ t.Holds x := by
  cases x with
  | dvInteger n =>
      obtain ⟨hne, heq⟩ := Option.ite_none_left_eq_some.mp h
      cases heq
      rw [DartValue.dvInteger.injEq]
      cases t with
      | double => exact absurd rfl hne
      | int64 => exact iff_of_true rfl trivial
      | _ =>
          simp only [FieldType.narrow, FieldType.Holds]
          omega
  | dvFloat64 f64 =>
      obtain ⟨rfl, heq⟩ := Option.ite_none_right_eq_some.mp h
      cases heq
      exact iff_of_true rfl trivial
  | _ => cases h

theorem storeAll_cons {i : Nat} (h : storeAll values ((i, t) :: fields) = some stored) :
    ∃ x y rest, values[i]? = some x ∧ t.store x = some y ∧ storeAll values fields = some rest
      ∧ stored = (i, y) :: rest := by
  rw [storeAll] at h
  obtain ⟨y, hy, h⟩ := Option.bind_eq_some_iff.mp h
  obtain ⟨x, hx, hstore⟩ := Option.bind_eq_some_iff.mp hy
  obtain ⟨rest, hrest, rfl⟩ := Option.map_eq_some_iff.mp h
  exact ⟨x, y, rest, hx, hstore, hrest, rfl⟩

/-- Everything is stored if the entries are of the right types. -/
theorem storeAll_isSome_iff : (storeAll values fields).isSome ↔
    ∀ field ∈ fields, ∃ x, values[field.1]? = some x ∧ field.2.Reads x := by
  induction fields with
  | nil => exact iff_of_true rfl nofun
  | cons field fields ih =>
      obtain ⟨i, t⟩ := field
      rw [List.forall_mem_cons, ← ih, storeAll]
      cases values[i]? with
      | none => simp
      | some x =>
          cases hstore : t.store x with
          | none =>
              have hreads : ¬ t.Reads x := by
                rw [← store_isSome_iff, hstore]
                exact nofun
              simp [hstore, hreads]
          | some y =>
              have hreads : t.Reads x := by
                rw [← store_isSome_iff, hstore]
                rfl
              simp [hstore, hreads]

/-- **What is stored are the entries, if they are in range.** -/
theorem storeAll_eq_entries_iff (h : storeAll values fields = some stored) :
    (∀ field ∈ stored, values[field.1]? = some field.2) ↔
      ∀ field ∈ fields, ∃ x, values[field.1]? = some x ∧ field.2.Holds x := by
  induction fields generalizing stored with
  | nil =>
      cases h
      exact iff_of_true nofun nofun
  | cons field fields ih =>
      obtain ⟨i, t⟩ := field
      obtain ⟨x, y, rest, hx, hstore, hrest, rfl⟩ := storeAll_cons h
      rw [List.forall_mem_cons, List.forall_mem_cons, ih hrest]
      refine and_congr_left fun _ => ?_
      rw [hx, Option.some.injEq, eq_comm, eq_of_store_iff hstore]
      simp

/-- Every field is stored under its position. -/
theorem mem_storeAll (h : storeAll values fields = some stored) :
    ∀ field ∈ fields, ∃ y, (field.1, y) ∈ stored := by
  induction fields generalizing stored with
  | nil => exact nofun
  | cons field fields ih =>
      obtain ⟨i, t⟩ := field
      obtain ⟨x, y, rest, -, -, hrest, rfl⟩ := storeAll_cons h
      intro field hfield
      rcases List.mem_cons.mp hfield with rfl | hfield
      · exact ⟨y, List.mem_cons_self⟩
      · obtain ⟨y', hy'⟩ := ih hrest field hfield
        exact ⟨y', List.mem_cons_of_mem _ hy'⟩

end Stores

/-! ## §4. Messages. -/

namespace Decoder

variable {d : Decoder} {value value' : DartValue} {stored : Stored}

theorem decodeList_eq_some_iff {length : Nat} {values : List DartValue} :
    decodeList length value = some values ↔ value = .dvList length values := by
  cases value with
  | dvList n entries =>
      refine Option.ite_none_right_eq_some.trans ?_
      rw [DartValue.dvList.injEq, Option.some.injEq]
  | _ => exact iff_of_false nofun nofun

theorem decode_eq_some_iff (hv : Int64Entries value) : d.decode value = some stored ↔
    ∃ values, value = .dvList d.length values ∧ storeAll values d.fields = some stored := by
  rw [decode_eq d hv, Option.bind_eq_some_iff]
  exact exists_congr fun values => and_congr_left fun _ => decodeList_eq_some_iff

/-- Which values are accepted. -/
theorem decode_isSome_iff (hv : Int64Entries value) :
    (∃ stored, d.decode value = some stored) ↔ d.Shaped value := by
  unfold Shaped
  constructor
  · rintro ⟨stored, h⟩
    obtain ⟨values, rfl, hstored⟩ := (decode_eq_some_iff hv).mp h
    exact ⟨values, rfl, storeAll_isSome_iff.mp (by rw [hstored]; rfl)⟩
  · rintro ⟨values, rfl, hreads⟩
    obtain ⟨stored, hstored⟩ := Option.isSome_iff_exists.mp (storeAll_isSome_iff.mpr hreads)
    exact ⟨stored, (decode_eq_some_iff hv).mpr ⟨values, rfl, hstored⟩⟩

/-- The fields of a message are the entries, if they are in range. -/
theorem stored_eq_entries_iff (hv : Int64Entries value) (h : d.decode value = some stored) :
    (∀ field ∈ stored, entryAt value field.1 = some field.2) ↔ d.InRange value := by
  obtain ⟨values, rfl, hstored⟩ := (decode_eq_some_iff hv).mp h
  exact storeAll_eq_entries_iff hstored

/-- Messages that are faithful and decode to the same have the same entries. -/
theorem entries_eq_of_decode (hv : Int64Entries value) (h : d.decode value = some stored)
    (h' : d.decode value' = some stored) (hfaithful : d.Faithful value)
    (hfaithful' : d.Faithful value') :
    ∀ field ∈ d.fields, entryAt value field.1 = entryAt value' field.1 := by
  intro field hfield
  obtain ⟨values, -, hstored⟩ := (decode_eq_some_iff hv).mp h
  obtain ⟨y, hy⟩ := mem_storeAll hstored field hfield
  have hentry := (hfaithful stored h).2 _ hy
  have hentry' := (hfaithful' stored h').2 _ hy
  exact hentry.trans hentry'.symm

/-- **When a decoder is faithful**: when what it accepts is a list, no map, and its entries are in the
    ranges of their fields.  Then no two messages with different entries decode to the same. -/
theorem decode_faithful_iff (d : Decoder) (value : DartValue) (hv : Int64Entries value) :
    (d.Faithful value ↔ (d.Shaped value → IsList value ∧ d.InRange value)) ∧
      ∀ value' stored, d.decode value = some stored → d.decode value' = some stored →
        d.Faithful value → d.Faithful value' →
        ∀ field ∈ d.fields, entryAt value field.1 = entryAt value' field.1 := by
  refine ⟨?_, fun value' stored h h' => entries_eq_of_decode hv h h'⟩
  constructor
  · intro hfaithful hshaped
    obtain ⟨stored, hstored⟩ := (decode_isSome_iff hv).mpr hshaped
    obtain ⟨hlist, hentries⟩ := hfaithful stored hstored
    exact ⟨hlist, (stored_eq_entries_iff hv hstored).mp hentries⟩
  · intro hproper stored hstored
    obtain ⟨hlist, hrange⟩ := hproper ((decode_isSome_iff hv).mp ⟨stored, hstored⟩)
    exact ⟨hlist, (stored_eq_entries_iff hv hstored).mpr hrange⟩

/-- A position with a handle of 32 bits. -/
def positionArgs : DartValue :=
  .dvList 3 [.dvInteger 4294967295, .dvInteger (-40), .dvInteger 600]

theorem decode_faithful_iff_position : surfaceSetPosition.Faithful positionArgs := by
  have hv : Int64Entries positionArgs := by simp [Int64Entries, positionArgs]
  refine (decode_faithful_iff surfaceSetPosition positionArgs hv).1.mpr fun _ => ⟨rfl, ?_⟩
  simp [InRange, fields, entryAt, positionArgs, FieldType.Holds]

end Decoder

/-- The window of handle 1, by 33 bits. -/
def wideHandle : DartValue := .dvList 1 [.dvInteger 4294967297]

/-- A map with the key 1, as `message_read` yields it. -/
def readMap : DartValue := readValue (.kStdMap [(.kStdInt64 1, .kStdNull)])

/-- A map that is not empty is no list. -/
theorem isList_readMap_iff (es : List (StdValue × StdValue)) :
    IsList (readValue (.kStdMap es)) ↔ es = [] := by
  have hlength : ∀ es : List (StdValue × StdValue),
      (dartEntries (fun v => v.toNat) .dvList es).length = 2 * es.length := by
    intro es
    induction es with
    | nil => rfl
    | cons e es ih =>
        rw [dartEntries, List.length_cons, List.length_cons, List.length_cons, ih]
        omega
  unfold readValue
  rw [dartValue]
  show _ = _ ↔ _
  rw [hlength, ← List.length_eq_zero_iff]
  omega

/-- **A handle that is too wide and a map both close the window 1.** -/
theorem not_faithful_close :
    (Int64Entries wideHandle ∧ ¬ Decoder.surfaceToplevelClose.Faithful wideHandle) ∧
      Int64Entries readMap ∧ ¬ Decoder.surfaceToplevelClose.Faithful readMap := by
  have hwide : Decoder.surfaceToplevelClose.decode wideHandle = some [(0, .dvInteger 1)] := rfl
  have hmap : Decoder.surfaceToplevelClose.decode readMap = some [(0, .dvInteger 1)] := rfl
  refine ⟨⟨by simp [Int64Entries, wideHandle], fun hfaithful => ?_⟩, ?_, fun hfaithful => ?_⟩
  · have hentry := (hfaithful _ hwide).2 (0, .dvInteger 1) List.mem_cons_self
    cases hentry
  · simp [Int64Entries, readMap, readValue, dartValue, dartEntries]
  · have hlist := (hfaithful _ hmap).1
    cases (isList_readMap_iff _).mp hlist

end FlutterWlroots.Messages
