/-
  FlutterWlroots.Codec.Messages — the arguments of platform messages (messages.c).

  A decoder takes a list of exactly its length and the integers and doubles at its positions; any
  other value is refused.  The fields are as wide as those of the structs in messages.h: a handle or
  an event type that does not fit is cut off.

  `message_read` also gives maps the type `dvList`, with twice as many values; an index behind the
  values does not occur.
-/
import FlutterWlroots.Codec.MessageRead

namespace FlutterWlroots.Messages

open StandardMessageCodec

/-! ## §1. DECODE. -/

/-- `DECODE_INTEGER`. -/
def decodeInteger : DartValue → Option Int
  | .dvInteger integer => some integer
  | _ => none

/-- `DECODE_FLOAT64`. -/
def decodeFloat64 : DartValue → Option (BitVec 64)
  | .dvFloat64 f64 => some f64
  | _ => none

/-- The values of a list of the length a decoder asks for. -/
def decodeList (length : Nat) : DartValue → Option (List DartValue)
  | .dvList n values => if n = length then some values else none
  | _ => none

def integerAt (values : List DartValue) (i : Nat) : Option Int := values[i]?.bind decodeInteger

def float64At (values : List DartValue) (i : Nat) : Option (BitVec 64) :=
  values[i]?.bind decodeFloat64

/-! ## §2. Messages. -/

/-- `struct surface_pointer_event_message`. -/
structure SurfacePointerEventMessage where
  surfaceHandle : UInt32
  buttons : BitVec 64
  embedderId : BitVec 64
  deviceKind : UInt8
  localPosX : BitVec 64
  localPosY : BitVec 64
  globalPosX : BitVec 64
  globalPosY : BitVec 64
  platformId : BitVec 64
  pointer : BitVec 64
  widgetSizeX : BitVec 64
  widgetSizeY : BitVec 64
  scrollDeltaX : BitVec 64
  scrollDeltaY : BitVec 64
  eventType : UInt8
  timestamp : BitVec 64
  deriving DecidableEq, Repr

/-- `decode_surface_pointer_event_message`. -/
def decodeSurfacePointerEventMessage (value : DartValue) : Option SurfacePointerEventMessage := do
  let values ← decodeList 31 value
  let surfaceHandle ← integerAt values 0
  let buttons ← integerAt values 1
  let embedderId ← integerAt values 7
  let deviceKind ← integerAt values 8
  let localPosX ← float64At values 11
  let localPosY ← float64At values 12
  let platformId ← integerAt values 15
  let pointer ← integerAt values 16
  let globalPosX ← float64At values 17
  let globalPosY ← float64At values 18
  let timestamp ← integerAt values 25
  let eventType ← integerAt values 26
  let widgetSizeX ← float64At values 27
  let widgetSizeY ← float64At values 28
  let scrollDeltaX ← float64At values 29
  let scrollDeltaY ← float64At values 30
  return {
    surfaceHandle := .ofInt surfaceHandle
    buttons := .ofInt 64 buttons
    embedderId := .ofInt 64 embedderId
    deviceKind := .ofInt deviceKind
    localPosX, localPosY, globalPosX, globalPosY
    platformId := .ofInt 64 platformId
    pointer := .ofInt 64 pointer
    widgetSizeX, widgetSizeY, scrollDeltaX, scrollDeltaY
    eventType := .ofInt eventType
    timestamp := .ofInt 64 timestamp }

/-- `struct surface_keyboard_key_message`. -/
structure SurfaceKeyboardKeyMessage where
  surfaceHandle : UInt32
  keycode : UInt64
  eventType : UInt8
  timestamp : BitVec 64

/-- `decode_surface_keyboard_key_message`. -/
def decodeSurfaceKeyboardKeyMessage (value : DartValue) : Option SurfaceKeyboardKeyMessage := do
  let values ← decodeList 4 value
  let surfaceHandle ← integerAt values 0
  let keycode ← integerAt values 1
  let eventType ← integerAt values 2
  let timestamp ← integerAt values 3
  return {
    surfaceHandle := .ofInt surfaceHandle
    keycode := .ofInt keycode
    eventType := .ofInt eventType
    timestamp := .ofInt 64 timestamp }

/-- `struct surface_toplevel_set_size_message`. -/
structure SurfaceToplevelSetSizeMessage where
  surfaceHandle : UInt32
  sizeX : Int
  sizeY : Int

/-- `decode_surface_toplevel_set_size_message`. -/
def decodeSurfaceToplevelSetSizeMessage (value : DartValue) :
    Option SurfaceToplevelSetSizeMessage := do
  let values ← decodeList 3 value
  let surfaceHandle ← integerAt values 0
  let sizeX ← integerAt values 1
  let sizeY ← integerAt values 2
  return { surfaceHandle := .ofInt surfaceHandle, sizeX, sizeY }

/-- `struct surface_toplevel_set_maximized_message`. -/
structure SurfaceToplevelSetMaximizedMessage where
  surfaceHandle : UInt32
  maximized : Int

/-- `decode_surface_toplevel_set_maximized_message`. -/
def decodeSurfaceToplevelSetMaximizedMessage (value : DartValue) :
    Option SurfaceToplevelSetMaximizedMessage := do
  let values ← decodeList 2 value
  let surfaceHandle ← integerAt values 0
  let maximized ← integerAt values 1
  return { surfaceHandle := .ofInt surfaceHandle, maximized }

/-- `decode_surface_toplevel_close_message`; the message is the handle. -/
def decodeSurfaceToplevelCloseMessage (value : DartValue) : Option UInt32 := do
  let values ← decodeList 1 value
  let surfaceHandle ← integerAt values 0
  return .ofInt surfaceHandle

/-- `decode_surface_begin_move_message`; the message is the handle. -/
def decodeSurfaceBeginMoveMessage (value : DartValue) : Option UInt32 := do
  let values ← decodeList 1 value
  let surfaceHandle ← integerAt values 0
  return .ofInt surfaceHandle

/-- `struct surface_begin_resize_message`. -/
structure SurfaceBeginResizeMessage where
  surfaceHandle : UInt32
  edges : Int

/-- `decode_surface_begin_resize_message`. -/
def decodeSurfaceBeginResizeMessage (value : DartValue) : Option SurfaceBeginResizeMessage := do
  let values ← decodeList 2 value
  let surfaceHandle ← integerAt values 0
  let edges ← integerAt values 1
  return { surfaceHandle := .ofInt surfaceHandle, edges }

/-- `struct surface_set_position_message`. -/
structure SurfaceSetPositionMessage where
  surfaceHandle : UInt32
  x : Int
  y : Int

/-- `decode_surface_set_position_message`. -/
def decodeSurfaceSetPositionMessage (value : DartValue) : Option SurfaceSetPositionMessage := do
  let values ← decodeList 3 value
  let surfaceHandle ← integerAt values 0
  let x ← integerAt values 1
  let y ← integerAt values 2
  return { surfaceHandle := .ofInt surfaceHandle, x, y }

end FlutterWlroots.Messages
