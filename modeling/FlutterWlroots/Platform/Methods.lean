/-
  FlutterWlroots.Platform.Methods — the methods of the channel `wlroots`.

  `engine_cb_platform_message` compares the name of a message with one method after the other.  About
  half of the methods leave their arguments to a decoder of messages.c, which refuses what it does not
  expect; the others look at the elements of a list themselves and take a default for an element that
  is not of the type they expect.

    • `Method`       — the methods, in the order of the comparisons,
    • `handleMethod` — what each of them does and answers,
    • `focusTarget`  — the window that a message gives the keyboard focus to.
-/
import FlutterWlroots.Codec.JsonValue
import FlutterWlroots.Desktop.PointerOutcomes
import FlutterWlroots.Platform.FwrInstance

namespace FlutterWlroots.Platform

open Lib Lib.CInt Lib.StateRun FlutterWlroots.Compositor FlutterWlroots.Codec
open FlutterWlroots.Messages FlutterWlroots.PlatformChannel
open FlutterWlroots.Input (InputInstance Call SurfaceUnder Double)
open FlutterWlroots.StandardMessageCodec (DartValue)

/-! ## §1. Answers. -/

/-- A response to a message. -/
inductive Response where
  /-- `method_call_null_success`. -/
  | nullSuccess
  /-- NULL, of size 0. -/
  | failure
  /-- What `platch_respond` has encoded. -/
  | std (response : MethodCallResponse List)

/-- What a handler does beside changing the instance. -/
inductive Action where
  | input (call : Call)
  | sendClose (view : Ptr)
  | clearKeyboardFocus
  | notifyKey (timeMsec : UInt32) (keycode : UInt32) (pressed : Bool)
  | sendAllOutputs (outputs : List Ptr)
  | respond (response : Response)

/-- What a handler leaves and does. -/
abbrev Handled := Except Fault (FwrInstance × List Action)

/-- `platch_respond`: nothing is sent if the response cannot be encoded; `base` is the address of the
    buffer. -/
def platchRespond (base : Nat) (response : MethodCallResponse List) : List Action :=
  match platchEncode base (.kStandardMethodCallResponse response) with
  | .ok _ => [.respond (.std response)]
  | .error _ => []

/-- `platch_respond_error_std`, without details. -/
def platchRespondErrorStd (base : Nat) (errorCode errorMsg : String) : List Action :=
  platchRespond base
    (.failure (CString.ofLiteral errorCode) (some (CString.ofLiteral errorMsg)) .kStdNull)

/-! ## §2. Arguments. -/

/-- The values of a list that is long enough. -/
def argumentList (length : Nat) : DartValue → Option (List DartValue)
  | .dvList n values => if length ≤ n then some values else none
  | _ => none

/-- An integer, 0 in place of anything else. -/
def integerOrZero (values : List DartValue) (i : Nat) : Int := (integerAt values i).getD 0

/-- A `uint32_t` from an integer. -/
def handleOrZero (values : List DartValue) (i : Nat) : UInt32 := .ofInt (integerOrZero values i)

/-- An `int` from an integer. -/
def intOrZero (values : List DartValue) (i : Nat) : Int := toInt32 (integerOrZero values i)

/-- `values[i].type == dvBool && values[i].boolean`. -/
def isTrueAt (values : List DartValue) (i : Nat) : Bool :=
  match values[i]? with
  | some (.dvBool boolean) => boolean
  | _ => false

/-- The `double` 1.0. -/
def one : Double := 0x3FF0000000000000

/-- A double or an integer, 1.0 in place of anything else. -/
def scaleAt (c : Target) (values : List DartValue) (i : Nat) : Double :=
  match values[i]? with
  | some (.dvFloat64 f64) => f64
  | some (.dvInteger integer) => c.ofInt integer
  | _ => one

/-! ## §3. Handlers. -/

namespace FwrInstance

variable (c : Target) (a : Answers) (s : FwrInstance)

/-- What a call of input.c does to the instance: a size is scheduled, a view gets the focus. -/
def applyCall (s : FwrInstance) : Call → Except Fault FwrInstance
  | .setSize p width height => .ok (s.setToplevel p ((s.toplevels p).setSize width height))
  | .focusView p => s.fwrFocusView p
  | _ => .ok s

/-- A handler of input.c; its answer is the answer. -/
def inputHandler (handled : Input.Handled) : Handled := do
  let (input, calls) ← handled
  let act := fun call =>
    match call with
    | .respond true => .respond .nullSuccess
    | .respond false => .respond .failure
    | call => .input call
  let s ← calls.foldlM applyCall { s with input }
  return (s, calls.map act)

/-- The view of a handle; without one the message has come too late, which is a success. -/
def withView (surfaceHandle : UInt32) (act : Ptr → FwrInstance × List Action) : Handled :=
  match s.compositor.views.get surfaceHandle with
  | none => return (s, [.respond .nullSuccess])
  | some p => do
      let _ ← s.compositor.view p
      let (s, actions) := act p
      return (s, actions ++ [.respond .nullSuccess])

/-- The same, for a view that gets the focus. -/
def withFocus (surfaceHandle : UInt32) (act : Ptr → List Action) : Handled :=
  match s.compositor.views.get surfaceHandle with
  | none => return (s, [.respond .nullSuccess])
  | some p => do
      let s ← s.fwrFocusView p
      return (s, act p ++ [.respond .nullSuccess])

/-- `fwr_handle_surface_toplevel_set_size`. -/
def fwrHandleSurfaceToplevelSetSize (args : DartValue) : Handled :=
  match decodeSurfaceToplevelSetSizeMessage args with
  | none => return (s, [.respond .failure])
  | some message =>
      s.withView message.surfaceHandle fun p =>
        (s.setToplevel p ((s.toplevels p).requestSize (toInt32 message.sizeX)
          (toInt32 message.sizeY)), [])

/-- `fwr_handle_surface_toplevel_set_maximized`. -/
def fwrHandleSurfaceToplevelSetMaximized (args : DartValue) : Handled :=
  match decodeSurfaceToplevelSetMaximizedMessage args with
  | none => return (s, [.respond .failure])
  | some message =>
      s.withView message.surfaceHandle fun p =>
        (s.setToplevel p ((s.toplevels p).setMaximized (message.maximized ≠ 0)), [])

/-- `fwr_handle_surface_toplevel_close`. -/
def fwrHandleSurfaceToplevelClose (args : DartValue) : Handled :=
  match decodeSurfaceToplevelCloseMessage args with
  | none => return (s, [.respond .failure])
  | some surfaceHandle =>
      s.withView surfaceHandle fun p =>
        (s, if (s.toplevels p).isToplevel then [.sendClose p] else [])

/-- `fwr_handle_surface_focus`; it shares the decoder of close. -/
def fwrHandleSurfaceFocus (args : DartValue) : Handled :=
  match decodeSurfaceToplevelCloseMessage args with
  | none => return (s, [.respond .failure])
  | some surfaceHandle => s.withFocus surfaceHandle fun p => [.input (.focusView p)]

/-- `fwr_handle_surface_set_position`. -/
def fwrHandleSurfaceSetPosition (args : DartValue) : Handled :=
  match decodeSurfaceSetPositionMessage args with
  | none => return (s, [.respond .failure])
  | some message => do
      let compositor ← s.compositor.fwrHandleSurfaceSetPosition message.surfaceHandle message.x
        message.y a.layout
      return (s.setCompositor compositor, [.respond .nullSuccess])

/-- `fwr_handle_surface_keyboard_key_message`. -/
def fwrHandleSurfaceKeyboardKeyMessage (args : DartValue) : Handled :=
  match decodeSurfaceKeyboardKeyMessage args with
  | none => return (s, [.respond .failure])
  | some message =>
      s.withFocus message.surfaceHandle fun p =>
        [.input (.focusView p),
          .notifyKey (.ofInt (message.timestamp.toInt.tdiv 1000)) message.keycode.toUInt32
            (message.eventType ≠ 0)]

/-- `fwr_handle_surface_request_resize`, which decodes inline. -/
def fwrHandleSurfaceRequestResize (args : DartValue) : Handled :=
  match argumentList 4 args with
  | none => return (s, [.respond .failure])
  | some values =>
      s.withView (handleOrZero values 0) fun p =>
        (s.setToplevel p ((s.toplevels p).requestResize (intOrZero values 1) (intOrZero values 2)
          (.ofInt 64 (integerOrZero values 3))), [])

/-- `fwr_handle_surface_end_resize`, which decodes inline. -/
def fwrHandleSurfaceEndResize (args : DartValue) : Handled :=
  match argumentList 1 args with
  | none => return (s, [.respond .failure])
  | some values =>
      s.withView (handleOrZero values 0) fun p =>
        (s.setToplevel p (s.toplevels p).endResize, [])

end FwrInstance

/-! ## §4. Dispatch. -/

/-- The methods, in the order of `engine_cb_platform_message`. -/
inductive Method where
  | surfaceToplevelSetSize
  | surfaceToplevelSetMaximized
  | surfaceToplevelClose
  | surfaceFocus
  | surfaceBeginMove
  | surfaceBeginResize
  | surfaceSetPosition
  | surfaceRequestResize
  | surfaceEndResize
  | surfacePointerEvent
  | popupPointerEvent
  | surfaceKeyboardKey
  | surfaceClearFocus
  | setDirectInputMode
  | isCompositor
  | compositorReady
  | getSocketPaths
  | setVsyncOutput
  | setVsyncRateLimit
  | setOutputMode
  | setOutputPosition
  | setOutputScale
  | setPrimaryOutput
  deriving DecidableEq, Repr

namespace FwrInstance

variable (c : Target) (a : Answers) (base : Nat) (s : FwrInstance)

/-- Success, or the error of a method that changes an output. -/
def respondTo (errorMsg : String) (result : FwrInstance × Bool) : FwrInstance × List Action :=
  (result.1,
    if result.2 then [.respond .nullSuccess] else platchRespondErrorStd base "error" errorMsg)

/-- `surface_clear_focus`. -/
def surfaceClearFocus : FwrInstance := { s with seat := { s.seat with focusedSurface := none } }

/-- `set_direct_input_mode`. -/
def setDirectInputMode (args : DartValue) : FwrInstance :=
  match argumentList 2 args with
  | none => s
  | some values =>
      { s with input := { s.input with
          directInputMode := isTrueAt values 0, directInputSurface := handleOrZero values 1 } }

/-- `set_vsync_output`. -/
def setVsyncOutput (args : DartValue) : Except Fault FwrInstance :=
  match argumentList 1 args with
  | none => return s
  | some values => do
      let compositor ← s.compositor.fwrSetVsyncOutput (handleOrZero values 0)
      return s.setCompositor compositor

/-- `set_vsync_rate_limit`. -/
def setVsyncRateLimit (args : DartValue) : FwrInstance :=
  match argumentList 1 args with
  | none => s
  | some values => s.fwrSetVsyncRateLimit (intOrZero values 0)

/-- `set_output_mode`. -/
def setOutputMode (args : DartValue) : Except Fault (FwrInstance × Bool) :=
  match argumentList 4 args with
  | none => return (s, false)
  | some values =>
      s.fwrSetOutputMode a (handleOrZero values 0) (intOrZero values 1) (intOrZero values 2)
        (intOrZero values 3)

/-- `set_output_position`. -/
def setOutputPosition (args : DartValue) : Except Fault (FwrInstance × Bool) :=
  match argumentList 3 args with
  | none => return (s, false)
  | some values =>
      s.fwrSetOutputPosition (handleOrZero values 0) (intOrZero values 1) (intOrZero values 2)

/-- `set_output_scale`. -/
def setOutputScale (args : DartValue) : Except Fault (FwrInstance × Bool) :=
  match argumentList 2 args with
  | none => return (s, false)
  | some values =>
      s.fwrSetOutputScale a (handleOrZero values 0) (c.scale (scaleAt c values 1))

/-- The response of `get_socket_paths`. -/
def socketPaths : MethodCallResponse List :=
  .success (.kStdMap
    [(.kStdString (.ofLiteral "wayland"), .kStdString s.wlSocket),
     (.kStdString (.ofLiteral "x"), .kStdString (.ofLiteral ""))])

/-- The branch of `engine_cb_platform_message` for a method. -/
def handleMethod (args : DartValue) : Method → Handled
  | .surfaceToplevelSetSize => s.fwrHandleSurfaceToplevelSetSize args
  | .surfaceToplevelSetMaximized => s.fwrHandleSurfaceToplevelSetMaximized args
  | .surfaceToplevelClose => s.fwrHandleSurfaceToplevelClose args
  | .surfaceFocus => s.fwrHandleSurfaceFocus args
  | .surfaceBeginMove => s.inputHandler (s.input.fwrHandleSurfaceBeginMove args)
  | .surfaceBeginResize => s.inputHandler (s.input.fwrHandleSurfaceBeginResize args)
  | .surfaceSetPosition => s.fwrHandleSurfaceSetPosition a args
  | .surfaceRequestResize => s.fwrHandleSurfaceRequestResize args
  | .surfaceEndResize => s.fwrHandleSurfaceEndResize args
  | .surfacePointerEvent =>
      s.inputHandler (s.input.fwrHandleSurfacePointerEventMessage c.toTarget args a.surf)
  | .popupPointerEvent =>
      s.inputHandler (s.input.fwrHandlePopupPointerEventMessage args a.surf)
  | .surfaceKeyboardKey => s.fwrHandleSurfaceKeyboardKeyMessage args
  | .surfaceClearFocus =>
      return (s.surfaceClearFocus,
        [.input .clearFocus, .clearKeyboardFocus, .respond .nullSuccess])
  | .setDirectInputMode => return (s.setDirectInputMode args, [.respond .nullSuccess])
  | .isCompositor => return (s, [.respond .nullSuccess])
  | .compositorReady =>
      return (s, [.sendAllOutputs s.compositor.outputs, .respond .nullSuccess])
  | .getSocketPaths => return (s, platchRespond base s.socketPaths)
  | .setVsyncOutput => do
      let s ← s.setVsyncOutput args
      return (s, [.respond .nullSuccess])
  | .setVsyncRateLimit => return (s.setVsyncRateLimit args, [.respond .nullSuccess])
  | .setOutputMode => do
      let result ← s.setOutputMode a args
      return respondTo base "Failed to set output mode" result
  | .setOutputPosition => do
      let result ← s.setOutputPosition args
      return respondTo base "Failed to set output position" result
  | .setOutputScale => do
      let result ← s.setOutputScale c a args
      return respondTo base "Failed to set output scale" result
  | .setPrimaryOutput => return (s, [.respond .nullSuccess])

/-- The view that a message gives the keyboard focus to. -/
def focusTarget (args : DartValue) : Method → Option Ptr
  | .surfaceFocus =>
      (decodeSurfaceToplevelCloseMessage args).bind s.compositor.views.get
  | .surfaceKeyboardKey =>
      (decodeSurfaceKeyboardKeyMessage args).bind fun message =>
        s.compositor.views.get message.surfaceHandle
  | .surfaceBeginMove => s.input.focusTarget (.beginMove args)
  | .surfaceBeginResize => s.input.focusTarget (.beginResize args)
  | .surfacePointerEvent => a.surf.bind fun surf => s.input.focusTarget (.surfacePointer args surf)
  | _ => none

/-- The window that gets the focus, if any, can get it. -/
def Focusable (args : DartValue) (m : Method) : Prop :=
  ∀ p ∈ s.focusTarget a args m, s.CanFocus p

end FwrInstance

end FlutterWlroots.Platform
