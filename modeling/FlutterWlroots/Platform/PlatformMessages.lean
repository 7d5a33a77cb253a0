/-
  FlutterWlroots.Platform.PlatformMessages — platform messages, from the engine to the answer.

  `engine_cb_platform_message` handles the channel `wlroots` itself and hands the messages of other
  channels to the plugin that is registered for their channel: text input or the mouse cursor.  A
  plugin says whether it has handled the message.  Everything that is not handled comes to one
  place, where the failure is sent.

  A call ends early where the source leaves undefined what happens: an object that has been freed, a
  byte outside a message, the tokens or the text, or a field of `obj` that nobody has assigned.

    • `textInputHandleMessage`, `cursorHandleMessage` — the plugins,
    • `engineCbPlatformMessage`                       — the callback,
    • `embedder`                                      — the runs from the start on.
-/
import FlutterWlroots.Codec.JsonDecode
import FlutterWlroots.Codec.JsonEncode
import FlutterWlroots.Codec.MessageReadScan
import FlutterWlroots.Platform.Methods
import FlutterWlroots.TextInput.TextInput

namespace FlutterWlroots.Platform

open Lib FlutterWlroots.Compositor FlutterWlroots.Codec FlutterWlroots.PlatformChannel
open FlutterWlroots.TextInput (TextInputState)
open FlutterWlroots.TextInput.TextInputState (Keysym)
open FlutterWlroots.Input (PointerEvent)
open FlutterWlroots.StandardMessageCodec (readNameAndArgs)

/-! ## §1. Messages. -/

/-- `FlutterPlatformMessage`: its size and channel, the bytes and where they are. -/
structure FlutterPlatformMessage where
  structSize : Nat
  channel : CString
  message : List UInt8
  address : Nat

/-- `sizeof(FlutterPlatformMessage)`: three sizes and pointers, and two more. -/
def sizeofPlatformMessage : Nat := 40

/-- The instance and `g_text_input`. -/
structure Embedder where
  fwr : FwrInstance
  textInput : TextInputState

/-- What the compositor runs on: arithmetic, the C library, and the socket, whose name fits into
    `sun_path`. -/
structure Runtime where
  target : Target
  textTarget : TextInput.Target
  strtod : CString → BitVec 64
  percentG : BitVec 64 → CString
  wlSocket : CString
  short : wlSocket.strlen < 108

/-- What is answered while a message is handled: by wlroots, and by `malloc` for the response. -/
structure Environment extends Answers where
  base : Nat
  aligned : base % 8 = 0

/-- Why a call has no end. -/
inductive MessageStop where
  | fault (f : Fault)
  /-- A byte outside a message, the tokens or the text. -/
  | outOfBounds
  /-- A field of `obj` that nothing has been assigned to. -/
  | unassigned
  | outOfFuel
  deriving DecidableEq, Repr

/-- Where a decoder stops without an `errno`. -/
def MessageStop.ofDecode : DecodeStop → Option MessageStop
  | .errno _ => none
  | .outOfBounds => some .outOfBounds
  | .outOfFuel => some .outOfFuel

/-- What a message leads to beside a change of the state. -/
inductive PlatformCall where
  | action (a : Action)
  | setXcursor (xcursorName : String)
  /-- What `platch_respond` has encoded as JSON. -/
  | respondJson (json_result : JsonValue)

/-- `SendPlatformMessageResponse`. -/
def PlatformCall.isResponse : PlatformCall → Bool
  | .action (.respond _) => true
  | .respondJson _ => true
  | _ => false

/-- How often a response is sent. -/
def responses (calls : List PlatformCall) : Nat := calls.countP PlatformCall.isResponse

/-- What a handler leaves and does, and whether the message is handled. -/
abbrev ChannelHandled := Except MessageStop (Embedder × List PlatformCall × Bool)

/-- The message is left to the end of the callback. -/
def unhandled (e : Embedder) : ChannelHandled := .ok (e, [], false)

/-! ## §2. Text input. -/

/-- `platch_respond_success_json`; without a value the result is null. -/
def platchRespondSuccessJson (r : Runtime) (returnValue : Option JsonValue) : List PlatformCall :=
  let json_result := returnValue.getD .kJsonNull
  match platchEncodeJson r.percentG (.kJSONMethodCallSuccess json_result) with
  | .ok _ => [.respondJson json_result]
  | .error _ => []

/-- `obj.method` and `obj.json_arg`.  The method is compared, and `platch_free_obj` looks at the
    argument whatever the method is. -/
def assignedCall (obj : JsonPlatchObj) (message : List UInt8) : Except MessageStop JsonMethodCall :=
  match obj.method, obj.json_arg with
  | some method, some json_arg =>
      return { method := cString message method, json_arg := json_arg.load message }
  | _, _ => throw .unassigned

/-- The log message of `TextInput.setEditingState`, which prints the text. -/
def logText (call : JsonMethodCall) (s : TextInputState) : Except MessageStop Unit :=
  if call.method = .ofLiteral "TextInput.setEditingState" ∧ s.text.strlen = none then
    throw .outOfBounds
  else return ()

/-- `text_input_handle_message`, once the message is decoded. -/
def answerCall (r : Runtime) (e : Embedder) (call : JsonMethodCall) : ChannelHandled :=
  match e.textInput.textInputHandleMessage r.textTarget call with
  | none => throw .outOfBounds
  | some (textInput, handled, results) => do
      logText call textInput
      return ({ e with textInput }, results.flatMap (platchRespondSuccessJson r), handled)

/-- `text_input_handle_message`.  The bytes are copied and a NUL is put behind them; an empty
    message has no copy. -/
def textInputHandleMessage (r : Runtime) (e : Embedder) (m : FlutterPlatformMessage) :
    ChannelHandled :=
  let buffer := if m.message.isEmpty then [] else m.message ++ [0]
  match (platchDecodeJson r.strtod m.message.isEmpty m.message.length .kJSONMethodCall).run
      ⟨buffer, 0⟩ with
  | .error stop _ =>
      match MessageStop.ofDecode stop with
      | none => unhandled e
      | some stop => throw stop
  | .ok obj c => do
      let call ← assignedCall obj c.message
      answerCall r e call

/-! ## §3. The mouse cursor. -/

/-- The comparisons of `flutter_cursor_to_xcursor`, in their order. -/
def xcursorNames : List (String × String) :=
  [("basic", "left_ptr"), ("none", "left_ptr"), ("click", "pointer"), ("pointer", "pointer"),
   ("text", "xterm"), ("verticalText", "vertical-text"), ("resizeLeft", "left_side"),
   ("resizeRight", "right_side"), ("resizeUp", "top_side"), ("resizeDown", "bottom_side"),
   ("resizeUpLeft", "top_left_corner"), ("resizeUpRight", "top_right_corner"),
   ("resizeDownLeft", "bottom_left_corner"), ("resizeDownRight", "bottom_right_corner"),
   ("resizeColumn", "col-resize"), ("resizeRow", "row-resize"), ("resizeUpDown", "ns-resize"),
   ("resizeLeftRight", "ew-resize"), ("resizeUpLeftDownRight", "nwse-resize"),
   ("resizeUpRightDownLeft", "nesw-resize"), ("grab", "grab"), ("grabbing", "grabbing"),
   ("move", "fleur"), ("allScroll", "all-scroll"), ("forbidden", "not-allowed"),
   ("noDrop", "no-drop"), ("wait", "wait"), ("progress", "progress"),
   ("contextMenu", "context-menu"), ("help", "help"), ("cell", "cell"), ("precise", "crosshair"),
   ("crosshair", "crosshair"), ("copy", "copy"), ("alias", "alias"), ("zoomIn", "zoom-in"),
   ("zoomOut", "zoom-out")]

/-- `flutter_cursor_to_xcursor`. -/
def flutterCursorToXcursor (flutterKind : CString) : String :=
  match xcursorNames.find? fun entry => CString.ofLiteral entry.1 = flutterKind with
  | some (_, xcursorName) => xcursorName
  | none => "left_ptr"

/-- `stdmap_get_str`: keys of another type are not equal to a string. -/
def stdmapGetStr (entries : List (DecodedValue × DecodedValue)) (key : CString) :
    Option DecodedValue :=
  let isKey := fun (entry : DecodedValue × DecodedValue) =>
    match entry.1 with
    | .kStdString s => decide (s = key)
    | _ => false
  (entries.find? isKey).map (·.2)

/-- The cursor that the argument of `activateSystemCursor` names. -/
def cursorKind : DecodedValue → Option CString
  | .kStdMap entries =>
      match stdmapGetStr entries (.ofLiteral "kind") with
      | some (.kStdString kind) => some kind
      | _ => none
  | _ => none

/-- The branch `activateSystemCursor` in front of the response. -/
def activateCursor (e : Embedder) (std_arg : DecodedValue) : Embedder × List PlatformCall :=
  match cursorKind std_arg with
  | some kind =>
      let xcursorName := flutterCursorToXcursor kind
      let compositor := e.fwr.compositor.activateSystemCursor xcursorName
      ({ e with fwr := e.fwr.setCompositor compositor }, [.setXcursor xcursorName])
  | none => (e, [])

/-- `platch_respond_success_std` without a value. -/
def platchRespondSuccessStd (env : Environment) : List PlatformCall :=
  (platchRespond env.base (.success .kStdNull)).map .action

/-- `cursor_handle_message`. -/
def cursorHandleMessage (env : Environment) (e : Embedder) (m : FlutterPlatformMessage) :
    ChannelHandled :=
  if m.message.length = 0 then unhandled e
  else
    match runDecode m.address m.message .kStandardMethodCall with
    | .error stop _ =>
        match MessageStop.ofDecode stop with
        | none => unhandled e
        | some stop => throw stop
    | .ok (.kStandardMethodCall method std_arg) _ =>
        if method = .ofLiteral "activateSystemCursor" then
          let (e, calls) := activateCursor e std_arg
          return (e, calls ++ platchRespondSuccessStd env, true)
        else if method = .ofLiteral "createSystemCursor"
            ∨ method = .ofLiteral "deleteSystemCursor" then
          return (e, platchRespondSuccessStd env, true)
        else unhandled e
    | .ok _ _ => throw .unassigned

/-! ## §4. The callback. -/

/-- What the name of a message is compared with. -/
def Method.name : Method → String
  | .surfaceToplevelSetSize => "surface_toplevel_set_size"
  | .surfaceToplevelSetMaximized => "surface_toplevel_set_maximized"
  | .surfaceToplevelClose => "surface_toplevel_close"
  | .surfaceFocus => "surface_focus"
  | .surfaceBeginMove => "surface_begin_move"
  | .surfaceBeginResize => "surface_begin_resize"
  | .surfaceSetPosition => "surface_set_position"
  | .surfaceRequestResize => "surface_request_resize"
  | .surfaceEndResize => "surface_end_resize"
  | .surfacePointerEvent => "surface_pointer_event"
  | .popupPointerEvent => "popup_pointer_event"
  | .surfaceKeyboardKey => "surface_keyboard_key"
  | .surfaceClearFocus => "surface_clear_focus"
  | .setDirectInputMode => "set_direct_input_mode"
  | .isCompositor => "is_compositor"
  | .compositorReady => "compositor_ready"
  | .getSocketPaths => "get_socket_paths"
  | .setVsyncOutput => "set_vsync_output"
  | .setVsyncRateLimit => "set_vsync_rate_limit"
  | .setOutputMode => "set_output_mode"
  | .setOutputPosition => "set_output_position"
  | .setOutputScale => "set_output_scale"
  | .setPrimaryOutput => "set_primary_output"

/-- The methods, in the order of the comparisons. -/
def Method.all : List Method :=
  [.surfaceToplevelSetSize, .surfaceToplevelSetMaximized, .surfaceToplevelClose,
   .surfaceFocus, .surfaceBeginMove, .surfaceBeginResize, .surfaceSetPosition,
   .surfaceRequestResize, .surfaceEndResize, .surfacePointerEvent, .popupPointerEvent,
   .surfaceKeyboardKey, .surfaceClearFocus, .setDirectInputMode, .isCompositor,
   .compositorReady, .getSocketPaths, .setVsyncOutput, .setVsyncRateLimit, .setOutputMode,
   .setOutputPosition, .setOutputScale, .setPrimaryOutput]

/-- The branch that is taken. -/
def Method.ofName (methodName : CString) : Option Method :=
  Method.all.find? fun m => CString.ofLiteral m.name = methodName

/-- The channel `wlroots`. -/
def wlrootsMessage (r : Runtime) (env : Environment) (e : Embedder) (m : FlutterPlatformMessage) :
    ChannelHandled :=
  match (readNameAndArgs m.message).run 0 with
  | .error .returnsFalse _ => unhandled e
  | .error .outOfBounds _ => throw .outOfBounds
  | .error .outOfFuel _ => throw .outOfFuel
  | .ok (.dvString _ string, args) _ =>
      match Method.ofName (CString.ofMemory string) with
      | none => unhandled e
      | some method =>
          match e.fwr.handleMethod r.target env.toAnswers env.base args method with
          | .error f => throw (.fault f)
          | .ok (fwr, actions) => return ({ e with fwr }, actions.map .action, true)
  | .ok _ _ => unhandled e

/-- `plugin_channel_handlers`, in the order of the registration. -/
def pluginChannelHandlers (r : Runtime) (env : Environment) :
    List (CString × (Embedder → FlutterPlatformMessage → ChannelHandled)) :=
  [(.ofLiteral "flutter/textinput", textInputHandleMessage r),
   (.ofLiteral "flutter/mousecursor", cursorHandleMessage env)]

/-- The channels. -/
def channelMessage (r : Runtime) (env : Environment) (e : Embedder) (m : FlutterPlatformMessage) :
    ChannelHandled :=
  if m.channel = .ofLiteral "wlroots" then wlrootsMessage r env e m
  else
    match (pluginChannelHandlers r env).find? fun handler => m.channel = handler.1 with
    | some (_, handleMessage) => handleMessage e m
    | none => unhandled e

/-- `engine_cb_platform_message`. -/
def engineCbPlatformMessage (r : Runtime) (env : Environment) (e : Embedder)
    (m : FlutterPlatformMessage) : Except MessageStop (Embedder × List PlatformCall) :=
  if m.structSize ≠ sizeofPlatformMessage then return (e, [])
  else do
    let (e, calls, handled) ← channelMessage r env e m
    if handled then return (e, calls)
    else return (e, calls ++ [.action (.respond .failure)])

/-! ## §5. Runs. -/

/-- What happens to the compositor. -/
inductive EmbedderEvent where
  | input (e : PointerEvent)
  /-- A key that goes to the text. -/
  | key (keysym : Keysym) (unicode : UInt32) (pressed : Bool)
  /-- Clients and outputs have other sizes. -/
  | configure (toplevels : Ptr → Toplevel) (outputConfigs : Ptr → OutputConfig)
  /-- Maps of windows, shortcuts, clients and wlroots move the focus, and xdg surfaces come and go. -/
  | seat (seat : SeatFocus)
  | message (env : Environment) (m : FlutterPlatformMessage)

namespace Embedder

variable (r : Runtime) (e : Embedder)

def init : Embedder where
  fwr := .init r.wlSocket
  textInput := .init

/-- One event; none if it cannot come, or has no end. -/
def step : EmbedderEvent → Option Embedder
  | .input event =>
      if e.fwr.input.Deliverable event then
        (e.fwr.inputHandler (e.fwr.input.handle r.target.toTarget event)).toOption.map
          fun (fwr, _) => { e with fwr }
      else none
  | .key keysym unicode pressed =>
      (e.textInput.fwrTextInputHandleKey keysym unicode pressed).map
        fun (textInput, _) => { e with textInput }
  | .configure toplevels outputConfigs =>
      some { e with fwr := { e.fwr with toplevels, outputConfigs } }
  | .seat seat => some { e with fwr := { e.fwr with seat } }
  | .message env m => (engineCbPlatformMessage r env e m).toOption.map (·.1)

end Embedder

/-- The compositor, from its start on. -/
def embedder (r : Runtime) : Machine Embedder EmbedderEvent where
  init := .init r
  step := Embedder.step r

end FlutterWlroots.Platform
