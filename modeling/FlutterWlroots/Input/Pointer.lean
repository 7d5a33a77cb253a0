/-
  FlutterWlroots.Input.Pointer — the mouse, from the hardware through Flutter to clients (input.c).

  A hardware event goes to Flutter, which tests what is under the cursor and sends a message back for
  the surface or popup it has hit; only then is the client told, through the seat.  What the message
  does not carry is kept in between: the parameters of the last scroll on each axis, the time of the
  last button event, and the buttons each surface was told of.  Three cases skip the detour: a grab
  that moves or resizes a window, direct input, and a popup grab of wlroots.

  A handler returns the new state and its calls to the seat, to wlroots and to Flutter.  The engine
  runs, so `send_flutter_mouse_event` always sends; scene nodes are left out.
-/
import FlutterWlroots.Codec.Messages
import FlutterWlroots.Compositor.Events
import FlutterWlroots.Lib.Double
import FlutterWlroots.Lib.SlotTable

namespace FlutterWlroots.Input

open Lib Lib.CInt FlutterWlroots.Compositor FlutterWlroots.Messages
open FlutterWlroots.StandardMessageCodec (DartValue)

/-! ## §1. State. -/

/-- A `double`, by its bits. -/
abbrev Double := BitVec 64

/-- The arithmetic of `double`, and what an `int` becomes that a number does not fit into. -/
structure Target where
  sub : Double → Double → Double
  mul : Double → Double → Double
  div : Double → Double → Double
  ofInt : Int → Double
  outside : Double → BitVec 32

/-- Conversion to `int`. -/
def Target.toInt (c : Target) (x : Double) : Int := Lib.Double.toInt 32 c.outside x

/-- `struct fwr_scroll_cache`. -/
structure FwrScrollCache where
  delta : Double
  deltaDiscrete : Int
  source : UInt32
  relativeDirection : UInt32
  orientation : UInt32
  timeMsec : UInt32
  valid : Bool
  deriving DecidableEq, Repr

/-- `struct fwr_button_cache`. -/
structure FwrButtonCache where
  timeMsec : UInt32
  valid : Bool
  deriving DecidableEq, Repr

/-- `enum fwr_grab_type`. -/
inductive FwrGrabType where
  | none
  | move
  | resize
  deriving DecidableEq, Repr

/-- `struct fwr_grab_state`. -/
structure FwrGrabState where
  type : FwrGrabType
  viewHandle : UInt32
  startCursorX : Double
  startCursorY : Double
  startViewX : Int
  startViewY : Int
  startViewWidth : Int
  startViewHeight : Int
  resizeEdges : UInt32
  deriving DecidableEq, Repr

/-- `struct fwr_input_state`, without the fields that nothing reads. -/
structure FwrInputState where
  flMouseButtonMask : BitVec 32
  flutterCursorX : Double
  flutterCursorY : Double
  lastScrollX : FwrScrollCache
  lastScrollY : FwrScrollCache
  lastButton : FwrButtonCache
  grab : FwrGrabState
  deriving DecidableEq, Repr

/-- `struct fwr_instance` with what input.c uses of it, and `surface_button_states`.  `popupGrab` says
    that the pointer grab of the seat is not its default one. -/
structure InputInstance where
  compositor : Instance
  input : FwrInputState
  cursorX : Double
  cursorY : Double
  directInputMode : Bool
  directInputSurface : UInt32
  popupGrab : Bool
  surfaceButtonStates : SlotTable UInt32 (BitVec 64)

/-- `struct wlr_pointer_button_event`. -/
structure PointerButtonEvent where
  timeMsec : UInt32
  button : UInt32
  pressed : Bool
  deriving DecidableEq, Repr

/-- `struct wlr_pointer_axis_event`. -/
structure PointerAxisEvent where
  timeMsec : UInt32
  orientation : UInt32
  delta : Double
  deltaDiscrete : Int
  source : UInt32
  relativeDirection : UInt32
  deriving DecidableEq, Repr

/-- The `wlr_surface` of a view or popup: its size, and what `wlr_surface_surface_at` answers for the
    position of a message. -/
structure SurfaceUnder where
  surface : Nat
  width : Int
  height : Int
  surfaceAt : Option (Nat × Double × Double)
  deriving DecidableEq, Repr

/-- `FlutterPointerPhase`, as far as it is sent. -/
inductive FlutterPointerPhase where
  | up
  | down
  | move
  | hover
  deriving DecidableEq, Repr

/-- `FlutterPointerEvent`, without the time; `scroll` is the kind of signal. -/
structure FlutterPointerEvent where
  phase : FlutterPointerPhase
  x : Double
  y : Double
  scroll : Bool
  scrollDeltaX : Double
  scrollDeltaY : Double
  buttons : BitVec 64
  deriving DecidableEq, Repr

/-- A call to the seat, to wlroots or to Flutter. -/
inductive Call where
  | notifyEnter (surface : Nat) (x y : Double)
  | notifyMotion (timeMsec : UInt32) (x y : Double)
  | notifyButton (timeMsec : UInt32) (button : UInt32) (pressed : Bool)
  | notifyAxis (event : PointerAxisEvent)
  | notifyFrame
  | clearFocus
  | focusView (view : Ptr)
  | setSize (view : Ptr) (width height : Int)
  | sendPointerEvent (event : FlutterPointerEvent)
  | surfacePosition (handle : UInt32) (x y width height : Int)
  | surfaceGrabEnd (handle : UInt32) (x y : Int) (cursorX cursorY : Double)
  | respond (success : Bool)
  deriving DecidableEq, Repr

/-- What a handler leaves and calls. -/
abbrev Handled := Except Fault (InputInstance × List Call)

/-! ## §2. Buttons. -/

/-- `BTN_LEFT`. -/
abbrev btnLeft : UInt32 := 0x110

/-- `flutter_button_mask_from_linux`. -/
def flutterButtonMaskFromLinux (button : UInt32) : BitVec 64 :=
  if button = btnLeft then 1
  else if button = 0x111 then 2
  else if button = 0x112 then 4
  else if button = 0x116 then 8
  else if button = 0x115 then 16
  else 0

/-- `flutter_mouse_button_to_linux`. -/
def flutterMouseButtonToLinux (flutterButton : BitVec 64) : Option UInt32 :=
  if flutterButton = 1 then some btnLeft
  else if flutterButton = 2 then some 0x111
  else if flutterButton = 4 then some 0x112
  else if flutterButton = 8 then some 0x116
  else if flutterButton = 16 then some 0x115
  else none

/-- `flutter_buttons`. -/
def flutterButtons : List (BitVec 64) := [1, 2, 4, 8, 16]

/-- The loop over `flutter_buttons`: what has changed between two masks. -/
def changedButtons (prevButtons nextButtons : BitVec 64) : List (UInt32 × Bool) :=
  flutterButtons.filterMap fun flutterButton =>
    if (prevButtons ^^^ nextButtons) &&& flutterButton = 0 then none
    else (flutterMouseButtonToLinux flutterButton).map
      fun linuxButton => (linuxButton, nextButtons &&& flutterButton ≠ 0)

/-- The phase of a button event. -/
def buttonPhase (pressed : Bool) : FlutterPointerPhase := if pressed then .down else .up

/-! ## §3. Scrolling. -/

/-- The parameters of an axis event, for the message that will come. -/
def scrollCache (event : PointerAxisEvent) : FwrScrollCache :=
  { delta := event.delta, deltaDiscrete := event.deltaDiscrete, source := event.source
    relativeDirection := event.relativeDirection, orientation := event.orientation
    timeMsec := event.timeMsec, valid := true }

/-- `event->orientation == WL_POINTER_AXIS_HORIZONTAL_SCROLL`. -/
def isHorizontal (event : PointerAxisEvent) : Bool := event.orientation = 1

/-- The axis event a cache was filled from. -/
def cachedEvent (cache : FwrScrollCache) : PointerAxisEvent :=
  { timeMsec := cache.timeMsec, orientation := cache.orientation, delta := cache.delta
    deltaDiscrete := cache.deltaDiscrete, source := cache.source
    relativeDirection := cache.relativeDirection }

/-! ## §4. Pointer messages. -/

/-- The constants `pointerDownEvent` to `pointerScrollEvent`, and every other number. -/
inductive PointerEventType where
  | down
  | up
  | hover
  | move
  | enter
  | exit
  | scroll
  | other
  deriving DecidableEq, Repr

def pointerEventType (eventType : UInt8) : PointerEventType :=
  if eventType = 1 then .down
  else if eventType = 2 then .up
  else if eventType = 3 then .hover
  else if eventType = 4 then .move
  else if eventType = 5 then .enter
  else if eventType = 6 then .exit
  else if eventType = 7 then .scroll
  else .other

/-- `(uint32_t)(message.timestamp / 1000)`. -/
def messageTime (message : SurfacePointerEventMessage) : UInt32 :=
  .ofInt (message.timestamp.toInt.tdiv 1000)

/-- The surface under the pointer, with the position in it. -/
def surfaceUnder (message : SurfacePointerEventMessage) (surf : SurfaceUnder) :
    Nat × Double × Double :=
  surf.surfaceAt.getD (surf.surface, message.localPosX, message.localPosY)

/-- The position of a message in its surface: that of a subsurface as it is, that of the parent scaled
    from the size of the widget to that of the surface. -/
def scaledPosition (c : Target) (message : SurfacePointerEventMessage) (surf : SurfaceUnder) :
    Double × Double :=
  let (surface, x, y) := surfaceUnder message surf
  if surface = surf.surface ∧ Lib.Double.isPositive message.widgetSizeX
      ∧ Lib.Double.isPositive message.widgetSizeY ∧ 0 < surf.width ∧ 0 < surf.height then
    let sx := c.div (c.ofInt surf.width) message.widgetSizeX
    let sy := c.div (c.ofInt surf.height) message.widgetSizeY
    if Lib.Double.isFinite sx ∧ Lib.Double.isFinite sy ∧ Lib.Double.isPositive sx
        ∧ Lib.Double.isPositive sy then (c.mul x sx, c.mul y sy)
    else (x, y)
  else (x, y)

namespace InputInstance

variable (c : Target) (s : InputInstance)

/-! ## §5. The button table. -/

/-- `get_surface_buttons`. -/
def getSurfaceButtons (surfaceHandle : UInt32) : BitVec 64 :=
  (s.surfaceButtonStates.get surfaceHandle).getD 0

/-- `set_surface_buttons`; without a free slot there is only a log message. -/
def setSurfaceButtons (surfaceHandle : UInt32) (buttons : BitVec 64) : InputInstance :=
  { s with
    surfaceButtonStates :=
      (s.surfaceButtonStates.put surfaceHandle buttons).getD s.surfaceButtonStates }

/-- `fwr_clear_surface_buttons`. -/
def fwrClearSurfaceButtons (surfaceHandle : UInt32) : InputInstance :=
  { s with surfaceButtonStates := s.surfaceButtonStates.erase surfaceHandle }

/-- `send_flutter_mouse_event`. -/
def sendFlutterMouseEvent (phase : FlutterPointerPhase) (scroll : Bool)
    (scrollDeltaX scrollDeltaY : Double) : Call :=
  .sendPointerEvent
    { phase, x := s.cursorX, y := s.cursorY, scroll, scrollDeltaX, scrollDeltaY
      buttons := s.input.flMouseButtonMask.setWidth 64 }

/-! ## §6. Grabs. -/

/-- `send_surface_position`. -/
def sendSurfacePosition (view : FwrView) : Call :=
  .surfacePosition view.handle view.x view.y view.width view.height

/-- `send_grab_end`, if the view is still there, and no grab any more. -/
def endGrab : Handled :=
  let ended := { s with
    input := { s.input with grab := { s.input.grab with type := .none, viewHandle := 0 } } }
  match s.compositor.views.get s.input.grab.viewHandle with
  | some p => do
      let view ← s.compositor.view p
      return (ended, [.surfaceGrabEnd view.handle view.x view.y s.cursorX s.cursorY])
  | none => return (ended, [])

/-- The `FWR_GRAB_MOVE` branch of `process_cursor_motion` and of the pointer messages. -/
def moveGrab (cursorX cursorY : Double) : Handled :=
  match s.compositor.views.get s.input.grab.viewHandle with
  | some p => do
      let view ← s.compositor.view p
      let dx := c.sub cursorX s.input.grab.startCursorX
      let dy := c.sub cursorY s.input.grab.startCursorY
      let moved := { view with
        x := toInt32 (s.input.grab.startViewX + c.toInt dx)
        y := toInt32 (s.input.grab.startViewY + c.toInt dy) }
      return ({ s with compositor := s.compositor.setView p moved }, [sendSurfacePosition moved])
  | none => return (s, [])

/-- The box of a window while its edges are dragged. -/
def resizedBox (grab : FwrGrabState) (view : FwrView) (dx dy : Int) : WlrBox :=
  let newHeight :=
    if grab.resizeEdges &&& 2 ≠ 0 then toInt32 (grab.startViewHeight + dy)
    else if grab.resizeEdges &&& 1 ≠ 0 then toInt32 (grab.startViewHeight - dy)
    else grab.startViewHeight
  let newWidth :=
    if grab.resizeEdges &&& 8 ≠ 0 then toInt32 (grab.startViewWidth + dx)
    else if grab.resizeEdges &&& 4 ≠ 0 then toInt32 (grab.startViewWidth - dx)
    else grab.startViewWidth
  { x := if grab.resizeEdges &&& 4 ≠ 0 then toInt32 (grab.startViewX + dx) else view.x
    y := if grab.resizeEdges &&& 1 ≠ 0 then toInt32 (grab.startViewY + dy) else view.y
    width := max newWidth 100
    height := max newHeight 100 }

/-- The `FWR_GRAB_RESIZE` branch of `process_cursor_motion` and of the pointer messages; the surface
    of a view has the toplevel role. -/
def resizeGrab (cursorX cursorY : Double) : Handled :=
  match s.compositor.views.get s.input.grab.viewHandle with
  | some p => do
      let view ← s.compositor.view p
      let dx := c.sub cursorX s.input.grab.startCursorX
      let dy := c.sub cursorY s.input.grab.startCursorY
      let box := resizedBox s.input.grab view (c.toInt dx) (c.toInt dy)
      let resized := { view with x := box.x, y := box.y, width := box.width, height := box.height }
      return ({ s with compositor := s.compositor.setView p resized },
        [.setSize p box.width box.height, sendSurfacePosition resized])
  | none => return (s, [])

/-- The window moved or resized by the grab. -/
def dragGrab (cursorX cursorY : Double) : Handled :=
  match s.input.grab.type with
  | .none => return (s, [])
  | .move => s.moveGrab c cursorX cursorY
  | .resize => s.resizeGrab c cursorX cursorY

/-- The start of a grab. -/
def startGrab (type : FwrGrabType) (view : FwrView) (cursorX cursorY : Double) : FwrGrabState :=
  { s.input.grab with
    type, viewHandle := view.handle, startCursorX := cursorX, startCursorY := cursorY
    startViewX := view.x, startViewY := view.y }

/-- The further fields of a resize grab. -/
def startResize (view : FwrView) (edges : UInt32) (grab : FwrGrabState) : FwrGrabState :=
  { grab with startViewWidth := view.width, startViewHeight := view.height, resizeEdges := edges }

/-- `fwr_handle_surface_begin_move`. -/
def fwrHandleSurfaceBeginMove (args : DartValue) : Handled :=
  match decodeSurfaceBeginMoveMessage args with
  | none => return (s, [.respond false])
  | some surfaceHandle =>
      match s.compositor.views.get surfaceHandle with
      | none => return (s, [.respond true])
      | some p => do
          let view ← s.compositor.view p
          let grab := s.startGrab .move view s.cursorX s.cursorY
          return ({ s with input := { s.input with grab } }, [.focusView p, .respond true])

/-- `fwr_handle_surface_begin_resize`. -/
def fwrHandleSurfaceBeginResize (args : DartValue) : Handled :=
  match decodeSurfaceBeginResizeMessage args with
  | none => return (s, [.respond false])
  | some message =>
      match s.compositor.views.get message.surfaceHandle with
      | none => return (s, [.respond true])
      | some p => do
          let view ← s.compositor.view p
          let grab := startResize view (.ofInt message.edges)
            (s.startGrab .resize view s.cursorX s.cursorY)
          return ({ s with input := { s.input with grab } }, [.focusView p, .respond true])

/-- `xdg_toplevel_request_move`. -/
def xdgToplevelRequestMove (p : Ptr) : Handled := do
  let view ← s.compositor.view p
  let grab := s.startGrab .move view s.input.flutterCursorX s.input.flutterCursorY
  return ({ s with input := { s.input with grab } }, [.focusView p])

/-- `xdg_toplevel_request_resize`. -/
def xdgToplevelRequestResize (p : Ptr) (edges : UInt32) : Handled := do
  let view ← s.compositor.view p
  let grab := startResize view edges
    (s.startGrab .resize view s.input.flutterCursorX s.input.flutterCursorY)
  return ({ s with input := { s.input with grab } }, [.focusView p])

/-! ## §7. Hardware. -/

/-- The view that direct input goes to. -/
def directView : Option Ptr :=
  if s.directInputMode ∧ s.directInputSurface ≠ 0 then
    s.compositor.views.get s.directInputSurface
  else none

/-- `process_cursor_motion`, once the cursor is where it is now; `usesSsd` is the flag of the view
    that direct input goes to. -/
def processCursorMotion (timeMsec : UInt32) (usesSsd : Bool) : Handled :=
  match s.input.grab.type, s.directView with
  | .none, some p => do
      let view ← s.compositor.view p
      let titlebarHeight : Int := if usesSsd then 38 else 0
      let sx := c.sub s.cursorX (c.ofInt view.x)
      let sy := c.sub (c.sub s.cursorY (c.ofInt view.y)) (c.ofInt titlebarHeight)
      return (s, [.notifyEnter view.xdgSurface sx sy, .notifyMotion timeMsec sx sy, .notifyFrame])
  | .none, none =>
      let phase := if s.input.flMouseButtonMask ≠ 0 then .move else .hover
      return (s, [s.sendFlutterMouseEvent phase false 0 0])
  | _, _ => do
      let (s, calls) ← s.dragGrab c s.cursorX s.cursorY
      return (s, calls ++ [s.sendFlutterMouseEvent .move false 0 0])

/-- `on_server_cursor_motion` and `on_server_cursor_motion_absolute`; wlroots says where the cursor
    is then. -/
def onServerCursorMotion (cursorX cursorY : Double) (timeMsec : UInt32) (usesSsd : Bool) : Handled :=
  { s with cursorX, cursorY }.processCursorMotion c timeMsec usesSsd

/-- The mask with the button set or cleared. -/
def setButtonMask (event : PointerButtonEvent) : InputInstance :=
  let mask := s.input.flMouseButtonMask.setWidth 64
  let button := flutterButtonMaskFromLinux event.button
  { s with
    input := { s.input with
      flMouseButtonMask :=
        (if event.pressed then mask ||| button else mask &&& ~~~button).setWidth 32 } }

/-- `on_server_cursor_button`. -/
def onServerCursorButton (event : PointerButtonEvent) : Handled :=
  let s := s.setButtonMask event
  let notify := [.notifyButton event.timeMsec event.button event.pressed, .notifyFrame]
  let send := s.sendFlutterMouseEvent (buttonPhase event.pressed) false 0 0
  if event.pressed = false ∧ event.button = btnLeft ∧ s.input.grab.type ≠ .none then do
    let (s, calls) ← s.endGrab
    return (s, calls ++ s.sendFlutterMouseEvent .up false 0 0 :: notify)
  else if s.directView.isSome then return (s, notify)
  else if s.popupGrab then return (s, send :: notify)
  else return (
    { s with input := { s.input with lastButton := { timeMsec := event.timeMsec, valid := true } } },
    [send])

/-- `on_server_cursor_axis`. -/
def onServerCursorAxis (event : PointerAxisEvent) : Handled :=
  let delta := Lib.Double.neg event.delta
  if s.directView.isSome then return (s, [.notifyAxis event, .notifyFrame])
  else if isHorizontal event then
    return ({ s with input := { s.input with lastScrollX := scrollCache event } },
      [s.sendFlutterMouseEvent .hover true delta 0])
  else
    return ({ s with input := { s.input with lastScrollY := scrollCache event } },
      [s.sendFlutterMouseEvent .hover true 0 delta])

/-! ## §8. Messages of Flutter. -/

/-- The seat is told of the buttons that have changed since the last message for `key`. -/
def notifyButtons (key : UInt32) (message : SurfacePointerEventMessage) :
    InputInstance × List Call :=
  let buttonTime :=
    if s.input.lastButton.valid then s.input.lastButton.timeMsec else messageTime message
  let told := { s with
    input := { s.input with lastButton := { s.input.lastButton with valid := false } } }
  (told.setSurfaceButtons key message.buttons,
    (changedButtons (s.getSurfaceButtons key) message.buttons).map
      (fun (button, pressed) => .notifyButton buttonTime button pressed) ++ [.notifyFrame])

/-- The horizontal part of a scroll message. -/
def notifyScrollX (message : SurfacePointerEventMessage) : InputInstance × List Call :=
  if Lib.Double.isZero message.scrollDeltaX = false ∧ s.input.lastScrollX.valid then
    ({ s with
        input := { s.input with lastScrollX := { s.input.lastScrollX with valid := false } } },
      [.notifyAxis (cachedEvent s.input.lastScrollX)])
  else (s, [])

/-- The vertical part of a scroll message. -/
def notifyScrollY (message : SurfacePointerEventMessage) : InputInstance × List Call :=
  if Lib.Double.isZero message.scrollDeltaY = false ∧ s.input.lastScrollY.valid then
    ({ s with
        input := { s.input with lastScrollY := { s.input.lastScrollY with valid := false } } },
      [.notifyAxis (cachedEvent s.input.lastScrollY)])
  else (s, [])

/-- The scroll branch of both handlers. -/
def notifyScroll (message : SurfacePointerEventMessage) : InputInstance × List Call :=
  let (s, callsX) := s.notifyScrollX message
  let (s, callsY) := s.notifyScrollY message
  (s, callsX ++ callsY ++ [.notifyFrame])

/-- A pointer message while a window is moved or resized. -/
def grabbedPointerEvent (message : SurfacePointerEventMessage) : Handled :=
  match pointerEventType message.eventType with
  | .up => s.endGrab
  | .move => s.dragGrab c message.globalPosX message.globalPosY
  | .hover => s.dragGrab c message.globalPosX message.globalPosY
  | _ => return (s, [])

/-- A pointer message for a view, without a grab. -/
def viewPointerEvent (message : SurfacePointerEventMessage) (p : Ptr) (surf : SurfaceUnder) :
    InputInstance × List Call :=
  let surface := (surfaceUnder message surf).1
  let (x, y) := scaledPosition c message surf
  match pointerEventType message.eventType with
  | .enter => (s, [.notifyEnter surface x y, .notifyFrame])
  | .exit => (s, [.clearFocus])
  | .hover =>
      (s, [.notifyEnter surface x y, .notifyMotion (messageTime message) x y, .notifyFrame])
  | .move =>
      (s, [.notifyEnter surface x y, .notifyMotion (messageTime message) x y, .notifyFrame])
  | .down =>
      let (s, calls) := s.notifyButtons message.surfaceHandle message
      (s, .notifyEnter surface x y :: .focusView p :: calls)
  | .up =>
      let (s, calls) := s.notifyButtons message.surfaceHandle message
      (s, .notifyEnter surface x y :: .focusView p :: calls)
  | .scroll => s.notifyScroll message
  | .other => (s, [])

/-- The position of Flutter's cursor kept. -/
def trackCursor (message : SurfacePointerEventMessage) : InputInstance :=
  { s with
    input := { s.input with
      flutterCursorX := message.globalPosX, flutterCursorY := message.globalPosY } }

/-- `fwr_handle_surface_pointer_event_message`. -/
def fwrHandleSurfacePointerEventMessage (args : DartValue) (surf : Option SurfaceUnder) : Handled :=
  match decodeSurfacePointerEventMessage args with
  | none => return (s, [.respond false])
  | some message =>
      match s.compositor.views.get message.surfaceHandle with
      | none => return (s, [.respond true])
      | some p => do
          let _ ← s.compositor.view p
          match surf with
          | none => return (s, [.respond true])
          | some surf =>
              let s := s.trackCursor message
              if s.input.grab.type ≠ .none then
                let (s, calls) ← s.grabbedPointerEvent c message
                return (s, calls ++ [.respond true])
              else
                let (s, calls) := s.viewPointerEvent c message p surf
                return (s, calls ++ [.respond true])

/-- A pointer message for a popup. -/
def popupPointerEvent (message : SurfacePointerEventMessage) (surf : SurfaceUnder) :
    InputInstance × List Call :=
  let (surface, x, y) := surfaceUnder message surf
  match pointerEventType message.eventType with
  | .enter => (s, [.notifyEnter surface x y, .notifyFrame])
  -- the focus is left to the parent or the next popup
  | .exit => (s, [.notifyFrame])
  | .hover =>
      (s, [.notifyEnter surface x y, .notifyMotion (messageTime message) x y, .notifyFrame])
  | .move =>
      (s, [.notifyEnter surface x y, .notifyMotion (messageTime message) x y, .notifyFrame])
  | .down =>
      let (s, calls) := s.notifyButtons (message.surfaceHandle + 200000) message
      (s, .notifyEnter surface x y :: calls)
  | .up =>
      let (s, calls) := s.notifyButtons (message.surfaceHandle + 200000) message
      (s, .notifyEnter surface x y :: calls)
  | .scroll => s.notifyScroll message
  | .other => (s, [])

/-- `fwr_handle_popup_pointer_event_message`. -/
def fwrHandlePopupPointerEventMessage (args : DartValue) (surf : Option SurfaceUnder) : Handled :=
  match decodeSurfacePointerEventMessage args with
  | none => return (s, [.respond false])
  | some message =>
      match s.compositor.popups.get message.surfaceHandle with
      | none => return (s, [.respond true])
      | some p => do
          let _ ← s.compositor.popup p
          match surf with
          | none => return (s, [.respond true])
          | some surf =>
              let (s, calls) := s.popupPointerEvent message surf
              return (s, calls ++ [.respond true])

end InputInstance

end FlutterWlroots.Input
