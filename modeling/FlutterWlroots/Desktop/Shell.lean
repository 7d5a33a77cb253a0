/-
  FlutterWlroots.Desktop.Shell — the desktop: windows on both sides of the platform channel.

  To the compositor and the mouse come the parts of a window that only toplevels have: whether it is
  activated, who draws its decorations, and its node in the scene graph, which answers what is under
  the pointer (the scene itself is there from the start).  The seat has a surface with the keyboard
  focus.  On the other side of a FIFO channel is the table of surfaces that Dart keeps.

  The messages modelled are those that change a `Surface` in Dart; client credentials are left out.
  A message with a title or an app id of more than 253 bytes cannot be decoded there.  What clients
  are told (configure events) and the stacking order are left out too.
-/
import FlutterWlroots.Lib.Channel
import FlutterWlroots.Compositor.WindowFrames
import FlutterWlroots.Input.PointerEvents

namespace FlutterWlroots.Desktop

open Lib Lib.StateRun FlutterWlroots.Compositor FlutterWlroots.Input FlutterWlroots.Messages
open FlutterWlroots.StandardMessageCodec (DartValue)

/-! ## §1. The Dart side. -/

/-- `Surface` in surface.dart. -/
structure Surface where
  handle : UInt32
  textureId : Int
  title : String
  appId : String
  width : Int
  height : Int
  bufferWidth : Int
  bufferHeight : Int
  maximized : Bool
  activated : Bool
  geoX : Int
  geoY : Int
  usesCsd : Bool
  outputId : UInt32
  outputScale : Rat
deriving DecidableEq, Repr

/-- A message on the channel "wlroots". -/
inductive Message where
  | surfaceMap (surface : Surface)
  | surfaceUnmap (handle : UInt32)
  | surfaceGeometry (handle : UInt32) (width height bufferWidth bufferHeight geoX geoY : Int)
  | surfaceDecoration (handle : UInt32) (usesCsd : Bool)
  | surfaceTitle (handle : UInt32) (title appId : String)
deriving DecidableEq, Repr

/-- The size of the text is one byte of the message.  `WRITE_SIZE_LEN` stores a longer size over the
    start of the message, where a decoder then finds no type. -/
def fitsMessage (text : String) : Bool := text.utf8ByteSize ≤ 253

/-- Dart can decode the message. -/
def Message.readable : Message → Bool
  | .surfaceMap surface => fitsMessage surface.title && fitsMessage surface.appId
  | .surfaceTitle _ title appId => fitsMessage title && fitsMessage appId
  | _ => true

/-- `Compositor.surfaces`. -/
abbrev Surfaces := UInt32 → Option Surface

namespace Surfaces

variable (surfaces : Surfaces)

/-- A surface changed, if there is one under the handle. -/
def modify (handle : UInt32) (f : Surface → Surface) : Surfaces :=
  Function.update surfaces handle ((surfaces handle).map f)

/-- The handlers of `Compositor()`. -/
def handle : Message → Surfaces
  | .surfaceMap surface => Function.update surfaces surface.handle (some surface)
  | .surfaceUnmap handle => Function.update surfaces handle none
  | .surfaceGeometry handle width height bufferWidth bufferHeight geoX geoY =>
      surfaces.modify handle fun surface =>
        { surface with width, height, bufferWidth, bufferHeight, geoX, geoY }
  | .surfaceDecoration handle usesCsd =>
      surfaces.modify handle fun surface => { surface with usesCsd }
  | .surfaceTitle handle title appId =>
      surfaces.modify handle fun surface => { surface with title, appId }

/-- A message that arrives; one that cannot be decoded has no handler. -/
def receive (m : Message) : Surfaces := if m.readable then surfaces.handle m else surfaces

end Surfaces

/-! ## §2. State. -/

/-- `struct wlr_scene_node`. -/
structure SceneNode where
  x : Int
  y : Int
  enabled : Bool
deriving DecidableEq, Repr

/-- The rest of `struct fwr_view`; `mapped` is the flag of its `wlr_surface`, and `title` and
    `appId` are the texts of its `wlr_xdg_toplevel`. -/
structure Window where
  title : Option String
  appId : Option String
  activated : Bool
  usesSsd : Bool
  maximized : Bool
  decoration : Option Nat
  sceneTree : Option SceneNode
  mapped : Bool
deriving DecidableEq, Repr

/-- `FWR_SSD_TITLEBAR_HEIGHT`. -/
abbrev fwrSsdTitlebarHeight : Int := 38

namespace Window

/-- As `fwr_new_xdg_toplevel` leaves it. -/
def fresh : Window where
  title := none
  appId := none
  activated := false
  usesSsd := false
  maximized := false
  decoration := none
  sceneTree := none
  mapped := false

variable (w : Window)

/-- The texts that messages carry. -/
def titleText : String := w.title.getD ""

def appIdText : String := w.appId.getD ""

/-- Both texts fit. -/
def textsFit : Bool := fitsMessage w.titleText && fitsMessage w.appIdText

/-- `titlebar_offset`. -/
def titlebarOffset : Int := if w.usesSsd then fwrSsdTitlebarHeight else 0

/-- `wlr_scene_node_set_position`, if there is a node. -/
def setPosition (x y : Int) : Window :=
  { w with sceneTree := w.sceneTree.map fun node => { node with x, y } }

/-- `wlr_scene_node_set_enabled`, if there is a node. -/
def setEnabled (enabled : Bool) : Window :=
  { w with sceneTree := w.sceneTree.map fun node => { node with enabled } }

/-- `view_create_scene`. -/
def viewCreateScene (x y : Int) : Window :=
  match w.sceneTree with
  | some _ => w
  | none => { w with sceneTree := some ⟨x, y, true⟩ }

/-- The window is in the scene and not hidden there. -/
def isShown : Bool := w.sceneTree.any (·.enabled)

end Window

/-- The desktop: `viewOf` is the data of the xdg surface of a `wlr_surface`, `sizes` are the current
    sizes of the surfaces, `focusedSurface` is that of the keyboard state of the seat. -/
structure Shell where
  mouse : InputInstance
  windows : Ptr → Window
  viewOf : Nat → Option Ptr
  sizes : Nat → Int × Int
  focusedSurface : Option Nat
  currentFocusedView : UInt32
  channel : Channel Message Surfaces

/-- `xkb_keysym_t`, as far as it is looked at. -/
inductive KeySym where
  | tab
  | left
  | right
  | up
  | other
deriving DecidableEq, Repr

/-- `struct wlr_keyboard_key_event` with the modifiers that are held, and the size of the first
    output. -/
structure KeyEvent where
  pressed : Bool
  alt : Bool
  shift : Bool
  logo : Bool
  sym : KeySym
  outputWidth : Int
  outputHeight : Int
deriving DecidableEq, Repr

namespace Shell

variable (s : Shell)

/-- The desktop after initialisation. -/
def init : Shell where
  mouse := .init
  windows := fun _ => .fresh
  viewOf := fun _ => none
  sizes := fun _ => (0, 0)
  focusedSurface := none
  currentFocusedView := 0
  channel := ⟨[], fun _ => none⟩

/-- The frames of all views. -/
def frames : WindowFrames := s.mouse.compositor.windowFrames

/-- What Dart's table will be when all messages have been delivered. -/
def settled : Surfaces := s.channel.settled Surfaces.receive

def withMouse (mouse : InputInstance) : Shell := { s with mouse }

def setWindow (p : Ptr) (w : Window) : Shell :=
  { s with windows := Function.update s.windows p w }

/-- The node of a view moved. -/
def setNode (p : Ptr) (x y : Int) : Shell := s.setWindow p ((s.windows p).setPosition x y)

/-- A view with other fields. -/
def setView (p : Ptr) (view : FwrView) : Shell :=
  s.withMouse { s.mouse with compositor := s.mouse.compositor.setView p view }

/-- `SendPlatformMessage`. -/
def send (m : Message) : Shell := { s with channel := s.channel.send m }

/-! ## §3. Focus. -/

/-- The toplevel that loses the focus is deactivated. -/
def deactivateFocused : Except Fault Shell :=
  match s.focusedSurface.bind s.viewOf with
  | none => .ok s
  | some previous => do
      let _ ← s.mouse.compositor.view previous
      .ok (s.setWindow previous { s.windows previous with activated := false })

/-- `fwr_focus_view`. -/
def fwrFocusView (p : Ptr) : Except Fault Shell := do
  let view ← s.mouse.compositor.view p
  if s.focusedSurface = some view.xdgSurface then .ok s
  else do
    let s ← s.deactivateFocused
    .ok { s.setWindow p { s.windows p with activated := true } with
      focusedSurface := some view.xdgSurface
      currentFocusedView := view.handle }

/-! ## §4. Toplevels (surface.c). -/

/-- `current_output->id` of a window, 0 without an output. -/
def outputIdOf (output : Option Ptr) : Except Fault UInt32 :=
  match output with
  | none => .ok 0
  | some o => do
      let output ← s.mouse.compositor.output o
      .ok output.id

/-- The message at the end of `xdg_toplevel_map`. -/
def sendSurfaceMap (p : Ptr) : Except Fault Shell := do
  let view ← s.mouse.compositor.view p
  let outputId ← s.outputIdOf view.currentOutput
  let (bufferWidth, bufferHeight) := s.sizes view.xdgSurface
  .ok (s.send (.surfaceMap
    { handle := view.handle, textureId := view.textureId, title := (s.windows p).titleText
      appId := (s.windows p).appIdText, width := view.width, height := view.height
      bufferWidth, bufferHeight, maximized := (s.windows p).maximized
      activated := (s.windows p).activated, geoX := view.geoX, geoY := view.geoY
      usesCsd := !(s.windows p).usesSsd, outputId, outputScale := view.outputScale }))

/-- `send_surface_geometry`. -/
def sendSurfaceGeometry (p : Ptr) : Except Fault Shell := do
  let view ← s.mouse.compositor.view p
  let (bufferWidth, bufferHeight) := s.sizes view.xdgSurface
  .ok (s.send (.surfaceGeometry view.handle view.width view.height bufferWidth bufferHeight
    view.geoX view.geoY))

/-- `fwr_send_decoration_update`. -/
def fwrSendDecorationUpdate (p : Ptr) : Except Fault Shell := do
  let view ← s.mouse.compositor.view p
  .ok (s.send (.surfaceDecoration view.handle !(s.windows p).usesSsd))

/-- `send_surface_title`. -/
def sendSurfaceTitle (p : Ptr) : Except Fault Shell := do
  let view ← s.mouse.compositor.view p
  .ok (s.send (.surfaceTitle view.handle (s.windows p).titleText (s.windows p).appIdText))

/-- `xdg_toplevel_set_title`: the client has given the toplevel a title. -/
def xdgToplevelSetTitle (p : Ptr) (title : String) : Except Fault Shell :=
  (s.setWindow p { s.windows p with title := some title }).sendSurfaceTitle p

/-- `xdg_toplevel_set_app_id`. -/
def xdgToplevelSetAppId (p : Ptr) (appId : String) : Except Fault Shell :=
  (s.setWindow p { s.windows p with appId := some appId }).sendSurfaceTitle p

/-- `geo_changed` in `xdg_toplevel_commit`. -/
def geoChanged (f : ViewFrame) (geo : WlrBox) : Bool :=
  f.width ≠ geo.width ∨ f.height ≠ geo.height ∨ f.geoX ≠ geo.x ∨ f.geoY ≠ geo.y

section Toplevels

variable (mouse : InputInstance)

/-- `fwr_new_xdg_toplevel`; `mouse` is what the compositor is then. -/
def fwrNewXdgToplevel (xdgSurface : Nat) : Shell :=
  let p := s.mouse.compositor.viewObjects.next
  { (s.withMouse mouse).setWindow p .fresh with
    viewOf := Function.update s.viewOf xdgSurface (some p) }

/-- `xdg_toplevel_map`. -/
def xdgToplevelMap (p : Ptr) : Except Fault Shell := do
  let view ← s.mouse.compositor.view p
  let window := ((s.windows p).viewCreateScene view.x view.y).setEnabled true
  let s ← ((s.withMouse mouse).setWindow p { window with mapped := true }).sendSurfaceMap p
  s.fwrFocusView p

/-- `xdg_toplevel_unmap`. -/
def xdgToplevelUnmap (p : Ptr) : Except Fault Shell := do
  let view ← s.mouse.compositor.view p
  let window := { (s.windows p).setEnabled false with mapped := false }
  .ok (((s.withMouse mouse).setWindow p window).send (.surfaceUnmap view.handle))

/-- `xdg_toplevel_commit`. -/
def xdgToplevelCommit (p : Ptr) (geo : WlrBox) : Except Fault Shell := do
  let view ← s.mouse.compositor.view p
  if geoChanged view.frame geo then (s.withMouse mouse).sendSurfaceGeometry p
  else .ok (s.withMouse mouse)

/-- `xdg_toplevel_destroy`. -/
def xdgToplevelDestroy (p : Ptr) : Shell :=
  (s.withMouse mouse).setWindow p { s.windows p with sceneTree := none }

/-- `fwr_handle_surface_set_position`. -/
def fwrHandleSurfaceSetPosition (surfaceHandle : UInt32) : Except Fault Shell :=
  match mouse.compositor.views.get surfaceHandle with
  | none => .ok (s.withMouse mouse)
  | some p => do
      let view ← mouse.compositor.view p
      .ok ((s.withMouse mouse).setNode p view.x (view.y + (s.windows p).titlebarOffset))

/-- The part of an event that has to do with windows. -/
def windowEvent : PointerEvent → Except Fault Shell
  | .compositor (.newToplevel xdgSurface) => .ok (s.fwrNewXdgToplevel mouse xdgSurface)
  | .compositor (.toplevelMap p ..) => s.xdgToplevelMap mouse p
  | .compositor (.toplevelUnmap p) => s.xdgToplevelUnmap mouse p
  | .compositor (.toplevelCommit p geo) => s.xdgToplevelCommit mouse p geo
  | .compositor (.toplevelDestroy p) => .ok (s.xdgToplevelDestroy mouse p)
  | .compositor (.setPosition surfaceHandle ..) =>
      s.fwrHandleSurfaceSetPosition mouse surfaceHandle
  | _ => .ok (s.withMouse mouse)

end Toplevels

/-! ## §5. The mouse (input.c). -/

/-- A grab sets the node of the window it has moved or resized. -/
def placeGrabbed (x y : Int) : Shell :=
  match s.mouse.compositor.views.get s.mouse.input.grab.viewHandle with
  | none => s
  | some p => s.setNode p x y

/-- A call of the mouse handlers that has to do with windows. -/
def applyCall : Call → Except Fault Shell
  | .focusView p => s.fwrFocusView p
  | .surfacePosition _ x y _ _ => .ok (s.placeGrabbed x y)
  | _ => .ok s

def applyCalls (s : Shell) : List Call → Except Fault Shell
  | [] => .ok s
  | call :: calls => do
      let s ← s.applyCall call
      applyCalls s calls

/-- An event of the compositor or the mouse. -/
def pointerEvent (c : Target) (e : PointerEvent) : Except Fault Shell := do
  let (mouse, calls) ← s.mouse.handle c e
  let s ← s.windowEvent mouse e
  s.applyCalls calls

/-! ## §6. The keyboard (input.c). -/

/-- `get_focused_view`. -/
def getFocusedView : Option Ptr :=
  if s.currentFocusedView = 0 then none
  else s.mouse.compositor.views.get s.currentFocusedView

/-- The views in the order in which `get_next_mapped_view` looks at them: from the one after `start`
    to the end of the list, then from its beginning to `start`. -/
def viewsFrom (start : Ptr) (viewsList : List Ptr) : List Ptr :=
  (viewsList.dropWhile (· ≠ start)).tail ++ viewsList.takeWhile (· ≠ start) ++ [start]

/-- `get_next_mapped_view`. -/
def getNextMappedView (start : Ptr) (reverse : Bool) : Option Ptr :=
  let viewsList := s.frames.viewsList
  (viewsFrom start (if reverse then viewsList.reverse else viewsList)).find?
    fun p => (s.windows p).isShown

/-- The window that Alt+Tab goes to. -/
def nextWindow (shift : Bool) : Option Ptr :=
  match s.getFocusedView with
  | some focused => s.getNextMappedView focused shift
  | none => s.frames.viewsList.head?.filter fun p => (s.windows p).isShown

/-- `focus_view_and_raise`. -/
def focusViewAndRaise (p : Ptr) : Except Fault Shell := do
  let s ← s.fwrFocusView p
  let view ← s.mouse.compositor.view p
  .ok (s.setNode p view.x view.y)

/-- A window tiled or maximized. -/
def tile (p : Ptr) (view : FwrView) (maximized : Bool) (box : WlrBox) : Shell :=
  let tiled := { view with x := box.x, y := box.y, width := box.width, height := box.height }
  ((s.setView p tiled).setWindow p { s.windows p with maximized }).setNode p box.x box.y

/-- The window that the Logo key is about. -/
def tiledWindow : Option Ptr :=
  if s.mouse.compositor.outputs = [] then none else s.getFocusedView

/-- `keyboard_handle_key`; other keys go to the client. -/
def keyboardHandleKey (event : KeyEvent) : Except Fault Shell :=
  if event.pressed ∧ event.alt ∧ event.sym = .tab then
    match s.nextWindow event.shift with
    | some p => s.focusViewAndRaise p
    | none => .ok s
  else if event.pressed ∧ event.logo then
    match s.tiledWindow with
    | none => .ok s
    | some p => do
        let view ← s.mouse.compositor.view p
        let halfWidth := event.outputWidth.tdiv 2
        match event.sym with
        | .left => .ok (s.tile p view false ⟨0, 0, halfWidth, event.outputHeight⟩)
        | .right => .ok (s.tile p view false ⟨halfWidth, 0, halfWidth, event.outputHeight⟩)
        | .up => .ok (s.tile p view true ⟨0, 0, view.width, view.height⟩)
        | _ => .ok s
  else .ok s

/-! ## §7. Messages of Dart. -/

/-- The view a message is for gets the focus. -/
def focusHandle (surfaceHandle : Option UInt32) : Except Fault Shell :=
  match surfaceHandle.bind s.mouse.compositor.views.get with
  | none => .ok s
  | some p => s.fwrFocusView p

/-- `fwr_handle_surface_focus`. -/
def fwrHandleSurfaceFocus (args : DartValue) : Except Fault Shell :=
  s.focusHandle (decodeSurfaceToplevelCloseMessage args)

/-- `fwr_handle_surface_keyboard_key_message`. -/
def fwrHandleSurfaceKeyboardKeyMessage (args : DartValue) : Except Fault Shell :=
  s.focusHandle ((decodeSurfaceKeyboardKeyMessage args).map (·.surfaceHandle))

/-- `surface_clear_focus` in `engine_cb_platform_message`. -/
def surfaceClearFocus : Shell := { s with focusedSurface := none }

/-- `fwr_handle_surface_toplevel_set_maximized`. -/
def fwrHandleSurfaceToplevelSetMaximized (args : DartValue) : Shell :=
  match decodeSurfaceToplevelSetMaximizedMessage args with
  | none => s
  | some message =>
      match s.mouse.compositor.views.get message.surfaceHandle with
      | none => s
      | some p => s.setWindow p { s.windows p with maximized := message.maximized ≠ 0 }

/-! ## §8. Decorations (flutter_wlroots.c). -/

/-- The view of a surface draws no decorations from now on. -/
def enforceSsd (p : Ptr) (decoration : Option Nat) : Except Fault Shell :=
  (s.setWindow p { s.windows p with usesSsd := true, decoration }).fwrSendDecorationUpdate p

/-- `handle_new_toplevel_decoration`. -/
def handleNewToplevelDecoration (xdgSurface decoration : Nat) : Except Fault Shell := do
  match ← s.mouse.compositor.findView xdgSurface s.frames.viewsList with
  | none => .ok s
  | some p => s.enforceSsd p (some decoration)

/-- `handle_decoration_destroy`. -/
def handleDecorationDestroy (p : Ptr) : Shell :=
  s.setWindow p { s.windows p with decoration := none }

/-- `handle_new_server_decoration`. -/
def handleNewServerDecoration (surface : Nat) : Except Fault Shell := do
  match ← s.mouse.compositor.findView surface s.frames.viewsList with
  | none => .ok s
  | some p => s.enforceSsd p (s.windows p).decoration

/-! ## §9. Frames (renderer.c). -/

/-- `fwr_renderer_update_scene_positions`, over a list of views. -/
def updateScenePositions (s : Shell) : List Ptr → Except Fault Shell
  | [] => .ok s
  | p :: ps => do
      let view ← s.mouse.compositor.view p
      updateScenePositions (s.setNode p view.x (view.y + (s.windows p).titlebarOffset)) ps

/-- `fwr_renderer_update_scene_positions`. -/
def fwrRendererUpdateScenePositions : Except Fault Shell :=
  s.updateScenePositions s.frames.viewsList

end Shell

/-! ## §10. The machine. -/

/-- What can happen on the desktop. -/
inductive ShellEvent where
  | pointer (e : PointerEvent)
  /-- The size in the state of a surface that becomes current with a commit. -/
  | surfaceSize (surface : Nat) (width height : Int)
  | setTitle (view : Ptr) (title : String)
  | setAppId (view : Ptr) (appId : String)
  | key (event : KeyEvent)
  | surfaceFocus (args : DartValue)
  | surfaceKeyboardKey (args : DartValue)
  | surfaceClearFocus
  | toplevelSetMaximized (args : DartValue)
  | newToplevelDecoration (xdgSurface decoration : Nat)
  | decorationDestroy (view : Ptr)
  | newServerDecoration (surface : Nat)
  | outputFrame
  | xdgSurfaceDestroy (surface : Nat)
  | surfaceDestroy (surface : Nat)
  /-- Dart gets the next message. -/
  | deliver

namespace Shell

variable (c : Target) (s : Shell)

/-- No view is on the surface. -/
def Vacant (surface : Nat) : Prop :=
  s.mouse.compositor.viewObjects.Forall fun view => view.xdgSurface ≠ surface

instance (surface : Nat) : Decidable (s.Vacant surface) :=
  decidable_of_iff _ Store.forall_iff.symm

/-- What wlroots sees to: a surface has one toplevel, is mapped and unmapped in turn, and is
    unmapped before its toplevel goes. -/
def InTurn : PointerEvent → Prop
  | .compositor (.newToplevel xdgSurface) => s.Vacant xdgSurface
  | .compositor (.toplevelMap p ..) => (s.windows p).mapped = false
  | .compositor (.toplevelUnmap p) => (s.windows p).mapped = true
  | .compositor (.toplevelDestroy p) => (s.windows p).mapped = false
  | .cursorMotion _ _ _ usesSsd => ∀ p ∈ s.mouse.directView, usesSsd = (s.windows p).usesSsd
  | _ => True

instance : (e : PointerEvent) → Decidable (s.InTurn e)
  | .compositor (.newToplevel xdgSurface) => inferInstanceAs (Decidable (s.Vacant xdgSurface))
  | .compositor (.toplevelMap p ..) => inferInstanceAs (Decidable ((s.windows p).mapped = false))
  | .compositor (.toplevelUnmap p) => inferInstanceAs (Decidable ((s.windows p).mapped = true))
  | .compositor (.toplevelDestroy p) =>
      inferInstanceAs (Decidable ((s.windows p).mapped = false))
  | .cursorMotion _ _ _ usesSsd =>
      inferInstanceAs (Decidable (∀ p ∈ s.mouse.directView, usesSsd = (s.windows p).usesSsd))
  | .compositor (.newOutput ..) | .compositor (.outputDestroy ..)
  | .compositor (.outputCommitState ..) | .compositor (.setVsyncOutput ..)
  | .compositor (.toplevelCommit ..) | .compositor (.setPosition ..)
  | .compositor (.newSubsurface ..) | .compositor (.subsurfaceMap ..)
  | .compositor (.subsurfaceUnmap ..) | .compositor (.subsurfaceCommit ..)
  | .compositor (.subsurfaceDestroy ..) | .compositor (.newPopup ..) | .compositor (.popupMap ..)
  | .compositor (.popupUnmap ..) | .compositor (.popupCommit ..)
  | .compositor (.popupReposition ..) | .compositor (.popupDestroy ..) | .compositor .newSurface
  | .compositor (.surfaceDestroy ..) | .compositor (.requestCursor ..)
  | .compositor (.activateSystemCursor ..) | .cursorButton .. | .cursorAxis ..
  | .surfacePointer .. | .popupPointer .. | .beginMove .. | .beginResize .. | .requestMove ..
  | .requestResize .. | .directInput .. | .popupGrab .. => instDecidableTrue

/-- The event can come. -/
def Deliverable : ShellEvent → Prop
  | .pointer e => s.mouse.Deliverable e ∧ s.InTurn e
  | .setTitle p _ => s.mouse.compositor.viewObjects.Live p
  | .setAppId p _ => s.mouse.compositor.viewObjects.Live p
  | .decorationDestroy p =>
      s.mouse.compositor.viewObjects.Live p ∧ (s.windows p).decoration ≠ none
  | .xdgSurfaceDestroy surface => s.Vacant surface
  | .surfaceDestroy surface => s.Vacant surface
  | _ => True

instance : (e : ShellEvent) → Decidable (s.Deliverable e)
  | .pointer e => inferInstanceAs (Decidable (s.mouse.Deliverable e ∧ s.InTurn e))
  | .setTitle p _ => inferInstanceAs (Decidable (s.mouse.compositor.viewObjects.Live p))
  | .setAppId p _ => inferInstanceAs (Decidable (s.mouse.compositor.viewObjects.Live p))
  | .decorationDestroy p =>
      inferInstanceAs (Decidable
        (s.mouse.compositor.viewObjects.Live p ∧ (s.windows p).decoration ≠ none))
  | .xdgSurfaceDestroy surface => inferInstanceAs (Decidable (s.Vacant surface))
  | .surfaceDestroy surface => inferInstanceAs (Decidable (s.Vacant surface))
  | .surfaceSize .. | .key .. | .surfaceFocus .. | .surfaceKeyboardKey .. | .surfaceClearFocus
  | .toplevelSetMaximized .. | .newToplevelDecoration .. | .newServerDecoration .. | .outputFrame
  | .deliver => instDecidableTrue

/-- The handler of an event; nothing to deliver is nothing to handle. -/
def handle : ShellEvent → Except Fault Shell
  | .pointer e => s.pointerEvent c e
  | .surfaceSize surface width height =>
      .ok { s with sizes := Function.update s.sizes surface (width, height) }
  | .setTitle p title => s.xdgToplevelSetTitle p title
  | .setAppId p appId => s.xdgToplevelSetAppId p appId
  | .key event => s.keyboardHandleKey event
  | .surfaceFocus args => s.fwrHandleSurfaceFocus args
  | .surfaceKeyboardKey args => s.fwrHandleSurfaceKeyboardKeyMessage args
  | .surfaceClearFocus => .ok s.surfaceClearFocus
  | .toplevelSetMaximized args => .ok (s.fwrHandleSurfaceToplevelSetMaximized args)
  | .newToplevelDecoration xdgSurface decoration =>
      s.handleNewToplevelDecoration xdgSurface decoration
  | .decorationDestroy p => .ok (s.handleDecorationDestroy p)
  | .newServerDecoration surface => s.handleNewServerDecoration surface
  | .outputFrame => s.fwrRendererUpdateScenePositions
  | .xdgSurfaceDestroy surface =>
      .ok { s with viewOf := Function.update s.viewOf surface none }
  -- the seat listens to the destruction of the surface with the focus
  | .surfaceDestroy surface =>
      .ok { s with
        viewOf := Function.update s.viewOf surface none
        focusedSurface := s.focusedSurface.filter (· ≠ surface) }
  | .deliver => .ok { s with channel := (s.channel.deliver Surfaces.receive).getD s.channel }

end Shell

/-- The desktop; a run ends where a freed object is used. -/
def shell (c : Target) : Machine Shell ShellEvent where
  init := .init
  step := fun s e => if s.Deliverable e then (s.handle c e).toOption else none

theorem shell_step {c : Target} {s s' : Shell} {e : ShellEvent} :
    (shell c).step s e = some s' ↔ s.Deliverable e ∧ s.handle c e = .ok s' :=
  guarded_eq_some

end FlutterWlroots.Desktop
