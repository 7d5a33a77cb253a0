/-
  FlutterWlroots.Compositor.Events — the compositor as a machine.

  An event is a signal of wlroots, with what the handler will ask for, or a message from Dart.  A
  signal reaches an object only while its listeners are attached, which is until the handler of its
  destruction has run (`Deliverable`).  Nothing else is assumed of the order of the events: a
  toplevel may go while its surface, subsurfaces and popups stay, an output may go at any time.
-/
import FlutterWlroots.Lib.Machine
import FlutterWlroots.Lib.StateRun
import FlutterWlroots.Compositor.Surface

namespace FlutterWlroots.Compositor

open Lib Lib.StateRun

/-! ## §1. The cursor. -/

namespace Instance

/-- `on_seat_request_cursor`; `focused` says that the client has the pointer focus. -/
def onSeatRequestCursor (s : Instance) (focused : Bool) (surface : Option Ptr)
    (hotspotX hotspotY : Int) : Instance :=
  if focused then
    { s with
      clientCursorSurface := surface
      clientCursorHotspotX := hotspotX
      clientCursorHotspotY := hotspotY
      currentXcursorName := if surface.isSome then none else s.currentXcursorName }
  else s

/-- `activateSystemCursor` in `cursor_handle_message`. -/
def activateSystemCursor (s : Instance) (xcursorName : String) : Instance :=
  { s with currentXcursorName := some xcursorName, clientCursorSurface := none }

end Instance

/-! ## §2. Events. -/

/-- What can happen to the compositor. -/
inductive Event where
  | newOutput (wlrOutput : WlrOutput) (committed : Bool)
  | outputDestroy (output : Ptr)
  | outputCommitState (output : Ptr) (refresh : Option Int) (scale : Rat)
  | setVsyncOutput (outputId : UInt32)
  | newToplevel (xdgSurface : Nat)
  | toplevelMap (view : Ptr) (geo : WlrBox) (layout : OutputLayout) (registered : Bool)
  | toplevelUnmap (view : Ptr)
  | toplevelCommit (view : Ptr) (geo : WlrBox)
  | toplevelDestroy (view : Ptr)
  | setPosition (surfaceHandle : UInt32) (x y : Int) (layout : OutputLayout)
  | newSubsurface (parentView : Ptr)
  | subsurfaceMap (sub : Ptr) (box : WlrBox) (registered : Bool)
  | subsurfaceUnmap (sub : Ptr)
  | subsurfaceCommit (sub : Ptr) (box : WlrBox)
  | subsurfaceDestroy (sub : Ptr)
  | newPopup (parentXdg : Option Nat) (surf : PopupSurface) (registered : Bool)
  | popupMap (popup : Ptr) (surf : PopupSurface) (registered : Bool)
  | popupUnmap (popup : Ptr)
  | popupCommit (popup : Ptr) (surf : PopupSurface) (layout : OutputLayout) (registered : Bool)
  | popupReposition (popup : Ptr) (surf : PopupSurface)
  | popupDestroy (popup : Ptr)
  | newSurface
  | surfaceDestroy (surface : Ptr)
  | requestCursor (focused : Bool) (surface : Option Ptr) (hotspotX hotspotY : Int)
  | activateSystemCursor (xcursorName : String)

/-- An object that a signal comes from or names. -/
inductive Source where
  | output (p : Ptr)
  | view (p : Ptr)
  | subsurface (p : Ptr)
  | popup (p : Ptr)
  | surface (p : Ptr)

namespace Event

/-- The object an event needs. -/
def source : Event → Option Source
  | outputDestroy p => some (.output p)
  | outputCommitState p _ _ => some (.output p)
  | toplevelMap p _ _ _ => some (.view p)
  | toplevelUnmap p => some (.view p)
  | toplevelCommit p _ => some (.view p)
  | toplevelDestroy p => some (.view p)
  | newSubsurface p => some (.view p)
  | subsurfaceMap p _ _ => some (.subsurface p)
  | subsurfaceUnmap p => some (.subsurface p)
  | subsurfaceCommit p _ => some (.subsurface p)
  | subsurfaceDestroy p => some (.subsurface p)
  | popupMap p _ _ => some (.popup p)
  | popupUnmap p => some (.popup p)
  | popupCommit p _ _ _ => some (.popup p)
  | popupReposition p _ => some (.popup p)
  | popupDestroy p => some (.popup p)
  | surfaceDestroy p => some (.surface p)
  | requestCursor _ surface _ _ => surface.map .surface
  | _ => none

end Event

namespace Instance

/-- The object is there. -/
def Has (s : Instance) : Source → Prop
  | .output p => s.outputObjects.Live p
  | .view p => s.viewObjects.Live p
  | .subsurface p => s.subsurfaceObjects.Live p
  | .popup p => s.popupObjects.Live p
  | .surface p => s.wlrSurfaces.Live p

instance (s : Instance) : (x : Source) → Decidable (s.Has x)
  | .output p => inferInstanceAs (Decidable (s.outputObjects.Live p))
  | .view p => inferInstanceAs (Decidable (s.viewObjects.Live p))
  | .subsurface p => inferInstanceAs (Decidable (s.subsurfaceObjects.Live p))
  | .popup p => inferInstanceAs (Decidable (s.popupObjects.Live p))
  | .surface p => inferInstanceAs (Decidable (s.wlrSurfaces.Live p))

/-- The event can come: the object it needs is there. -/
def Deliverable (s : Instance) (e : Event) : Prop := ∀ x ∈ e.source, s.Has x

instance (s : Instance) (e : Event) : Decidable (s.Deliverable e) :=
  inferInstanceAs (Decidable (∀ x ∈ e.source, s.Has x))

/-- The handler of an event. -/
def handle (s : Instance) : Event → Except Fault Instance
  | .newOutput wlrOutput committed => s.fwrServerNewOutput wlrOutput committed
  | .outputDestroy p => s.outputDestroy p
  | .outputCommitState p refresh scale => s.outputCommitState p refresh scale
  | .setVsyncOutput outputId => s.fwrSetVsyncOutput outputId
  | .newToplevel xdgSurface => s.fwrNewXdgToplevel xdgSurface
  | .toplevelMap p geo layout registered => s.xdgToplevelMap p geo layout registered
  | .toplevelUnmap p => s.xdgToplevelUnmap p
  | .toplevelCommit p geo => s.xdgToplevelCommit p geo
  | .toplevelDestroy p => s.xdgToplevelDestroy p
  | .setPosition handle x y layout => s.fwrHandleSurfaceSetPosition handle x y layout
  | .newSubsurface p => s.handleNewSubsurface p
  | .subsurfaceMap p box registered => s.subsurfaceHandleMap p box registered
  | .subsurfaceUnmap p => s.subsurfaceHandleUnmap p
  | .subsurfaceCommit p box => s.subsurfaceHandleCommit p box
  | .subsurfaceDestroy p => s.subsurfaceHandleDestroy p
  | .newPopup parentXdg surf registered => s.fwrNewXdgPopup parentXdg surf registered
  | .popupMap p surf registered => s.popupHandleMap p surf registered
  | .popupUnmap p => s.popupHandleUnmap p
  | .popupCommit p surf layout registered => s.popupHandleCommit p surf layout registered
  | .popupReposition p surf => s.popupHandleReposition p surf
  | .popupDestroy p => s.popupHandleDestroy p
  | .newSurface => .ok { s with wlrSurfaces := s.wlrSurfaces.alloc () }
  | .surfaceDestroy p => .ok { s with wlrSurfaces := s.wlrSurfaces.free p }
  | .requestCursor focused surface x y => .ok (s.onSeatRequestCursor focused surface x y)
  | .activateSystemCursor xcursorName => .ok (s.activateSystemCursor xcursorName)

end Instance

/-- The compositor; a run ends where a freed object is used. -/
def compositor : Machine Instance Event where
  init := .init
  step := fun s e => if s.Deliverable e then (s.handle e).toOption else none

theorem compositor_step {s s' : Instance} {e : Event} :
    compositor.step s e = some s' ↔ s.Deliverable e ∧ s.handle e = .ok s' :=
  guarded_eq_some

end FlutterWlroots.Compositor
