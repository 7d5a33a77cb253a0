/-
  FlutterWlroots.Compositor.Surface — the handlers of surface.c.

  Toplevels, their subsurfaces and their popups.  A handler gets the object its listener sits in
  and what it asks wlroots for; it follows the pointers the C code follows, in the same order, and
  returns the new instance.
-/
import FlutterWlroots.Compositor.Output

namespace FlutterWlroots.Compositor

open Lib Lib.CInt

namespace Instance

/-! ## §1. Toplevels. -/

/-- `fwr_new_xdg_toplevel`. -/
def fwrNewXdgToplevel (s : Instance) (xdgSurface : Nat) : Except Fault Instance :=
  let (viewHandle, views) := s.views.add s.viewObjects.next
  let offset : Int := (viewHandle.toNat % 10 : Nat) * 32
  .ok { s with
    viewsList := s.viewObjects.next :: s.viewsList
    views := views
    viewObjects := s.viewObjects.alloc
      { handle := viewHandle, xdgSurface := xdgSurface, x := 50 + offset, y := 50 + offset,
        width := 0, height := 0, currentOutput := none, outputScale := 0, geoX := 0, geoY := 0,
        textureId := 0, textureRegistered := false, subsurfaces := [] } }

/-- `xdg_toplevel_map`; `registered` is the result of `RegisterExternalTexture`. -/
def xdgToplevelMap (s : Instance) (p : Ptr) (geo : WlrBox) (layout : OutputLayout)
    (registered : Bool) : Except Fault Instance := do
  let view ← s.view p
  let output ← s.fwrOutputForBox layout view.x view.y geo.width geo.height
  let scale ← s.scaleOf output
  let textureId : Int := view.handle.toNat
  .ok ((s.setView p
    { view with
      width := geo.width, height := geo.height, geoX := geo.x, geoY := geo.y,
      currentOutput := output, outputScale := scale, textureId := textureId,
      textureRegistered := registered }).call (.register textureId))

/-- `xdg_toplevel_unmap`: Flutter is told; the texture stays registered. -/
def xdgToplevelUnmap (s : Instance) (p : Ptr) : Except Fault Instance := do
  let _ ← s.view p
  .ok s

/-- `xdg_toplevel_commit`. -/
def xdgToplevelCommit (s : Instance) (p : Ptr) (geo : WlrBox) : Except Fault Instance := do
  let view ← s.view p
  let committed := s.setView p
    { view with width := geo.width, height := geo.height, geoX := geo.x, geoY := geo.y }
  .ok (if view.textureRegistered then committed.call (.markFrameAvailable view.textureId)
    else committed)

/-- `xdg_toplevel_destroy`.  The subsurfaces and popups of the view are not visited. -/
def xdgToplevelDestroy (s : Instance) (p : Ptr) : Except Fault Instance := do
  let view ← s.view p
  let unregistered := if view.textureRegistered then s.call (.unregister view.textureId) else s
  .ok { unregistered with
    views := (s.views.remove view.handle).2
    viewsList := s.viewsList.erase p
    viewObjects := s.viewObjects.free p }

/-- The output a moved window hands on to its subsurfaces. -/
def subsurfaceOutput (output : Option Ptr) (scale : Rat) (sub : FwrSubsurface) : FwrSubsurface :=
  { sub with currentOutput := output, outputScale := scale }

/-- The output a moved window hands on to its popups, among all popups. -/
def popupOutput (view : Ptr) (output : Option Ptr) (scale : Rat) (popup : FwrPopup) : FwrPopup :=
  if popup.parentView = view then { popup with currentOutput := output, outputScale := scale }
  else popup

/-- All objects of a list updated; a fault if one has been freed. -/
def updateAll {α : Type} (fault : Fault) (f : α → α) (ps : List Ptr) (objects : Store α) :
    Except Fault (Store α) :=
  match objects.modifyAll f ps with
  | some objects => .ok objects
  | none => .error fault

/-- The output of a moved window, handed on to its children if it has changed. -/
def moveToOutput (s : Instance) (p : Ptr) (view : FwrView) (newOutput : Option Ptr) :
    Except Fault Instance :=
  if view.currentOutput ≠ newOutput then do
    let scale ← s.scaleOf newOutput
    let subs ← updateAll .freedSubsurface (subsurfaceOutput newOutput scale) view.subsurfaces
      s.subsurfaceObjects
    let popups ← updateAll .freedPopup (popupOutput p newOutput scale) s.popups.values
      s.popupObjects
    .ok { s.setView p { view with currentOutput := newOutput, outputScale := scale } with
      subsurfaceObjects := subs
      popupObjects := popups }
  else .ok (s.setView p view)

/-- `fwr_handle_surface_set_position`, from the decoded message on. -/
def fwrHandleSurfaceSetPosition (s : Instance) (surfaceHandle : UInt32) (x y : Int)
    (layout : OutputLayout) : Except Fault Instance :=
  match s.views.get surfaceHandle with
  | none => .ok s
  | some p => do
      let view ← s.view p
      let moved := { view with x := toInt32 x, y := toInt32 y }
      let newOutput ← s.fwrOutputForBox layout moved.x moved.y moved.width moved.height
      s.moveToOutput p moved newOutput

/-! ## §2. Subsurfaces. -/

/-- `handle_new_subsurface`, on the view whose surface has got a new subsurface. -/
def handleNewSubsurface (s : Instance) (parentView : Ptr) : Except Fault Instance := do
  let view ← s.view parentView
  let (handle, subsurfaces) := s.subsurfaces.add s.subsurfaceObjects.next
  .ok { s.setView parentView
      { view with subsurfaces := s.subsurfaceObjects.next :: view.subsurfaces } with
    subsurfaces := subsurfaces
    subsurfaceObjects := s.subsurfaceObjects.alloc
      { handle := handle, parentView := parentView, x := 0, y := 0, width := 0, height := 0,
        currentOutput := none, outputScale := 0, textureId := 0, textureRegistered := false } }

/-- `subsurface_handle_map`; the box is the position and size of the wlroots subsurface. -/
def subsurfaceHandleMap (s : Instance) (p : Ptr) (box : WlrBox) (registered : Bool) :
    Except Fault Instance := do
  let sub ← s.subsurface p
  let _ ← s.view sub.parentView
  let textureId : Int := (100000 + sub.handle).toNat
  .ok ((s.setSubsurface p
    { sub with
      x := box.x, y := box.y, width := box.width, height := box.height, textureId := textureId,
      textureRegistered := registered }).call (.register textureId))

/-- `subsurface_handle_unmap`: the message to Flutter names the parent. -/
def subsurfaceHandleUnmap (s : Instance) (p : Ptr) : Except Fault Instance := do
  let sub ← s.subsurface p
  let _ ← s.view sub.parentView
  .ok s

/-- `subsurface_handle_commit`. -/
def subsurfaceHandleCommit (s : Instance) (p : Ptr) (box : WlrBox) : Except Fault Instance := do
  let sub ← s.subsurface p
  let _ ← s.view sub.parentView
  let committed := s.setSubsurface p
    { sub with x := box.x, y := box.y, width := box.width, height := box.height }
  .ok (if sub.textureRegistered then committed.call (.markFrameAvailable sub.textureId)
    else committed)

/-- `subsurface_handle_destroy`; `wl_list_remove` writes to the list of the parent. -/
def subsurfaceHandleDestroy (s : Instance) (p : Ptr) : Except Fault Instance := do
  let sub ← s.subsurface p
  let view ← s.view sub.parentView
  let unregistered := if sub.textureRegistered then s.call (.unregister sub.textureId) else s
  .ok { unregistered.setView sub.parentView
      { view with subsurfaces := view.subsurfaces.erase p } with
    subsurfaces := (s.subsurfaces.remove sub.handle).2
    subsurfaceObjects := s.subsurfaceObjects.free p }

end Instance

/-! ## §3. Popups. -/

/-- What the popup handlers read of the xdg popup: its geometry, current and scheduled, the size of
    its surface and of the first mapped subsurface of that, and whether it is mapped. -/
structure PopupSurface where
  current : WlrBox
  scheduled : WlrBox
  width : Int
  height : Int
  subsurface : Option (Int × Int)
  mapped : Bool
deriving DecidableEq, Repr

namespace PopupSurface

/-- The size of the surface that has the content. -/
def content (surf : PopupSurface) : Int × Int := surf.subsurface.getD (surf.width, surf.height)

/-- Position and size as `send_popup_map` computes them. -/
def mapBox (surf : PopupSurface) : WlrBox :=
  let geo := if surf.current.width = 0 ∨ surf.current.height = 0 then surf.scheduled
    else surf.current
  let (width, height) := surf.content
  if width = 0 ∨ height = 0 then
    ⟨geo.x, geo.y, if geo.width > 0 then geo.width else surf.width,
      if geo.height > 0 then geo.height else surf.height⟩
  else ⟨geo.x, geo.y, width, height⟩

end PopupSurface

/-- Position and size of a popup set. -/
def FwrPopup.place (popup : FwrPopup) (box : WlrBox) : FwrPopup :=
  { popup with x := box.x, y := box.y, width := box.width, height := box.height }

namespace Instance

/-- `send_popup_map`: what it records in the popup; the message names the cached output. -/
def sendPopupMap (s : Instance) (p : Ptr) (popup : FwrPopup) (surf : PopupSurface) :
    Except Fault Instance := do
  s.readOutput popup.currentOutput
  .ok (s.setPopup p (popup.place surf.mapBox))

/-- The texture of a popup that has none: the popup and the instance after the registration. -/
def registerPopup (s : Instance) (p : Ptr) (popup : FwrPopup) (registered : Bool) :
    FwrPopup × Instance :=
  let textureId : Int := (popup.handle + 200000).toNat
  let popup := { popup with textureId := textureId, textureRegistered := registered }
  (popup, (s.setPopup p popup).call (.register textureId))

/-- `popup_handle_map`. -/
def popupHandleMap (s : Instance) (p : Ptr) (surf : PopupSurface) (registered : Bool) :
    Except Fault Instance := do
  let popup ← s.popup p
  if popup.textureRegistered then s.sendPopupMap p popup surf
  else
    let (popup, s) := s.registerPopup p popup registered
    s.sendPopupMap p popup surf

/-- `popup_handle_unmap`. -/
def popupHandleUnmap (s : Instance) (p : Ptr) : Except Fault Instance := do
  let popup ← s.popup p
  .ok (if popup.textureRegistered then
    (s.setPopup p { popup with textureRegistered := false }).call (.unregister popup.textureId)
    else s)

/-- `popup_handle_destroy`. -/
def popupHandleDestroy (s : Instance) (p : Ptr) : Except Fault Instance := do
  let popup ← s.popup p
  let unregistered := if popup.textureRegistered then s.call (.unregister popup.textureId) else s
  .ok { unregistered with
    popups := (s.popups.remove popup.handle).2
    popupObjects := s.popupObjects.free p }

/-- The output of the parent, which is computed from its position if there is none. -/
def parentOutput (s : Instance) (parentView : Ptr) (parent : FwrView) (layout : OutputLayout) :
    Except Fault (Option Ptr × Instance) :=
  match parent.currentOutput with
  | some output => .ok (some output, s)
  | none => do
      match ← s.fwrOutputForBox layout parent.x parent.y parent.width parent.height with
      | some output =>
          let scale ← s.scaleOf (some output)
          .ok (some output,
            s.setView parentView { parent with currentOutput := some output, outputScale := scale })
      | none => .ok (s.fwrGetFirstOutput, s)

/-- The output a popup is constrained to. -/
def popupUnconstrain (s : Instance) (p : Ptr) (popup : FwrPopup) (layout : OutputLayout) :
    Except Fault (FwrPopup × Instance) := do
  let parent ← s.view popup.parentView
  let (output, s) ← s.parentOutput popup.parentView parent layout
  match output with
  | some output =>
      let scale ← s.scaleOf (some output)
      let popup :=
        { popup with currentOutput := some output, outputScale := scale, unconstrained := true }
      .ok (popup, s.setPopup p popup)
  | none =>
      let popup := { popup with unconstrained := true }
      .ok (popup, s.setPopup p popup)

/-- A popup is constrained by its first commit. -/
def popupFirstCommit (s : Instance) (p : Ptr) (popup : FwrPopup) (layout : OutputLayout) :
    Except Fault (FwrPopup × Instance) :=
  if popup.unconstrained then .ok (popup, s) else s.popupUnconstrain p popup layout

/-- The fallback of a commit for a missed map event: a popup without a texture gets one. -/
def popupEnsureTexture (s : Instance) (p : Ptr) (popup : FwrPopup) (surf : PopupSurface)
    (registered : Bool) : Except Fault (FwrPopup × Instance) :=
  if popup.textureRegistered then .ok (popup, s)
  else
    let (popup, s) := s.registerPopup p popup registered
    if registered then do
      let s ← s.sendPopupMap p popup surf
      .ok (popup.place surf.mapBox, s)
    else .ok (popup, s)

/-- A new size of the content is sent. -/
def popupResize (s : Instance) (p : Ptr) (popup : FwrPopup) (surf : PopupSurface) :
    Except Fault Instance :=
  let size := surf.content
  if size.1 > 0 ∧ size.2 > 0 ∧ (size.1 ≠ popup.width ∨ size.2 ≠ popup.height) then
    s.sendPopupMap p popup surf
  else .ok s

/-- The end of a commit: a new size is sent, and the frame is announced. -/
def popupFrame (s : Instance) (p : Ptr) (popup : FwrPopup) (surf : PopupSurface) :
    Except Fault Instance :=
  if popup.textureRegistered then do
    let s ← s.popupResize p popup surf
    .ok (s.call (.markFrameAvailable popup.textureId))
  else .ok s

/-- `popup_handle_commit`. -/
def popupHandleCommit (s : Instance) (p : Ptr) (surf : PopupSurface) (layout : OutputLayout)
    (registered : Bool) : Except Fault Instance := do
  let popup ← s.popup p
  let (popup, s) ← s.popupFirstCommit p popup layout
  if surf.mapped then
    let (popup, s) ← s.popupEnsureTexture p popup surf registered
    s.popupFrame p popup surf
  else .ok s

/-- `popup_handle_reposition`. -/
def popupHandleReposition (s : Instance) (p : Ptr) (surf : PopupSurface) :
    Except Fault Instance := do
  let popup ← s.popup p
  let popup := popup.place surf.scheduled
  let placed := s.setPopup p popup
  if surf.mapped then placed.sendPopupMap p popup surf else .ok placed

/-- The loop of `fwr_new_xdg_popup` over the views. -/
def findView (s : Instance) (parentXdg : Nat) : List Ptr → Except Fault (Option Ptr)
  | [] => .ok none
  | p :: ps => do
      let view ← s.view p
      if view.xdgSurface = parentXdg then .ok (some p) else findView s parentXdg ps

/-- `fwr_new_xdg_popup`; `parentXdg` is the xdg surface of the parent, if it has one. -/
def fwrNewXdgPopup (s : Instance) (parentXdg : Option Nat) (surf : PopupSurface)
    (registered : Bool) : Except Fault Instance :=
  match parentXdg with
  | none => .ok s
  | some parentXdg => do
      match ← s.findView parentXdg s.viewsList with
      | none => .ok s
      | some parentView =>
          let parent ← s.view parentView
          let (handle, popups) := s.popups.add s.popupObjects.next
          let created : Instance :=
            { s with
              popups := popups
              popupObjects := s.popupObjects.alloc
                { handle := handle, parentView := parentView, parentViewHandle := parent.handle,
                  x := surf.scheduled.x, y := surf.scheduled.y, width := surf.scheduled.width,
                  height := surf.scheduled.height, currentOutput := parent.currentOutput,
                  outputScale := parent.outputScale, textureId := 0, textureRegistered := false,
                  unconstrained := false } }
          created.readOutput parent.currentOutput
          if surf.mapped then created.popupHandleMap s.popupObjects.next surf registered
          else .ok created

end Instance

end FlutterWlroots.Compositor
