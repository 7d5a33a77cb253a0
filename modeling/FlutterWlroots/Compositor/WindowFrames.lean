/-
  FlutterWlroots.Compositor.WindowFrames — where the windows are.

  Of a view the desktop needs the handle, the surface, and its place and size; a `ViewFrame` has
  these.  `handle_reframed` says what each handler of the compositor does to the frames of all
  views: the handlers of toplevels and `surface_set_position` change the frame of one view, and
  everything that happens to outputs, subsurfaces, popups and the cursor leaves all frames alone.
-/
import FlutterWlroots.Compositor.TextureEffects

namespace FlutterWlroots.Compositor

open Lib Lib.CInt Lib.StateRun

/-! ## §1. Frames. -/

/-- The part of a view that the desktop depends on. -/
structure ViewFrame where
  handle : UInt32
  xdgSurface : Nat
  x : Int
  y : Int
  width : Int
  height : Int
  geoX : Int
  geoY : Int
deriving DecidableEq, Repr

def FwrView.frame (view : FwrView) : ViewFrame :=
  ⟨view.handle, view.xdgSurface, view.x, view.y, view.width, view.height, view.geoX, view.geoY⟩

namespace ViewFrame

/-- The frame of a new toplevel. -/
def fresh (handle : UInt32) (xdgSurface : Nat) : ViewFrame :=
  let offset : Int := (handle.toNat % 10 : Nat) * 32
  ⟨handle, xdgSurface, 50 + offset, 50 + offset, 0, 0, 0, 0⟩

/-- The geometry of the xdg surface, taken over. -/
def withGeometry (f : ViewFrame) (geo : WlrBox) : ViewFrame :=
  { f with width := geo.width, height := geo.height, geoX := geo.x, geoY := geo.y }

/-- Another place. -/
def movedTo (f : ViewFrame) (x y : Int) : ViewFrame := { f with x, y }

/-- Another place and size. -/
def inBox (f : ViewFrame) (box : WlrBox) : ViewFrame :=
  { f with x := box.x, y := box.y, width := box.width, height := box.height }

end ViewFrame

/-- The frames of all views, and the ways to the views. -/
structure WindowFrames where
  next : Ptr
  frames : Ptr → Option ViewFrame
  views : HandleMap Ptr
  viewsList : List Ptr

namespace WindowFrames

variable (w : WindowFrames)

/-- A new view. -/
def create (xdgSurface : Nat) : WindowFrames where
  next := w.next + 1
  frames := Function.update w.frames w.next (some (.fresh w.views.next xdgSurface))
  views := (w.views.add w.next).2
  viewsList := w.next :: w.viewsList

/-- A view with another frame. -/
def put (p : Ptr) (f : ViewFrame) : WindowFrames :=
  { w with frames := Function.update w.frames p (some f) }

/-- A view freed. -/
def destroy (p : Ptr) (handle : UInt32) : WindowFrames where
  next := w.next
  frames := Function.update w.frames p none
  views := (w.views.remove handle).2
  viewsList := w.viewsList.erase p

end WindowFrames

/-- The events that are about a toplevel itself. -/
def Event.isWindow : Event → Bool
  | .newToplevel .. => true
  | .toplevelMap .. => true
  | .toplevelUnmap .. => true
  | .toplevelCommit .. => true
  | .toplevelDestroy .. => true
  | .setPosition .. => true
  | _ => false

namespace Instance

variable {s s' : Instance} {p : Ptr} {popup popup' : FwrPopup} {surf : PopupSurface}
  {registered : Bool} {layout : OutputLayout}

/-- The frames of an instance. -/
def windowFrames (s : Instance) : WindowFrames where
  next := s.viewObjects.next
  frames := s.viewObjects.project FwrView.frame
  views := s.views
  viewsList := s.viewsList

/-- A view has a frame as long as it is there. -/
theorem frame_of_get {view : FwrView} (hv : s.viewObjects.get p = some view) :
    s.windowFrames.frames p = some view.frame := Store.project_of_get _ hv

theorem view_of_frame {f : ViewFrame} (hf : s.windowFrames.frames p = some f) :
    ∃ view, s.viewObjects.get p = some view ∧ view.frame = f := Store.project_eq_some.mp hf

theorem view_ok_of_frame {f : ViewFrame} (hf : s.windowFrames.frames p = some f) :
    ∃ view, s.view p = .ok view ∧ view.frame = f := by
  obtain ⟨view, hv, hframe⟩ := view_of_frame hf
  exact ⟨view, deref_eq_ok.mpr hv, hframe⟩

theorem live_iff_frame : s.viewObjects.Live p ↔ ∃ f, s.windowFrames.frames p = some f := by
  rw [Store.live_iff]
  constructor
  · rintro ⟨view, hv⟩
    exact ⟨view.frame, frame_of_get hv⟩
  · rintro ⟨f, hf⟩
    obtain ⟨view, hv, -⟩ := view_of_frame hf
    exact ⟨view, hv⟩

/-- A view that is not there yet has no frame. -/
theorem frame_next (s : Instance) : s.windowFrames.frames s.windowFrames.next = none :=
  Store.project_next _ _

theorem windowFrames_setView {v v' : FwrView} (hv : s.viewObjects.get p = some v) :
    (s.setView p v').windowFrames = s.windowFrames.put p v'.frame := by
  unfold windowFrames setView WindowFrames.put
  dsimp only
  rw [Store.project_set _ (Store.live_of_get hv), Store.next_set]

theorem windowFrames_setView_same {v v' : FwrView} (hv : s.viewObjects.get p = some v)
    (hframe : v'.frame = v.frame) : (s.setView p v').windowFrames = s.windowFrames := by
  unfold windowFrames setView
  dsimp only
  rw [Store.project_set_same hv hframe, Store.next_set]

theorem windowFrames_call (s : Instance) (c : TextureCall) :
    (s.call c).windowFrames = s.windowFrames := rfl

theorem windowFrames_if_call (s : Instance) (b : Bool) (c : TextureCall) :
    (if b then s.call c else s).windowFrames = s.windowFrames := by
  cases b <;> rfl

/-! ## §2. Outputs. -/

theorem fwrServerNewOutput_frames {wlrOutput : WlrOutput} {committed : Bool}
    (h : s.fwrServerNewOutput wlrOutput committed = .ok s') :
    s'.windowFrames = s.windowFrames := by
  rw [fwrServerNewOutput] at h
  dsimp only at h
  split at h
  · obtain ⟨best, -, rfl⟩ := fwrSelectHighestRefreshOutput_ok h
    rfl
  · cases h
    rfl

theorem outputDestroy_frames (h : s.outputDestroy p = .ok s') :
    s'.windowFrames = s.windowFrames := by
  rw [outputDestroy, except_bind_eq_ok] at h
  obtain ⟨output, -, h⟩ := h
  dsimp only at h
  split at h
  · obtain ⟨best, -, rfl⟩ := fwrSelectHighestRefreshOutput_ok h
    rfl
  · cases h
    rfl

theorem outputCommitState_frames {refresh : Option Int} {scale : Rat}
    (h : s.outputCommitState p refresh scale = .ok s') : s'.windowFrames = s.windowFrames := by
  rw [outputCommitState, except_bind_eq_ok] at h
  obtain ⟨output, -, h⟩ := h
  cases h
  rfl

theorem fwrSetVsyncOutput_frames {outputId : UInt32} (h : s.fwrSetVsyncOutput outputId = .ok s') :
    s'.windowFrames = s.windowFrames := by
  obtain ⟨best, -, rfl⟩ := fwrSetVsyncOutput_ok h
  rfl

/-! ## §3. Toplevels. -/

theorem fwrNewXdgToplevel_frames {xdgSurface : Nat}
    (h : s.fwrNewXdgToplevel xdgSurface = .ok s') :
    s'.windowFrames = s.windowFrames.create xdgSurface := by
  cases h
  unfold windowFrames WindowFrames.create
  dsimp only
  rw [Store.project_alloc]
  rfl

theorem xdgToplevelMap_frames {geo : WlrBox}
    (h : s.xdgToplevelMap p geo layout registered = .ok s') :
    ∃ f, s.windowFrames.frames p = some f ∧
      s'.windowFrames = s.windowFrames.put p (f.withGeometry geo) := by
  simp only [xdgToplevelMap, except_bind_eq_ok] at h
  obtain ⟨view, hview, output, -, scale, -, h⟩ := h
  cases h
  refine ⟨view.frame, frame_of_get (view_ok hview), ?_⟩
  rw [windowFrames_call, windowFrames_setView (view_ok hview)]
  rfl

theorem xdgToplevelUnmap_frames (h : s.xdgToplevelUnmap p = .ok s') :
    ∃ f, s.windowFrames.frames p = some f ∧ s'.windowFrames = s.windowFrames := by
  rw [xdgToplevelUnmap, except_bind_eq_ok] at h
  obtain ⟨view, hview, h⟩ := h
  cases h
  exact ⟨view.frame, frame_of_get (view_ok hview), rfl⟩

theorem xdgToplevelCommit_frames {geo : WlrBox} (h : s.xdgToplevelCommit p geo = .ok s') :
    ∃ f, s.windowFrames.frames p = some f ∧
      s'.windowFrames = s.windowFrames.put p (f.withGeometry geo) := by
  rw [xdgToplevelCommit, except_bind_eq_ok] at h
  obtain ⟨view, hview, h⟩ := h
  cases h
  refine ⟨view.frame, frame_of_get (view_ok hview), ?_⟩
  rw [windowFrames_if_call, windowFrames_setView (view_ok hview)]
  rfl

theorem xdgToplevelDestroy_frames (h : s.xdgToplevelDestroy p = .ok s') :
    ∃ f, s.windowFrames.frames p = some f ∧
      s'.windowFrames = s.windowFrames.destroy p f.handle := by
  rw [xdgToplevelDestroy, except_bind_eq_ok] at h
  obtain ⟨view, hview, h⟩ := h
  cases h
  refine ⟨view.frame, frame_of_get (view_ok hview), ?_⟩
  split
  all_goals
    unfold windowFrames WindowFrames.destroy
    dsimp only
    rw [Store.project_free]
    rfl

/-- A window that is moved keeps the frame it is given, whatever output it is on then. -/
theorem moveToOutput_frames {view v : FwrView} {newOutput : Option Ptr}
    (hv : s.viewObjects.get p = some v) (h : s.moveToOutput p view newOutput = .ok s') :
    s'.windowFrames = s.windowFrames.put p view.frame := by
  rw [moveToOutput] at h
  split at h
  · simp only [except_bind_eq_ok] at h
    obtain ⟨scale, -, subs, -, popups, -, h⟩ := h
    cases h
    exact windowFrames_setView hv
  · cases h
    exact windowFrames_setView hv

theorem fwrHandleSurfaceSetPosition_frames {surfaceHandle : UInt32} {x y : Int}
    (h : s.fwrHandleSurfaceSetPosition surfaceHandle x y layout = .ok s') :
    (s.views.get surfaceHandle = none ∧ s'.windowFrames = s.windowFrames) ∨
      ∃ q f, s.views.get surfaceHandle = some q ∧ s.windowFrames.frames q = some f ∧
        s'.windowFrames = s.windowFrames.put q (f.movedTo (toInt32 x) (toInt32 y)) := by
  rw [fwrHandleSurfaceSetPosition] at h
  split at h
  next hq =>
    cases h
    exact .inl ⟨hq, rfl⟩
  next q hq =>
    simp only [except_bind_eq_ok] at h
    obtain ⟨view, hview, newOutput, -, h⟩ := h
    exact .inr ⟨q, view.frame, hq, frame_of_get (view_ok hview),
      moveToOutput_frames (view_ok hview) h⟩

/-! ## §4. Subsurfaces. -/

theorem handleNewSubsurface_frames (h : s.handleNewSubsurface p = .ok s') :
    s'.windowFrames = s.windowFrames := by
  rw [handleNewSubsurface, except_bind_eq_ok] at h
  obtain ⟨view, hview, h⟩ := h
  cases h
  exact windowFrames_setView_same (view_ok hview) (by rfl)

theorem subsurfaceHandleMap_frames {box : WlrBox}
    (h : s.subsurfaceHandleMap p box registered = .ok s') :
    s'.windowFrames = s.windowFrames := by
  simp only [subsurfaceHandleMap, except_bind_eq_ok] at h
  obtain ⟨sub, -, view, -, h⟩ := h
  cases h
  rfl

theorem subsurfaceHandleUnmap_frames (h : s.subsurfaceHandleUnmap p = .ok s') :
    s'.windowFrames = s.windowFrames := by
  simp only [subsurfaceHandleUnmap, except_bind_eq_ok] at h
  obtain ⟨sub, -, view, -, h⟩ := h
  cases h
  rfl

theorem subsurfaceHandleCommit_frames {box : WlrBox}
    (h : s.subsurfaceHandleCommit p box = .ok s') : s'.windowFrames = s.windowFrames := by
  simp only [subsurfaceHandleCommit, except_bind_eq_ok] at h
  obtain ⟨sub, -, view, -, h⟩ := h
  cases h
  rw [windowFrames_if_call]
  rfl

theorem subsurfaceHandleDestroy_frames (h : s.subsurfaceHandleDestroy p = .ok s') :
    s'.windowFrames = s.windowFrames := by
  simp only [subsurfaceHandleDestroy, except_bind_eq_ok] at h
  obtain ⟨sub, -, view, hview, h⟩ := h
  cases h
  split
  all_goals exact windowFrames_setView_same (view_ok hview) (by rfl)

/-! ## §5. Popups. -/

theorem sendPopupMap_frames (h : s.sendPopupMap p popup surf = .ok s') :
    s'.windowFrames = s.windowFrames := by
  rw [sendPopupMap, except_bind_eq_ok] at h
  obtain ⟨-, -, h⟩ := h
  cases h
  rfl

theorem popupHandleMap_frames (h : s.popupHandleMap p surf registered = .ok s') :
    s'.windowFrames = s.windowFrames := by
  rw [popupHandleMap, except_bind_eq_ok] at h
  obtain ⟨popup, -, h⟩ := h
  split at h
  · exact sendPopupMap_frames h
  · exact (sendPopupMap_frames h).trans rfl

theorem popupHandleUnmap_frames (h : s.popupHandleUnmap p = .ok s') :
    s'.windowFrames = s.windowFrames := by
  rw [popupHandleUnmap, except_bind_eq_ok] at h
  obtain ⟨popup, -, h⟩ := h
  cases h
  split <;> rfl

theorem popupHandleDestroy_frames (h : s.popupHandleDestroy p = .ok s') :
    s'.windowFrames = s.windowFrames := by
  rw [popupHandleDestroy, except_bind_eq_ok] at h
  obtain ⟨popup, -, h⟩ := h
  cases h
  split <;> rfl

theorem popupHandleReposition_frames (h : s.popupHandleReposition p surf = .ok s') :
    s'.windowFrames = s.windowFrames := by
  rw [popupHandleReposition, except_bind_eq_ok] at h
  obtain ⟨popup, -, h⟩ := h
  dsimp only at h
  split at h
  · exact (sendPopupMap_frames h).trans rfl
  · cases h
    rfl

/-- The first commit of a popup may give its parent an output, which is not in the frame. -/
theorem parentOutput_frames {parentView : Ptr} {parent : FwrView} {output : Option Ptr}
    (hv : s.viewObjects.get parentView = some parent)
    (h : s.parentOutput parentView parent layout = .ok (output, s')) :
    s'.windowFrames = s.windowFrames := by
  rw [parentOutput] at h
  split at h
  next =>
    cases h
    rfl
  next =>
    rw [except_bind_eq_ok] at h
    obtain ⟨found, -, h⟩ := h
    split at h
    next =>
      rw [except_bind_eq_ok] at h
      obtain ⟨scale, -, h⟩ := h
      cases h
      exact windowFrames_setView_same hv (by rfl)
    next =>
      cases h
      rfl

theorem popupFirstCommit_frames (h : s.popupFirstCommit p popup layout = .ok (popup', s')) :
    s'.windowFrames = s.windowFrames := by
  rw [popupFirstCommit] at h
  split at h
  · cases h
    rfl
  · rw [popupUnconstrain, except_bind_eq_ok] at h
    obtain ⟨parent, hparent, h⟩ := h
    rw [except_bind_eq_ok] at h
    obtain ⟨⟨output, s1⟩, houtput, h⟩ := h
    rw [← parentOutput_frames (view_ok hparent) houtput]
    dsimp only at h
    split at h
    · rw [except_bind_eq_ok] at h
      obtain ⟨scale, -, h⟩ := h
      cases h
      rfl
    · cases h
      rfl

theorem popupEnsureTexture_frames
    (h : s.popupEnsureTexture p popup surf registered = .ok (popup', s')) :
    s'.windowFrames = s.windowFrames := by
  rw [popupEnsureTexture] at h
  split at h
  · cases h
    rfl
  · dsimp only at h
    split at h
    · rw [except_bind_eq_ok] at h
      obtain ⟨s1, hsend, h⟩ := h
      cases h
      exact (sendPopupMap_frames hsend).trans rfl
    · cases h
      rfl

theorem popupFrame_frames (h : s.popupFrame p popup surf = .ok s') :
    s'.windowFrames = s.windowFrames := by
  rw [popupFrame] at h
  split at h
  · rw [except_bind_eq_ok] at h
    obtain ⟨s1, hresize, h⟩ := h
    cases h
    rw [windowFrames_call]
    rw [popupResize] at hresize
    split at hresize
    · exact sendPopupMap_frames hresize
    · cases hresize
      rfl
  · cases h
    rfl

theorem popupHandleCommit_frames (h : s.popupHandleCommit p surf layout registered = .ok s') :
    s'.windowFrames = s.windowFrames := by
  rw [popupHandleCommit, except_bind_eq_ok] at h
  obtain ⟨popup, -, h⟩ := h
  rw [except_bind_eq_ok] at h
  obtain ⟨⟨popup1, s1⟩, hfirst, h⟩ := h
  rw [← popupFirstCommit_frames hfirst]
  dsimp only at h
  split at h
  · rw [except_bind_eq_ok] at h
    obtain ⟨⟨popup2, s2⟩, hensure, h⟩ := h
    rw [← popupEnsureTexture_frames hensure]
    exact popupFrame_frames h
  · cases h
    rfl

theorem fwrNewXdgPopup_frames {parentXdg : Option Nat}
    (h : s.fwrNewXdgPopup parentXdg surf registered = .ok s') :
    s'.windowFrames = s.windowFrames := by
  cases parentXdg with
  | none =>
      cases h
      rfl
  | some parentXdg =>
      simp only [fwrNewXdgPopup] at h
      rw [except_bind_eq_ok] at h
      obtain ⟨found, -, h⟩ := h
      split at h
      next =>
        cases h
        rfl
      next parentView =>
        rw [except_bind_eq_ok] at h
        obtain ⟨parent, -, h⟩ := h
        rw [except_bind_eq_ok] at h
        obtain ⟨-, -, h⟩ := h
        split at h
        · exact (popupHandleMap_frames h).trans rfl
        · cases h
          rfl

/-! ## §6. All events. -/

/-- The frames after an event. -/
inductive Reframed (w : WindowFrames) : Event → WindowFrames → Prop where
  | unchanged {e : Event} (hother : e.isWindow = false) : Reframed w e w
  | newToplevel (xdgSurface : Nat) : Reframed w (.newToplevel xdgSurface) (w.create xdgSurface)
  | toplevelMap {p : Ptr} {geo : WlrBox} {layout : OutputLayout} {registered : Bool}
      {f : ViewFrame} (hf : w.frames p = some f) :
      Reframed w (.toplevelMap p geo layout registered) (w.put p (f.withGeometry geo))
  | toplevelUnmap {p : Ptr} {f : ViewFrame} (hf : w.frames p = some f) :
      Reframed w (.toplevelUnmap p) w
  | toplevelCommit {p : Ptr} {geo : WlrBox} {f : ViewFrame} (hf : w.frames p = some f) :
      Reframed w (.toplevelCommit p geo) (w.put p (f.withGeometry geo))
  | toplevelDestroy {p : Ptr} {f : ViewFrame} (hf : w.frames p = some f) :
      Reframed w (.toplevelDestroy p) (w.destroy p f.handle)
  | setPosition {surfaceHandle : UInt32} {x y : Int} {layout : OutputLayout} {q : Ptr}
      {f : ViewFrame} (hq : w.views.get surfaceHandle = some q) (hf : w.frames q = some f) :
      Reframed w (.setPosition surfaceHandle x y layout)
        (w.put q (f.movedTo (toInt32 x) (toInt32 y)))
  | setPositionGone {surfaceHandle : UInt32} {x y : Int} {layout : OutputLayout}
      (hq : w.views.get surfaceHandle = none) :
      Reframed w (.setPosition surfaceHandle x y layout) w

theorem reframed_of_eq {e : Event} {w : WindowFrames} (heq : s'.windowFrames = w)
    (h : Reframed s.windowFrames e w) : Reframed s.windowFrames e s'.windowFrames := by
  rw [heq]
  exact h

theorem reframed_same {e : Event} (heq : s'.windowFrames = s.windowFrames)
    (hother : e.isWindow = false) : Reframed s.windowFrames e s'.windowFrames :=
  reframed_of_eq heq (.unchanged hother)

/-- **What a handler does to the frames.** -/
theorem handle_reframed {e : Event} (h : s.handle e = .ok s') :
    Reframed s.windowFrames e s'.windowFrames := by
  cases e with
  | newOutput wlrOutput committed => exact reframed_same (fwrServerNewOutput_frames h) rfl
  | outputDestroy p => exact reframed_same (outputDestroy_frames h) rfl
  | outputCommitState p refresh scale => exact reframed_same (outputCommitState_frames h) rfl
  | setVsyncOutput outputId => exact reframed_same (fwrSetVsyncOutput_frames h) rfl
  | newToplevel xdgSurface =>
      exact reframed_of_eq (fwrNewXdgToplevel_frames h) (.newToplevel xdgSurface)
  | toplevelMap p geo layout registered =>
      obtain ⟨f, hf, hput⟩ := xdgToplevelMap_frames h
      exact reframed_of_eq hput (.toplevelMap hf)
  | toplevelUnmap p =>
      obtain ⟨f, hf, hsame⟩ := xdgToplevelUnmap_frames h
      exact reframed_of_eq hsame (.toplevelUnmap hf)
  | toplevelCommit p geo =>
      obtain ⟨f, hf, hput⟩ := xdgToplevelCommit_frames h
      exact reframed_of_eq hput (.toplevelCommit hf)
  | toplevelDestroy p =>
      obtain ⟨f, hf, hgone⟩ := xdgToplevelDestroy_frames h
      exact reframed_of_eq hgone (.toplevelDestroy hf)
  | setPosition handle x y layout =>
      rcases fwrHandleSurfaceSetPosition_frames h with ⟨hq, hsame⟩ | ⟨q, f, hq, hf, hput⟩
      · exact reframed_of_eq hsame (.setPositionGone hq)
      · exact reframed_of_eq hput (.setPosition hq hf)
  | newSubsurface p => exact reframed_same (handleNewSubsurface_frames h) rfl
  | subsurfaceMap p box registered => exact reframed_same (subsurfaceHandleMap_frames h) rfl
  | subsurfaceUnmap p => exact reframed_same (subsurfaceHandleUnmap_frames h) rfl
  | subsurfaceCommit p box => exact reframed_same (subsurfaceHandleCommit_frames h) rfl
  | subsurfaceDestroy p => exact reframed_same (subsurfaceHandleDestroy_frames h) rfl
  | newPopup parentXdg surf registered => exact reframed_same (fwrNewXdgPopup_frames h) rfl
  | popupMap p surf registered => exact reframed_same (popupHandleMap_frames h) rfl
  | popupUnmap p => exact reframed_same (popupHandleUnmap_frames h) rfl
  | popupCommit p surf layout registered => exact reframed_same (popupHandleCommit_frames h) rfl
  | popupReposition p surf => exact reframed_same (popupHandleReposition_frames h) rfl
  | popupDestroy p => exact reframed_same (popupHandleDestroy_frames h) rfl
  | newSurface | surfaceDestroy p | activateSystemCursor xcursorName =>
      cases h
      exact reframed_same rfl rfl
  | requestCursor focused surface x y =>
      cases h
      refine reframed_same ?_ rfl
      unfold onSeatRequestCursor
      split <;> rfl

end Instance

end FlutterWlroots.Compositor
