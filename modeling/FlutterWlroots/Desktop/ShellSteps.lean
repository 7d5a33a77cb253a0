/-
  FlutterWlroots.Desktop.ShellSteps — what a handler of the desktop can do.

  One lemma for each handler with more than one outcome, which lists the outcomes by what they do to
  the frames, the windows, the focus and the channel:

    • `pointerEvent_step`     — an event of the compositor or the mouse,
    • `keyboardHandleKey_step` — a key,
    • `fwrFocusView_ok`        — giving the focus touches nothing but the focus and `activated`.
-/
import FlutterWlroots.Desktop.PointerOutcomes

namespace FlutterWlroots.Desktop

open Lib Lib.CInt Lib.StateRun FlutterWlroots.Compositor FlutterWlroots.Input
open FlutterWlroots.Messages
open FlutterWlroots.StandardMessageCodec (DartValue)

/-- A window apart from its focus. -/
def Window.passive (w : Window) : Window := { w with activated := false }

/-- A window apart from its node. -/
def Window.still (w : Window) : Window := { w with sceneTree := none }

/-- The geometry of a window, and the size of its buffer. -/
structure Geometry where
  width : Int
  height : Int
  bufferWidth : Int
  bufferHeight : Int
  geoX : Int
  geoY : Int
deriving DecidableEq, Repr

/-- What a client has committed. -/
def Geometry.of (geo : WlrBox) (size : Int × Int) : Geometry :=
  ⟨geo.width, geo.height, size.1, size.2, geo.x, geo.y⟩

/-- What Dart has of it. -/
def Surface.geometry (surface : Surface) : Geometry :=
  ⟨surface.width, surface.height, surface.bufferWidth, surface.bufferHeight, surface.geoX,
    surface.geoY⟩

namespace Shell

variable {c : Target} {s s' : Shell} {p : Ptr} {mouse : InputInstance}

/-! ## §1. Fields. -/

@[simp] theorem frames_withMouse (s : Shell) (mouse : InputInstance) :
    (s.withMouse mouse).frames = mouse.frames := rfl

@[simp] theorem frames_setWindow (s : Shell) (p : Ptr) (w : Window) :
    (s.setWindow p w).frames = s.frames := rfl

@[simp] theorem frames_setNode (s : Shell) (p : Ptr) (x y : Int) :
    (s.setNode p x y).frames = s.frames := rfl

@[simp] theorem frames_send (s : Shell) (m : Message) : (s.send m).frames = s.frames := rfl

@[simp] theorem windows_withMouse (s : Shell) (mouse : InputInstance) :
    (s.withMouse mouse).windows = s.windows := rfl

@[simp] theorem windows_send (s : Shell) (m : Message) : (s.send m).windows = s.windows := rfl

@[simp] theorem windows_setWindow_self (s : Shell) (p : Ptr) (w : Window) :
    (s.setWindow p w).windows p = w := Function.update_self ..

theorem windows_setWindow_of_ne {q : Ptr} (h : q ≠ p) (s : Shell) (w : Window) :
    (s.setWindow p w).windows q = s.windows q := Function.update_of_ne h ..

@[simp] theorem settled_withMouse (s : Shell) (mouse : InputInstance) :
    (s.withMouse mouse).settled = s.settled := rfl

@[simp] theorem settled_setWindow (s : Shell) (p : Ptr) (w : Window) :
    (s.setWindow p w).settled = s.settled := rfl

@[simp] theorem settled_setNode (s : Shell) (p : Ptr) (x y : Int) :
    (s.setNode p x y).settled = s.settled := rfl

@[simp] theorem settled_send (s : Shell) (m : Message) :
    (s.send m).settled = s.settled.receive m := Channel.settled_send m

/-- A field of all windows, when one of them changes. -/
theorem windowField_setWindow {α : Type} (field : Window → α) (s : Shell) (p : Ptr) (w : Window) :
    (fun q => field ((s.setWindow p w).windows q)) =
      Function.update (fun q => field (s.windows q)) p (field w) := Function.comp_update ..

/-- Part of all frames, when a view comes. -/
theorem framePart_create {α : Type} (part : ViewFrame → α) (w : WindowFrames) (xdgSurface : Nat) :
    (fun q => ((w.create xdgSurface).frames q).map part) =
      Function.update (fun q => (w.frames q).map part) w.next
        (some (part (.fresh w.views.next xdgSurface))) := Function.comp_update (Option.map part) ..

/-- Part of all frames, when a view goes. -/
theorem framePart_destroy {α : Type} (part : ViewFrame → α) (w : WindowFrames) (p : Ptr)
    (handle : UInt32) : (fun q => ((w.destroy p handle).frames q).map part) =
      Function.update (fun q => (w.frames q).map part) p none :=
  Function.comp_update (Option.map part) ..

/-- A part of the frames that stays the same with the frame of one view. -/
theorem framePart_put {α : Type} {part : ViewFrame → α} {w : WindowFrames} {f g : ViewFrame}
    (hf : w.frames p = some f) (hpart : part g = part f) :
    (fun q => ((w.put p g).frames q).map part) = fun q => (w.frames q).map part := by
  have hput : (fun q => ((w.put p g).frames q).map part) =
      Function.update (fun q => (w.frames q).map part) p (some (part g)) :=
    Function.comp_update (Option.map part) ..
  rw [hput, hpart, Function.update_eq_self_iff, hf]
  rfl

/-- A view that can be read has its frame. -/
theorem frame_of_view {view : FwrView} (h : s.mouse.compositor.view p = .ok view) :
    s.frames.frames p = some view.frame := Instance.frame_of_get (Instance.view_ok h)

theorem view_of_frame {f : ViewFrame} (h : s.frames.frames p = some f) :
    ∃ view, s.mouse.compositor.view p = .ok view ∧ view.frame = f :=
  Instance.view_ok_of_frame h

/-! ## §2. Focus. -/

/-- The toplevel that loses the focus to another surface. -/
def previous (s : Shell) : Option Ptr := s.focusedSurface.bind s.viewOf

/-- The windows when the focused surface has lost the focus. -/
def unfocused (s : Shell) : Ptr → Window :=
  match s.previous with
  | none => s.windows
  | some q => Function.update s.windows q { s.windows q with activated := false }

/-- The windows when `p` has got the focus from another surface. -/
def focusedOn (s : Shell) (p : Ptr) : Ptr → Window :=
  Function.update s.unfocused p { s.unfocused p with activated := true }

/-- **What `fwr_focus_view` does.**  The window that loses the focus is still there. -/
theorem fwrFocusView_ok (h : s.fwrFocusView p = .ok s') :
    ∃ f, s.frames.frames p = some f ∧
      (s.focusedSurface = some f.xdgSurface ∧ s' = s ∨
        s.focusedSurface ≠ some f.xdgSurface ∧
          (∀ q, s.previous = some q → ∃ g, s.frames.frames q = some g) ∧
          s' = { s with
            windows := s.focusedOn p
            focusedSurface := some f.xdgSurface
            currentFocusedView := f.handle }) := by
  rw [fwrFocusView, except_bind_eq_ok] at h
  obtain ⟨view, hview, h⟩ := h
  refine ⟨view.frame, frame_of_view hview, ?_⟩
  split at h
  next heq =>
    cases h
    exact .inl ⟨heq, rfl⟩
  next hne =>
    rw [except_bind_eq_ok] at h
    obtain ⟨s1, hlost, h⟩ := h
    cases h
    refine .inr ⟨hne, ?_⟩
    rw [deactivateFocused] at hlost
    split at hlost
    next hnone =>
      cases hlost
      refine ⟨fun q hq => ?_, ?_⟩
      · rw [previous, hnone] at hq
        cases hq
      · unfold focusedOn unfocused previous
        rw [hnone]
        rfl
    next q hq =>
      rw [except_bind_eq_ok] at hlost
      obtain ⟨old, hold, hlost⟩ := hlost
      cases hlost
      refine ⟨fun r hr => ?_, ?_⟩
      · rw [previous, hq] at hr
        cases hr
        exact ⟨old.frame, frame_of_view hold⟩
      · unfold focusedOn unfocused previous
        rw [hq]
        rfl

/-- Everything apart from the focus is the same. -/
structure Refocused (s s' : Shell) : Prop where
  mouse : s'.mouse = s.mouse
  channel : s'.channel = s.channel
  sizes : s'.sizes = s.sizes
  viewOf : s'.viewOf = s.viewOf
  passive : ∀ q, (s'.windows q).passive = (s.windows q).passive

theorem Refocused.refl (s : Shell) : Refocused s s := ⟨rfl, rfl, rfl, rfl, fun _ => rfl⟩

theorem focusedOn_passive (s : Shell) (p q : Ptr) :
    (s.focusedOn p q).passive = (s.windows q).passive := by
  have hset : ∀ (ws : Ptr → Window) (r : Ptr) (activated : Bool),
      (Function.update ws r { ws r with activated } q).passive = (ws q).passive := by
    intro ws r activated
    by_cases hq : q = r
    · rw [hq, Function.update_self]
      rfl
    · rw [Function.update_of_ne hq]
  have hlost : (s.unfocused q).passive = (s.windows q).passive := by
    unfold unfocused
    cases s.previous with
    | none => rfl
    | some r => exact hset s.windows r false
  exact (hset s.unfocused p true).trans hlost

theorem fwrFocusView_refocused (h : s.fwrFocusView p = .ok s') : Refocused s s' := by
  obtain ⟨f, -, ⟨-, rfl⟩ | ⟨-, -, rfl⟩⟩ := fwrFocusView_ok h
  · exact .refl s'
  · exact ⟨rfl, rfl, rfl, rfl, focusedOn_passive s p⟩

namespace Refocused

variable (h : Refocused s s')

include h

theorem frames_eq : s'.frames = s.frames := by
  unfold frames
  rw [h.mouse]

theorem settled_eq : s'.settled = s.settled := by
  unfold settled
  rw [h.channel]

theorem usesSsd_eq (q : Ptr) : (s'.windows q).usesSsd = (s.windows q).usesSsd := by
  have hq := congrArg Window.usesSsd (h.passive q)
  exact hq

theorem sceneTree_eq (q : Ptr) : (s'.windows q).sceneTree = (s.windows q).sceneTree := by
  have hq := congrArg Window.sceneTree (h.passive q)
  exact hq

theorem mapped_eq (q : Ptr) : (s'.windows q).mapped = (s.windows q).mapped := by
  have hq := congrArg Window.mapped (h.passive q)
  exact hq

end Refocused

theorem focusHandle_ok {surfaceHandle : Option UInt32} (h : s.focusHandle surfaceHandle = .ok s') :
    surfaceHandle.bind s.mouse.compositor.views.get = none ∧ s' = s ∨
      ∃ p, surfaceHandle.bind s.mouse.compositor.views.get = some p ∧
        s.fwrFocusView p = .ok s' := by
  rw [focusHandle] at h
  split at h
  next hnone =>
    cases h
    exact .inl ⟨hnone, rfl⟩
  next p hp => exact .inr ⟨p, hp, h⟩

/-! ## §3. The compositor and the mouse. -/

/-- Only calls that have to do with windows count. -/
theorem applyCalls_windowCalls (calls : List Call) : ∀ s : Shell,
    s.applyCalls calls = s.applyCalls (windowCalls calls) := by
  induction calls with
  | nil => exact fun _ => rfl
  | cons call calls ih =>
      intro s
      have hskip : call.isWindow = false → s.applyCall call = .ok s := by
        intro hcall
        cases call <;> first | rfl | cases hcall
      by_cases hcall : call.isWindow
      · unfold windowCalls
        rw [List.filter_cons_of_pos hcall]
        show (s.applyCall call >>= fun s => s.applyCalls calls) =
          (s.applyCall call >>= fun s => s.applyCalls (windowCalls calls))
        congr 1
        exact funext ih
      · unfold windowCalls
        rw [List.filter_cons_of_neg hcall]
        show (s.applyCall call >>= fun s => s.applyCalls calls) = s.applyCalls (windowCalls calls)
        rw [hskip (Bool.not_eq_true _ ▸ hcall)]
        exact ih s

/-- A window as `xdg_toplevel_map` leaves it. -/
def mapWindow (w : Window) (f : ViewFrame) : Window :=
  { (w.viewCreateScene f.x f.y).setEnabled true with mapped := true }

/-- A window as `xdg_toplevel_unmap` leaves it. -/
def unmapWindow (w : Window) : Window := { w.setEnabled false with mapped := false }

/-- The events in the life of a toplevel. -/
def isToplevel : PointerEvent → Bool
  | .compositor (.newToplevel ..) => true
  | .compositor (.toplevelMap ..) => true
  | .compositor (.toplevelUnmap ..) => true
  | .compositor (.toplevelCommit ..) => true
  | .compositor (.toplevelDestroy ..) => true
  | _ => false

/-- The outcomes of an event of the compositor or the mouse. -/
inductive PointerStep (s : Shell) : PointerEvent → Shell → Prop where
  | quiet {e : PointerEvent} {mouse : InputInstance} (hother : isToplevel e = false)
      (hframes : mouse.frames = s.frames) : PointerStep s e (s.withMouse mouse)
  | focus {e : PointerEvent} {mouse : InputInstance} {p : Ptr} {s' : Shell}
      (htarget : s.mouse.focusTarget e = some p) (hframes : mouse.frames = s.frames)
      (h : (s.withMouse mouse).fwrFocusView p = .ok s') : PointerStep s e s'
  | drag {e : PointerEvent} {mouse : InputInstance} {p : Ptr} {f : ViewFrame} (box : WlrBox)
      (hdragged : s.mouse.draggedView e = some p) (hf : s.frames.frames p = some f)
      (hframes : mouse.frames = s.frames.put p (f.inBox box)) :
      PointerStep s e ((s.withMouse mouse).setNode p box.x box.y)
  | newToplevel {xdgSurface : Nat} {mouse : InputInstance}
      (hframes : mouse.frames = s.frames.create xdgSurface) :
      PointerStep s (.compositor (.newToplevel xdgSurface)) (s.fwrNewXdgToplevel mouse xdgSurface)
  | toplevelMap {p : Ptr} {geo : WlrBox} {layout : OutputLayout} {registered : Bool}
      {mouse : InputInstance} {f : ViewFrame} {surface : Surface} {s' : Shell}
      (hf : s.frames.frames p = some f)
      (hframes : mouse.frames = s.frames.put p (f.withGeometry geo))
      (hhandle : surface.handle = f.handle)
      (hgeometry : surface.geometry = .of geo (s.sizes f.xdgSurface))
      (hcsd : surface.usesCsd = !(s.windows p).usesSsd)
      (hreadable : (Message.surfaceMap surface).readable = (s.windows p).textsFit)
      (h : (((s.withMouse mouse).setWindow p (mapWindow (s.windows p) f)).send
        (.surfaceMap surface)).fwrFocusView p = .ok s') :
      PointerStep s (.compositor (.toplevelMap p geo layout registered)) s'
  | toplevelUnmap {p : Ptr} {mouse : InputInstance} {f : ViewFrame}
      (hf : s.frames.frames p = some f) (hframes : mouse.frames = s.frames) :
      PointerStep s (.compositor (.toplevelUnmap p))
        (((s.withMouse mouse).setWindow p (unmapWindow (s.windows p))).send
          (.surfaceUnmap f.handle))
  | toplevelCommit {p : Ptr} {geo : WlrBox} {mouse : InputInstance} {f : ViewFrame}
      (hf : s.frames.frames p = some f)
      (hframes : mouse.frames = s.frames.put p (f.withGeometry geo))
      (hsame : geoChanged f geo = false) :
      PointerStep s (.compositor (.toplevelCommit p geo)) (s.withMouse mouse)
  | toplevelResized {p : Ptr} {geo : WlrBox} {mouse : InputInstance} {f : ViewFrame}
      (hf : s.frames.frames p = some f)
      (hframes : mouse.frames = s.frames.put p (f.withGeometry geo))
      (hchanged : geoChanged f geo = true) :
      PointerStep s (.compositor (.toplevelCommit p geo))
        ((s.withMouse mouse).send (.surfaceGeometry f.handle geo.width geo.height
          (s.sizes f.xdgSurface).1 (s.sizes f.xdgSurface).2 geo.x geo.y))
  | toplevelDestroy {p : Ptr} {mouse : InputInstance} {f : ViewFrame}
      (hf : s.frames.frames p = some f) (hframes : mouse.frames = s.frames.destroy p f.handle) :
      PointerStep s (.compositor (.toplevelDestroy p)) (s.xdgToplevelDestroy mouse p)
  | setPosition {surfaceHandle : UInt32} {x y : Int} {layout : OutputLayout}
      {mouse : InputInstance} {p : Ptr} {f : ViewFrame} (hf : s.frames.frames p = some f)
      (hframes : mouse.frames = s.frames.put p (f.movedTo (toInt32 x) (toInt32 y))) :
      PointerStep s (.compositor (.setPosition surfaceHandle x y layout))
        ((s.withMouse mouse).setNode p (toInt32 x)
          (toInt32 y + (s.windows p).titlebarOffset))

/-- A handler of the mouse that reframes by an event of the compositor. -/
theorem compositorEvent_reframed {e : Event} {calls : List Call}
    (h : s.mouse.handle c (.compositor e) = .ok (mouse, calls)) :
    Instance.Reframed s.frames e mouse.frames ∧ calls = [] := by
  obtain ⟨compositor, hcompositor, h⟩ := except_bind_eq_ok.mp h
  have hreframed := Instance.handle_reframed hcompositor
  cases hkey : s.mouse.clearedKey e with
  | none =>
      rw [hkey] at h
      cases h
      exact ⟨hreframed, rfl⟩
  | some key =>
      rw [hkey] at h
      cases h
      exact ⟨hreframed, rfl⟩

theorem frames_put_self (w : WindowFrames) (p : Ptr) (f : ViewFrame) :
    (w.put p f).frames p = some f := Function.update_self ..

theorem frames_put_of_ne {q : Ptr} (h : q ≠ p) (w : WindowFrames) (f : ViewFrame) :
    (w.put p f).frames q = w.frames q := Function.update_of_ne h ..

theorem xdgToplevelMap_step {geo : WlrBox} {layout : OutputLayout} {registered : Bool}
    {f : ViewFrame} (hf : s.frames.frames p = some f)
    (hframes : mouse.frames = s.frames.put p (f.withGeometry geo))
    (h : s.xdgToplevelMap mouse p = .ok s') :
    PointerStep s (.compositor (.toplevelMap p geo layout registered)) s' := by
  rw [xdgToplevelMap, except_bind_eq_ok] at h
  obtain ⟨view, hview, h⟩ := h
  obtain rfl : view.frame = f := Option.some.inj ((frame_of_view hview).symm.trans hf)
  rw [except_bind_eq_ok] at h
  obtain ⟨s1, hsend, h⟩ := h
  simp only [sendSurfaceMap, except_bind_eq_ok] at hsend
  obtain ⟨mapped, hmapped, outputId, -, hsend⟩ := hsend
  cases hsend
  -- the message names the handle the view has kept
  have hframe : mapped.frame = view.frame.withGeometry geo := by
    have hput : mouse.frames.frames p = some mapped.frame := frame_of_view hmapped
    rw [hframes, frames_put_self] at hput
    exact (Option.some.inj hput).symm
  have hsurface : mapped.xdgSurface = view.xdgSurface := congrArg ViewFrame.xdgSurface hframe
  have hwidth : mapped.width = geo.width := congrArg ViewFrame.width hframe
  have hheight : mapped.height = geo.height := congrArg ViewFrame.height hframe
  have hgeoX : mapped.geoX = geo.x := congrArg ViewFrame.geoX hframe
  have hgeoY : mapped.geoY = geo.y := congrArg ViewFrame.geoY hframe
  have hscene : ∀ {α : Type} (field : Window → α),
      (∀ node, field { s.windows p with sceneTree := node } = field (s.windows p)) →
      field ((s.windows p).viewCreateScene view.x view.y) = field (s.windows p) := by
    intro α field hfield
    unfold Window.viewCreateScene
    split
    · rfl
    · exact hfield _
  refine .toplevelMap hf hframes (congrArg ViewFrame.handle hframe) ?_ ?_ ?_ h
  · show Geometry.mk mapped.width mapped.height (s.sizes mapped.xdgSurface).1
      (s.sizes mapped.xdgSurface).2 mapped.geoX mapped.geoY = _
    rw [hsurface, hwidth, hheight, hgeoX, hgeoY]
    rfl
  · dsimp only
    rw [windows_setWindow_self, ← hscene (·.usesSsd) fun _ => rfl]
    rfl
  · unfold Message.readable
    dsimp only
    rw [windows_setWindow_self, ← hscene (·.textsFit) fun _ => rfl]
    rfl

theorem xdgToplevelUnmap_step {f : ViewFrame} (hf : s.frames.frames p = some f)
    (hframes : mouse.frames = s.frames) (h : s.xdgToplevelUnmap mouse p = .ok s') :
    PointerStep s (.compositor (.toplevelUnmap p)) s' := by
  rw [xdgToplevelUnmap, except_bind_eq_ok] at h
  obtain ⟨view, hview, h⟩ := h
  obtain rfl : view.frame = f := Option.some.inj ((frame_of_view hview).symm.trans hf)
  cases h
  exact .toplevelUnmap hf hframes

theorem xdgToplevelCommit_step {geo : WlrBox} {f : ViewFrame} (hf : s.frames.frames p = some f)
    (hframes : mouse.frames = s.frames.put p (f.withGeometry geo))
    (h : s.xdgToplevelCommit mouse p geo = .ok s') :
    PointerStep s (.compositor (.toplevelCommit p geo)) s' := by
  rw [xdgToplevelCommit, except_bind_eq_ok] at h
  obtain ⟨view, hview, h⟩ := h
  obtain rfl : view.frame = f := Option.some.inj ((frame_of_view hview).symm.trans hf)
  split at h
  next hchanged =>
    rw [sendSurfaceGeometry, except_bind_eq_ok] at h
    obtain ⟨committed, hcommitted, h⟩ := h
    cases h
    have hframe : committed.frame = view.frame.withGeometry geo := by
      have hput : mouse.frames.frames p = some committed.frame := frame_of_view hcommitted
      rw [hframes, frames_put_self] at hput
      exact (Option.some.inj hput).symm
    have hstep := PointerStep.toplevelResized hf hframes hchanged
    have hhandle : committed.handle = view.handle := congrArg ViewFrame.handle hframe
    have hsurface : committed.xdgSurface = view.xdgSurface := congrArg ViewFrame.xdgSurface hframe
    have hwidth : committed.width = geo.width := congrArg ViewFrame.width hframe
    have hheight : committed.height = geo.height := congrArg ViewFrame.height hframe
    have hgeoX : committed.geoX = geo.x := congrArg ViewFrame.geoX hframe
    have hgeoY : committed.geoY = geo.y := congrArg ViewFrame.geoY hframe
    rw [hhandle, hsurface, hwidth, hheight, hgeoX, hgeoY]
    exact hstep
  next hsame =>
    cases h
    exact .toplevelCommit hf hframes (Bool.not_eq_true _ ▸ hsame)

theorem fwrHandleSurfaceSetPosition_step {surfaceHandle : UInt32} {x y : Int}
    {layout : OutputLayout} {f : ViewFrame}
    (hget : s.frames.views.get surfaceHandle = some p) (hf : s.frames.frames p = some f)
    (hframes : mouse.frames = s.frames.put p (f.movedTo (toInt32 x) (toInt32 y)))
    (h : s.fwrHandleSurfaceSetPosition mouse surfaceHandle = .ok s') :
    PointerStep s (.compositor (.setPosition surfaceHandle x y layout)) s' := by
  have hviews : mouse.compositor.views = s.frames.views := congrArg WindowFrames.views hframes
  rw [fwrHandleSurfaceSetPosition, hviews, hget] at h
  obtain ⟨view, hview, h⟩ := except_bind_eq_ok.mp h
  cases h
  have hframe : view.frame = f.movedTo (toInt32 x) (toInt32 y) := by
    have hput : mouse.frames.frames p = some view.frame :=
      Instance.frame_of_get (Instance.view_ok hview)
    rw [hframes, frames_put_self] at hput
    exact (Option.some.inj hput).symm
  have hx : view.x = toInt32 x := congrArg ViewFrame.x hframe
  have hy : view.y = toInt32 y := congrArg ViewFrame.y hframe
  rw [hx, hy]
  exact .setPosition hf hframes

theorem not_isToplevel_of_other {e : Event} (hother : e.isWindow = false) :
    isToplevel (.compositor e) = false := by
  cases e <;> first | rfl | cases hother

theorem not_isToplevel_of_pointer {e : PointerEvent} (hother : ∀ e', e ≠ .compositor e') :
    isToplevel e = false := by
  cases e with
  | compositor e' => exact absurd rfl (hother e')
  | cursorMotion | cursorButton | cursorAxis | surfacePointer | popupPointer | beginMove
    | beginResize | requestMove | requestResize | directInput | popupGrab => rfl

theorem not_isToplevel_of_target {e : PointerEvent} (h : s.mouse.focusTarget e = some p) :
    isToplevel e = false := by
  refine not_isToplevel_of_pointer fun e' heq => ?_
  rw [heq] at h
  cases h

theorem not_isToplevel_of_dragged {e : PointerEvent} (h : s.mouse.draggedView e = some p) :
    isToplevel e = false := by
  refine not_isToplevel_of_pointer fun e' heq => ?_
  rw [heq] at h
  cases h

/-- Events that are not about toplevels leave the windows alone. -/
theorem windowEvent_other {e : Event} (hother : e.isWindow = false) :
    s.windowEvent mouse (.compositor e) = .ok (s.withMouse mouse) := by
  cases e <;> first | rfl | cases hother

theorem compositorEvent_step {e : Event} (hreframed : Instance.Reframed s.frames e mouse.frames)
    (h : s.windowEvent mouse (.compositor e) = .ok s') : PointerStep s (.compositor e) s' := by
  generalize hframes : mouse.frames = w at hreframed
  cases hreframed with
  | unchanged hother =>
      rw [windowEvent_other hother] at h
      cases h
      exact .quiet (not_isToplevel_of_other hother) hframes
  | newToplevel xdgSurface =>
      cases h
      exact .newToplevel hframes
  | toplevelMap hf => exact xdgToplevelMap_step hf hframes h
  | toplevelUnmap hf => exact xdgToplevelUnmap_step hf hframes h
  | toplevelCommit hf => exact xdgToplevelCommit_step hf hframes h
  | toplevelDestroy hf =>
      cases h
      exact .toplevelDestroy hf hframes
  | setPosition hget hf => exact fwrHandleSurfaceSetPosition_step hget hf hframes h
  | setPositionGone hget =>
      have hviews : mouse.compositor.views = s.frames.views := congrArg WindowFrames.views hframes
      have hskip : s.windowEvent mouse (.compositor (.setPosition _ _ _ _)) = .ok s' := h
      rw [windowEvent, fwrHandleSurfaceSetPosition, hviews, hget] at hskip
      cases hskip
      exact .quiet rfl hframes

theorem outcome_step {e : PointerEvent} {calls : List Call} (hother : ∀ e', e ≠ .compositor e')
    (hout : Outcome s.mouse (s.mouse.focusTarget e) (s.mouse.draggedView e) mouse calls)
    (h : (s.withMouse mouse).applyCalls calls = .ok s') : PointerStep s e s' := by
  rw [applyCalls_windowCalls] at h
  cases hout with
  | quiet hframes hcalls =>
      rw [hcalls] at h
      cases h
      exact .quiet (not_isToplevel_of_pointer hother) hframes
  | focus htarget hframes hcalls =>
      rw [hcalls] at h
      obtain ⟨s1, hfocus, h⟩ := except_bind_eq_ok.mp h
      cases h
      exact .focus htarget hframes hfocus
  | @drag p f box hdragged hget hf hframes hcalls =>
      rw [hcalls] at h
      obtain ⟨s1, hplaced, h⟩ := except_bind_eq_ok.mp h
      cases h
      -- the grab still names the view it has moved
      have hnode : (s.withMouse mouse).placeGrabbed box.x box.y =
          (s.withMouse mouse).setNode p box.x box.y := by
        unfold placeGrabbed
        show (match mouse.compositor.views.get mouse.input.grab.viewHandle with
          | none => _
          | some p => _) = _
        rw [hget]
      rw [show (s.withMouse mouse).applyCall _ = .ok ((s.withMouse mouse).placeGrabbed _ _) from rfl,
        hnode] at hplaced
      cases hplaced
      exact .drag box hdragged hf hframes

/-- **The outcomes of an event of the compositor or the mouse.** -/
theorem pointerEvent_step {e : PointerEvent} (h : s.pointerEvent c e = .ok s') :
    PointerStep s e s' := by
  rw [pointerEvent, except_bind_eq_ok] at h
  obtain ⟨⟨mouse, calls⟩, hmouse, h⟩ := h
  rw [except_bind_eq_ok] at h
  obtain ⟨s1, hwindow, h⟩ := h
  by_cases hcompositor : ∃ e', e = .compositor e'
  · obtain ⟨e', rfl⟩ := hcompositor
    obtain ⟨hreframed, rfl⟩ := compositorEvent_reframed hmouse
    cases h
    exact compositorEvent_step hreframed hwindow
  · have hother : ∀ e', e ≠ .compositor e' := fun e' heq => hcompositor ⟨e', heq⟩
    have hskip : s.windowEvent mouse e = .ok (s.withMouse mouse) := by
      cases e with
      | compositor e' => exact absurd rfl (hother e')
      | cursorMotion | cursorButton | cursorAxis | surfacePointer | popupPointer | beginMove
        | beginResize | requestMove | requestResize | directInput | popupGrab => rfl
    rw [hskip] at hwindow
    cases hwindow
    exact outcome_step hother (handle_outcome hother hmouse) h

/-! ## §4. Nodes. -/

/-- Everything apart from the nodes is the same. -/
structure Rearranged (s s' : Shell) : Prop where
  mouse : s'.mouse = s.mouse
  channel : s'.channel = s.channel
  sizes : s'.sizes = s.sizes
  viewOf : s'.viewOf = s.viewOf
  focusedSurface : s'.focusedSurface = s.focusedSurface
  still : ∀ q, (s'.windows q).still = (s.windows q).still

theorem Rearranged.refl (s : Shell) : Rearranged s s := ⟨rfl, rfl, rfl, rfl, rfl, fun _ => rfl⟩

theorem Rearranged.trans {s'' : Shell} (h : Rearranged s s') (h' : Rearranged s' s'') :
    Rearranged s s'' where
  mouse := h'.mouse.trans h.mouse
  channel := h'.channel.trans h.channel
  sizes := h'.sizes.trans h.sizes
  viewOf := h'.viewOf.trans h.viewOf
  focusedSurface := h'.focusedSurface.trans h.focusedSurface
  still q := (h'.still q).trans (h.still q)

theorem setNode_rearranged (s : Shell) (p : Ptr) (x y : Int) : Rearranged s (s.setNode p x y) := by
  refine ⟨rfl, rfl, rfl, rfl, rfl, fun q => ?_⟩
  by_cases hq : q = p
  · subst hq
    show ((s.setWindow q _).windows q).still = _
    rw [windows_setWindow_self]
    rfl
  · show ((s.setWindow p _).windows q).still = _
    rw [windows_setWindow_of_ne hq]

theorem updateScenePositions_rearranged (ps : List Ptr) : ∀ {s s' : Shell},
    s.updateScenePositions ps = .ok s' → Rearranged s s' := by
  induction ps with
  | nil =>
      intro s s' h
      cases h
      exact .refl s
  | cons p ps ih =>
      intro s s' h
      rw [updateScenePositions, except_bind_eq_ok] at h
      obtain ⟨view, -, h⟩ := h
      exact (setNode_rearranged s p _ _).trans (ih h)

namespace Rearranged

variable (h : Rearranged s s')

include h

theorem frames_eq : s'.frames = s.frames := by
  unfold frames
  rw [h.mouse]

theorem settled_eq : s'.settled = s.settled := by
  unfold settled
  rw [h.channel]

theorem usesSsd_eq (q : Ptr) : (s'.windows q).usesSsd = (s.windows q).usesSsd := by
  have hq := congrArg Window.usesSsd (h.still q)
  exact hq

theorem activated_eq (q : Ptr) : (s'.windows q).activated = (s.windows q).activated := by
  have hq := congrArg Window.activated (h.still q)
  exact hq

theorem mapped_eq (q : Ptr) : (s'.windows q).mapped = (s.windows q).mapped := by
  have hq := congrArg Window.mapped (h.still q)
  exact hq

end Rearranged

/-! ## §5. The keyboard. -/

/-- The view that a key raises. -/
def raisedView (s : Shell) (event : KeyEvent) : Option Ptr :=
  if event.pressed ∧ event.alt ∧ event.sym = .tab then s.nextWindow event.shift else none

/-- The view that a key tiles or maximizes. -/
def tiledView (s : Shell) (event : KeyEvent) : Option Ptr :=
  if event.pressed ∧ event.logo ∧ (event.sym = .left ∨ event.sym = .right ∨ event.sym = .up) then
    s.tiledWindow
  else none

theorem frames_tile {view : FwrView} {maximized : Bool} {box : WlrBox}
    (hview : s.mouse.compositor.view p = .ok view) :
    (s.tile p view maximized box).frames = s.frames.put p (view.frame.inBox box) :=
  Instance.windowFrames_setView (Instance.view_ok hview)

theorem windows_tile_self (s : Shell) (p : Ptr) (view : FwrView) (maximized : Bool)
    (box : WlrBox) : (s.tile p view maximized box).windows p =
      { s.windows p with maximized }.setPosition box.x box.y := by
  unfold tile setNode
  rw [windows_setWindow_self, windows_setWindow_self]

theorem windows_tile_of_ne {q : Ptr} (h : q ≠ p) (s : Shell) (view : FwrView) (maximized : Bool)
    (box : WlrBox) : (s.tile p view maximized box).windows q = s.windows q := by
  unfold tile setNode
  rw [windows_setWindow_of_ne h, windows_setWindow_of_ne h]
  rfl

/-- The outcomes of a key. -/
inductive KeyStep (s : Shell) (event : KeyEvent) : Shell → Prop where
  | quiet : KeyStep s event s
  | raise {p : Ptr} {f : ViewFrame} {s1 : Shell} (hraised : s.raisedView event = some p)
      (h : s.fwrFocusView p = .ok s1) (hf : s.frames.frames p = some f) :
      KeyStep s event (s1.setNode p f.x f.y)
  | tile {p : Ptr} {view : FwrView} (maximized : Bool) (box : WlrBox)
      (htiled : s.tiledView event = some p) (hview : s.mouse.compositor.view p = .ok view) :
      KeyStep s event (s.tile p view maximized box)

theorem focusViewAndRaise_step {event : KeyEvent} (hraised : s.raisedView event = some p)
    (h : s.focusViewAndRaise p = .ok s') : KeyStep s event s' := by
  rw [focusViewAndRaise, except_bind_eq_ok] at h
  obtain ⟨s1, hfocus, h⟩ := h
  rw [except_bind_eq_ok] at h
  obtain ⟨view, hview, h⟩ := h
  cases h
  have hf := frame_of_view hview
  rw [(fwrFocusView_refocused hfocus).frames_eq] at hf
  exact .raise hraised hfocus hf

/-- **The outcomes of a key.** -/
theorem keyboardHandleKey_step {event : KeyEvent} (h : s.keyboardHandleKey event = .ok s') :
    KeyStep s event s' := by
  rw [keyboardHandleKey] at h
  split at h
  next htab =>
    have hraised : s.raisedView event = s.nextWindow event.shift := if_pos htab
    split at h
    next p hp => exact focusViewAndRaise_step (hraised.trans hp) h
    next =>
      cases h
      exact .quiet
  next =>
    split at h
    next hlogo =>
      split at h
      next =>
        cases h
        exact .quiet
      next p hp =>
        obtain ⟨view, hview, h⟩ := except_bind_eq_ok.mp h
        have htiled : event.sym = .left ∨ event.sym = .right ∨ event.sym = .up →
            s.tiledView event = some p := fun hsym => (if_pos ⟨hlogo.1, hlogo.2, hsym⟩).trans hp
        cases hsym : event.sym with
        | left =>
            rw [hsym] at h
            cases h
            exact .tile _ _ (htiled (.inl hsym)) hview
        | right =>
            rw [hsym] at h
            cases h
            exact .tile _ _ (htiled (.inr (.inl hsym))) hview
        | up =>
            rw [hsym] at h
            cases h
            exact .tile _ _ (htiled (.inr (.inr hsym))) hview
        | tab | other =>
            rw [hsym] at h
            cases h
            exact .quiet
    next =>
      cases h
      exact .quiet

/-! ## §6. Decorations. -/

/-- The view of a surface, if there is one. -/
def viewOn (s : Shell) (surface : Nat) : Option Ptr :=
  (s.mouse.compositor.findView surface s.frames.viewsList).toOption.join

/-- A window that draws no decorations. -/
def ssdWindow (w : Window) (decoration : Option Nat) : Window :=
  { w with usesSsd := true, decoration }

/-- The outcomes of the decoration handlers. -/
inductive DecorationStep (s : Shell) (surface : Nat) : Shell → Prop where
  | quiet : DecorationStep s surface s
  | enforce {p : Ptr} {f : ViewFrame} (decoration : Option Nat) (hp : s.viewOn surface = some p)
      (hf : s.frames.frames p = some f) :
      DecorationStep s surface
        ((s.setWindow p (ssdWindow (s.windows p) decoration)).send
          (.surfaceDecoration f.handle false))

theorem enforceSsd_step {surface : Nat} {decoration : Option Nat}
    (hp : s.viewOn surface = some p) (h : s.enforceSsd p decoration = .ok s') :
    DecorationStep s surface s' := by
  rw [enforceSsd, fwrSendDecorationUpdate, except_bind_eq_ok] at h
  obtain ⟨view, hview, h⟩ := h
  cases h
  have hf : s.frames.frames p = some view.frame := frame_of_view hview
  have hssd : ((s.setWindow p (ssdWindow (s.windows p) decoration)).windows p).usesSsd = true := by
    rw [windows_setWindow_self]
    rfl
  show DecorationStep s surface ((s.setWindow p (ssdWindow (s.windows p) decoration)).send
    (.surfaceDecoration view.handle
      !((s.setWindow p (ssdWindow (s.windows p) decoration)).windows p).usesSsd))
  rw [hssd]
  exact .enforce decoration hp hf

theorem handleNewToplevelDecoration_step {xdgSurface decoration : Nat}
    (h : s.handleNewToplevelDecoration xdgSurface decoration = .ok s') :
    DecorationStep s xdgSurface s' := by
  rw [handleNewToplevelDecoration, except_bind_eq_ok] at h
  obtain ⟨found, hfound, h⟩ := h
  cases found with
  | none =>
      cases h
      exact .quiet
  | some p =>
      refine enforceSsd_step ?_ h
      unfold viewOn
      rw [hfound]
      rfl

theorem handleNewServerDecoration_step {surface : Nat}
    (h : s.handleNewServerDecoration surface = .ok s') : DecorationStep s surface s' := by
  rw [handleNewServerDecoration, except_bind_eq_ok] at h
  obtain ⟨found, hfound, h⟩ := h
  cases found with
  | none =>
      cases h
      exact .quiet
  | some p =>
      refine enforceSsd_step ?_ h
      unfold viewOn
      rw [hfound]
      rfl

/-! ## §7. Titles. -/

/-- A window with other texts, and Dart is told of them. -/
def Retitled (s : Shell) (p : Ptr) (s' : Shell) : Prop :=
  ∃ title appId f, s.frames.frames p = some f ∧
    s' = (s.setWindow p { s.windows p with title, appId }).send
      (.surfaceTitle f.handle (title.getD "") (appId.getD ""))

theorem retitled_send {title appId : Option String}
    (h : (s.setWindow p { s.windows p with title, appId }).sendSurfaceTitle p = .ok s') :
    Retitled s p s' := by
  rw [sendSurfaceTitle, except_bind_eq_ok] at h
  obtain ⟨view, hview, h⟩ := h
  cases h
  refine ⟨title, appId, view.frame, frame_of_view hview, ?_⟩
  rw [windows_setWindow_self]
  rfl

theorem xdgToplevelSetTitle_ok {title : String} (h : s.xdgToplevelSetTitle p title = .ok s') :
    Retitled s p s' := retitled_send h

theorem xdgToplevelSetAppId_ok {appId : String} (h : s.xdgToplevelSetAppId p appId = .ok s') :
    Retitled s p s' := retitled_send h

/-! ## §8. Opening windows. -/

/-- The events of a new window on a surface and its first map, without outputs. -/
def newWindow (view : Ptr) (surface : Nat) : List ShellEvent :=
  [.pointer (.compositor (.newToplevel surface)),
    .pointer (.compositor (.toplevelMap view ⟨0, 0, 640, 480⟩ (fun _ _ => none) true))]

end Shell

end FlutterWlroots.Desktop
