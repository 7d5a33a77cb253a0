/-
  FlutterWlroots.Desktop.PointerOutcomes — what the mouse does to windows.

  Of the many things a handler of the mouse does, a window notices two: it gets the focus, or the grab
  moves or resizes it.  `handle_outcome` says that an event does at most one of them, to the view
  that `focusTarget` or `draggedView` names before the event.
-/
import FlutterWlroots.Desktop.Shell

namespace FlutterWlroots.Input

open Lib Lib.CInt Lib.StateRun FlutterWlroots.Compositor FlutterWlroots.Messages
open FlutterWlroots.StandardMessageCodec (DartValue)

/-! ## §1. Calls. -/

/-- The calls that have to do with windows. -/
def Call.isWindow : Call → Bool
  | .focusView _ => true
  | .surfacePosition .. => true
  | _ => false

def windowCalls (calls : List Call) : List Call := calls.filter Call.isWindow

theorem windowCalls_append (calls calls' : List Call) :
    windowCalls (calls ++ calls') = windowCalls calls ++ windowCalls calls' :=
  List.filter_append _ _

/-- A call at the end that has nothing to do with windows. -/
theorem windowCalls_snoc {call : Call} (h : call.isWindow = false) (calls : List Call) :
    windowCalls (calls ++ [call]) = windowCalls calls := by
  rw [windowCalls_append]
  unfold windowCalls
  rw [List.filter_cons_of_neg (by simp [h]), List.filter_nil, List.append_nil]

/-! ## §2. The windows an event is about. -/

namespace InputInstance

variable (s : InputInstance)

/-- The frames of all views. -/
def frames : WindowFrames := s.compositor.windowFrames

/-- The view of the grab. -/
def grabbedView : Option Ptr :=
  if s.input.grab.type = .none then none else s.compositor.views.get s.input.grab.viewHandle

/-- The view that an event moves or resizes. -/
def draggedView : PointerEvent → Option Ptr
  | .cursorMotion .. => s.grabbedView
  | .surfacePointer args _ =>
      (decodeSurfacePointerEventMessage args).bind fun message =>
        (s.compositor.views.get message.surfaceHandle).bind fun _ =>
          match pointerEventType message.eventType with
          | .move => s.grabbedView
          | .hover => s.grabbedView
          | _ => none
  | _ => none

/-- The view that an event gives the focus to. -/
def focusTarget : PointerEvent → Option Ptr
  | .surfacePointer args _ =>
      (decodeSurfacePointerEventMessage args).bind fun message =>
        if s.input.grab.type = .none then
          match pointerEventType message.eventType with
          | .down => s.compositor.views.get message.surfaceHandle
          | .up => s.compositor.views.get message.surfaceHandle
          | _ => none
        else none
  | .beginMove args => (decodeSurfaceBeginMoveMessage args).bind s.compositor.views.get
  | .beginResize args =>
      (decodeSurfaceBeginResizeMessage args).bind fun message =>
        s.compositor.views.get message.surfaceHandle
  | .requestMove p => some p
  | .requestResize p _ => some p
  | _ => none

end InputInstance

/-- What an event does to windows, when it gives the focus to `target` or drags `dragged`. -/
inductive Outcome (s : InputInstance) (target dragged : Option Ptr) :
    InputInstance → List Call → Prop where
  | quiet {s' : InputInstance} {calls : List Call} (hframes : s'.frames = s.frames)
      (hcalls : windowCalls calls = []) : Outcome s target dragged s' calls
  | focus {s' : InputInstance} {calls : List Call} {p : Ptr} (htarget : target = some p)
      (hframes : s'.frames = s.frames) (hcalls : windowCalls calls = [.focusView p]) :
      Outcome s target dragged s' calls
  | drag {s' : InputInstance} {calls : List Call} {p : Ptr} {f : ViewFrame} (box : WlrBox)
      (hdragged : dragged = some p)
      (hget : s'.compositor.views.get s'.input.grab.viewHandle = some p)
      (hf : s.frames.frames p = some f) (hframes : s'.frames = s.frames.put p (f.inBox box))
      (hcalls : windowCalls calls =
        [.surfacePosition f.handle box.x box.y box.width box.height]) :
      Outcome s target dragged s' calls

section Handlers

variable {c : Target} {s s' : InputInstance} {calls : List Call} {target dragged : Option Ptr}

/-- A further call that has nothing to do with windows. -/
theorem Outcome.snoc {call : Call} (h : Outcome s target dragged s' calls)
    (hcall : call.isWindow = false) : Outcome s target dragged s' (calls ++ [call]) := by
  have hsnoc := windowCalls_snoc hcall calls
  cases h with
  | quiet hframes hcalls => exact .quiet hframes (hsnoc.trans hcalls)
  | focus htarget hframes hcalls => exact .focus htarget hframes (hsnoc.trans hcalls)
  | drag box hdragged hget hf hframes hcalls =>
      exact .drag box hdragged hget hf hframes (hsnoc.trans hcalls)

/-! ## §3. Grabs. -/

theorem endGrab_quiet (h : s.endGrab = .ok (s', calls)) :
    s'.frames = s.frames ∧ windowCalls calls = [] := by
  unfold InputInstance.endGrab at h
  split at h
  next p hp =>
    obtain ⟨view, -, h⟩ := except_bind_eq_ok.mp h
    cases h
    exact ⟨rfl, rfl⟩
  next =>
    cases h
    exact ⟨rfl, rfl⟩

/-- A move keeps the size. -/
theorem moveGrab_outcome {x y : Double} (h : s.moveGrab c x y = .ok (s', calls)) :
    Outcome s target (s.compositor.views.get s.input.grab.viewHandle) s' calls := by
  unfold InputInstance.moveGrab at h
  split at h
  next p hp =>
    obtain ⟨view, hview, h⟩ := except_bind_eq_ok.mp h
    cases h
    have hv := Instance.view_ok hview
    exact .drag ⟨_, _, view.width, view.height⟩ hp hp (Instance.frame_of_get hv)
      (Instance.windowFrames_setView hv) rfl
  next =>
    cases h
    exact .quiet rfl rfl

theorem resizeGrab_outcome {x y : Double} (h : s.resizeGrab c x y = .ok (s', calls)) :
    Outcome s target (s.compositor.views.get s.input.grab.viewHandle) s' calls := by
  unfold InputInstance.resizeGrab at h
  split at h
  next p hp =>
    obtain ⟨view, hview, h⟩ := except_bind_eq_ok.mp h
    cases h
    have hv := Instance.view_ok hview
    exact .drag _ hp hp (Instance.frame_of_get hv) (Instance.windowFrames_setView hv) rfl
  next =>
    cases h
    exact .quiet rfl rfl

theorem dragGrab_outcome {x y : Double} (h : s.dragGrab c x y = .ok (s', calls)) :
    Outcome s target s.grabbedView s' calls := by
  unfold InputInstance.dragGrab at h
  unfold InputInstance.grabbedView
  split at h
  next htype =>
    cases h
    exact .quiet rfl rfl
  next htype =>
    rw [htype, if_neg (by decide)]
    exact moveGrab_outcome h
  next htype =>
    rw [htype, if_neg (by decide)]
    exact resizeGrab_outcome h

/-- The start of a grab. -/
theorem startGrab_outcome {p : Ptr} {grab : FwrView → FwrGrabState} {rest : List Call}
    (htarget : target = some p) (hrest : windowCalls rest = [.focusView p])
    (h : (do
      let view ← s.compositor.view p
      return ({ s with input := { s.input with grab := grab view } }, rest) : Handled)
      = .ok (s', calls)) : Outcome s target dragged s' calls := by
  obtain ⟨view, -, h⟩ := except_bind_eq_ok.mp h
  cases h
  exact .focus htarget rfl hrest

theorem fwrHandleSurfaceBeginMove_outcome {args : DartValue}
    (h : s.fwrHandleSurfaceBeginMove args = .ok (s', calls)) :
    Outcome s ((decodeSurfaceBeginMoveMessage args).bind s.compositor.views.get) dragged s'
      calls := by
  unfold InputInstance.fwrHandleSurfaceBeginMove at h
  split at h
  next =>
    cases h
    exact .quiet rfl rfl
  next surfaceHandle hdecode =>
    split at h
    next =>
      cases h
      exact .quiet rfl rfl
    next p hp => exact startGrab_outcome (by rw [hdecode, Option.bind_some, hp]) (by rfl) h

theorem fwrHandleSurfaceBeginResize_outcome {args : DartValue}
    (h : s.fwrHandleSurfaceBeginResize args = .ok (s', calls)) :
    Outcome s ((decodeSurfaceBeginResizeMessage args).bind fun message =>
      s.compositor.views.get message.surfaceHandle) dragged s' calls := by
  unfold InputInstance.fwrHandleSurfaceBeginResize at h
  split at h
  next =>
    cases h
    exact .quiet rfl rfl
  next message hdecode =>
    split at h
    next =>
      cases h
      exact .quiet rfl rfl
    next p hp => exact startGrab_outcome (by rw [hdecode, Option.bind_some, hp]) (by rfl) h

/-! ## §4. Hardware. -/

theorem onServerCursorMotion_outcome {x y : Double} {timeMsec : UInt32} {usesSsd : Bool}
    (h : s.onServerCursorMotion c x y timeMsec usesSsd = .ok (s', calls)) :
    Outcome s target s.grabbedView s' calls := by
  unfold InputInstance.onServerCursorMotion InputInstance.processCursorMotion at h
  split at h
  next =>
    obtain ⟨view, -, h⟩ := except_bind_eq_ok.mp h
    cases h
    exact .quiet rfl rfl
  next =>
    cases h
    exact .quiet rfl rfl
  next =>
    obtain ⟨⟨s1, calls1⟩, hdrag, h⟩ := except_bind_eq_ok.mp h
    cases h
    -- the cursor itself is no part of a frame
    have hdragged : Outcome { s with cursorX := x, cursorY := y } target s.grabbedView s' calls1 :=
      dragGrab_outcome hdrag
    have hout : Outcome s target s.grabbedView s' calls1 := by
      cases hdragged with
      | quiet hframes hcalls => exact .quiet hframes hcalls
      | focus htarget hframes hcalls => exact .focus htarget hframes hcalls
      | drag box hdragged hget hf hframes hcalls =>
      exact .drag box hdragged hget hf hframes hcalls
    exact hout.snoc rfl

theorem onServerCursorButton_quiet {event : PointerButtonEvent}
    (h : s.onServerCursorButton event = .ok (s', calls)) :
    Outcome s target dragged s' calls := by
  unfold InputInstance.onServerCursorButton at h
  dsimp only at h
  split at h
  next =>
    obtain ⟨⟨s1, calls1⟩, hgrab, h⟩ := except_bind_eq_ok.mp h
    obtain ⟨hframes, hcalls⟩ := endGrab_quiet hgrab
    cases h
    refine .quiet hframes ?_
    rw [windowCalls_append, hcalls]
    rfl
  next =>
    split at h
    next =>
      cases h
      exact .quiet rfl rfl
    next =>
      split at h
      all_goals
        cases h
        exact .quiet rfl rfl

theorem onServerCursorAxis_quiet {event : PointerAxisEvent}
    (h : s.onServerCursorAxis event = .ok (s', calls)) : Outcome s target dragged s' calls := by
  unfold InputInstance.onServerCursorAxis at h
  dsimp only at h
  split at h
  next =>
    cases h
    exact .quiet rfl rfl
  next =>
    split at h
    all_goals
      cases h
      exact .quiet rfl rfl

/-! ## §5. Messages. -/

theorem windowCalls_told (timeMsec : UInt32) (changed : List (UInt32 × Bool)) :
    windowCalls (changed.map fun (button, pressed) => .notifyButton timeMsec button pressed)
      = [] := by
  induction changed with
  | nil => rfl
  | cons head changed ih => exact ih

theorem notifyButtons_quiet (key : UInt32) (message : SurfacePointerEventMessage) :
    (s.notifyButtons key message).1.frames = s.frames ∧
      windowCalls (s.notifyButtons key message).2 = [] := by
  refine ⟨rfl, ?_⟩
  unfold InputInstance.notifyButtons
  rw [windowCalls_append, windowCalls_told]
  rfl

theorem notifyScroll_quiet (message : SurfacePointerEventMessage) :
    (s.notifyScroll message).1.frames = s.frames ∧
      windowCalls (s.notifyScroll message).2 = [] := by
  have hX : ∀ s : InputInstance, (s.notifyScrollX message).1.frames = s.frames ∧
      windowCalls (s.notifyScrollX message).2 = [] := by
    intro s
    unfold InputInstance.notifyScrollX
    split <;> exact ⟨rfl, rfl⟩
  have hY : ∀ s : InputInstance, (s.notifyScrollY message).1.frames = s.frames ∧
      windowCalls (s.notifyScrollY message).2 = [] := by
    intro s
    unfold InputInstance.notifyScrollY
    split <;> exact ⟨rfl, rfl⟩
  obtain ⟨hframesX, hcallsX⟩ := hX s
  obtain ⟨hframesY, hcallsY⟩ := hY (s.notifyScrollX message).1
  refine ⟨hframesY.trans hframesX, ?_⟩
  show windowCalls ((s.notifyScrollX message).2 ++
    ((s.notifyScrollX message).1.notifyScrollY message).2 ++ [.notifyFrame]) = _
  rw [windowCalls_snoc rfl, windowCalls_append, hcallsX, hcallsY]
  rfl

/-- A view gets the focus when a button is pressed or released over it. -/
theorem viewPointerEvent_outcome (message : SurfacePointerEventMessage) (p : Ptr)
    (surf : SurfaceUnder) (hgrab : s.input.grab.type = .none)
    (hp : s.compositor.views.get message.surfaceHandle = some p) :
    Outcome s
      (if s.input.grab.type = .none then
        match pointerEventType message.eventType with
        | .down => s.compositor.views.get message.surfaceHandle
        | .up => s.compositor.views.get message.surfaceHandle
        | _ => none
      else none) dragged (s.viewPointerEvent c message p surf).1
      (s.viewPointerEvent c message p surf).2 := by
  rw [if_pos hgrab]
  unfold InputInstance.viewPointerEvent
  cases htype : pointerEventType message.eventType with
  | down | up =>
      obtain ⟨hframes, hcalls⟩ := notifyButtons_quiet (s := s) message.surfaceHandle message
      refine .focus hp hframes ?_
      show .focusView p :: windowCalls (s.notifyButtons message.surfaceHandle message).2 = _
      rw [hcalls]
  | scroll =>
      obtain ⟨hframes, hcalls⟩ := notifyScroll_quiet (s := s) message
      exact .quiet hframes hcalls
  | hover | move | enter | exit | other => exact .quiet rfl rfl

theorem popupPointerEvent_quiet (message : SurfacePointerEventMessage) (surf : SurfaceUnder) :
    (s.popupPointerEvent message surf).1.frames = s.frames ∧
      windowCalls (s.popupPointerEvent message surf).2 = [] := by
  unfold InputInstance.popupPointerEvent
  cases htype : pointerEventType message.eventType with
  | down | up => exact notifyButtons_quiet (message.surfaceHandle + 200000) message
  | scroll => exact notifyScroll_quiet message
  | hover | move | enter | exit | other => exact ⟨rfl, rfl⟩

theorem grabbedPointerEvent_outcome {message : SurfacePointerEventMessage}
    (h : s.grabbedPointerEvent c message = .ok (s', calls)) :
    Outcome s target
      (match pointerEventType message.eventType with
        | .move => s.grabbedView
        | .hover => s.grabbedView
        | _ => none) s' calls := by
  unfold InputInstance.grabbedPointerEvent at h
  cases htype : pointerEventType message.eventType with
  | up =>
      rw [htype] at h
      obtain ⟨hframes, hcalls⟩ := endGrab_quiet h
      exact .quiet hframes hcalls
  | hover | move =>
      rw [htype] at h
      exact dragGrab_outcome h
  | down | enter | exit | scroll | other =>
      rw [htype] at h
      cases h
      exact .quiet rfl rfl

/-- The cursor of Flutter is no part of a frame. -/
theorem Outcome.trackCursor {message : SurfacePointerEventMessage}
    (h : Outcome (s.trackCursor message) target dragged s' calls) :
    Outcome s target dragged s' calls := by
  cases h with
  | quiet hframes hcalls => exact .quiet hframes hcalls
  | focus htarget hframes hcalls => exact .focus htarget hframes hcalls
  | drag box hdragged hget hf hframes hcalls =>
      exact .drag box hdragged hget hf hframes hcalls

theorem fwrHandleSurfacePointerEventMessage_outcome {args : DartValue} {surf : SurfaceUnder}
    (h : s.fwrHandleSurfacePointerEventMessage c args (some surf) = .ok (s', calls)) :
    Outcome s (s.focusTarget (.surfacePointer args surf))
      (s.draggedView (.surfacePointer args surf)) s' calls := by
  unfold InputInstance.fwrHandleSurfacePointerEventMessage at h
  unfold InputInstance.focusTarget InputInstance.draggedView
  dsimp only
  cases hdecode : decodeSurfacePointerEventMessage args with
  | none =>
      rw [hdecode] at h
      cases h
      exact .quiet rfl rfl
  | some message =>
      rw [hdecode] at h
      dsimp only [Option.bind_some] at h ⊢
      cases hlive : s.compositor.views.get message.surfaceHandle with
      | none =>
          rw [hlive] at h
          cases h
          exact .quiet rfl rfl
      | some p =>
          rw [hlive] at h
          obtain ⟨view, -, h⟩ := except_bind_eq_ok.mp h
          dsimp only [Option.bind_some] at h ⊢
          split at h
          next hgrab =>
            obtain ⟨⟨s1, calls1⟩, hgrabbed, h⟩ := except_bind_eq_ok.mp h
            cases h
            exact (grabbedPointerEvent_outcome hgrabbed).trackCursor.snoc rfl
          next hgrab =>
            cases h
            rw [← hlive]
            exact (viewPointerEvent_outcome message p surf (not_not.mp hgrab)
              hlive).trackCursor.snoc rfl

theorem fwrHandlePopupPointerEventMessage_quiet {args : DartValue} {surf : SurfaceUnder}
    (h : s.fwrHandlePopupPointerEventMessage args (some surf) = .ok (s', calls)) :
    Outcome s target dragged s' calls := by
  unfold InputInstance.fwrHandlePopupPointerEventMessage at h
  split at h
  next =>
    cases h
    exact .quiet rfl rfl
  next message _ =>
    split at h
    next =>
      cases h
      exact .quiet rfl rfl
    next p _ =>
      obtain ⟨popup, -, h⟩ := except_bind_eq_ok.mp h
      cases h
      obtain ⟨hframes, hcalls⟩ := popupPointerEvent_quiet (s := s) message surf
      exact .quiet hframes ((windowCalls_snoc rfl _).trans hcalls)

/-! ## §6. All events. -/

/-- **At most one window notices an event of the mouse.**  The compositor is left aside. -/
theorem handle_outcome {e : PointerEvent} (hother : ∀ e', e ≠ .compositor e')
    (h : s.handle c e = .ok (s', calls)) :
    Outcome s (s.focusTarget e) (s.draggedView e) s' calls := by
  cases e with
  | compositor e => exact absurd rfl (hother e)
  | cursorMotion x y timeMsec usesSsd => exact onServerCursorMotion_outcome h
  | cursorButton event => exact onServerCursorButton_quiet h
  | cursorAxis event => exact onServerCursorAxis_quiet h
  | surfacePointer args surf => exact fwrHandleSurfacePointerEventMessage_outcome h
  | popupPointer args surf => exact fwrHandlePopupPointerEventMessage_quiet h
  | beginMove args => exact fwrHandleSurfaceBeginMove_outcome h
  | beginResize args => exact fwrHandleSurfaceBeginResize_outcome h
  | requestMove p => exact startGrab_outcome rfl (by rfl) h
  | requestResize p edges => exact startGrab_outcome rfl (by rfl) h
  | directInput enabled surfaceHandle =>
      cases h
      exact .quiet rfl rfl
  | popupGrab active =>
      cases h
      exact .quiet rfl rfl

end Handlers

end FlutterWlroots.Input
