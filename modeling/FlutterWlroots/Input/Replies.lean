/-
  FlutterWlroots.Input.Replies — the answers of input.c.

  Each of the four handlers of messages in input.c ends with one response, whatever it has done
  before.  What is found by a handle is there (`Standing`), so that none of them stops at an object
  that has been freed, and neither does a window that is dragged.

    • `dragGrab_ends`, `endGrab_ends` — grabs,
    • `…_replies`                     — the handlers of messages,
    • `standing_handle`               — every event keeps what they rely on.
-/
import FlutterWlroots.Compositor.LiveObjects
import FlutterWlroots.Input.PointerEvents

namespace FlutterWlroots.Input

open Lib Lib.StateRun FlutterWlroots.Compositor FlutterWlroots.Messages
open FlutterWlroots.StandardMessageCodec (DartValue)

/-! ## §1. Responses among the calls. -/

/-- There is no response among the calls. -/
def Silent (calls : List Call) : Prop := ∀ success, .respond success ∉ calls

theorem silent_nil : Silent [] := fun _ => List.not_mem_nil

theorem Silent.append {calls calls' : List Call} (h : Silent calls) (h' : Silent calls') :
    Silent (calls ++ calls') := by
  intro success hmem
  rcases List.mem_append.mp hmem with hmem | hmem
  · exact h success hmem
  · exact h' success hmem

theorem silent_cons {call : Call} {calls : List Call} (h : ∀ success, call ≠ .respond success)
    (h' : Silent calls) : Silent (call :: calls) := by
  intro success hmem
  rcases List.mem_cons.mp hmem with heq | hmem
  · exact h success heq.symm
  · exact h' success hmem

/-- A handler that leaves the compositor standing and does not answer. -/
structure Kept (result : InputInstance × List Call) : Prop where
  standing : Standing result.1.compositor
  silent : Silent result.2

/-- A handler that leaves the compositor standing and answers once, at its end. -/
structure Replied (result : InputInstance × List Call) : Prop where
  standing : Standing result.1.compositor
  reply : ∃ calls success, result.2 = calls ++ [.respond success] ∧ Silent calls

section Handlers

variable {c : Target} {s s' : InputInstance} {calls : List Call}

theorem Kept.reply (h : Kept (s, calls)) (success : Bool) :
    Replied (s, calls ++ [.respond success]) :=
  ⟨h.standing, calls, success, rfl, h.silent⟩

/-- An answer and nothing else. -/
theorem replied_only (h : Standing s.compositor) (success : Bool) :
    Replied (s, [.respond success]) :=
  ⟨h, [], success, rfl, silent_nil⟩

/-! ## §2. Grabs. -/

theorem view_ends {p : Ptr} {surfaceHandle : UInt32} (h : Standing s.compositor)
    (hp : s.compositor.views.get surfaceHandle = some p) :
    Ends (s.compositor.view p) fun view => s.compositor.viewObjects.get p = some view := by
  obtain ⟨view, hview⟩ := h.view hp
  exact ⟨view, Instance.deref_eq_ok.mpr hview, hview⟩

theorem endGrab_ends (h : Standing s.compositor) : Ends s.endGrab Kept := by
  unfold InputInstance.endGrab
  dsimp only
  cases hp : s.compositor.views.get s.input.grab.viewHandle with
  | none => exact ends_ok ⟨h, silent_nil⟩
  | some p =>
      exact (view_ends h hp).bind fun view _ => ends_ok ⟨h, silent_cons nofun silent_nil⟩

theorem moveGrab_ends (h : Standing s.compositor) (cursorX cursorY : Double) :
    Ends (s.moveGrab c cursorX cursorY) Kept := by
  unfold InputInstance.moveGrab
  cases hp : s.compositor.views.get s.input.grab.viewHandle with
  | none => exact ends_ok ⟨h, silent_nil⟩
  | some p =>
      refine (view_ends h hp).bind fun view hview => ends_ok ⟨?_, silent_cons nofun silent_nil⟩
      exact h.moved hview rfl rfl rfl

theorem resizeGrab_ends (h : Standing s.compositor) (cursorX cursorY : Double) :
    Ends (s.resizeGrab c cursorX cursorY) Kept := by
  unfold InputInstance.resizeGrab
  cases hp : s.compositor.views.get s.input.grab.viewHandle with
  | none => exact ends_ok ⟨h, silent_nil⟩
  | some p =>
      refine (view_ends h hp).bind fun view hview => ends_ok ⟨?_, ?_⟩
      · exact h.moved hview rfl rfl rfl
      · exact silent_cons nofun (silent_cons nofun silent_nil)

theorem dragGrab_ends (h : Standing s.compositor) (cursorX cursorY : Double) :
    Ends (s.dragGrab c cursorX cursorY) Kept := by
  unfold InputInstance.dragGrab
  split
  · exact ends_ok ⟨h, silent_nil⟩
  · exact moveGrab_ends h cursorX cursorY
  · exact resizeGrab_ends h cursorX cursorY

/-! ## §3. Messages. -/

theorem fwrHandleSurfaceBeginMove_replies (h : Standing s.compositor) (args : DartValue) :
    Ends (s.fwrHandleSurfaceBeginMove args) Replied := by
  unfold InputInstance.fwrHandleSurfaceBeginMove
  cases decodeSurfaceBeginMoveMessage args with
  | none => exact ends_ok (replied_only h false)
  | some surfaceHandle =>
      dsimp only
      cases hp : s.compositor.views.get surfaceHandle with
      | none => exact ends_ok (replied_only h true)
      | some p =>
          refine (view_ends h hp).bind fun view _ => ends_ok ⟨h, [.focusView p], true, rfl, ?_⟩
          exact silent_cons nofun silent_nil

theorem fwrHandleSurfaceBeginResize_replies (h : Standing s.compositor) (args : DartValue) :
    Ends (s.fwrHandleSurfaceBeginResize args) Replied := by
  unfold InputInstance.fwrHandleSurfaceBeginResize
  cases decodeSurfaceBeginResizeMessage args with
  | none => exact ends_ok (replied_only h false)
  | some message =>
      dsimp only
      cases hp : s.compositor.views.get message.surfaceHandle with
      | none => exact ends_ok (replied_only h true)
      | some p =>
          refine (view_ends h hp).bind fun view _ => ends_ok ⟨h, [.focusView p], true, rfl, ?_⟩
          exact silent_cons nofun silent_nil

theorem kept_notifyButtons (h : Standing s.compositor) (key : UInt32)
    (message : SurfacePointerEventMessage) : Kept (s.notifyButtons key message) := by
  refine ⟨h, Silent.append (fun success hmem => ?_) (silent_cons nofun silent_nil)⟩
  obtain ⟨button, -, heq⟩ := List.mem_map.mp hmem
  cases heq

theorem kept_notifyScroll (h : Standing s.compositor) (message : SurfacePointerEventMessage) :
    Kept (s.notifyScroll message) := by
  have hX : Kept (s.notifyScrollX message) := by
    unfold InputInstance.notifyScrollX
    split
    · exact ⟨h, silent_cons nofun silent_nil⟩
    · exact ⟨h, silent_nil⟩
  have hY : Kept ((s.notifyScrollX message).1.notifyScrollY message) := by
    unfold InputInstance.notifyScrollY
    split
    · exact ⟨hX.standing, silent_cons nofun silent_nil⟩
    · exact ⟨hX.standing, silent_nil⟩
  exact ⟨hY.standing, (hX.silent.append hY.silent).append (silent_cons nofun silent_nil)⟩

theorem kept_viewPointerEvent (h : Standing s.compositor) (message : SurfacePointerEventMessage)
    (p : Ptr) (surf : SurfaceUnder) : Kept (s.viewPointerEvent c message p surf) := by
  unfold InputInstance.viewPointerEvent
  dsimp only
  cases pointerEventType message.eventType with
  | enter => exact ⟨h, silent_cons nofun (silent_cons nofun silent_nil)⟩
  | exit => exact ⟨h, silent_cons nofun silent_nil⟩
  | hover | move =>
      exact ⟨h, silent_cons nofun (silent_cons nofun (silent_cons nofun silent_nil))⟩
  | down | up =>
      obtain ⟨hs, hcalls⟩ := kept_notifyButtons h message.surfaceHandle message
      exact ⟨hs, silent_cons nofun (silent_cons nofun hcalls)⟩
  | scroll => exact kept_notifyScroll h message
  | other => exact ⟨h, silent_nil⟩

theorem kept_popupPointerEvent (h : Standing s.compositor) (message : SurfacePointerEventMessage)
    (surf : SurfaceUnder) : Kept (s.popupPointerEvent message surf) := by
  unfold InputInstance.popupPointerEvent
  dsimp only
  cases pointerEventType message.eventType with
  | enter => exact ⟨h, silent_cons nofun (silent_cons nofun silent_nil)⟩
  | exit => exact ⟨h, silent_cons nofun silent_nil⟩
  | hover | move =>
      exact ⟨h, silent_cons nofun (silent_cons nofun (silent_cons nofun silent_nil))⟩
  | down | up =>
      obtain ⟨hs, hcalls⟩ := kept_notifyButtons h (message.surfaceHandle + 200000) message
      exact ⟨hs, silent_cons nofun hcalls⟩
  | scroll => exact kept_notifyScroll h message
  | other => exact ⟨h, silent_nil⟩

theorem grabbedPointerEvent_ends (h : Standing s.compositor)
    (message : SurfacePointerEventMessage) : Ends (s.grabbedPointerEvent c message) Kept := by
  unfold InputInstance.grabbedPointerEvent
  split
  · exact endGrab_ends h
  · exact dragGrab_ends h _ _
  · exact dragGrab_ends h _ _
  · exact ends_ok ⟨h, silent_nil⟩

theorem fwrHandleSurfacePointerEventMessage_replies (h : Standing s.compositor) (args : DartValue)
    (surf : Option SurfaceUnder) :
    Ends (s.fwrHandleSurfacePointerEventMessage c args surf) Replied := by
  unfold InputInstance.fwrHandleSurfacePointerEventMessage
  cases decodeSurfacePointerEventMessage args with
  | none => exact ends_ok (replied_only h false)
  | some message =>
      dsimp only
      cases hp : s.compositor.views.get message.surfaceHandle with
      | none => exact ends_ok (replied_only h true)
      | some p =>
          refine (view_ends h hp).bind fun view _ => ?_
          cases surf with
          | none => exact ends_ok (replied_only h true)
          | some surf =>
              dsimp only
              split
              · exact (grabbedPointerEvent_ends (s := s.trackCursor message) h message).bind
                  fun result hkept => ends_ok (hkept.reply true)
              · have hkept :=
                  kept_viewPointerEvent (c := c) (s := s.trackCursor message) h message p surf
                exact ends_ok (hkept.reply true)

theorem fwrHandlePopupPointerEventMessage_replies (h : Standing s.compositor) (args : DartValue)
    (surf : Option SurfaceUnder) :
    Ends (s.fwrHandlePopupPointerEventMessage args surf) Replied := by
  unfold InputInstance.fwrHandlePopupPointerEventMessage
  cases decodeSurfacePointerEventMessage args with
  | none => exact ends_ok (replied_only h false)
  | some message =>
      dsimp only
      cases hp : s.compositor.popups.get message.surfaceHandle with
      | none => exact ends_ok (replied_only h true)
      | some p =>
          obtain ⟨popup, hpopup⟩ := h.popup hp
          have hread : Ends (s.compositor.popup p) fun _ => True :=
            ⟨popup, Instance.deref_eq_ok.mpr hpopup, trivial⟩
          refine hread.bind fun _ _ => ?_
          cases surf with
          | none => exact ends_ok (replied_only h true)
          | some surf => exact ends_ok ((kept_popupPointerEvent h message surf).reply true)

/-! ## §4. All events. -/

theorem onServerCursorMotion_standing {x y : Double} {timeMsec : UInt32} {usesSsd : Bool}
    (hs : Standing s.compositor)
    (h : s.onServerCursorMotion c x y timeMsec usesSsd = .ok (s', calls)) :
    Standing s'.compositor := by
  unfold InputInstance.onServerCursorMotion InputInstance.processCursorMotion at h
  split at h
  · obtain ⟨view, -, h⟩ := except_bind_eq_ok.mp h
    cases h
    exact hs
  · cases h
    exact hs
  · obtain ⟨⟨s₁, calls₁⟩, hdrag, h⟩ := except_bind_eq_ok.mp h
    cases h
    obtain ⟨result, hends, hkept⟩ := dragGrab_ends (c := c)
      (s := { s with cursorX := x, cursorY := y }) hs x y
    cases hdrag.symm.trans hends
    exact hkept.standing

theorem onServerCursorButton_standing {event : PointerButtonEvent} (hs : Standing s.compositor)
    (h : s.onServerCursorButton event = .ok (s', calls)) : Standing s'.compositor := by
  unfold InputInstance.onServerCursorButton at h
  dsimp only at h
  split at h
  · obtain ⟨⟨s₁, calls₁⟩, hgrab, h⟩ := except_bind_eq_ok.mp h
    cases h
    obtain ⟨result, hends, hkept⟩ := endGrab_ends (s := s.setButtonMask event) hs
    cases hgrab.symm.trans hends
    exact hkept.standing
  · split at h
    · cases h
      exact hs
    · split at h
      · cases h
        exact hs
      · cases h
        exact hs

/-- **Every event leaves the compositor standing.** -/
theorem standing_handle {e : PointerEvent} (hs : Standing s.compositor)
    (h : s.handle c e = .ok (s', calls)) : Standing s'.compositor := by
  have hreplied : ∀ {handled : Handled}, handled = .ok (s', calls) → Ends handled Replied →
      Standing s'.compositor := by
    rintro handled rfl ⟨result, heq, hreplied⟩
    cases heq
    exact hreplied.standing
  cases e with
  | compositor event =>
      obtain ⟨compositor, hevent, h⟩ := except_bind_eq_ok.mp h
      cases h
      exact hs.handle hevent
  | cursorMotion x y timeMsec usesSsd => exact onServerCursorMotion_standing hs h
  | cursorButton event => exact onServerCursorButton_standing hs h
  | cursorAxis event =>
      simp only [InputInstance.handle, InputInstance.onServerCursorAxis] at h
      split_ifs at h
      all_goals
        cases h
        exact hs
  | surfacePointer args surf =>
      exact hreplied h (fwrHandleSurfacePointerEventMessage_replies hs args (some surf))
  | popupPointer args surf =>
      exact hreplied h (fwrHandlePopupPointerEventMessage_replies hs args (some surf))
  | beginMove args => exact hreplied h (fwrHandleSurfaceBeginMove_replies hs args)
  | beginResize args => exact hreplied h (fwrHandleSurfaceBeginResize_replies hs args)
  | requestMove p | requestResize p edges =>
      obtain ⟨view, -, h⟩ := except_bind_eq_ok.mp h
      cases h
      exact hs
  | directInput enabled surfaceHandle | popupGrab active =>
      cases h
      exact hs

theorem reachable_standing {s : Session} (h : (pointer c).Reachable s) :
    Standing s.now.compositor := by
  refine h.invariant (P := fun s => Standing s.now.compositor) Standing.init
    fun s e s' hs _ hstep => ?_
  obtain ⟨-, now, calls, hhandle, rfl⟩ := pointer_step.mp hstep
  exact standing_handle hs hhandle

end Handlers

end FlutterWlroots.Input
