/-
  FlutterWlroots.Input.PointerEvents — runs of the mouse handlers.

  An event is a signal of the hardware, of a client or of wlroots, or a message from Flutter; the
  events of the compositor go on in between.  A `Session` keeps what has been done so far: every
  event with the state it was handled in and the calls it led to.

    • `pointer`       — the machine,
    • `reaction`      — which of the handlers' branches an event takes,
    • `handle_effect` — what each of them does to scroll caches, button masks and the button table.
-/
import FlutterWlroots.Compositor.TextureEffects
import FlutterWlroots.Input.Pointer

namespace FlutterWlroots.Input

open Lib Lib.StateRun FlutterWlroots.Compositor FlutterWlroots.Messages
open FlutterWlroots.StandardMessageCodec (DartValue)

/-! ## §1. Events. -/

/-- What can happen to the mouse and to what it points at. -/
inductive PointerEvent where
  | compositor (e : Event)
  | cursorMotion (cursorX cursorY : Double) (timeMsec : UInt32) (usesSsd : Bool)
  | cursorButton (event : PointerButtonEvent)
  | cursorAxis (event : PointerAxisEvent)
  | surfacePointer (args : DartValue) (surf : SurfaceUnder)
  | popupPointer (args : DartValue) (surf : SurfaceUnder)
  | beginMove (args : DartValue)
  | beginResize (args : DartValue)
  | requestMove (view : Ptr)
  | requestResize (view : Ptr) (edges : UInt32)
  /-- `set_direct_input_mode`. -/
  | directInput (enabled : Bool) (surfaceHandle : UInt32)
  /-- wlroots starts or ends a grab of the seat. -/
  | popupGrab (active : Bool)

namespace InputInstance

/-- `fwr_input_init`; the rest is zero. -/
def init : InputInstance where
  compositor := .init
  input :=
    { flMouseButtonMask := 0, flutterCursorX := 0, flutterCursorY := 0
      lastScrollX := ⟨0, 0, 0, 0, 0, 0, false⟩, lastScrollY := ⟨0, 0, 0, 0, 0, 0, false⟩
      lastButton := ⟨0, false⟩, grab := ⟨.none, 0, 0, 0, 0, 0, 0, 0, 0⟩ }
  cursorX := 0
  cursorY := 0
  directInputMode := false
  directInputSurface := 0
  popupGrab := false
  surfaceButtonStates := .empty 32

variable (c : Target) (s : InputInstance)

/-- The key in the button table that the destruction of a view or popup clears. -/
def clearedKey : Event → Option UInt32
  | .toplevelDestroy p => (s.compositor.viewObjects.get p).map (·.handle)
  | .popupDestroy p => (s.compositor.popupObjects.get p).map (·.handle + 200000)
  | _ => none

/-- An event of the compositor; the handlers of destruction call `fwr_clear_surface_buttons`. -/
def compositorEvent (e : Event) : Handled := do
  let compositor ← s.compositor.handle e
  let cleared := match s.clearedKey e with
    | some key => s.fwrClearSurfaceButtons key
    | none => s
  return ({ cleared with compositor }, [])

/-- The handler of an event. -/
def handle : PointerEvent → Handled
  | .compositor e => s.compositorEvent e
  | .cursorMotion cursorX cursorY timeMsec usesSsd =>
      s.onServerCursorMotion c cursorX cursorY timeMsec usesSsd
  | .cursorButton event => s.onServerCursorButton event
  | .cursorAxis event => s.onServerCursorAxis event
  | .surfacePointer args surf => s.fwrHandleSurfacePointerEventMessage c args (some surf)
  | .popupPointer args surf => s.fwrHandlePopupPointerEventMessage args (some surf)
  | .beginMove args => s.fwrHandleSurfaceBeginMove args
  | .beginResize args => s.fwrHandleSurfaceBeginResize args
  | .requestMove p => s.xdgToplevelRequestMove p
  | .requestResize p edges => s.xdgToplevelRequestResize p edges
  | .directInput enabled surfaceHandle =>
      .ok ({ s with directInputMode := enabled, directInputSurface := surfaceHandle }, [])
  | .popupGrab active => .ok ({ s with popupGrab := active }, [])

/-- The event can come: the object its signal sits on is there. -/
def Deliverable : PointerEvent → Prop
  | .compositor e => s.compositor.Deliverable e
  | .requestMove p => s.compositor.viewObjects.Live p
  | .requestResize p _ => s.compositor.viewObjects.Live p
  | _ => True

instance (e : PointerEvent) : Decidable (s.Deliverable e) := by
  cases e <;> unfold Deliverable <;> infer_instance

end InputInstance

/-- An event that has been handled. -/
structure Record where
  before : InputInstance
  event : PointerEvent
  calls : List Call

/-- The state, and what has happened. -/
structure Session where
  now : InputInstance
  history : List Record

/-- Arithmetic for sessions in which no window is dragged or scaled. -/
def Target.still : Target := ⟨fun x _ => x, fun x _ => x, fun x _ => x, fun _ => 0, fun _ => 0⟩

/-- A pointer message as Dart sends it, at position (0, 0) of a widget without a size. -/
def pointerArgs (surfaceHandle buttons eventType : Int) (scrollDeltaX scrollDeltaY : Double) :
    DartValue :=
  .dvList 31
    [.dvInteger surfaceHandle, .dvInteger buttons, .dvFloat64 0, .dvFloat64 0, .dvInteger 0,
     .dvFloat64 0, .dvBool false, .dvInteger 0, .dvInteger 0, .dvFloat64 0, .dvFloat64 0,
     .dvFloat64 0, .dvFloat64 0, .dvBool false, .dvFloat64 0, .dvInteger 0, .dvInteger 0,
     .dvFloat64 0, .dvFloat64 0, .dvFloat64 0, .dvFloat64 0, .dvFloat64 0, .dvFloat64 0,
     .dvBool false, .dvFloat64 0, .dvInteger 0, .dvInteger eventType, .dvFloat64 0, .dvFloat64 0,
     .dvFloat64 scrollDeltaX, .dvFloat64 scrollDeltaY]

/-- The mouse; a run ends where a freed object is used. -/
def pointer (c : Target) : Machine Session PointerEvent where
  init := { now := .init, history := [] }
  step := fun s e =>
    if s.now.Deliverable e then
      match s.now.handle c e with
      | .ok (now, calls) => some { now, history := s.history ++ [⟨s.now, e, calls⟩] }
      | .error _ => none
    else none

theorem pointer_step {c : Target} {s s' : Session} {e : PointerEvent} :
    (pointer c).step s e = some s' ↔ s.now.Deliverable e ∧ ∃ now calls,
      s.now.handle c e = .ok (now, calls) ∧ s' = ⟨now, s.history ++ [⟨s.now, e, calls⟩]⟩ := by
  show (if s.now.Deliverable e then _ else none) = some s' ↔ _
  by_cases hd : s.now.Deliverable e
  · rw [if_pos hd]
    cases h : s.now.handle c e with
    | ok r =>
        constructor
        · intro heq
          exact ⟨hd, r.1, r.2, rfl, (Option.some.inj heq).symm⟩
        · rintro ⟨-, now, calls, heq, rfl⟩
          cases heq
          rfl
    | error f => simp
  · simp [hd]

/-! ## §2. Summaries. -/

/-- The part of the state that scrolling and buttons depend on. -/
structure Footprint where
  mask : BitVec 32
  scrollX : FwrScrollCache
  scrollY : FwrScrollCache
  table : SlotTable UInt32 (BitVec 64)
  tables : Tables

def InputInstance.footprint (s : InputInstance) : Footprint where
  mask := s.input.flMouseButtonMask
  scrollX := s.input.lastScrollX
  scrollY := s.input.lastScrollY
  table := s.surfaceButtonStates
  tables := s.compositor.tables

/-- The calls that have to do with scrolling and buttons: what the seat is told of, and what is sent
    to Flutter. -/
structure Summary where
  buttons : List (UInt32 × Bool)
  axis : List PointerAxisEvent
  sentButtons : List FlutterPointerEvent
  sentScrolls : List FlutterPointerEvent

namespace Summary

def nothing : Summary := ⟨[], [], [], []⟩

def append (a b : Summary) : Summary where
  buttons := a.buttons ++ b.buttons
  axis := a.axis ++ b.axis
  sentButtons := a.sentButtons ++ b.sentButtons
  sentScrolls := a.sentScrolls ++ b.sentScrolls

instance : Append Summary := ⟨append⟩

@[simp] theorem nothing_append (a : Summary) : nothing ++ a = a := rfl

@[simp] theorem append_nothing (a : Summary) : a ++ nothing = a := by
  show append a nothing = a
  simp [append, nothing]

end Summary

/-- The button events among the calls to the seat. -/
def buttonCalls (calls : List Call) : List (UInt32 × Bool) :=
  calls.filterMap fun
    | .notifyButton _ button pressed => some (button, pressed)
    | _ => none

/-- The scroll events among the calls to the seat. -/
def axisCalls (calls : List Call) : List PointerAxisEvent :=
  calls.filterMap fun
    | .notifyAxis event => some event
    | _ => none

/-- The button events sent to Flutter. -/
def sentButtons (calls : List Call) : List FlutterPointerEvent :=
  calls.filterMap fun
    | .sendPointerEvent event =>
        if event.scroll = false ∧ (event.phase = .down ∨ event.phase = .up) then some event
        else none
    | _ => none

/-- The scroll events sent to Flutter. -/
def sentScrolls (calls : List Call) : List FlutterPointerEvent :=
  calls.filterMap fun
    | .sendPointerEvent event => if event.scroll then some event else none
    | _ => none

def summary (calls : List Call) : Summary where
  buttons := buttonCalls calls
  axis := axisCalls calls
  sentButtons := sentButtons calls
  sentScrolls := sentScrolls calls

@[simp] theorem summary_append (calls calls' : List Call) :
    summary (calls ++ calls') = summary calls ++ summary calls' := by
  show summary _ = Summary.append _ _
  simp [summary, Summary.append, buttonCalls, axisCalls, sentButtons, sentScrolls]

theorem summary_cons (call : Call) (calls : List Call) :
    summary (call :: calls) = summary [call] ++ summary calls := summary_append [call] calls

/-! ## §3. Branches. -/

/-- The branches of the handlers that scrolling and buttons depend on. -/
inductive Reaction where
  | compositor (e : Event)
  | hardwareButton (event : PointerButtonEvent)
  | hardwareAxis (event : PointerAxisEvent)
  | tellButtons (key : UInt32) (message : SurfacePointerEventMessage)
  | tellScroll (message : SurfacePointerEventMessage)
  | quiet

/-- What a message asks to tell the client of the surface with this key. -/
def messageReaction (key : UInt32) (message : SurfacePointerEventMessage) : Reaction :=
  match pointerEventType message.eventType with
  | .down => .tellButtons key message
  | .up => .tellButtons key message
  | .scroll => .tellScroll message
  | _ => .quiet

namespace InputInstance

variable (s : InputInstance)

/-- The branch a pointer message for a view takes. -/
def viewReaction (args : DartValue) : Reaction :=
  match decodeSurfacePointerEventMessage args with
  | none => .quiet
  | some message =>
      match s.compositor.views.get message.surfaceHandle with
      | none => .quiet
      | some _ =>
          if s.input.grab.type ≠ .none then .quiet
          else messageReaction message.surfaceHandle message

/-- The branch a pointer message for a popup takes. -/
def popupReaction (args : DartValue) : Reaction :=
  match decodeSurfacePointerEventMessage args with
  | none => .quiet
  | some message =>
      match s.compositor.popups.get message.surfaceHandle with
      | none => .quiet
      | some _ => messageReaction (message.surfaceHandle + 200000) message

/-- The branch an event takes. -/
def reaction : PointerEvent → Reaction
  | .compositor e => .compositor e
  | .cursorButton event => .hardwareButton event
  | .cursorAxis event => .hardwareAxis event
  | .surfacePointer args _ => s.viewReaction args
  | .popupPointer args _ => s.popupReaction args
  | _ => .quiet

/-- The release of the left button that ends a grab. -/
def EndsGrab (event : PointerButtonEvent) : Prop :=
  event.pressed = false ∧ event.button = btnLeft ∧ s.input.grab.type ≠ .none

instance (event : PointerButtonEvent) : Decidable (s.EndsGrab event) :=
  inferInstanceAs (Decidable (_ ∧ _))

/-- The seat is told of a hardware button at once. -/
def DeliversAtOnce (event : PointerButtonEvent) : Prop :=
  s.EndsGrab event ∨ s.directView.isSome ∨ s.popupGrab

instance (event : PointerButtonEvent) : Decidable (s.DeliversAtOnce event) :=
  inferInstanceAs (Decidable (_ ∨ _))

/-- Flutter is told of a hardware button. -/
def Forwards (event : PointerButtonEvent) : Prop := s.EndsGrab event ∨ s.directView = none

instance (event : PointerButtonEvent) : Decidable (s.Forwards event) :=
  inferInstanceAs (Decidable (_ ∨ _))

/-- What Flutter is told of a hardware button. -/
def forwarded (event : PointerButtonEvent) : FlutterPointerEvent :=
  { phase := buttonPhase event.pressed, x := s.cursorX, y := s.cursorY, scroll := false
    scrollDeltaX := 0, scrollDeltaY := 0
    buttons := (s.setButtonMask event).input.flMouseButtonMask.setWidth 64 }

/-- What Flutter is told of a scroll event. -/
def forwardedScroll (event : PointerAxisEvent) : FlutterPointerEvent :=
  { phase := .hover, x := s.cursorX, y := s.cursorY, scroll := true
    scrollDeltaX := if isHorizontal event then Lib.Double.neg event.delta else 0
    scrollDeltaY := if isHorizontal event then 0 else Lib.Double.neg event.delta
    buttons := s.input.flMouseButtonMask.setWidth 64 }

variable {s} {e : PointerEvent}

/-- The branches of hardware and compositor are taken by those events only. -/
def Fits (e : PointerEvent) : Reaction → Prop
  | .compositor e' => e = .compositor e'
  | .hardwareButton event => e = .cursorButton event
  | .hardwareAxis event => e = .cursorAxis event
  | _ => True

theorem messageReaction_fits (key : UInt32) (message : SurfacePointerEventMessage) :
    Fits e (messageReaction key message) := by
  unfold messageReaction
  split <;> trivial

theorem viewReaction_fits (args : DartValue) : Fits e (s.viewReaction args) := by
  unfold viewReaction
  split
  next => trivial
  next message _ =>
    split
    next => trivial
    next =>
      split
      next => trivial
      next => exact messageReaction_fits ..

theorem popupReaction_fits (args : DartValue) : Fits e (s.popupReaction args) := by
  unfold popupReaction
  split
  next => trivial
  next message _ =>
    split
    next => trivial
    next => exact messageReaction_fits ..

theorem reaction_fits (s : InputInstance) (e : PointerEvent) : Fits e (s.reaction e) := by
  cases e with
  | compositor e' => rfl
  | cursorButton event => rfl
  | cursorAxis event => rfl
  | surfacePointer args surf => exact viewReaction_fits args
  | popupPointer args surf => exact popupReaction_fits args
  | cursorMotion | beginMove | beginResize | requestMove | requestResize | directInput
    | popupGrab => trivial

end InputInstance

/-! ## §4. Effects. -/

/-- A scroll cache after a message with this delta, and what the seat is told from it. -/
def usedScroll (delta : Double) (cache : FwrScrollCache) : FwrScrollCache × List PointerAxisEvent :=
  if Lib.Double.isZero delta = false ∧ cache.valid then
    ({ cache with valid := false }, [cachedEvent cache])
  else (cache, [])

/-- **What each branch does.** -/
def Effect (s s' : InputInstance) (calls : List Call) : Reaction → Prop
  | .compositor e => s.compositorEvent e = .ok (s', calls)
  | .hardwareButton event =>
      s'.footprint = { s.footprint with
        mask := (s.setButtonMask event).input.flMouseButtonMask } ∧
      summary calls =
        { buttons := if s.DeliversAtOnce event then [(event.button, event.pressed)] else []
          axis := []
          sentButtons := if s.Forwards event then [s.forwarded event] else []
          sentScrolls := [] }
  | .hardwareAxis event =>
      if s.directView.isSome then
        s'.footprint = s.footprint ∧
          summary calls = { buttons := [], axis := [event], sentButtons := [], sentScrolls := [] }
      else
        s'.footprint =
          (if isHorizontal event then { s.footprint with scrollX := scrollCache event }
            else { s.footprint with scrollY := scrollCache event }) ∧
        summary calls =
          { buttons := [], axis := [], sentButtons := []
            sentScrolls := [s.forwardedScroll event] }
  | .tellButtons key message =>
      s'.footprint = { s.footprint with
        table := (s.setSurfaceButtons key message.buttons).surfaceButtonStates } ∧
      summary calls =
        { buttons := changedButtons (s.getSurfaceButtons key) message.buttons
          axis := [], sentButtons := [], sentScrolls := [] }
  | .tellScroll message =>
      s'.footprint = { s.footprint with
        scrollX := (usedScroll message.scrollDeltaX s.input.lastScrollX).1
        scrollY := (usedScroll message.scrollDeltaY s.input.lastScrollY).1 } ∧
      summary calls =
        { buttons := []
          axis := (usedScroll message.scrollDeltaX s.input.lastScrollX).2 ++
            (usedScroll message.scrollDeltaY s.input.lastScrollY).2
          sentButtons := [], sentScrolls := [] }
  | .quiet => s'.footprint = s.footprint ∧ summary calls = .nothing

/-- Events of the compositor have to do with the button table only. -/
theorem compositorEvent_ok {s s' : InputInstance} {calls : List Call} {e : Event}
    (h : s.compositorEvent e = .ok (s', calls)) :
    s.compositor.handle e = .ok s'.compositor ∧
      s'.footprint = { s.footprint with
        table := match s.clearedKey e with
          | some key => s.surfaceButtonStates.erase key
          | none => s.surfaceButtonStates
        tables := s'.compositor.tables } ∧ summary calls = .nothing := by
  obtain ⟨compositor, hcompositor, h⟩ := except_bind_eq_ok.mp h
  cases h
  cases hkey : s.clearedKey e with
  | none => exact ⟨hcompositor, rfl, rfl⟩
  | some key => exact ⟨hcompositor, rfl, rfl⟩

/-- Only scroll events and scroll messages have to do with scrolling. -/
theorem effect_keepsScroll {s s' : InputInstance} {calls : List Call} {r : Reaction}
    (h : Effect s s' calls r) (haxis : ∀ event, r ≠ .hardwareAxis event)
    (hscroll : ∀ message, r ≠ .tellScroll message) :
    s'.input.lastScrollX = s.input.lastScrollX ∧ s'.input.lastScrollY = s.input.lastScrollY ∧
      axisCalls calls = [] ∧ sentScrolls calls = [] := by
  cases r with
  | hardwareAxis event => exact absurd rfl (haxis event)
  | tellScroll message => exact absurd rfl (hscroll message)
  | compositor e =>
      obtain ⟨-, hfoot, hcalls⟩ := compositorEvent_ok h
      exact ⟨congrArg Footprint.scrollX hfoot, congrArg Footprint.scrollY hfoot,
        congrArg Summary.axis hcalls, congrArg Summary.sentScrolls hcalls⟩
  | hardwareButton | tellButtons | quiet =>
      obtain ⟨hfoot, hcalls⟩ := h
      exact ⟨congrArg Footprint.scrollX hfoot, congrArg Footprint.scrollY hfoot,
        congrArg Summary.axis hcalls, congrArg Summary.sentScrolls hcalls⟩

/-- Nothing that scrolling and buttons depend on, the time of the last button included. -/
structure Quietly (s s' : InputInstance) (calls : List Call) : Prop where
  footprint : s'.footprint = s.footprint
  lastButton : s'.input.lastButton = s.input.lastButton
  calls : summary calls = .nothing

section Handlers

variable {c : Target} {s s' : InputInstance} {calls : List Call}

theorem Quietly.effect (h : Quietly s s' calls) : Effect s s' calls .quiet := ⟨h.footprint, h.calls⟩

theorem endGrab_ok (h : s.endGrab = .ok (s', calls)) :
    (∃ grab, s' = { s with input := { s.input with grab } }) ∧ summary calls = .nothing := by
  unfold InputInstance.endGrab at h
  split at h
  next p hp =>
    obtain ⟨view, -, h⟩ := except_bind_eq_ok.mp h
    cases h
    exact ⟨⟨_, rfl⟩, rfl⟩
  next =>
    cases h
    exact ⟨⟨_, rfl⟩, rfl⟩

theorem footprint_setView {p : Ptr} {v v' : FwrView} (hv : s.compositor.view p = .ok v)
    (hrecord : v'.textureRecord = v.textureRecord) :
    InputInstance.footprint { s with compositor := s.compositor.setView p v' } = s.footprint := by
  unfold InputInstance.footprint
  rw [Instance.tables_setView_same (Instance.view_ok hv) hrecord]

theorem dragGrab_quiet {x y : Double} (h : s.dragGrab c x y = .ok (s', calls)) :
    Quietly s s' calls := by
  unfold InputInstance.dragGrab at h
  split at h
  next =>
    cases h
    exact ⟨rfl, rfl, rfl⟩
  next =>
    unfold InputInstance.moveGrab at h
    split at h
    next p hp =>
      obtain ⟨view, hview, h⟩ := except_bind_eq_ok.mp h
      cases h
      exact ⟨footprint_setView hview rfl, rfl, rfl⟩
    next =>
      cases h
      exact ⟨rfl, rfl, rfl⟩
  next =>
    unfold InputInstance.resizeGrab at h
    split at h
    next p hp =>
      obtain ⟨view, hview, h⟩ := except_bind_eq_ok.mp h
      cases h
      exact ⟨footprint_setView hview rfl, rfl, rfl⟩
    next =>
      cases h
      exact ⟨rfl, rfl, rfl⟩

theorem onServerCursorMotion_quiet {x y : Double} {timeMsec : UInt32} {usesSsd : Bool}
    (h : s.onServerCursorMotion c x y timeMsec usesSsd = .ok (s', calls)) :
    Quietly s s' calls := by
  unfold InputInstance.onServerCursorMotion InputInstance.processCursorMotion at h
  split at h
  next =>
    obtain ⟨view, -, h⟩ := except_bind_eq_ok.mp h
    cases h
    exact ⟨rfl, rfl, rfl⟩
  next =>
    cases h
    refine ⟨rfl, rfl, ?_⟩
    split <;> rfl
  next =>
    obtain ⟨⟨s1, calls1⟩, hdrag, h⟩ := except_bind_eq_ok.mp h
    obtain ⟨hfoot, hbutton, hcalls⟩ := dragGrab_quiet hdrag
    cases h
    refine ⟨hfoot, hbutton, ?_⟩
    rw [summary_append, hcalls]
    rfl

/-- The start of a grab is quiet. -/
theorem startGrab_quiet {p : Ptr} {grab : FwrView → FwrGrabState} {rest : List Call}
    (hrest : summary rest = .nothing)
    (h : (do
      let view ← s.compositor.view p
      return ({ s with input := { s.input with grab := grab view } }, rest) : Handled)
      = .ok (s', calls)) : Quietly s s' calls := by
  obtain ⟨view, -, h⟩ := except_bind_eq_ok.mp h
  cases h
  exact ⟨rfl, rfl, hrest⟩

theorem fwrHandleSurfaceBeginMove_quiet {args : DartValue}
    (h : s.fwrHandleSurfaceBeginMove args = .ok (s', calls)) : Quietly s s' calls := by
  unfold InputInstance.fwrHandleSurfaceBeginMove at h
  split at h
  next =>
    cases h
    exact ⟨rfl, rfl, rfl⟩
  next =>
    split at h
    next =>
      cases h
      exact ⟨rfl, rfl, rfl⟩
    next => exact startGrab_quiet (by rfl) h

theorem fwrHandleSurfaceBeginResize_quiet {args : DartValue}
    (h : s.fwrHandleSurfaceBeginResize args = .ok (s', calls)) : Quietly s s' calls := by
  unfold InputInstance.fwrHandleSurfaceBeginResize at h
  split at h
  next =>
    cases h
    exact ⟨rfl, rfl, rfl⟩
  next =>
    split at h
    next =>
      cases h
      exact ⟨rfl, rfl, rfl⟩
    next => exact startGrab_quiet (by rfl) h

/-! ## §5. Hardware. -/

theorem summary_button (event : FlutterPointerEvent) (timeMsec button : UInt32) (pressed : Bool)
    (hevent : event.scroll = false ∧ (event.phase = .down ∨ event.phase = .up)) :
    summary [.sendPointerEvent event, .notifyButton timeMsec button pressed, .notifyFrame] =
        { buttons := [(button, pressed)], axis := [], sentButtons := [event], sentScrolls := [] } ∧
      summary [.sendPointerEvent event] =
        { buttons := [], axis := [], sentButtons := [event], sentScrolls := [] } := by
  simp [summary, buttonCalls, axisCalls, sentButtons, sentScrolls, hevent]

theorem onServerCursorButton_effect {event : PointerButtonEvent}
    (h : s.onServerCursorButton event = .ok (s', calls)) :
    Effect s s' calls (.hardwareButton event) := by
  have hphase : buttonPhase event.pressed = .down ∨ buttonPhase event.pressed = .up := by
    unfold buttonPhase
    split
    · exact .inl rfl
    · exact .inr rfl
  obtain ⟨hboth, hsend⟩ := summary_button (s.forwarded event) event.timeMsec event.button
    event.pressed ⟨rfl, hphase⟩
  unfold InputInstance.onServerCursorButton at h
  dsimp only at h
  -- the branches look at the grab and the modes, which the new mask leaves alone
  split at h
  next hends =>
    have hends' : s.EndsGrab event := hends
    obtain ⟨⟨s1, calls1⟩, hgrab, h⟩ := except_bind_eq_ok.mp h
    obtain ⟨⟨grab, rfl⟩, hcalls⟩ := endGrab_ok hgrab
    cases h
    refine ⟨rfl, ?_⟩
    rw [if_pos (show s.DeliversAtOnce event from .inl hends'),
      if_pos (show s.Forwards event from .inl hends'), summary_append, hcalls,
      Summary.nothing_append, ← hboth]
    have hup : buttonPhase event.pressed = .up := by
      rw [hends'.1]
      rfl
    unfold InputInstance.forwarded
    rw [hup]
    rfl
  next hends =>
    have hends' : ¬ s.EndsGrab event := hends
    split at h
    next hdirect =>
      have hdirect' : s.directView.isSome := hdirect
      cases h
      refine ⟨rfl, ?_⟩
      have hforwards : ¬ s.Forwards event := by
        rintro (hends | hnone)
        · exact hends' hends
        · rw [hnone] at hdirect'
          cases hdirect'
      rw [if_pos (show s.DeliversAtOnce event from .inr (.inl hdirect')), if_neg hforwards]
      rfl
    next hdirect =>
      have hdirect' : s.directView = none := Option.not_isSome_iff_eq_none.mp hdirect
      rw [Effect, if_pos (show s.Forwards event from .inr hdirect')]
      split at h
      next hpopup =>
        cases h
        refine ⟨rfl, ?_⟩
        rw [if_pos (show s.DeliversAtOnce event from .inr (.inr hpopup))]
        exact hboth
      next hpopup =>
        have hlater : ¬ s.DeliversAtOnce event := by
          rintro (hends | hsome | hgrab)
          · exact hends' hends
          · exact hdirect hsome
          · exact hpopup hgrab
        cases h
        refine ⟨rfl, ?_⟩
        rw [if_neg hlater]
        exact hsend

theorem onServerCursorAxis_effect {event : PointerAxisEvent}
    (h : s.onServerCursorAxis event = .ok (s', calls)) :
    Effect s s' calls (.hardwareAxis event) := by
  unfold InputInstance.onServerCursorAxis at h
  dsimp only at h
  rw [Effect]
  split at h
  next hdirect =>
    cases h
    rw [if_pos hdirect]
    exact ⟨rfl, rfl⟩
  next hdirect =>
    rw [if_neg hdirect]
    unfold InputInstance.forwardedScroll
    split at h
    next hhorizontal =>
      cases h
      simp only [hhorizontal, if_true]
      exact ⟨rfl, rfl⟩
    next hvertical =>
      cases h
      simp only [hvertical]
      exact ⟨rfl, rfl⟩

/-! ## §6. Messages. -/

theorem summary_told (timeMsec : UInt32) (changed : List (UInt32 × Bool)) :
    summary (changed.map fun (button, pressed) => .notifyButton timeMsec button pressed)
      = { buttons := changed, axis := [], sentButtons := [], sentScrolls := [] } := by
  induction changed with
  | nil => rfl
  | cons head changed ih =>
      rw [List.map_cons, summary_cons, ih]
      rfl

theorem notifyButtons_effect (key : UInt32) (message : SurfacePointerEventMessage) :
    Effect s (s.notifyButtons key message).1 (s.notifyButtons key message).2
      (.tellButtons key message) := by
  refine ⟨rfl, ?_⟩
  unfold InputInstance.notifyButtons
  rw [summary_append, summary_told]
  exact Summary.append_nothing _

theorem notifyScroll_effect (message : SurfacePointerEventMessage) :
    Effect s (s.notifyScroll message).1 (s.notifyScroll message).2 (.tellScroll message) := by
  have hX : (s.notifyScrollX message).1.footprint = { s.footprint with
        scrollX := (usedScroll message.scrollDeltaX s.input.lastScrollX).1 } ∧
      summary (s.notifyScrollX message).2 =
        ⟨[], (usedScroll message.scrollDeltaX s.input.lastScrollX).2, [], []⟩ := by
    unfold InputInstance.notifyScrollX usedScroll
    split
    · exact ⟨rfl, rfl⟩
    · exact ⟨rfl, rfl⟩
  have hY : ∀ s : InputInstance, (s.notifyScrollY message).1.footprint = { s.footprint with
        scrollY := (usedScroll message.scrollDeltaY s.input.lastScrollY).1 } ∧
      summary (s.notifyScrollY message).2 =
        ⟨[], (usedScroll message.scrollDeltaY s.input.lastScrollY).2, [], []⟩ := by
    intro s
    unfold InputInstance.notifyScrollY usedScroll
    split
    · exact ⟨rfl, rfl⟩
    · exact ⟨rfl, rfl⟩
  obtain ⟨hfootX, hcallsX⟩ := hX
  obtain ⟨hfootY, hcallsY⟩ := hY (s.notifyScrollX message).1
  -- the horizontal part leaves the vertical cache alone
  have hcache : (s.notifyScrollX message).1.input.lastScrollY = s.input.lastScrollY :=
    congrArg Footprint.scrollY hfootX
  rw [hcache] at hfootY hcallsY
  rw [hfootX] at hfootY
  refine ⟨hfootY, ?_⟩
  show summary ((s.notifyScrollX message).2 ++
    ((s.notifyScrollX message).1.notifyScrollY message).2 ++ [.notifyFrame]) = _
  rw [summary_append, summary_append, hcallsX, hcallsY]
  exact Summary.append_nothing _

/-- The effect of a message is that of its calls without the response, and the cursor of Flutter has
    no part in it. -/
theorem messageEffect_respond {key : UInt32} {message : SurfacePointerEventMessage}
    (h : Effect s s' calls (messageReaction key message)) :
    Effect s s' (calls ++ [.respond true]) (messageReaction key message) := by
  have hcalls : summary (calls ++ [.respond true]) = summary calls := by
    rw [summary_append]
    exact Summary.append_nothing _
  unfold messageReaction at h ⊢
  cases htype : pointerEventType message.eventType with
  | down | up | scroll | hover | move | enter | exit | other =>
      rw [htype] at h
      exact ⟨h.1, hcalls.trans h.2⟩

theorem messageEffect_trackCursor {key : UInt32} {message : SurfacePointerEventMessage}
    (h : Effect (s.trackCursor message) s' calls (messageReaction key message)) :
    Effect s s' calls (messageReaction key message) := by
  unfold messageReaction at h ⊢
  cases htype : pointerEventType message.eventType with
  | down | up | scroll | hover | move | enter | exit | other =>
      rw [htype] at h
      exact h

theorem viewPointerEvent_effect (message : SurfacePointerEventMessage) (p : Ptr)
    (surf : SurfaceUnder) :
    Effect s (s.viewPointerEvent c message p surf).1 (s.viewPointerEvent c message p surf).2
      (messageReaction message.surfaceHandle message) := by
  unfold InputInstance.viewPointerEvent messageReaction
  cases htype : pointerEventType message.eventType with
  | down | up =>
      -- entering the surface and focusing the view do not count
      obtain ⟨hfoot, hcalls⟩ := notifyButtons_effect message.surfaceHandle message
      exact ⟨hfoot, hcalls⟩
  | scroll => exact notifyScroll_effect message
  | hover | move | enter | exit | other => exact ⟨rfl, rfl⟩

theorem popupPointerEvent_effect (message : SurfacePointerEventMessage) (surf : SurfaceUnder) :
    Effect s (s.popupPointerEvent message surf).1 (s.popupPointerEvent message surf).2
      (messageReaction (message.surfaceHandle + 200000) message) := by
  unfold InputInstance.popupPointerEvent messageReaction
  cases htype : pointerEventType message.eventType with
  | down | up =>
      obtain ⟨hfoot, hcalls⟩ := notifyButtons_effect (message.surfaceHandle + 200000) message
      exact ⟨hfoot, hcalls⟩
  | scroll => exact notifyScroll_effect message
  | hover | move | enter | exit | other => exact ⟨rfl, rfl⟩

theorem grabbedPointerEvent_quiet {message : SurfacePointerEventMessage}
    (h : s.grabbedPointerEvent c message = .ok (s', calls)) : Quietly s s' calls := by
  unfold InputInstance.grabbedPointerEvent at h
  cases htype : pointerEventType message.eventType with
  | up =>
      rw [htype] at h
      obtain ⟨⟨grab, rfl⟩, hcalls⟩ := endGrab_ok h
      exact ⟨rfl, rfl, hcalls⟩
  | hover | move =>
      rw [htype] at h
      exact dragGrab_quiet h
  | down | enter | exit | scroll | other =>
      rw [htype] at h
      cases h
      exact ⟨rfl, rfl, rfl⟩

theorem fwrHandleSurfacePointerEventMessage_effect {args : DartValue} {surf : SurfaceUnder}
    (h : s.fwrHandleSurfacePointerEventMessage c args (some surf) = .ok (s', calls)) :
    Effect s s' calls (s.viewReaction args) := by
  unfold InputInstance.fwrHandleSurfacePointerEventMessage at h
  unfold InputInstance.viewReaction
  cases hdecode : decodeSurfacePointerEventMessage args with
  | none =>
      rw [hdecode] at h
      cases h
      exact ⟨rfl, rfl⟩
  | some message =>
      rw [hdecode] at h
      dsimp only at h ⊢
      cases hlive : s.compositor.views.get message.surfaceHandle with
      | none =>
          rw [hlive] at h
          cases h
          exact ⟨rfl, rfl⟩
      | some p =>
          rw [hlive] at h
          obtain ⟨view, -, h⟩ := except_bind_eq_ok.mp h
          dsimp only at h ⊢
          -- the cursor of Flutter is not part of the footprint, and keeps the grab
          split at h
          next hgrab =>
            rw [if_pos (show s.input.grab.type ≠ .none from hgrab)]
            obtain ⟨⟨s1, calls1⟩, hgrabbed, h⟩ := except_bind_eq_ok.mp h
            obtain ⟨hfoot, -, hcalls⟩ := grabbedPointerEvent_quiet hgrabbed
            cases h
            refine ⟨hfoot, ?_⟩
            rw [summary_append, hcalls]
            rfl
          next hgrab =>
            rw [if_neg (show ¬ s.input.grab.type ≠ .none from hgrab)]
            cases h
            exact messageEffect_respond
              (messageEffect_trackCursor (viewPointerEvent_effect message p surf))

theorem fwrHandlePopupPointerEventMessage_effect {args : DartValue} {surf : SurfaceUnder}
    (h : s.fwrHandlePopupPointerEventMessage args (some surf) = .ok (s', calls)) :
    Effect s s' calls (s.popupReaction args) := by
  unfold InputInstance.fwrHandlePopupPointerEventMessage at h
  unfold InputInstance.popupReaction
  cases hdecode : decodeSurfacePointerEventMessage args with
  | none =>
      rw [hdecode] at h
      cases h
      exact ⟨rfl, rfl⟩
  | some message =>
      rw [hdecode] at h
      dsimp only at h ⊢
      cases hlive : s.compositor.popups.get message.surfaceHandle with
      | none =>
          rw [hlive] at h
          cases h
          exact ⟨rfl, rfl⟩
      | some p =>
          rw [hlive] at h
          obtain ⟨popup, -, h⟩ := except_bind_eq_ok.mp h
          cases h
          exact messageEffect_respond (popupPointerEvent_effect message surf)

/-! ## §7. All events. -/

/-- **The handlers do what the branches say.** -/
theorem handle_effect {e : PointerEvent} (h : s.handle c e = .ok (s', calls)) :
    Effect s s' calls (s.reaction e) := by
  cases e with
  | compositor e => exact h
  | cursorMotion x y timeMsec usesSsd => exact (onServerCursorMotion_quiet h).effect
  | cursorButton event => exact onServerCursorButton_effect h
  | cursorAxis event => exact onServerCursorAxis_effect h
  | surfacePointer args surf => exact fwrHandleSurfacePointerEventMessage_effect h
  | popupPointer args surf => exact fwrHandlePopupPointerEventMessage_effect h
  | beginMove args => exact (fwrHandleSurfaceBeginMove_quiet h).effect
  | beginResize args => exact (fwrHandleSurfaceBeginResize_quiet h).effect
  | requestMove p => exact (startGrab_quiet (by rfl) h).effect
  | requestResize p edges => exact (startGrab_quiet (by rfl) h).effect
  | directInput enabled surfaceHandle =>
      cases h
      exact ⟨rfl, rfl⟩
  | popupGrab active =>
      cases h
      exact ⟨rfl, rfl⟩

end Handlers

end FlutterWlroots.Input
