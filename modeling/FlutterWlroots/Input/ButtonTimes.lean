/-
  FlutterWlroots.Input.ButtonTimes — the times that clients are told buttons with.

  A button of the hardware goes to Flutter without its time; the time waits in `last_button` for the
  message that Flutter sends back (`ButtonsByFlutter`).  The cache has room for one time only:

    • `handle_clock`       — who fills the cache and who uses it,
    • `reach_timesMatch`   — a message that changes no button, or finds its own event in the cache and
                             no other under way, has the right time,
    • `not_timesMatch_quickClick` — after a quick click both messages come with a wrong one.
-/
import FlutterWlroots.Input.ButtonDelivery

namespace FlutterWlroots.Input

open Lib Lib.StateRun FlutterWlroots.Compositor FlutterWlroots.Messages
open FlutterWlroots.StandardMessageCodec (DartValue)

/-! ## §1. Buttons of a session. -/

/-- The times of the button events among the calls to the seat. -/
def buttonTimes (calls : List Call) : List UInt32 :=
  calls.filterMap fun
    | .notifyButton timeMsec _ _ => some timeMsec
    | _ => none

namespace Record

/-- A button event of the hardware. -/
def click (r : Record) : Option PointerButtonEvent :=
  match r.event with
  | .cursorButton event => some event
  | _ => none

/-- A Down or Up message that is handled. -/
def isButtonEcho (r : Record) : Bool :=
  match r.before.reaction r.event with
  | .tellButtons _ _ => true
  | _ => false

end Record

namespace Session

variable (s : Session)

/-- The button events of the hardware. -/
def clicks : List PointerButtonEvent := s.history.filterMap Record.click

/-- The Down and Up messages. -/
def buttonEchoes : List Record := s.history.filter Record.isButtonEcho

/-- The button events sent to Flutter. -/
def forwardedButtons : List FlutterPointerEvent := s.history.flatMap fun r => sentButtons r.calls

/-- The button events sent to Flutter that have not come back. -/
def awaitedButtons : List FlutterPointerEvent := s.forwardedButtons.drop s.buttonEchoes.length

end Session

/-- Neither a grab nor direct input nor a popup takes the button. -/
def FlutterFirst (s : InputInstance) : Prop :=
  s.input.grab.type = .none ∧ s.directView = none ∧ s.popupGrab = false

instance (s : InputInstance) : Decidable (FlutterFirst s) :=
  inferInstanceAs (Decidable (_ ∧ _ ∧ _))

/-- The message answers the first of these. -/
def AnswersButton (message : SurfacePointerEventMessage) : List FlutterPointerEvent → Prop
  | [] => False
  | sent :: _ => EchoesButtons message sent

instance (message : SurfacePointerEventMessage) :
    (awaited : List FlutterPointerEvent) → Decidable (AnswersButton message awaited)
  | [] => .isFalse id
  | sent :: _ => inferInstanceAs (Decidable (EchoesButtons message sent))

/-- Flutter sends Down and Up messages for the button events it was sent, once each and in order, for
    a surface or popup that is there. -/
def ButtonsEchoed (s : Session) (e : PointerEvent) : Reaction → Prop
  | .hardwareButton _ => FlutterFirst s.now
  | .tellButtons _ message => AnswersButton message s.awaitedButtons
  | _ => e.buttonMessage = none

instance (s : Session) (e : PointerEvent) : (r : Reaction) → Decidable (ButtonsEchoed s e r)
  | .hardwareButton _ => inferInstanceAs (Decidable (FlutterFirst s.now))
  | .tellButtons _ message => inferInstanceAs (Decidable (AnswersButton message s.awaitedButtons))
  | .compositor _ => inferInstanceAs (Decidable (e.buttonMessage = none))
  | .hardwareAxis _ => inferInstanceAs (Decidable (e.buttonMessage = none))
  | .tellScroll _ => inferInstanceAs (Decidable (e.buttonMessage = none))
  | .quiet => inferInstanceAs (Decidable (e.buttonMessage = none))

/-- The event keeps to what Flutter does. -/
def ButtonsByFlutter (s : Session) (e : PointerEvent) : Prop := ButtonsEchoed s e (s.now.reaction e)

instance (s : Session) (e : PointerEvent) : Decidable (ButtonsByFlutter s e) :=
  inferInstanceAs (Decidable (ButtonsEchoed s e _))

/-- Of the button events and the messages for them, an event was the last. -/
def ClickWaits (s : Session) : Prop :=
  ((s.history.filter fun r => r.click.isSome || r.isButtonEcho).getLast?.bind Record.click).isSome

instance (s : Session) : Decidable (ClickWaits s) := inferInstanceAs (Decidable (_ = true))

/-- The message finds the known buttons as they are noted for its surface; or no further button event
    has come between the one it is for and the message, and no other message. -/
def AnsweredAlone (s : Session) : Reaction → Prop
  | .tellButtons key message =>
      s.now.getSurfaceButtons key &&& knownMask = message.buttons &&& knownMask ∨
        s.awaitedButtons.length = 1 ∧ ClickWaits s
  | _ => True

instance (s : Session) : (r : Reaction) → Decidable (AnsweredAlone s r)
  | .tellButtons _ _ => inferInstanceAs (Decidable (_ ∨ _ ∧ _))
  | .compositor _ | .hardwareButton _ | .hardwareAxis _ | .tellScroll _ | .quiet => .isTrue trivial

/-- A message that changes a button comes before the next button. -/
def OneClickAtATime (s : Session) (e : PointerEvent) : Prop := AnsweredAlone s (s.now.reaction e)

instance (s : Session) (e : PointerEvent) : Decidable (OneClickAtATime s e) :=
  inferInstanceAs (Decidable (AnsweredAlone s _))

/-- **Every message tells buttons with the time of its own event.** -/
def TimesMatch (s : Session) : Prop :=
  ∀ (k : Nat) (r : Record), s.buttonEchoes[k]? = some r →
    ∃ event : PointerButtonEvent, s.clicks[k]? = some event ∧
      ∀ t ∈ buttonTimes r.calls, t = event.timeMsec

/-! ## §2. The cache. -/

/-- What a branch does to the cache, and what it takes from it. -/
def Clock (s s' : InputInstance) (calls : List Call) : Reaction → Prop
  | .hardwareButton event => FlutterFirst s → s'.input.lastButton = ⟨event.timeMsec, true⟩
  | .tellButtons _ message => ∀ t ∈ buttonTimes calls,
      t = if s.input.lastButton.valid then s.input.lastButton.timeMsec else messageTime message
  | _ => s'.input.lastButton = s.input.lastButton

section Handlers

variable {c : Target} {s s' : InputInstance} {calls : List Call} {key : UInt32}
  {message : SurfacePointerEventMessage}

theorem Quietly.clock (h : Quietly s s' calls) : Clock s s' calls .quiet := h.lastButton

theorem compositorEvent_clock {e : Event} (h : s.compositorEvent e = .ok (s', calls)) :
    Clock s s' calls (.compositor e) := by
  obtain ⟨compositor, -, h⟩ := except_bind_eq_ok.mp h
  cases h
  cases hkey : s.clearedKey e with
  | none => rfl
  | some key => rfl

theorem onServerCursorButton_clock {event : PointerButtonEvent}
    (h : s.onServerCursorButton event = .ok (s', calls)) :
    Clock s s' calls (.hardwareButton event) := by
  rintro ⟨hgrab, hdirect, hpopup⟩
  unfold InputInstance.onServerCursorButton at h
  -- the new mask changes nothing that the branches look at
  have hdirect' : (s.setButtonMask event).directView = none := hdirect
  rw [if_neg (fun hends => hends.2.2 hgrab), hdirect',
    if_neg (show ¬ (none : Option Ptr).isSome = true from Bool.false_ne_true),
    if_neg (show ¬ (s.setButtonMask event).popupGrab = true from ne_true_of_eq_false hpopup)] at h
  cases h
  rfl

theorem onServerCursorAxis_clock {event : PointerAxisEvent}
    (h : s.onServerCursorAxis event = .ok (s', calls)) :
    Clock s s' calls (.hardwareAxis event) := by
  unfold InputInstance.onServerCursorAxis at h
  dsimp only at h
  split at h
  next =>
    cases h
    rfl
  next =>
    split at h
    next =>
      cases h
      rfl
    next =>
      cases h
      rfl

theorem notifyButtons_clock (key : UInt32) :
    Clock s (s.notifyButtons key message).1 (s.notifyButtons key message).2
      (.tellButtons key message) := by
  intro t ht
  unfold InputInstance.notifyButtons at ht
  obtain ⟨call, hcall, htime⟩ := List.mem_filterMap.mp ht
  rcases List.mem_append.mp hcall with hcall | hcall
  · obtain ⟨⟨button, pressed⟩, -, rfl⟩ := List.mem_map.mp hcall
    exact (Option.some.inj htime).symm
  · rw [List.mem_singleton.mp hcall] at htime
    cases htime

theorem notifyScroll_lastButton :
    (s.notifyScroll message).1.input.lastButton = s.input.lastButton := by
  show ((s.notifyScrollX message).1.notifyScrollY message).1.input.lastButton = _
  have hX : (s.notifyScrollX message).1.input.lastButton = s.input.lastButton := by
    unfold InputInstance.notifyScrollX
    split <;> rfl
  have hY : ∀ s : InputInstance,
      (s.notifyScrollY message).1.input.lastButton = s.input.lastButton := by
    intro s
    unfold InputInstance.notifyScrollY
    split <;> rfl
  exact (hY _).trans hX

/-- Calls that are no button calls do not count. -/
theorem messageClock_respond (h : Clock s s' calls (messageReaction key message)) :
    Clock s s' (calls ++ [.respond true]) (messageReaction key message) := by
  have hcalls : buttonTimes (calls ++ [.respond true]) = buttonTimes calls := by
    unfold buttonTimes
    rw [List.filterMap_append]
    exact List.append_nil _
  unfold messageReaction at h ⊢
  cases htype : pointerEventType message.eventType with
  | down | up =>
      rw [htype] at h
      intro t ht
      rw [hcalls] at ht
      exact h t ht
  | scroll | hover | move | enter | exit | other =>
      rw [htype] at h
      exact h

theorem messageClock_trackCursor
    (h : Clock (s.trackCursor message) s' calls (messageReaction key message)) :
    Clock s s' calls (messageReaction key message) := by
  unfold messageReaction at h ⊢
  cases htype : pointerEventType message.eventType with
  | down | up | scroll | hover | move | enter | exit | other =>
      rw [htype] at h
      exact h

theorem viewPointerEvent_clock (p : Ptr) (surf : SurfaceUnder) :
    Clock s (s.viewPointerEvent c message p surf).1 (s.viewPointerEvent c message p surf).2
      (messageReaction message.surfaceHandle message) := by
  unfold InputInstance.viewPointerEvent messageReaction
  cases htype : pointerEventType message.eventType with
  | down | up => exact notifyButtons_clock message.surfaceHandle
  | scroll => exact notifyScroll_lastButton
  | hover | move | enter | exit | other => exact rfl

theorem popupPointerEvent_clock (surf : SurfaceUnder) :
    Clock s (s.popupPointerEvent message surf).1 (s.popupPointerEvent message surf).2
      (messageReaction (message.surfaceHandle + 200000) message) := by
  unfold InputInstance.popupPointerEvent messageReaction
  cases htype : pointerEventType message.eventType with
  | down | up => exact notifyButtons_clock (message.surfaceHandle + 200000)
  | scroll => exact notifyScroll_lastButton
  | hover | move | enter | exit | other => exact rfl

theorem fwrHandleSurfacePointerEventMessage_clock {args : DartValue} {surf : SurfaceUnder}
    (h : s.fwrHandleSurfacePointerEventMessage c args (some surf) = .ok (s', calls)) :
    Clock s s' calls (s.viewReaction args) := by
  unfold InputInstance.fwrHandleSurfacePointerEventMessage at h
  unfold InputInstance.viewReaction
  cases hdecode : decodeSurfacePointerEventMessage args with
  | none =>
      rw [hdecode] at h
      cases h
      rfl
  | some message =>
      rw [hdecode] at h
      dsimp only at h ⊢
      cases hlive : s.compositor.views.get message.surfaceHandle with
      | none =>
          rw [hlive] at h
          cases h
          rfl
      | some p =>
          rw [hlive] at h
          obtain ⟨view, -, h⟩ := except_bind_eq_ok.mp h
          dsimp only at h ⊢
          split at h
          next hgrab =>
            rw [if_pos (show s.input.grab.type ≠ .none from hgrab)]
            obtain ⟨⟨s1, calls1⟩, hgrabbed, h⟩ := except_bind_eq_ok.mp h
            cases h
            exact (grabbedPointerEvent_quiet hgrabbed).lastButton
          next hgrab =>
            rw [if_neg (show ¬ s.input.grab.type ≠ .none from hgrab)]
            cases h
            exact messageClock_respond (messageClock_trackCursor (viewPointerEvent_clock p surf))

theorem fwrHandlePopupPointerEventMessage_clock {args : DartValue} {surf : SurfaceUnder}
    (h : s.fwrHandlePopupPointerEventMessage args (some surf) = .ok (s', calls)) :
    Clock s s' calls (s.popupReaction args) := by
  unfold InputInstance.fwrHandlePopupPointerEventMessage at h
  unfold InputInstance.popupReaction
  cases hdecode : decodeSurfacePointerEventMessage args with
  | none =>
      rw [hdecode] at h
      cases h
      rfl
  | some message =>
      rw [hdecode] at h
      dsimp only at h ⊢
      cases hlive : s.compositor.popups.get message.surfaceHandle with
      | none =>
          rw [hlive] at h
          cases h
          rfl
      | some p =>
          rw [hlive] at h
          obtain ⟨popup, -, h⟩ := except_bind_eq_ok.mp h
          cases h
          exact messageClock_respond (popupPointerEvent_clock surf)

/-- **The cache is filled by the hardware and used by Down and Up messages.** -/
theorem handle_clock {e : PointerEvent} (h : s.handle c e = .ok (s', calls)) :
    Clock s s' calls (s.reaction e) := by
  cases e with
  | compositor e => exact compositorEvent_clock h
  | cursorMotion x y timeMsec usesSsd => exact (onServerCursorMotion_quiet h).clock
  | cursorButton event => exact onServerCursorButton_clock h
  | cursorAxis event => exact onServerCursorAxis_clock h
  | surfacePointer args surf => exact fwrHandleSurfacePointerEventMessage_clock h
  | popupPointer args surf => exact fwrHandlePopupPointerEventMessage_clock h
  | beginMove args => exact (fwrHandleSurfaceBeginMove_quiet h).clock
  | beginResize args => exact (fwrHandleSurfaceBeginResize_quiet h).clock
  | requestMove p => exact (startGrab_quiet (by rfl) h).clock
  | requestResize p edges => exact (startGrab_quiet (by rfl) h).clock
  | directInput enabled surfaceHandle =>
      cases h
      rfl
  | popupGrab active =>
      cases h
      rfl

end Handlers

/-! ## §3. Sessions. -/

/-- Every button event is sent to Flutter once, and until a message comes for it, the cache holds the
    time of the last. -/
structure Timed (s : Session) : Prop where
  forwarded : s.forwardedButtons.length = s.clicks.length
  order : s.buttonEchoes.length ≤ s.clicks.length
  cached : ClickWaits s → ∃ event : PointerButtonEvent,
    s.clicks.getLast? = some event ∧ s.now.input.lastButton = ⟨event.timeMsec, true⟩
  told : TimesMatch s

section Steps

variable {s s' : Session} {c : Target} {e : PointerEvent} {now : InputInstance}
  {calls : List Call} {r : Record}

theorem clicks_after (s : Session) (now : InputInstance) (r : Record) :
    Session.clicks ⟨now, s.history ++ [r]⟩ = s.clicks ++ r.click.toList := by
  unfold Session.clicks
  rw [List.filterMap_append, List.filterMap_cons, List.filterMap_nil]
  cases r.click <;> rfl

theorem buttonEchoes_after (s : Session) (now : InputInstance) (r : Record) :
    Session.buttonEchoes ⟨now, s.history ++ [r]⟩
      = s.buttonEchoes ++ if r.isButtonEcho then [r] else [] := by
  unfold Session.buttonEchoes
  rw [List.filter_append, List.filter_singleton]
  cases r.isButtonEcho <;> rfl

theorem forwardedButtons_after (s : Session) (now : InputInstance) (r : Record) :
    Session.forwardedButtons ⟨now, s.history ++ [r]⟩
      = s.forwardedButtons ++ sentButtons r.calls := by
  unfold Session.forwardedButtons
  rw [List.flatMap_append, List.flatMap_singleton]

/-- Only buttons and messages for them count. -/
theorem clickWaits_after (s : Session) (now : InputInstance) (r : Record) :
    ClickWaits ⟨now, s.history ++ [r]⟩ ↔
      if r.click.isSome || r.isButtonEcho then r.click.isSome = true else ClickWaits s := by
  unfold ClickWaits
  rw [List.filter_append, List.filter_singleton]
  cases hcounts : r.click.isSome || r.isButtonEcho with
  | true =>
      rw [cond_true, List.getLast?_concat]
      rfl
  | false =>
      rw [cond_false, List.append_nil]
      rfl

/-- An event that is neither a button nor a message for one. -/
theorem Timed.idle (h : Timed s) (hbutton : now.input.lastButton = s.now.input.lastButton)
    (hclick : r.click = none) (hecho : r.isButtonEcho = false) (hsent : sentButtons r.calls = []) :
    Timed ⟨now, s.history ++ [r]⟩ := by
  have hclicks := clicks_after s now r
  have hechoes := buttonEchoes_after s now r
  have hforwarded := forwardedButtons_after s now r
  rw [hclick, Option.toList_none, List.append_nil] at hclicks
  rw [hecho, if_neg Bool.false_ne_true, List.append_nil] at hechoes
  rw [hsent, List.append_nil] at hforwarded
  refine ⟨?_, ?_, ?_, ?_⟩
  · rw [hforwarded, hclicks]
    exact h.forwarded
  · rw [hechoes, hclicks]
    exact h.order
  · rw [clickWaits_after, hclick, hecho, hclicks]
    intro hwaits
    obtain ⟨event, hlast, hcache⟩ := h.cached hwaits
    exact ⟨event, hlast, hbutton.trans hcache⟩
  · unfold TimesMatch
    rw [hechoes, hclicks]
    exact h.told

/-- A button of the hardware. -/
theorem Timed.click {event : PointerButtonEvent} (h : Timed s) (hclick : r.click = some event)
    (hecho : r.isButtonEcho = false) (hfirst : FlutterFirst s.now)
    (heffect : Effect s.now now r.calls (.hardwareButton event))
    (hclock : Clock s.now now r.calls (.hardwareButton event)) :
    Timed ⟨now, s.history ++ [r]⟩ := by
  have hsent : sentButtons r.calls = [s.now.forwarded event] := by
    have hcalls : sentButtons r.calls = _ := congrArg Summary.sentButtons heffect.2
    rw [hcalls]
    exact if_pos (.inr hfirst.2.1)
  have hclicks := clicks_after s now r
  have hechoes := buttonEchoes_after s now r
  have hforwarded := forwardedButtons_after s now r
  rw [hclick, Option.toList_some] at hclicks
  rw [hecho, if_neg Bool.false_ne_true, List.append_nil] at hechoes
  rw [hsent] at hforwarded
  refine ⟨?_, ?_, ?_, ?_⟩
  · rw [hforwarded, hclicks, List.length_append, List.length_append, h.forwarded]
    rfl
  · rw [hechoes, hclicks, List.length_append]
    exact Nat.le_add_right_of_le h.order
  · rw [hclicks]
    exact fun _ => ⟨event, List.getLast?_concat, hclock hfirst⟩
  · -- the events of earlier messages stay where they are
    intro k r' hr'
    rw [hechoes] at hr'
    obtain ⟨event', hevent', htimes⟩ := h.told k r' hr'
    rw [hclicks]
    exact ⟨event', List.getElem?_append_left (List.getElem?_eq_some_iff.mp hevent').1 ▸ hevent',
      htimes⟩

/-- A message that tells nothing has no times. -/
theorem buttonTimes_eq_nil {calls : List Call} (h : buttonCalls calls = []) :
    buttonTimes calls = [] := by
  unfold buttonCalls at h
  unfold buttonTimes
  rw [List.filterMap_eq_nil_iff] at h ⊢
  intro call hcall
  have hnone := h call hcall
  cases call with
  | notifyButton timeMsec button pressed => cases hnone
  | _ => rfl

/-- A message for a button: it changes none, or its own event is the only one under way. -/
theorem Timed.echo {key : UInt32} {message : SurfacePointerEventMessage} (h : Timed s)
    (hclick : r.click = none) (hecho : r.isButtonEcho = true) (hsent : sentButtons r.calls = [])
    (hawaited : s.awaitedButtons ≠ [])
    (halone : AnsweredAlone s (.tellButtons key message))
    (heffect : Effect s.now now r.calls (.tellButtons key message))
    (hclock : Clock s.now now r.calls (.tellButtons key message)) :
    Timed ⟨now, s.history ++ [r]⟩ := by
  have hclicks := clicks_after s now r
  have hechoes := buttonEchoes_after s now r
  have hforwarded := forwardedButtons_after s now r
  rw [hclick, Option.toList_none, List.append_nil] at hclicks
  rw [hecho, if_pos rfl] at hechoes
  rw [hsent, List.append_nil] at hforwarded
  have hawaiting : s.awaitedButtons.length = s.clicks.length - s.buttonEchoes.length := by
    unfold Session.awaitedButtons
    rw [List.length_drop, h.forwarded]
  have hlt : s.buttonEchoes.length < s.clicks.length := by
    have hpos := List.length_pos_of_ne_nil hawaited
    omega
  refine ⟨?_, ?_, ?_, ?_⟩
  · rw [hforwarded, hclicks]
    exact h.forwarded
  · rw [hechoes, hclicks, List.length_append]
    exact hlt
  · rw [clickWaits_after, hclick, hecho]
    intro hwaits
    cases hwaits
  · intro k r' hr'
    rw [hechoes] at hr'
    rw [hclicks]
    by_cases hk : k < s.buttonEchoes.length
    · rw [List.getElem?_append_left hk] at hr'
      exact h.told k r' hr'
    · have hbound := (List.getElem?_eq_some_iff.mp hr').1
      rw [List.length_append, List.length_singleton] at hbound
      have hkeq : k = s.buttonEchoes.length := by omega
      subst hkeq
      rw [List.getElem?_concat_length] at hr'
      cases hr'
      rcases halone with hsame | ⟨hone, hwaits⟩
      · -- the message changes no button
        have htold : buttonCalls r.calls = [] :=
          (congrArg Summary.buttons heffect.2).trans (changedButtons_eq_nil hsame)
        refine ⟨_, List.getElem?_eq_getElem hlt, ?_⟩
        rw [buttonTimes_eq_nil htold]
        exact fun t ht => absurd ht List.not_mem_nil
      · -- the cache holds the time of the last event, which is that of the message
        obtain ⟨event, hlast, hcache⟩ := h.cached hwaits
        have hlength : s.clicks.length - 1 = s.buttonEchoes.length := by omega
        refine ⟨event, ?_, fun t ht => ?_⟩
        · rw [List.getLast?_eq_getElem?, hlength] at hlast
          exact hlast
        · rw [hclock t ht, hcache]
          rfl

/-- **One step.** -/
theorem Timed.step (h : Timed s) (hecho : ButtonsByFlutter s e) (hone : OneClickAtATime s e)
    (hstep : (pointer c).step s e = some s') : Timed s' := by
  obtain ⟨-, now, calls, hhandle, rfl⟩ := pointer_step.mp hstep
  have heffect := handle_effect hhandle
  have hclock := handle_clock hhandle
  have hfits := InputInstance.reaction_fits s.now e
  unfold ButtonsByFlutter at hecho
  unfold OneClickAtATime at hone
  have hclick : (∀ event, s.now.reaction e ≠ .hardwareButton event) →
      Record.click ⟨s.now, e, calls⟩ = none := by
    intro hne
    cases e with
    | cursorButton event => exact absurd rfl (hne event)
    | _ => rfl
  cases hr : s.now.reaction e with
  | hardwareButton event =>
      rw [hr] at hecho heffect hclock hfits
      have he : e = .cursorButton event := hfits
      subst he
      exact h.click rfl rfl hecho heffect hclock
  | tellButtons key message =>
      rw [hr] at hecho hone heffect hclock hclick
      have hisEcho : Record.isButtonEcho ⟨s.now, e, calls⟩ = true := by
        unfold Record.isButtonEcho
        rw [hr]
      have hawaited : s.awaitedButtons ≠ [] := by
        intro hnil
        unfold ButtonsEchoed at hecho
        rw [hnil] at hecho
        exact hecho
      exact h.echo (hclick nofun) hisEcho (effect_keepsMask heffect nofun).2 hawaited hone heffect
        hclock
  | compositor | hardwareAxis | tellScroll | quiet =>
      rw [hr] at heffect hclock hclick
      have hisEcho : Record.isButtonEcho ⟨s.now, e, calls⟩ = false := by
        unfold Record.isButtonEcho
        rw [hr]
      exact h.idle hclock (hclick nofun) hisEcho (effect_keepsMask heffect nofun).2

theorem timed_init (c : Target) : Timed (pointer c).init where
  forwarded := rfl
  order := Nat.le_refl 0
  cached := fun hwaits => Bool.noConfusion hwaits
  told := fun _ _ hr => absurd (List.getElem?_nil.symm.trans hr) nofun

/-- **The k-th message tells buttons at the time of the k-th event**, if each that changes one comes
    before the next button. -/
theorem reach_timesMatch
    (h : (pointer c).Reach (fun s e => ButtonsByFlutter s e ∧ OneClickAtATime s e) s) :
    TimesMatch s := by
  have hinv : Timed s := h.invariant (P := Timed) (timed_init c)
    (fun s e s' hs hok hstep => hs.step hok.1 hok.2 hstep)
  exact hinv.told

end Steps

/-- The left button pressed and released in a window, each answered before the next. -/
def slowClick : List PointerEvent :=
  [.compositor (.newToplevel 7), .cursorButton ⟨1000, btnLeft, true⟩,
   .surfacePointer (pointerArgs 1 1 1 0 0) ⟨7, 100, 100, none⟩,
   .cursorButton ⟨1060, btnLeft, false⟩,
   .surfacePointer (pointerArgs 1 0 2 0 0) ⟨7, 100, 100, none⟩]

theorem reach_timesMatch_slowClick : ∃ s,
    (pointer .still).Reach (fun s e => ButtonsByFlutter s e ∧ OneClickAtATime s e) s ∧
      s.buttonEchoes.map (fun r => buttonTimes r.calls) = [[1000], [1060]] ∧ TimesMatch s := by
  have hrun : ((pointer .still).execIf (fun s e => ButtonsByFlutter s e ∧ OneClickAtATime s e)
      (pointer .still).init slowClick).map
      (fun s => s.buttonEchoes.map fun r => buttonTimes r.calls)
      = some [[1000], [1060]] := by decide +kernel
  obtain ⟨s, hs, hend⟩ := Option.map_eq_some_iff.mp hrun
  have hreach := Machine.reach_execIf slowClick .init hs
  exact ⟨s, hreach, hend, reach_timesMatch hreach⟩

/-- The same click, released before Flutter answers the press. -/
def quickClick : List PointerEvent :=
  [.compositor (.newToplevel 7), .cursorButton ⟨1000, btnLeft, true⟩,
   .cursorButton ⟨1060, btnLeft, false⟩,
   .surfacePointer (pointerArgs 1 1 1 0 0) ⟨7, 100, 100, none⟩,
   .surfacePointer (pointerArgs 1 0 2 0 0) ⟨7, 100, 100, none⟩]

/-- **A quick click is pressed at the time of its release**, and released at a time of Flutter's. -/
theorem not_timesMatch_quickClick : ¬ ∀ s, (pointer .still).Reach ButtonsByFlutter s →
    TimesMatch s := by
  intro hall
  have hrun : ((pointer .still).execIf ButtonsByFlutter (pointer .still).init quickClick).map
      (fun s => (s.clicks, s.buttonEchoes.map fun r => buttonTimes r.calls))
      = some ([⟨1000, btnLeft, true⟩, ⟨1060, btnLeft, false⟩], [[1060], [0]]) := by
    decide +kernel
  obtain ⟨s, hs, hend⟩ := Option.map_eq_some_iff.mp hrun
  have hreach := Machine.reach_execIf quickClick .init hs
  obtain ⟨hclicks, htimes⟩ := Prod.mk.inj hend
  have hfirst : (s.buttonEchoes.map fun r => buttonTimes r.calls)[0]? = some [1060] := by
    rw [htimes]
    rfl
  rw [List.getElem?_map] at hfirst
  obtain ⟨r, hr, hrtimes⟩ := Option.map_eq_some_iff.mp hfirst
  obtain ⟨event, hevent, htold⟩ := hall s hreach 0 r hr
  rw [hclicks] at hevent
  cases hevent
  have htime := htold 1060 (by rw [hrtimes]; exact List.mem_cons_self)
  revert htime
  decide

end FlutterWlroots.Input
