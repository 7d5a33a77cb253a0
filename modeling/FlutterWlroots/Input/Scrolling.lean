/-
  FlutterWlroots.Input.Scrolling — scrolling through Flutter.

  A scroll event of the hardware is sent to Flutter and kept in the cache of its axis until Flutter's
  message for it comes back (`EchoedByFlutter`).  The cache has room for one event, so a second one
  on the same axis takes the place of the first (`not_scrolledOnce_twoWaiting`); as long as an axis
  has one event under way at most, clients are told of every scroll once and in order
  (`reach_scrolledOnce`).
-/
import FlutterWlroots.Input.PointerEvents

namespace FlutterWlroots.Input

open Lib FlutterWlroots.Compositor FlutterWlroots.Messages
open FlutterWlroots.StandardMessageCodec (DartValue)

/-! ## §1. Scrolls of a session. -/

namespace Record

/-- A scroll event of the hardware. -/
def hardwareScroll (r : Record) : Option PointerAxisEvent :=
  match r.event with
  | .cursorAxis event => some event
  | _ => none

/-- A scroll message that is handled. -/
def isEcho (r : Record) : Bool :=
  match r.before.reaction r.event with
  | .tellScroll _ => true
  | _ => false

end Record

namespace Session

variable (s : Session)

/-- The scroll events of the hardware. -/
def hardwareScrolls : List PointerAxisEvent := s.history.filterMap Record.hardwareScroll

/-- The scroll events the seat was told of. -/
def toldScrolls : List PointerAxisEvent := s.history.flatMap fun r => axisCalls r.calls

/-- The scroll events sent to Flutter. -/
def forwardedScrolls : List FlutterPointerEvent := s.history.flatMap fun r => sentScrolls r.calls

/-- How many of them have come back. -/
def echoedScrolls : Nat := s.history.countP Record.isEcho

/-- The scroll events sent to Flutter that have not come back. -/
def awaitedScrolls : List FlutterPointerEvent := s.forwardedScrolls.drop s.echoedScrolls

end Session

/-- The scroll message in an event. -/
def scrollMessage : PointerEvent → Option SurfacePointerEventMessage
  | .surfacePointer args _ =>
      (decodeSurfacePointerEventMessage args).filter (pointerEventType ·.eventType = .scroll)
  | .popupPointer args _ =>
      (decodeSurfacePointerEventMessage args).filter (pointerEventType ·.eventType = .scroll)
  | _ => none

/-- The message scrolls by what was sent. -/
def Echoes (message : SurfacePointerEventMessage) (sent : FlutterPointerEvent) : Prop :=
  message.scrollDeltaX = sent.scrollDeltaX ∧ message.scrollDeltaY = sent.scrollDeltaY

instance (message : SurfacePointerEventMessage) (sent : FlutterPointerEvent) :
    Decidable (Echoes message sent) := inferInstanceAs (Decidable (_ ∧ _))

/-- The message answers the first of these. -/
def AnswersFirst (message : SurfacePointerEventMessage) : List FlutterPointerEvent → Prop
  | [] => False
  | sent :: _ => Echoes message sent

instance (message : SurfacePointerEventMessage) :
    (awaited : List FlutterPointerEvent) → Decidable (AnswersFirst message awaited)
  | [] => .isFalse id
  | sent :: _ => inferInstanceAs (Decidable (Echoes message sent))

/-- Flutter sends scroll messages for the scrolls it was sent, once each and in order, for a surface or
    popup that is there and while no window is dragged.  Hardware scrolls have a delta and come
    outside direct input. -/
def ByFlutter (s : Session) (e : PointerEvent) : Reaction → Prop
  | .hardwareAxis event => s.now.directView = none ∧ Lib.Double.isZero event.delta = false
  | .tellScroll message => AnswersFirst message s.awaitedScrolls
  | _ => scrollMessage e = none

instance (s : Session) (e : PointerEvent) : (r : Reaction) → Decidable (ByFlutter s e r)
  | .hardwareAxis event =>
      inferInstanceAs (Decidable (s.now.directView = none ∧ Lib.Double.isZero event.delta = false))
  | .tellScroll message => inferInstanceAs (Decidable (AnswersFirst message s.awaitedScrolls))
  | .compositor _ => inferInstanceAs (Decidable (scrollMessage e = none))
  | .hardwareButton _ => inferInstanceAs (Decidable (scrollMessage e = none))
  | .tellButtons _ _ => inferInstanceAs (Decidable (scrollMessage e = none))
  | .quiet => inferInstanceAs (Decidable (scrollMessage e = none))

/-- The event keeps to what Flutter does. -/
def EchoedByFlutter (s : Session) (e : PointerEvent) : Prop := ByFlutter s e (s.now.reaction e)

/-- No scroll on the axis of this event is under way. -/
def AxisIdle (s : Session) (event : PointerAxisEvent) : Prop :=
  ∀ sent ∈ s.awaitedScrolls,
    Lib.Double.isZero (if isHorizontal event then sent.scrollDeltaX else sent.scrollDeltaY)

instance (s : Session) (event : PointerAxisEvent) : Decidable (AxisIdle s event) :=
  inferInstanceAs (Decidable (∀ sent ∈ s.awaitedScrolls, _ = true))

/-- A hardware scroll comes only while its axis is idle. -/
def OneAtATime (s : Session) : PointerEvent → Prop
  | .cursorAxis event => AxisIdle s event
  | _ => True

instance (s : Session) : (e : PointerEvent) → Decidable (OneAtATime s e)
  | .cursorAxis event => inferInstanceAs (Decidable (AxisIdle s event))
  | .compositor _ | .cursorMotion .. | .cursorButton _ | .surfacePointer .. | .popupPointer ..
    | .beginMove _ | .beginResize _ | .requestMove _ | .requestResize .. | .directInput ..
    | .popupGrab _ => .isTrue trivial

instance (s : Session) (e : PointerEvent) : Decidable (EchoedByFlutter s e) :=
  inferInstanceAs (Decidable (ByFlutter s e _))

/-! ## §2. What is under way. -/

/-- The deltas a hardware scroll is sent with. -/
def sentDeltas (event : PointerAxisEvent) : Double × Double :=
  if isHorizontal event then (Lib.Double.neg event.delta, 0) else (0, Lib.Double.neg event.delta)

/-- The cache of an axis. -/
def InputInstance.scrollCacheOf (s : InputInstance) (horizontal : Bool) : FwrScrollCache :=
  if horizontal then s.input.lastScrollX else s.input.lastScrollY

/-- The hardware scrolls that Flutter has not answered: one for each axis at most, in its cache. -/
structure Waiting (s : InputInstance) (awaited : List FlutterPointerEvent)
    (pending : List PointerAxisEvent) : Prop where
  sent : awaited.map (fun sent => (sent.scrollDeltaX, sent.scrollDeltaY)) = pending.map sentDeltas
  delta : ∀ event ∈ pending, Lib.Double.isZero event.delta = false
  apart : pending.Pairwise fun a b => isHorizontal a ≠ isHorizontal b
  cached : ∀ event ∈ pending, s.scrollCacheOf (isHorizontal event) = scrollCache event

variable {s s' : InputInstance} {awaited : List FlutterPointerEvent}
  {pending : List PointerAxisEvent} {event : PointerAxisEvent} {sent : FlutterPointerEvent}
  {message : SurfacePointerEventMessage} {calls : List Call}

/-- A sent scroll is on the axis of its hardware event. -/
theorem isZero_sentDeltas (h : Lib.Double.isZero event.delta = false) (horizontal : Bool) :
    Lib.Double.isZero (if horizontal then (sentDeltas event).1 else (sentDeltas event).2)
      = decide (horizontal ≠ isHorizontal event) := by
  unfold sentDeltas
  cases horizontal <;> cases hevent : isHorizontal event <;>
    simp [Lib.Double.isZero_neg, Lib.Double.isZero_zero, h]

theorem Waiting.congr (h : Waiting s awaited pending) (hX : s'.input.lastScrollX = s.input.lastScrollX)
    (hY : s'.input.lastScrollY = s.input.lastScrollY) : Waiting s' awaited pending where
  sent := h.sent
  delta := h.delta
  apart := h.apart
  cached := fun event hevent => by
    rw [← h.cached event hevent]
    unfold InputInstance.scrollCacheOf
    rw [hX, hY]

/-- A hardware scroll on an axis that is idle. -/
theorem Waiting.hardware (h : Waiting s awaited pending)
    (hdelta : Lib.Double.isZero event.delta = false)
    (hidle : ∀ sent ∈ awaited,
      Lib.Double.isZero (if isHorizontal event then sent.scrollDeltaX else sent.scrollDeltaY))
    (hsent : (sent.scrollDeltaX, sent.scrollDeltaY) = sentDeltas event)
    (hnew : s'.scrollCacheOf (isHorizontal event) = scrollCache event)
    (hother : ∀ horizontal, horizontal ≠ isHorizontal event →
      s'.scrollCacheOf horizontal = s.scrollCacheOf horizontal) :
    Waiting s' (awaited ++ [sent]) (pending ++ [event]) := by
  have hapart : ∀ a ∈ pending, isHorizontal a ≠ isHorizontal event := by
    intro a ha heq
    -- what was sent for `a` is on the axis that is idle
    have hmem : sentDeltas a ∈ awaited.map fun sent => (sent.scrollDeltaX, sent.scrollDeltaY) := by
      rw [h.sent]
      exact List.mem_map_of_mem ha
    obtain ⟨sent, hsent, hdeltas⟩ := List.mem_map.mp hmem
    have hzero := hidle sent hsent
    have haxis := isZero_sentDeltas (h.delta a ha) (isHorizontal event)
    rw [← hdeltas] at haxis
    dsimp only at haxis
    rw [hzero, heq] at haxis
    simp at haxis
  constructor
  · rw [List.map_append, List.map_append, h.sent]
    exact congrArg (pending.map sentDeltas ++ [·]) hsent
  · intro a ha
    rcases List.mem_append.mp ha with ha | ha
    · exact h.delta a ha
    · rw [List.mem_singleton.mp ha]
      exact hdelta
  · rw [List.pairwise_append]
    refine ⟨h.apart, List.pairwise_singleton .., fun a ha b hb => ?_⟩
    rw [List.mem_singleton.mp hb]
    exact hapart a ha
  · intro a ha
    rcases List.mem_append.mp ha with ha | ha
    · rw [hother _ (hapart a ha), h.cached a ha]
    · rw [List.mem_singleton.mp ha]
      exact hnew

theorem usedScroll_zero {delta : Double} (h : Lib.Double.isZero delta = true)
    (cache : FwrScrollCache) : usedScroll delta cache = (cache, []) := by
  unfold usedScroll
  rw [h]
  rfl

theorem usedScroll_valid {delta : Double} (h : Lib.Double.isZero delta = false)
    (event : PointerAxisEvent) :
    usedScroll delta (scrollCache event) = ({ scrollCache event with valid := false }, [event]) := by
  unfold usedScroll
  rw [h]
  rfl

/-- **A message for the oldest scroll uses its cache, and only that.** -/
theorem Waiting.echo (h : Waiting s (sent :: awaited) pending) (hecho : Echoes message sent)
    (hX : s'.input.lastScrollX = (usedScroll message.scrollDeltaX s.input.lastScrollX).1)
    (hY : s'.input.lastScrollY = (usedScroll message.scrollDeltaY s.input.lastScrollY).1) :
    ∃ event rest, pending = event :: rest ∧ Waiting s' awaited rest ∧
      (usedScroll message.scrollDeltaX s.input.lastScrollX).2 ++
        (usedScroll message.scrollDeltaY s.input.lastScrollY).2 = [event] := by
  cases pending with
  | nil => cases h.sent
  | cons event rest =>
      obtain ⟨hsent, hrest⟩ := List.cons.inj h.sent
      have hdelta := h.delta event List.mem_cons_self
      have hcached := h.cached event List.mem_cons_self
      obtain ⟨hapart, hpairwise⟩ := List.pairwise_cons.mp h.apart
      have hsentX : message.scrollDeltaX = (sentDeltas event).1 :=
        hecho.1.trans (congrArg Prod.fst hsent)
      have hsentY : message.scrollDeltaY = (sentDeltas event).2 :=
        hecho.2.trans (congrArg Prod.snd hsent)
      have hzeroX := isZero_sentDeltas hdelta true
      have hzeroY := isZero_sentDeltas hdelta false
      rw [if_pos rfl, ← hsentX] at hzeroX
      rw [if_neg Bool.false_ne_true, ← hsentY] at hzeroY
      -- the other scrolls under way are on the other axis, whose cache is not used
      have hwaiting : ∀ horizontal, horizontal ≠ isHorizontal event →
          s'.scrollCacheOf horizontal = s.scrollCacheOf horizontal →
          Waiting s' awaited rest := by
        intro horizontal hne hkept
        refine ⟨hrest, fun a ha => h.delta a (List.mem_cons_of_mem _ ha), hpairwise,
          fun a ha => ?_⟩
        have haxis : isHorizontal a = horizontal := by
          have hother := hapart a ha
          revert hne hother
          cases isHorizontal a <;> cases isHorizontal event <;> cases horizontal <;> simp
        rw [haxis, hkept, ← haxis]
        exact h.cached a (List.mem_cons_of_mem _ ha)
      refine ⟨event, rest, rfl, ?_⟩
      cases haxis : isHorizontal event with
      | true =>
          rw [haxis] at hzeroX hzeroY hcached hwaiting
          have hcache : s.input.lastScrollX = scrollCache event := hcached
          rw [usedScroll_zero hzeroY] at hY ⊢
          rw [hcache, usedScroll_valid hzeroX]
          exact ⟨hwaiting false Bool.false_ne_true hY, rfl⟩
      | false =>
          rw [haxis] at hzeroX hzeroY hcached hwaiting
          have hcache : s.input.lastScrollY = scrollCache event := hcached
          rw [usedScroll_zero hzeroX] at hX ⊢
          rw [hcache, usedScroll_valid hzeroY]
          exact ⟨hwaiting true (Ne.symm Bool.false_ne_true) hX, rfl⟩

/-! ## §3. Sessions. -/

/-- Every hardware scroll was told of or is under way. -/
structure Scrolling (s : Session) : Prop where
  order : s.echoedScrolls ≤ s.forwardedScrolls.length
  conserved : ∃ pending, s.hardwareScrolls = s.toldScrolls ++ pending ∧
    Waiting s.now s.awaitedScrolls pending

section Steps

variable {s s' : Session} {c : Target} {e : PointerEvent} {now : InputInstance}
  {calls : List Call} {r : Record}

theorem hardwareScrolls_after (s : Session) (now : InputInstance) (r : Record) :
    Session.hardwareScrolls ⟨now, s.history ++ [r]⟩
      = s.hardwareScrolls ++ r.hardwareScroll.toList := by
  unfold Session.hardwareScrolls
  rw [List.filterMap_append, List.filterMap_cons, List.filterMap_nil]
  cases r.hardwareScroll <;> rfl

theorem toldScrolls_after (s : Session) (now : InputInstance) (r : Record) :
    Session.toldScrolls ⟨now, s.history ++ [r]⟩ = s.toldScrolls ++ axisCalls r.calls := by
  unfold Session.toldScrolls
  rw [List.flatMap_append, List.flatMap_singleton]

theorem forwardedScrolls_after (s : Session) (now : InputInstance) (r : Record) :
    Session.forwardedScrolls ⟨now, s.history ++ [r]⟩
      = s.forwardedScrolls ++ sentScrolls r.calls := by
  unfold Session.forwardedScrolls
  rw [List.flatMap_append, List.flatMap_singleton]

theorem echoedScrolls_after (s : Session) (now : InputInstance) (r : Record) :
    Session.echoedScrolls ⟨now, s.history ++ [r]⟩
      = s.echoedScrolls + if r.isEcho then 1 else 0 := by
  unfold Session.echoedScrolls
  rw [List.countP_append, List.countP_singleton]

/-- An event that has nothing to do with scrolling. -/
theorem Scrolling.idle (h : Scrolling s) (hX : now.input.lastScrollX = s.now.input.lastScrollX)
    (hY : now.input.lastScrollY = s.now.input.lastScrollY) (hhardware : r.hardwareScroll = none)
    (hecho : r.isEcho = false) (haxis : axisCalls r.calls = [])
    (hsent : sentScrolls r.calls = []) : Scrolling ⟨now, s.history ++ [r]⟩ := by
  have hforwarded := forwardedScrolls_after s now r
  have hechoed := echoedScrolls_after s now r
  rw [hsent, List.append_nil] at hforwarded
  rw [hecho] at hechoed
  obtain ⟨pending, hconserved, hwaiting⟩ := h.conserved
  refine ⟨by rw [hforwarded, hechoed]; exact h.order, pending, ?_, ?_⟩
  · rw [hardwareScrolls_after, toldScrolls_after, hhardware, haxis, hconserved]
    simp
  · have hawaited : Session.awaitedScrolls ⟨now, s.history ++ [r]⟩ = s.awaitedScrolls := by
      unfold Session.awaitedScrolls
      rw [hforwarded, hechoed]
      rfl
    rw [hawaited]
    exact hwaiting.congr hX hY

/-- A hardware scroll. -/
theorem Scrolling.hardware {event : PointerAxisEvent} (h : Scrolling s)
    (hr : r.hardwareScroll = some event) (hecho : r.isEcho = false)
    (hdirect : s.now.directView = none) (hdelta : Lib.Double.isZero event.delta = false)
    (hidle : AxisIdle s event) (heffect : Effect s.now now r.calls (.hardwareAxis event)) :
    Scrolling ⟨now, s.history ++ [r]⟩ := by
  rw [Effect, if_neg (by rw [hdirect]; exact Bool.false_ne_true)] at heffect
  obtain ⟨hfoot, hcalls⟩ := heffect
  have haxis : axisCalls r.calls = [] := congrArg Summary.axis hcalls
  have hsent : sentScrolls r.calls = [s.now.forwardedScroll event] :=
    congrArg Summary.sentScrolls hcalls
  have hforwarded := forwardedScrolls_after s now r
  have hechoed := echoedScrolls_after s now r
  rw [hsent] at hforwarded
  rw [hecho] at hechoed
  obtain ⟨pending, hconserved, hwaiting⟩ := h.conserved
  refine ⟨?_, pending ++ [event], ?_, ?_⟩
  · rw [hforwarded, hechoed, List.length_append]
    exact Nat.le_add_right_of_le h.order
  · rw [hardwareScrolls_after, toldScrolls_after, hr, haxis, hconserved]
    simp
  · have hawaited : Session.awaitedScrolls ⟨now, s.history ++ [r]⟩
        = s.awaitedScrolls ++ [s.now.forwardedScroll event] := by
      unfold Session.awaitedScrolls
      rw [hforwarded, hechoed]
      exact List.drop_append_of_le_length h.order
    rw [hawaited]
    cases haxis : isHorizontal event with
    | true =>
        rw [haxis, if_pos rfl] at hfoot
        refine hwaiting.hardware hdelta hidle ?_ ?_ ?_
        · unfold InputInstance.forwardedScroll sentDeltas
          rw [haxis]
          rfl
        · rw [haxis]
          exact congrArg Footprint.scrollX hfoot
        · intro horizontal hne
          rw [haxis] at hne
          rw [Bool.eq_false_of_not_eq_true hne]
          exact congrArg Footprint.scrollY hfoot
    | false =>
        rw [haxis, if_neg Bool.false_ne_true] at hfoot
        refine hwaiting.hardware hdelta hidle ?_ ?_ ?_
        · unfold InputInstance.forwardedScroll sentDeltas
          rw [haxis]
          rfl
        · rw [haxis]
          exact congrArg Footprint.scrollY hfoot
        · intro horizontal hne
          rw [haxis] at hne
          rw [Bool.eq_true_of_not_eq_false hne]
          exact congrArg Footprint.scrollX hfoot

/-- A scroll message of Flutter. -/
theorem Scrolling.echo (h : Scrolling s) (hr : r.hardwareScroll = none) (hecho : r.isEcho = true)
    {message : SurfacePointerEventMessage} {sent : FlutterPointerEvent}
    {rest : List FlutterPointerEvent} (hawaited : s.awaitedScrolls = sent :: rest)
    (hmessage : Echoes message sent) (heffect : Effect s.now now r.calls (.tellScroll message)) :
    Scrolling ⟨now, s.history ++ [r]⟩ := by
  obtain ⟨hfoot, hcalls⟩ := heffect
  have hsent : sentScrolls r.calls = [] := congrArg Summary.sentScrolls hcalls
  have hforwarded := forwardedScrolls_after s now r
  have hechoed := echoedScrolls_after s now r
  rw [hsent, List.append_nil] at hforwarded
  rw [hecho] at hechoed
  obtain ⟨pending, hconserved, hwaiting⟩ := h.conserved
  rw [hawaited] at hwaiting
  obtain ⟨event, pending, rfl, hwaiting', hused⟩ := hwaiting.echo hmessage
    (congrArg Footprint.scrollX hfoot) (congrArg Footprint.scrollY hfoot)
  have haxis : axisCalls r.calls = [event] := (congrArg Summary.axis hcalls).trans hused
  have hlength := congrArg List.length hawaited
  unfold Session.awaitedScrolls at hawaited hlength
  rw [List.length_drop, List.length_cons] at hlength
  refine ⟨?_, pending, ?_, ?_⟩
  · rw [hforwarded, hechoed]
    show s.echoedScrolls + 1 ≤ _
    omega
  · rw [hardwareScrolls_after, toldScrolls_after, hr, haxis, hconserved]
    simp
  · have hawaited' : Session.awaitedScrolls ⟨now, s.history ++ [r]⟩ = rest := by
      unfold Session.awaitedScrolls
      rw [hforwarded, hechoed]
      show s.forwardedScrolls.drop (s.echoedScrolls + 1) = rest
      rw [← List.drop_drop, hawaited]
      rfl
    rw [hawaited']
    exact hwaiting'

/-- **One step.** -/
theorem Scrolling.step (h : Scrolling s) (hecho : EchoedByFlutter s e) (hone : OneAtATime s e)
    (hstep : (pointer c).step s e = some s') : Scrolling s' := by
  obtain ⟨-, now, calls, hhandle, rfl⟩ := pointer_step.mp hstep
  have heffect := handle_effect hhandle
  have hfits := InputInstance.reaction_fits s.now e
  unfold EchoedByFlutter at hecho
  cases hr : s.now.reaction e with
  | hardwareAxis event =>
      rw [hr] at hecho heffect hfits
      have he : e = .cursorAxis event := hfits
      subst he
      exact h.hardware rfl rfl hecho.1 hecho.2 hone heffect
  | tellScroll message =>
      rw [hr] at hecho heffect
      have hhardware : Record.hardwareScroll ⟨s.now, e, calls⟩ = none := by
        unfold Record.hardwareScroll
        cases e with
        | cursorAxis => cases hr
        | _ => rfl
      have hisEcho : Record.isEcho ⟨s.now, e, calls⟩ = true := by
        unfold Record.isEcho
        rw [hr]
      cases hawaited : s.awaitedScrolls with
      | nil =>
          rw [ByFlutter, hawaited] at hecho
          exact hecho.elim
      | cons sent rest =>
          rw [ByFlutter, hawaited] at hecho
          exact h.echo hhardware hisEcho hawaited hecho heffect
  | compositor | hardwareButton | tellButtons | quiet =>
      obtain ⟨hX, hY, haxis, hsent⟩ := effect_keepsScroll heffect
        (fun _ heq => by cases hr.symm.trans heq) (fun _ heq => by cases hr.symm.trans heq)
      have hhardware : Record.hardwareScroll ⟨s.now, e, calls⟩ = none := by
        unfold Record.hardwareScroll
        cases e with
        | cursorAxis => cases hr
        | _ => rfl
      have hisEcho : Record.isEcho ⟨s.now, e, calls⟩ = false := by
        unfold Record.isEcho
        rw [hr]
      exact h.idle hX hY hhardware hisEcho haxis hsent

theorem scrolling_init (c : Target) : Scrolling (pointer c).init where
  order := Nat.le_refl 0
  conserved := ⟨[], rfl, rfl, nofun, .nil, nofun⟩

/-- **Clients are told of every scroll, once and in order**, if an axis never has two scrolls under
    way. -/
theorem reach_scrolledOnce
    (h : (pointer c).Reach (fun s e => EchoedByFlutter s e ∧ OneAtATime s e) s)
    (hall : s.awaitedScrolls = []) : s.toldScrolls = s.hardwareScrolls := by
  have hinv : Scrolling s := h.invariant (P := Scrolling) (scrolling_init c)
    (fun s e s' hs hok hstep => hs.step hok.1 hok.2 hstep)
  obtain ⟨pending, hconserved, hwaiting⟩ := hinv.conserved
  have hsent := hwaiting.sent
  rw [hall] at hsent
  rw [List.map_eq_nil_iff.mp hsent.symm, List.append_nil] at hconserved
  exact hconserved.symm

end Steps

/-- A scroll event of the wheel. -/
def wheel (orientation : UInt32) (delta : Double) (deltaDiscrete : Int) (timeMsec : UInt32) :
    PointerAxisEvent :=
  { timeMsec, orientation, delta, deltaDiscrete, source := 0, relativeDirection := 0 }

/-- A scroll up, with a delta of 15, and one to the right, with both messages for the window. -/
def scrollBothAxes : List PointerEvent :=
  [.compositor (.newToplevel 7), .cursorAxis (wheel 0 0x402E000000000000 120 1),
   .cursorAxis (wheel 1 0x402E000000000000 120 2),
   .surfacePointer (pointerArgs 1 0 7 0 0xC02E000000000000) ⟨7, 100, 100, none⟩,
   .surfacePointer (pointerArgs 1 0 7 0xC02E000000000000 0) ⟨7, 100, 100, none⟩]

theorem reach_scrolledOnce_bothAxes : ∃ s,
    (pointer .still).Reach (fun s e => EchoedByFlutter s e ∧ OneAtATime s e) s ∧
      s.awaitedScrolls = [] ∧ s.hardwareScrolls.length = 2 ∧ s.toldScrolls = s.hardwareScrolls := by
  have hrun : ((pointer .still).execIf (fun s e => EchoedByFlutter s e ∧ OneAtATime s e)
      (pointer .still).init scrollBothAxes).map (fun s => (s.awaitedScrolls, s.hardwareScrolls.length))
      = some ([], 2) := by decide +kernel
  obtain ⟨s, hs, hend⟩ := Option.map_eq_some_iff.mp hrun
  have hreach := Machine.reach_execIf scrollBothAxes .init hs
  obtain ⟨hall, hlength⟩ := Prod.mk.inj hend
  exact ⟨s, hreach, hall, hlength, reach_scrolledOnce hreach hall⟩

/-- Two notches of the wheel before Flutter answers the first. -/
def scrollTwice : List PointerEvent :=
  [.compositor (.newToplevel 7), .cursorAxis (wheel 0 0x402E000000000000 120 1),
   .cursorAxis (wheel 0 0x402E000000000000 120 2),
   .surfacePointer (pointerArgs 1 0 7 0 0xC02E000000000000) ⟨7, 100, 100, none⟩,
   .surfacePointer (pointerArgs 1 0 7 0 0xC02E000000000000) ⟨7, 100, 100, none⟩]

/-- **A second scroll before the message for the first is lost.** -/
theorem not_scrolledOnce_twoWaiting : ¬ ∀ s, (pointer .still).Reach EchoedByFlutter s →
    s.awaitedScrolls = [] → s.toldScrolls = s.hardwareScrolls := by
  intro hall
  have hrun : ((pointer .still).execIf EchoedByFlutter (pointer .still).init scrollTwice).map
      (fun s => (s.awaitedScrolls, s.toldScrolls.length, s.hardwareScrolls.length))
      = some ([], 1, 2) := by decide +kernel
  obtain ⟨s, hs, hend⟩ := Option.map_eq_some_iff.mp hrun
  have hreach := Machine.reach_execIf scrollTwice .init hs
  obtain ⟨hawaited, hlengths⟩ := Prod.mk.inj hend
  obtain ⟨htold, hhardware⟩ := Prod.mk.inj hlengths
  rw [hall s hreach hawaited, hhardware] at htold
  cases htold

end FlutterWlroots.Input
