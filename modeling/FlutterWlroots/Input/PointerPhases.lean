/-
  FlutterWlroots.Input.PointerPhases — the phases of the mouse that Flutter is told of.

  For Flutter the mouse is down while some button is held: `kDown` is for the first button, `kUp` for
  the last one, and the buttons in between are reported by `kMove`.  `on_server_cursor_button` picks
  the phase by the direction of the single event, or sends nothing where the client is told directly,
  while `fl_mouse_button_mask` adds up the buttons.

    • `phasesRight_iff` — for which events the phase is the right one,
    • `reach_phases`    — the runs in which Flutter is told of well-formed phases.
-/
import FlutterWlroots.Input.Buttons
import FlutterWlroots.Input.PointerEvents

namespace FlutterWlroots.Input

open Lib Lib.StateRun FlutterWlroots.Compositor

/-! ## §1. Phases. -/

/-- The phases that are sent, signals of scrolling apart. -/
def sentPhases (calls : List Call) : List FlutterPointerPhase :=
  calls.filterMap fun
    | .sendPointerEvent event => if event.scroll then none else some event.phase
    | _ => none

/-- The phases are those of a mask of buttons that has changed. -/
structure PhasesRight (mask mask' : BitVec 32) (phases : List FlutterPointerPhase) : Prop where
  down : .down ∈ phases ↔ mask = 0 ∧ mask' ≠ 0
  up : .up ∈ phases ↔ mask ≠ 0 ∧ mask' = 0
  move : mask ≠ 0 → mask' ≠ 0 → mask' ≠ mask → .move ∈ phases

/-- Device 0 after some phases, up or down, if it may get them. -/
def device : Bool → List FlutterPointerPhase → Option Bool
  | down, [] => some down
  | down, .down :: phases => if down then none else device true phases
  | down, .up :: phases => if down then device false phases else none
  | down, .move :: phases => device down phases
  | down, .hover :: phases => device down phases

/-- Some button is held. -/
def isHeld (mask : BitVec 32) : Bool := mask ≠ 0

theorem isHeld_of_eq {mask : BitVec 32} (h : mask = 0) : isHeld mask = false :=
  decide_eq_false (not_not_intro h)

theorem isHeld_of_ne {mask : BitVec 32} (h : mask ≠ 0) : isHeld mask = true := decide_eq_true h

/-- The bit of a button in `fl_mouse_button_mask`, 0 for a button that Flutter does not know. -/
def buttonBit (button : UInt32) : BitVec 32 := (flutterButtonMaskFromLinux button).setWidth 32

/-- The condition on an event: Flutter is told of a button only if it is a known one and no other is
    held, and what it is not told of leaves the mask as it is. -/
def PhasesFit (s : InputInstance) : PointerEvent → Prop
  | .cursorButton event =>
      if s.Forwards event then
        buttonBit event.button ≠ 0 ∧
          s.input.flMouseButtonMask = if event.pressed then 0 else buttonBit event.button
      else
        s.input.flMouseButtonMask &&& buttonBit event.button =
          if event.pressed then buttonBit event.button else 0
  | _ => True

instance (s : InputInstance) : (e : PointerEvent) → Decidable (PhasesFit s e)
  | .cursorButton event => inferInstanceAs (Decidable (if s.Forwards event then
        buttonBit event.button ≠ 0 ∧
          s.input.flMouseButtonMask = if event.pressed then 0 else buttonBit event.button
      else
        s.input.flMouseButtonMask &&& buttonBit event.button =
          if event.pressed then buttonBit event.button else 0))
  | .compositor _ => inferInstanceAs (Decidable True)
  | .cursorMotion .. => inferInstanceAs (Decidable True)
  | .cursorAxis _ => inferInstanceAs (Decidable True)
  | .surfacePointer .. => inferInstanceAs (Decidable True)
  | .popupPointer .. => inferInstanceAs (Decidable True)
  | .beginMove _ => inferInstanceAs (Decidable True)
  | .beginResize _ => inferInstanceAs (Decidable True)
  | .requestMove _ => inferInstanceAs (Decidable True)
  | .requestResize .. => inferInstanceAs (Decidable True)
  | .directInput .. => inferInstanceAs (Decidable True)
  | .popupGrab _ => inferInstanceAs (Decidable True)

theorem sentPhases_append (calls calls' : List Call) :
    sentPhases (calls ++ calls') = sentPhases calls ++ sentPhases calls' := List.filterMap_append

theorem device_append : ∀ {down down' : Bool} {phases phases' : List FlutterPointerPhase},
    device down phases = some down' → device down (phases ++ phases') = device down' phases' := by
  intro down down' phases phases' h
  induction phases generalizing down with
  | nil =>
      cases h
      rfl
  | cons phase phases ih =>
      cases phase with
      | down =>
          cases down with
          | false => exact ih h
          | true => cases h
      | up =>
          cases down with
          | false => cases h
          | true => exact ih h
      | move => exact ih h
      | hover => exact ih h

/-- Motion leaves the device as it is. -/
theorem device_motion {down : Bool} {phases : List FlutterPointerPhase}
    (h : ∀ phase ∈ phases, phase = .move ∨ phase = .hover) : device down phases = some down := by
  induction phases with
  | nil => rfl
  | cons phase phases ih =>
      have ih := ih fun phase hphase => h phase (List.mem_cons_of_mem _ hphase)
      rcases h phase List.mem_cons_self with rfl | rfl
      · exact ih
      · exact ih

/-! ## §2. Masks. -/

theorem flMouseButtonMask_setButtonMask (s : InputInstance) (event : PointerButtonEvent) :
    (s.setButtonMask event).input.flMouseButtonMask =
      if event.pressed then s.input.flMouseButtonMask ||| buttonBit event.button
      else s.input.flMouseButtonMask &&& ~~~buttonBit event.button := by
  unfold InputInstance.setButtonMask buttonBit
  refine BitVec.eq_of_getLsbD_eq fun i hi => ?_
  have hlt : i < 64 := Nat.lt_trans hi (by decide)
  cases event.pressed with
  | true => simp [hi, hlt]
  | false => simp [hi, hlt]

/-- A known button has one bit. -/
theorem buttonBit_eq (button : UInt32) :
    buttonBit button = 0 ∨ ∃ i < 32, buttonBit button = BitVec.twoPow 32 i := by
  unfold buttonBit flutterButtonMaskFromLinux
  split
  · exact .inr ⟨0, by decide, rfl⟩
  · split
    · exact .inr ⟨1, by decide, rfl⟩
    · split
      · exact .inr ⟨2, by decide, rfl⟩
      · split
        · exact .inr ⟨3, by decide, rfl⟩
        · split
          · exact .inr ⟨4, by decide, rfl⟩
          · exact .inl rfl

theorem and_not_twoPow_eq_zero {mask : BitVec 32} {i : Nat} (hne : mask ≠ 0)
    (h : mask &&& ~~~BitVec.twoPow 32 i = 0) : mask = BitVec.twoPow 32 i := by
  have honly : ∀ j, j < 32 → mask.getLsbD j = true → j = i := by
    intro j hj hset
    have hbit := congrArg (BitVec.getLsbD · j) h
    by_contra hji
    simp [hj] at hbit
    exact hji (hbit (by simpa [hj] using hset))
  have hclear : ∀ j, j < 32 → j ≠ i → mask.getLsbD j = false := by
    intro j hj hji
    rw [← Bool.not_eq_true]
    exact fun hset => hji (honly j hj hset)
  -- some bit is set, and it can be this one only
  have hset : mask.getLsbD i = true := by
    by_contra hunset
    refine hne (BitVec.eq_of_getLsbD_eq fun j hj => ?_)
    show mask.getLsbD j = (0#32).getLsbD j
    rw [BitVec.getLsbD_zero]
    by_cases hji : j = i
    · rw [hji]
      exact Bool.not_eq_true _ ▸ hunset
    · exact hclear j hj hji
  refine BitVec.eq_of_getLsbD_eq fun j hj => ?_
  by_cases hji : j = i
  · subst hji
    rw [hset]
    simp [hj]
  · rw [hclear j hj hji]
    simp [Ne.symm hji]

theorem or_eq_left_iff {mask bit : BitVec 32} : mask ||| bit = mask ↔ mask &&& bit = bit := by
  rw [BitVec.eq_of_getLsbD_eq_iff, BitVec.eq_of_getLsbD_eq_iff]
  refine forall₂_congr fun j _ => ?_
  rw [BitVec.getLsbD_or, BitVec.getLsbD_and]
  cases mask.getLsbD j <;> cases bit.getLsbD j <;> decide

theorem and_not_eq_left_iff {mask bit : BitVec 32} : mask &&& ~~~bit = mask ↔ mask &&& bit = 0 := by
  rw [BitVec.eq_of_getLsbD_eq_iff, BitVec.eq_of_getLsbD_eq_iff]
  refine forall₂_congr fun j hj => ?_
  rw [BitVec.getLsbD_and, BitVec.getLsbD_and, BitVec.getLsbD_not, decide_eq_true hj,
    BitVec.ofNat_eq_ofNat, BitVec.getLsbD_zero]
  cases mask.getLsbD j <;> cases bit.getLsbD j <;> decide

/-! ## §3. What an event sends. -/

section Events

variable {c : Target} {s s' : InputInstance} {calls : List Call}

/-- Among the phases sent, those of buttons are down and up. -/
theorem phase_of_sentButtons (hnone : sentButtons calls = []) :
    ∀ phase ∈ sentPhases calls, phase = .move ∨ phase = .hover := by
  intro phase hphase
  obtain ⟨call, hcall, hsent⟩ := List.mem_filterMap.mp hphase
  have hnot := List.filterMap_eq_nil_iff.mp hnone call hcall
  cases call with
  | sendPointerEvent event =>
      dsimp only at hsent hnot
      split at hsent
      · cases hsent
      · next hscroll =>
          cases hsent
          cases hkind : event.phase with
          | move => exact .inl rfl
          | hover => exact .inr rfl
          | down => simp [hscroll, hkind] at hnot
          | up => simp [hscroll, hkind] at hnot
  | _ => cases hsent

/-- Events other than those of buttons leave the mask alone and send motion only. -/
theorem other_phases {e : PointerEvent} (h : s.handle c e = .ok (s', calls))
    (he : ∀ event, e ≠ .cursorButton event) :
    s'.input.flMouseButtonMask = s.input.flMouseButtonMask ∧
      ∀ phase ∈ sentPhases calls, phase = .move ∨ phase = .hover := by
  have hnone : s'.input.flMouseButtonMask = s.input.flMouseButtonMask ∧ sentButtons calls = [] := by
    have heffect := handle_effect h
    have hfits := InputInstance.reaction_fits s e
    cases hr : s.reaction e with
    | compositor e' =>
        rw [hr] at heffect
        obtain ⟨-, hfoot, hcalls⟩ := compositorEvent_ok heffect
        exact ⟨congrArg Footprint.mask hfoot, congrArg Summary.sentButtons hcalls⟩
    | hardwareButton event =>
        rw [hr] at hfits
        exact absurd hfits (he event)
    | hardwareAxis event =>
        rw [hr, Effect] at heffect
        split at heffect
        · exact ⟨congrArg Footprint.mask heffect.1, congrArg Summary.sentButtons heffect.2⟩
        · refine ⟨(congrArg Footprint.mask heffect.1).trans ?_,
            congrArg Summary.sentButtons heffect.2⟩
          split
          · rfl
          · rfl
    | tellButtons | tellScroll | quiet =>
        rw [hr] at heffect
        exact ⟨congrArg Footprint.mask heffect.1, congrArg Summary.sentButtons heffect.2⟩
  exact ⟨hnone.1, phase_of_sentButtons hnone.2⟩

/-- A button is sent in the phase of its direction, if it is sent. -/
theorem button_phases {event : PointerButtonEvent}
    (h : s.onServerCursorButton event = .ok (s', calls)) :
    sentPhases calls = if s.Forwards event then [buttonPhase event.pressed] else [] := by
  unfold InputInstance.onServerCursorButton at h
  dsimp only at h
  split at h
  next hends =>
    obtain ⟨⟨s1, calls1⟩, hgrab, h⟩ := except_bind_eq_ok.mp h
    cases h
    rw [if_pos (show s.Forwards event from .inl hends), hends.1, sentPhases_append]
    -- the end of the grab sends no phase
    have hnone : sentPhases calls1 = [] := by
      unfold InputInstance.endGrab at hgrab
      split at hgrab
      · obtain ⟨view, -, hgrab⟩ := except_bind_eq_ok.mp hgrab
        cases hgrab
        rfl
      · cases hgrab
        rfl
    rw [hnone]
    rfl
  next hends =>
    split at h
    next hdirect =>
      cases h
      have hforwards : ¬ s.Forwards event := by
        rintro (hends' | hnone)
        · exact hends hends'
        · exact absurd (show s.directView.isSome from hdirect) (by simp [hnone])
      rw [if_neg hforwards]
      rfl
    next hdirect =>
      have hnone : s.directView = none := Option.not_isSome_iff_eq_none.mp hdirect
      rw [if_pos (show s.Forwards event from .inr hnone)]
      split at h
      · cases h
        rfl
      · cases h
        rfl

theorem button_mask {event : PointerButtonEvent}
    (h : s.onServerCursorButton event = .ok (s', calls)) :
    s'.input.flMouseButtonMask =
      if event.pressed then s.input.flMouseButtonMask ||| buttonBit event.button
      else s.input.flMouseButtonMask &&& ~~~buttonBit event.button :=
  (congrArg Footprint.mask (onServerCursorButton_effect h).1).trans
    (flMouseButtonMask_setButtonMask s event)

/-! ## §4. When the phase is the right one. -/

section Masks

variable {mask mask' : BitVec 32} {phases : List FlutterPointerPhase}

theorem phasesRight_motion (h : ∀ phase ∈ phases, phase = .move ∨ phase = .hover) :
    PhasesRight mask mask phases where
  down := iff_of_false (fun hmem => by rcases h _ hmem with heq | heq <;> cases heq)
    fun ⟨hzero, hne⟩ => hne hzero
  up := iff_of_false (fun hmem => by rcases h _ hmem with heq | heq <;> cases heq)
    fun ⟨hne, hzero⟩ => hne hzero
  move := fun _ _ hne => absurd rfl hne

theorem phasesRight_nil_iff : PhasesRight mask mask' [] ↔ mask' = mask := by
  constructor
  · intro h
    by_contra hne
    have hdown : ¬ (mask = 0 ∧ mask' ≠ 0) := fun hboth => nomatch h.down.mpr hboth
    have hup : ¬ (mask ≠ 0 ∧ mask' = 0) := fun hboth => nomatch h.up.mpr hboth
    by_cases hmask : mask = 0
    · by_cases hmask' : mask' = 0
      · exact hne (hmask'.trans hmask.symm)
      · exact hdown ⟨hmask, hmask'⟩
    · by_cases hmask' : mask' = 0
      · exact hup ⟨hmask, hmask'⟩
      · cases h.move hmask hmask' hne
  · rintro rfl
    exact phasesRight_motion nofun

theorem phasesRight_down_iff : PhasesRight mask mask' [.down] ↔ mask = 0 ∧ mask' ≠ 0 := by
  constructor
  · exact fun h => h.down.mp List.mem_cons_self
  · rintro ⟨hmask, hmask'⟩
    exact ⟨iff_of_true List.mem_cons_self ⟨hmask, hmask'⟩,
      iff_of_false (by decide) fun ⟨hne, _⟩ => hne hmask, fun hne => absurd hmask hne⟩

theorem phasesRight_up_iff : PhasesRight mask mask' [.up] ↔ mask ≠ 0 ∧ mask' = 0 := by
  constructor
  · exact fun h => h.up.mp List.mem_cons_self
  · rintro ⟨hmask, hmask'⟩
    exact ⟨iff_of_false (by decide) fun ⟨hzero, _⟩ => hmask hzero,
      iff_of_true List.mem_cons_self ⟨hmask, hmask'⟩, fun _ hne => absurd hmask' hne⟩

end Masks

theorem button_phasesRight_iff {event : PointerButtonEvent}
    (h : s.onServerCursorButton event = .ok (s', calls)) :
    PhasesRight s.input.flMouseButtonMask s'.input.flMouseButtonMask (sentPhases calls) ↔
      PhasesFit s (.cursorButton event) := by
  rw [button_mask h, button_phases h, PhasesFit]
  unfold buttonPhase
  by_cases hforwards : s.Forwards event
  · rw [if_pos hforwards, if_pos hforwards]
    cases hpressed : event.pressed with
    | true =>
        simp only [if_true]
        rw [phasesRight_down_iff, and_comm]
        refine and_congr_left fun hzero => ?_
        have hor : 0#32 ||| buttonBit event.button = buttonBit event.button := BitVec.zero_or
        rw [hzero]
        show 0#32 ||| buttonBit event.button ≠ 0 ↔ _
        rw [hor]
    | false =>
        simp only [Bool.false_eq_true, if_false]
        rw [phasesRight_up_iff]
        constructor
        · rintro ⟨hne, hlast⟩
          rcases buttonBit_eq event.button with hzero | ⟨i, -, hbit⟩
          · -- an unknown button changes nothing
            have hkept : s.input.flMouseButtonMask &&& ~~~0#32 = s.input.flMouseButtonMask := by
              rw [BitVec.not_zero, BitVec.and_allOnes]
            rw [hzero] at hlast
            exact absurd (hkept.symm.trans hlast) hne
          · rw [hbit] at hlast ⊢
            have heq := and_not_twoPow_eq_zero hne hlast
            exact ⟨heq ▸ hne, heq⟩
        · rintro ⟨hne, heq⟩
          rw [heq]
          exact ⟨hne, BitVec.and_not_self _⟩
  · rw [if_neg hforwards, if_neg hforwards, phasesRight_nil_iff]
    cases hpressed : event.pressed with
    | true => exact or_eq_left_iff
    | false => exact and_not_eq_left_iff

/-- **The phase of an event is the right one just if the condition is met.** -/
theorem phasesRight_iff {e : PointerEvent} (h : s.handle c e = .ok (s', calls)) :
    PhasesRight s.input.flMouseButtonMask s'.input.flMouseButtonMask (sentPhases calls) ↔
      PhasesFit s e := by
  cases e with
  | cursorButton event => exact button_phasesRight_iff h
  | compositor | cursorMotion | cursorAxis | surfacePointer | popupPointer | beginMove | beginResize
  | requestMove | requestResize | directInput | popupGrab =>
      obtain ⟨hmask, hmotion⟩ := other_phases h (by intro event heq; cases heq)
      rw [hmask]
      exact iff_of_true (phasesRight_motion hmotion) trivial

/-- A phase that is the right one leads the device to where the mask is. -/
theorem device_of_phasesRight {e : PointerEvent} (h : s.handle c e = .ok (s', calls))
    (hr : PhasesRight s.input.flMouseButtonMask s'.input.flMouseButtonMask (sentPhases calls)) :
    device (isHeld s.input.flMouseButtonMask) (sentPhases calls) =
      some (isHeld s'.input.flMouseButtonMask) := by
  cases e with
  | cursorButton event =>
      rw [button_phases h] at hr ⊢
      by_cases hforwards : s.Forwards event
      · rw [if_pos hforwards] at hr ⊢
        cases hpressed : event.pressed with
        | true =>
            rw [hpressed] at hr
            obtain ⟨hmask, hmask'⟩ := phasesRight_down_iff.mp hr
            rw [isHeld_of_eq hmask, isHeld_of_ne hmask']
            rfl
        | false =>
            rw [hpressed] at hr
            obtain ⟨hmask, hmask'⟩ := phasesRight_up_iff.mp hr
            rw [isHeld_of_ne hmask, isHeld_of_eq hmask']
            rfl
      · rw [if_neg hforwards] at hr ⊢
        rw [phasesRight_nil_iff.mp hr]
        rfl
  | compositor | cursorMotion | cursorAxis | surfacePointer | popupPointer | beginMove | beginResize
  | requestMove | requestResize | directInput | popupGrab =>
      obtain ⟨hmask, hmotion⟩ := other_phases h (by intro event heq; cases heq)
      rw [hmask]
      exact device_motion hmotion

end Events

/-! ## §5. Runs. -/

section Runs

variable {c : Target} {s : Session}

/-- The phases sent so far. -/
def Session.phases (s : Session) : List FlutterPointerPhase :=
  s.history.flatMap fun r => sentPhases r.calls

/-- Every event has sent the right phases. -/
def Session.AllRight (c : Target) (s : Session) : Prop :=
  ∀ r ∈ s.history, ∀ after, r.before.handle c r.event = .ok (after, r.calls) →
    PhasesRight r.before.input.flMouseButtonMask after.input.flMouseButtonMask (sentPhases r.calls)

/-- **Flutter is told of well-formed phases** while every button event meets the condition: `kDown`
    just when the mask becomes non-zero and `kUp` just when it becomes 0, so that the device gets each
    of them in turn and is down just while a button is held. -/
theorem reach_phases (hs : (pointer c).Reach (fun s e => PhasesFit s.now e) s) :
    s.AllRight c ∧ device false s.phases = some (isHeld s.now.input.flMouseButtonMask) := by
  refine Machine.Reach.invariant
    (P := fun s => s.AllRight c ∧
      device false s.phases = some (isHeld s.now.input.flMouseButtonMask))
    ⟨fun r hr => absurd hr List.not_mem_nil, rfl⟩ (fun s e s' ⟨hall, hdevice⟩ hok hstep => ?_) hs
  obtain ⟨-, now, calls, hhandle, rfl⟩ := pointer_step.mp hstep
  have hright := (phasesRight_iff hhandle).mpr hok
  refine ⟨fun r hr after hafter => ?_, ?_⟩
  · rcases List.mem_append.mp hr with hold | hnew
    · exact hall r hold after hafter
    · cases List.mem_singleton.mp hnew
      cases hhandle.symm.trans hafter
      exact hright
  · have hphases : Session.phases ⟨now, s.history ++ [⟨s.now, e, calls⟩]⟩ =
        s.phases ++ sentPhases calls := by
      unfold Session.phases
      rw [List.flatMap_append]
      simp
    rw [hphases, device_append hdevice]
    exact device_of_phasesRight hhandle hright

/-- A click, and the release of the left button that ends the move of a window. -/
theorem reach_phases_click : ∃ s, (pointer .still).Reach (fun s e => PhasesFit s.now e) s ∧
    device false s.phases = some false ∧ s.phases = [.down, .up, .down, .move, .up] := by
  have hrun : (((pointer .still).execIf (fun s e => PhasesFit s.now e) (pointer .still).init
      [.compositor (.newToplevel 7),
        .cursorButton ⟨1, 0x111, true⟩, .cursorButton ⟨2, 0x111, false⟩,
        .cursorButton ⟨3, btnLeft, true⟩, .requestMove 0, .cursorMotion 0 0 4 false,
        .cursorButton ⟨5, btnLeft, false⟩]).map
      fun s => (s.phases, isHeld s.now.input.flMouseButtonMask)) =
        some ([.down, .up, .down, .move, .up], false) := by decide +kernel
  obtain ⟨s, hs, hend⟩ := Option.map_eq_some_iff.mp hrun
  have hreach := Machine.reach_execIf _ .init hs
  obtain ⟨hphases, hheld⟩ := Prod.mk.inj hend
  refine ⟨s, hreach, ?_, hphases⟩
  rw [(reach_phases hreach).2, hheld]

/-- **A second button is reported as a second `kDown`.** -/
theorem not_phases_chord : ¬ ∀ s, (pointer .still).Reachable s → s.AllRight .still ∧
    device false s.phases = some (isHeld s.now.input.flMouseButtonMask) := by
  intro hall
  have hrun : (((pointer .still).exec (pointer .still).init
      [.cursorButton ⟨1, btnLeft, true⟩, .cursorButton ⟨2, 0x111, true⟩]).map
      fun s => device false s.phases) = some none := by decide +kernel
  obtain ⟨s, hs, hend⟩ := Option.map_eq_some_iff.mp hrun
  have hdevice := (hall s (Machine.reach_exec _ .init hs)).2
  rw [hend] at hdevice
  cases hdevice

end Runs

end FlutterWlroots.Input
