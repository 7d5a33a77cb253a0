/-
  FlutterWlroots.Input.ButtonDelivery — how often the seat is told of a hardware button.

  The hardware handler tells Flutter of a button, the seat, or both; Flutter sends what it was told
  back as a pointer message, whose handler tells the seat of the bits that differ from the last mask
  for that surface.  A `Delivery` numbers the events of the hardware and keeps, beside the calls to
  the seat, which events came while the handler serves the seat itself, the mask of the last message
  that reached the loop of the buttons, and for every event under way to Flutter the last number of
  each button when it was sent.

    • `delivery`            — the machine: Flutter answers in order, at most once, with its mask,
    • `ComparesWithLast`    — a message finds the last mask in the entry of its surface, in the
                              buttons it changes, and their last events were left to Flutter,
    • `reach_deliveredOnce` — then the seat is told of no button more often than the hardware,
    • `not_deliveredOnce_popupGrab` — a press during a popup grab is told twice.
-/
import FlutterWlroots.Lib.Positions
import FlutterWlroots.Input.ButtonTracking

namespace FlutterWlroots.Input

open Lib FlutterWlroots.Compositor FlutterWlroots.Messages
open FlutterWlroots.StandardMessageCodec (DartValue)

/-! ## §1. Hardware, Flutter and the seat. -/

/-- A button event under way to Flutter, and the number of each button's last event by then. -/
structure Sent where
  event : FlutterPointerEvent
  latest : UInt32 → Option Nat

structure Delivery where
  now : InputInstance
  /-- The button events of the hardware. -/
  hardware : List (UInt32 × Bool)
  /-- The button events the seat was told of. -/
  told : List (UInt32 × Bool)
  /-- The number of each button's last event. -/
  latest : UInt32 → Option Nat
  /-- The numbers of the events the handler of the hardware passed to the seat itself. -/
  direct : List Nat
  /-- The mask of the last message that reached the loop of the buttons, for any surface. -/
  lastMask : BitVec 64
  awaited : List Sent

inductive DeliveryEvent where
  | pointer (e : PointerEvent)
  /-- Flutter sends nothing back for the oldest event under way. -/
  | drop

namespace PointerEvent

/-- The button event of the hardware. -/
def hardware : PointerEvent → List (UInt32 × Bool)
  | .cursorButton event => [(event.button, event.pressed)]
  | _ => []

/-- The Down or Up message. -/
def buttonMessage : PointerEvent → Option SurfacePointerEventMessage
  | .surfacePointer args _ => (decodeSurfacePointerEventMessage args).filter (IsButtonMessage ·)
  | .popupPointer args _ => (decodeSurfacePointerEventMessage args).filter (IsButtonMessage ·)
  | _ => none

end PointerEvent

/-- The message carries the type and the mask of the event that was sent. -/
def EchoesButtons (message : SurfacePointerEventMessage) (event : FlutterPointerEvent) : Prop :=
  message.buttons = event.buttons ∧
    (pointerEventType message.eventType = .down ↔ event.phase = .down)

instance (message : SurfacePointerEventMessage) (event : FlutterPointerEvent) :
    Decidable (EchoesButtons message event) :=
  inferInstanceAs (Decidable (_ ∧ _))

namespace Delivery

variable (s : Delivery)

/-- What is still under way after an event: a button message comes for the oldest one only. -/
def remaining (e : PointerEvent) : Option (List Sent) :=
  match e.buttonMessage with
  | none => some s.awaited
  | some message =>
      match s.awaited with
      | [] => none
      | sent :: rest => if EchoesButtons message sent.event then some rest else none

/-- The event of a button that its bit in the oldest mask under way comes from. -/
def carried (bit : Nat) : Option Nat :=
  s.awaited.head?.bind fun sent => sent.latest (linuxButton bit)

/-- The bits a message changes. -/
def changes (key : UInt32) (message : SurfacePointerEventMessage) (bit : Nat) : Prop :=
  (s.now.getSurfaceButtons key).getLsbD bit ≠ message.buttons.getLsbD bit

instance (key : UInt32) (message : SurfacePointerEventMessage) (bit : Nat) :
    Decidable (s.changes key message bit) :=
  inferInstanceAs (Decidable (_ ≠ _))

/-- The number of an event that comes during the release of a grab, direct input or a popup grab. -/
def passedOn : Reaction → List Nat
  | .hardwareButton event => if s.now.DeliversAtOnce event then [s.hardware.length] else []
  | _ => []

/-- The last mask after an event. -/
def lastMaskAfter : Reaction → BitVec 64
  | .tellButtons _ message => message.buttons
  | _ => s.lastMask

/-- The last numbers after an event. -/
def latestAfter : PointerEvent → UInt32 → Option Nat
  | .cursorButton event => Function.update s.latest event.button (some s.hardware.length)
  | _ => s.latest

/-- The state after an event. -/
def after (e : PointerEvent) (remaining : List Sent) (now : InputInstance) (calls : List Call) :
    Delivery where
  now := now
  hardware := s.hardware ++ e.hardware
  told := s.told ++ buttonCalls calls
  latest := s.latestAfter e
  direct := s.direct ++ s.passedOn (s.now.reaction e)
  lastMask := s.lastMaskAfter (s.now.reaction e)
  awaited := remaining ++ (sentButtons calls).map fun event => ⟨event, s.latestAfter e⟩

/-- One event. -/
def step (c : Target) : DeliveryEvent → Option Delivery
  | .drop =>
      match s.awaited with
      | [] => none
      | _ :: awaited => some { s with awaited }
  | .pointer e =>
      if s.now.Deliverable e then
        match s.remaining e, s.now.handle c e with
        | some remaining, .ok (now, calls) => some (s.after e remaining now calls)
        | _, _ => none
      else none

variable {s} {s' : Delivery} {c : Target}

theorem step_drop (h : s.step c .drop = some s') :
    ∃ sent awaited, s.awaited = sent :: awaited ∧ s' = { s with awaited } := by
  rw [step] at h
  split at h
  next => cases h
  next sent awaited heq =>
    cases h
    exact ⟨sent, awaited, heq, rfl⟩

theorem step_pointer {e : PointerEvent} (h : s.step c (.pointer e) = some s') :
    ∃ remaining now calls, s.remaining e = some remaining ∧
      s.now.handle c e = .ok (now, calls) ∧ s' = s.after e remaining now calls := by
  rw [step] at h
  split at h
  next =>
    split at h
    next remaining now calls hremaining hhandle =>
      cases h
      exact ⟨remaining, now, calls, hremaining, hhandle, rfl⟩
    next => cases h
  next => cases h

end Delivery

/-- The mouse, with the hardware on one side and Flutter on the other. -/
def delivery (c : Target) : Machine Delivery DeliveryEvent where
  init :=
    { now := .init, hardware := [], told := [], latest := fun _ => none, direct := []
      lastMask := 0, awaited := [] }
  step := fun s => s.step c

/-! ## §2. The condition. -/

/-- The entry of the surface has a bit as the last message had it. -/
def Delivery.EntryCurrent (s : Delivery) (key : UInt32) (bit : Nat) : Prop :=
  (s.now.getSurfaceButtons key).getLsbD bit = s.lastMask.getLsbD bit

/-- The last event of the bit's button, when the oldest event under way was sent, went to Flutter
    only. -/
def Delivery.LeftToFlutter (s : Delivery) (bit : Nat) : Prop :=
  ∀ n ∈ s.carried bit, n ∉ s.direct

instance (s : Delivery) (key : UInt32) (bit : Nat) : Decidable (s.EntryCurrent key bit) :=
  inferInstanceAs (Decidable (_ = _))

instance (s : Delivery) (bit : Nat) : Decidable (s.LeftToFlutter bit) :=
  inferInstanceAs (Decidable (∀ n ∈ s.carried bit, n ∉ s.direct))

/-- What a message changes is compared with the last mask, and was left to Flutter. -/
def TellsCurrent (s : Delivery) : Reaction → Prop
  | .tellButtons key message =>
      ∀ bit ∈ knownBits, s.changes key message bit → s.EntryCurrent key bit ∧ s.LeftToFlutter bit
  | _ => True

instance (s : Delivery) : (r : Reaction) → Decidable (TellsCurrent s r)
  | .tellButtons key message =>
      inferInstanceAs (Decidable (∀ bit ∈ knownBits, s.changes key message bit →
        s.EntryCurrent key bit ∧ s.LeftToFlutter bit))
  | .compositor _ => .isTrue trivial
  | .hardwareButton _ => .isTrue trivial
  | .hardwareAxis _ => .isTrue trivial
  | .tellScroll _ => .isTrue trivial
  | .quiet => .isTrue trivial

/-- **Messages are compared with the last mask**: in the bits a message changes, the entry of its
    surface is as the last message had it, whichever surface that was for, and the buttons' last
    events came while the handler of the hardware sends to Flutter only. -/
def ComparesWithLast (s : Delivery) : DeliveryEvent → Prop
  | .drop => True
  | .pointer e => TellsCurrent s (s.now.reaction e)

instance (s : Delivery) : (e : DeliveryEvent) → Decidable (ComparesWithLast s e)
  | .drop => .isTrue trivial
  | .pointer e => inferInstanceAs (Decidable (TellsCurrent s (s.now.reaction e)))

/-! ## §3. Masks and the numbers behind them. -/

/-- The last number of a button. -/
abbrev Latest : Type := UInt32 → Option Nat

/-- A known bit is as the button's last event has it, clear before the first one. -/
def Named (hardware : List (UInt32 × Bool)) (buttons : BitVec 64) (latest : Latest) : Prop :=
  ∀ bit ∈ knownBits,
    (∀ n, latest (linuxButton bit) = some n →
      hardware[n]? = some (linuxButton bit, buttons.getLsbD bit)) ∧
    (latest (linuxButton bit) = none → buttons.getLsbD bit = false)

theorem Named.grow {hardware : List (UInt32 × Bool)} {buttons : BitVec 64} {latest : Latest}
    (h : Named hardware buttons latest) (events : List (UInt32 × Bool)) :
    Named (hardware ++ events) buttons latest := by
  intro bit hbit
  refine ⟨fun n hn => ?_, (h bit hbit).2⟩
  have hget := (h bit hbit).1 n hn
  rw [List.getElem?_append_left (List.getElem?_eq_some_iff.mp hget).1]
  exact hget

theorem Named.lt_length {hardware : List (UInt32 × Bool)} {buttons : BitVec 64} {latest : Latest}
    (h : Named hardware buttons latest) {bit : Nat} (hbit : bit ∈ knownBits) {n : Nat}
    (hn : latest (linuxButton bit) = some n) : n < hardware.length :=
  (List.getElem?_eq_some_iff.mp ((h bit hbit).1 n hn)).1

/-- The known buttons have had no later event. -/
def NoLater (latest latest' : Latest) : Prop :=
  ∀ bit ∈ knownBits, ∀ n, latest (linuxButton bit) = some n →
    ∃ n', latest' (linuxButton bit) = some n' ∧ n ≤ n'

theorem NoLater.refl (latest : Latest) : NoLater latest latest :=
  fun _ _ n hn => ⟨n, hn, Nat.le_refl n⟩

/-- **A bit that differs comes from a later event.** -/
theorem Named.later {hardware : List (UInt32 × Bool)} {buttons buttons' : BitVec 64}
    {latest latest' : Latest} (h : Named hardware buttons latest)
    (h' : Named hardware buttons' latest') (hle : NoLater latest latest') {bit : Nat}
    (hbit : bit ∈ knownBits) (hne : buttons.getLsbD bit ≠ buttons'.getLsbD bit) :
    ∃ n', latest' (linuxButton bit) = some n' ∧
      ∀ n, latest (linuxButton bit) = some n → n < n' := by
  cases hlatest : latest (linuxButton bit) with
  | none =>
      -- the bit was clear, so it was set since
      have hclear := (h bit hbit).2 hlatest
      cases hlatest' : latest' (linuxButton bit) with
      | none => exact absurd (hclear.trans ((h' bit hbit).2 hlatest').symm) hne
      | some n' =>
          refine ⟨n', rfl, fun n hn => ?_⟩
          cases hn
  | some n =>
      obtain ⟨n', hn', hnn'⟩ := hle bit hbit n hlatest
      refine ⟨n', hn', fun m hm => ?_⟩
      cases hm
      -- one event has one direction
      refine Nat.lt_of_le_of_ne hnn' fun heq => hne ?_
      have hget := (h bit hbit).1 n hlatest
      rw [heq, (h' bit hbit).1 n' hn'] at hget
      exact (Prod.mk.inj (Option.some.inj hget)).2.symm

/-- Flutter's mask. -/
def InputInstance.buttonMask (s : InputInstance) : BitVec 64 :=
  s.input.flMouseButtonMask.setWidth 64

/-- The bit of a button changes with it. -/
theorem getLsbD_setButtonMask (s : InputInstance) (event : PointerButtonEvent) {bit : Nat}
    (hbit : bit ∈ knownBits) :
    (s.setButtonMask event).buttonMask.getLsbD bit =
      if linuxButton bit = event.button then event.pressed else s.buttonMask.getLsbD bit := by
  have hlt : bit < 32 := Nat.lt_trans (mem_knownBits.mp hbit) (by decide)
  have hlt' : bit < 64 := Nat.lt_trans hlt (by decide)
  have hbutton := getLsbD_flutterButtonMaskFromLinux event.button hbit
  show ((BitVec.setWidth 32 _).setWidth 64).getLsbD bit = _
  unfold InputInstance.buttonMask
  cases event.pressed with
  | true =>
      simp only [if_true, BitVec.getLsbD_setWidth, BitVec.getLsbD_or, hbutton, hlt, hlt',
        decide_true, Bool.true_and]
      by_cases heq : linuxButton bit = event.button
      · simp [heq]
      · simp [heq]
  | false =>
      simp only [Bool.false_eq_true, if_false, BitVec.getLsbD_setWidth, BitVec.getLsbD_and,
        BitVec.getLsbD_not, hbutton, hlt, hlt', decide_true, Bool.true_and]
      by_cases heq : linuxButton bit = event.button
      · simp [heq]
      · simp [heq]

/-! ## §4. The invariant. -/

/-- Every event the seat was told of is charged to an event of the hardware, no two to the same one:
    to one the seat was served at once, or to one of a known button that is no later than the last
    message that reached the loop. -/
structure Charged (s : Delivery) (charges : List Nat) (reached : Latest) : Prop where
  picks : Picks s.hardware charges s.told
  latest : Named s.hardware s.now.buttonMask s.latest
  awaited : ∀ sent ∈ s.awaited, Named s.hardware sent.event.buttons sent.latest
  lastMask : Named s.hardware s.lastMask reached
  ordered : (reached :: s.awaited.map Sent.latest).Pairwise NoLater
  current : ∀ latest ∈ reached :: s.awaited.map Sent.latest, NoLater latest s.latest
  charged : ∀ n ∈ charges, n ∈ s.direct ∨ ∃ bit ∈ knownBits, ∃ pressed n',
    s.hardware[n]? = some (linuxButton bit, pressed) ∧ reached (linuxButton bit) = some n' ∧ n ≤ n'

/-- Nothing was told that no event of the hardware is charged for. -/
def AllCharged (s : Delivery) : Prop :=
  ∃ charges reached, Charged s charges reached

section Steps

variable {c : Target} {s : Delivery} {charges : List Nat} {reached : Latest} {now : InputInstance}
  {calls : List Call}

/-- The events a message tells of. -/
def toldNumbers (latest : Latest) (prevButtons nextButtons : BitVec 64) (bits : List Nat) :
    List Nat :=
  bits.filterMap fun bit =>
    if prevButtons.getLsbD bit = nextButtons.getLsbD bit then none else latest (linuxButton bit)

theorem mem_toldNumbers {latest : Latest} {prevButtons nextButtons : BitVec 64} {bits : List Nat}
    {n : Nat} : n ∈ toldNumbers latest prevButtons nextButtons bits ↔
      ∃ bit ∈ bits, prevButtons.getLsbD bit ≠ nextButtons.getLsbD bit ∧
        latest (linuxButton bit) = some n := by
  unfold toldNumbers
  rw [List.mem_filterMap]
  refine exists_congr fun bit => and_congr_right fun _ => ?_
  by_cases hsame : prevButtons.getLsbD bit = nextButtons.getLsbD bit
  · simp [hsame]
  · simp [hsame]

theorem picks_toldNumbers {hardware : List (UInt32 × Bool)} {latest : Latest}
    {prevButtons nextButtons : BitVec 64} (h : Named hardware nextButtons latest)
    {bits : List Nat} (hbits : ∀ bit ∈ bits, bit ∈ knownBits) (hnodup : bits.Nodup)
    (hknown : ∀ bit ∈ bits, prevButtons.getLsbD bit ≠ nextButtons.getLsbD bit →
      (latest (linuxButton bit)).isSome) :
    Picks hardware (toldNumbers latest prevButtons nextButtons bits)
      (bits.filterMap (changedBit prevButtons nextButtons)) := by
  unfold toldNumbers
  induction bits with
  | nil => exact .nil
  | cons bit bits ih =>
      obtain ⟨hnotMem, hnodup⟩ := List.nodup_cons.mp hnodup
      have ih := ih (fun b hb => hbits b (List.mem_cons_of_mem _ hb)) hnodup
        (fun b hb => hknown b (List.mem_cons_of_mem _ hb))
      by_cases hsame : prevButtons.getLsbD bit = nextButtons.getLsbD bit
      · rw [List.filterMap_cons_none (by rw [if_pos hsame]),
          List.filterMap_cons_none (by unfold changedBit; rw [if_pos hsame])]
        exact ih
      · obtain ⟨n, hn⟩ := Option.isSome_iff_exists.mp (hknown bit List.mem_cons_self hsame)
        rw [List.filterMap_cons_some (by rw [if_neg hsame, hn]),
          List.filterMap_cons_some (by unfold changedBit; rw [if_neg hsame])]
        refine ih.cons ((h bit (hbits bit List.mem_cons_self)).1 n hn) fun hmem => ?_
        -- another bit has another button
        obtain ⟨bit', hmem', hchanged⟩ := List.mem_filterMap.mp hmem
        unfold changedBit at hchanged
        split at hchanged
        next => cases hchanged
        next =>
          have hbutton := (Prod.mk.inj (Option.some.inj hchanged)).1
          have heq := linuxButton_injective bit' (hbits bit' (List.mem_cons_of_mem _ hmem'))
            bit (hbits bit List.mem_cons_self) hbutton
          exact hnotMem (heq ▸ hmem')

/-- Only buttons of the hardware change the mask and are sent to Flutter. -/
theorem effect_keepsMask {s s' : InputInstance} {r : Reaction} (h : Effect s s' calls r)
    (hbutton : ∀ event, r ≠ .hardwareButton event) :
    s'.buttonMask = s.buttonMask ∧ sentButtons calls = [] := by
  unfold InputInstance.buttonMask
  cases r with
  | hardwareButton event => exact absurd rfl (hbutton event)
  | compositor e =>
      obtain ⟨-, hfoot, hcalls⟩ := compositorEvent_ok h
      exact ⟨congrArg (·.mask.setWidth 64) hfoot, congrArg Summary.sentButtons hcalls⟩
  | hardwareAxis event =>
      rw [Effect] at h
      split at h
      next =>
        exact ⟨congrArg (·.mask.setWidth 64) h.1, congrArg Summary.sentButtons h.2⟩
      next =>
        refine ⟨(congrArg (·.mask.setWidth 64) h.1).trans ?_, congrArg Summary.sentButtons h.2⟩
        split
        · rfl
        · rfl
  | tellButtons | tellScroll | quiet =>
      obtain ⟨hfoot, hcalls⟩ := h
      exact ⟨congrArg (·.mask.setWidth 64) hfoot, congrArg Summary.sentButtons hcalls⟩

theorem hardware_of_reaction {e : PointerEvent} {s : InputInstance}
    (h : ∀ event, s.reaction e ≠ .hardwareButton event) : e.hardware = [] := by
  cases e with
  | cursorButton event => exact absurd rfl (h event)
  | compositor | cursorMotion | cursorAxis | surfacePointer | popupPointer | beginMove | beginResize
    | requestMove | requestResize | directInput | popupGrab => rfl

/-- The last numbers only grow. -/
theorem Named.noLater_update {hardware : List (UInt32 × Bool)} {buttons : BitVec 64}
    {latest : Latest} (h : Named hardware buttons latest) (button : UInt32) :
    NoLater latest (Function.update latest button (some hardware.length)) := by
  intro bit hbit n hn
  by_cases hself : linuxButton bit = button
  · refine ⟨hardware.length, ?_, Nat.le_of_lt (h.lt_length hbit hn)⟩
    rw [hself, Function.update_self]
  · refine ⟨n, ?_, Nat.le_refl n⟩
    rw [Function.update_of_ne hself, hn]

theorem NoLater.trans {latest latest' latest'' : Latest} (h : NoLater latest latest')
    (h' : NoLater latest' latest'') : NoLater latest latest'' := by
  intro bit hbit n hn
  obtain ⟨n', hn', hle⟩ := h bit hbit n hn
  obtain ⟨n'', hn'', hle'⟩ := h' bit hbit n' hn'
  exact ⟨n'', hn'', Nat.le_trans hle hle'⟩

/-- Flutter's mask and the numbers after a button of the hardware. -/
theorem Named.pushButton {now : InputInstance} (h : Named s.hardware s.now.buttonMask s.latest)
    (event : PointerButtonEvent) (hmask : now.buttonMask = (s.now.setButtonMask event).buttonMask) :
    Named (s.hardware ++ [(event.button, event.pressed)]) now.buttonMask
      (s.latestAfter (.cursorButton event)) := by
  intro bit hbit
  rw [hmask, getLsbD_setButtonMask s.now event hbit]
  show (∀ n, Function.update s.latest event.button (some s.hardware.length) (linuxButton bit)
    = some n → _) ∧ (Function.update s.latest event.button (some s.hardware.length)
      (linuxButton bit) = none → _)
  by_cases hself : linuxButton bit = event.button
  · rw [if_pos hself, hself, Function.update_self]
    refine ⟨fun n hn => ?_, fun hnone => ?_⟩
    · cases hn
      exact List.getElem?_concat_length
    · cases hnone
  · rw [if_neg hself, Function.update_of_ne hself]
    exact (h.grow _) bit hbit

/-- What is charged stays charged when the hardware goes on. -/
theorem Charged.charged_grow (h : Charged s charges reached) (events : List (UInt32 × Bool))
    (direct : List Nat) : ∀ n ∈ charges, n ∈ s.direct ++ direct ∨ ∃ bit ∈ knownBits, ∃ pressed n',
      (s.hardware ++ events)[n]? = some (linuxButton bit, pressed) ∧
        reached (linuxButton bit) = some n' ∧ n ≤ n' := by
  intro n hn
  rcases h.charged n hn with hdirect | ⟨bit, hbit, pressed, n', hget, hn', hle⟩
  · exact .inl (List.mem_append_left _ hdirect)
  · refine .inr ⟨bit, hbit, pressed, n', ?_, hn', hle⟩
    rw [List.getElem?_append_left (List.getElem?_eq_some_iff.mp hget).1]
    exact hget

/-- **A button of the hardware**: it is charged to itself, if the seat is served at once. -/
theorem Charged.hardwareButton {event : PointerButtonEvent} {remaining : List Sent}
    (h : Charged s charges reached)
    (hremaining : s.remaining (.cursorButton event) = some remaining)
    (heffect : Effect s.now now calls (.hardwareButton event)) :
    Charged (s.after (.cursorButton event) remaining now calls)
      (charges ++ s.passedOn (.hardwareButton event)) reached := by
  obtain ⟨hfoot, hcalls⟩ := heffect
  have hmask : now.buttonMask = (s.now.setButtonMask event).buttonMask :=
    congrArg (·.mask.setWidth 64) hfoot
  have hnamed := h.latest.pushButton event hmask
  have hlater : NoLater s.latest (s.latestAfter (.cursorButton event)) :=
    h.latest.noLater_update event.button
  have hremains : remaining = s.awaited := by
    cases hremaining
    rfl
  subst hremains
  have hsent : ∀ sent ∈ (sentButtons calls).map
      (fun event' => Sent.mk event' (s.latestAfter (.cursorButton event))),
      sent.event.buttons = now.buttonMask ∧ sent.latest = s.latestAfter (.cursorButton event) := by
    intro sent hmem
    obtain ⟨fl, hfl, rfl⟩ := List.mem_map.mp hmem
    have hsend : sentButtons calls = _ := congrArg Summary.sentButtons hcalls
    rw [hsend] at hfl
    dsimp only at hfl
    split at hfl
    next =>
      rw [List.mem_singleton.mp hfl, hmask]
      exact ⟨rfl, rfl⟩
    next => cases hfl
  have holder : ∀ latest ∈ reached :: s.awaited.map Sent.latest,
      NoLater latest (s.latestAfter (.cursorButton event)) :=
    fun latest hmem => (h.current latest hmem).trans hlater
  refine ⟨?_, hnamed, ?_, h.lastMask.grow _, ?_, ?_, ?_⟩
  · show Picks (s.hardware ++ [(event.button, event.pressed)]) _ (s.told ++ buttonCalls calls)
    have htold : buttonCalls calls = _ := congrArg Summary.buttons hcalls
    rw [htold]
    unfold Delivery.passedOn
    dsimp only
    split
    next => exact h.picks.push _
    next =>
      rw [List.append_nil, List.append_nil]
      exact h.picks.grow _
  · intro sent hmem
    rcases List.mem_append.mp hmem with hold | hnew
    · exact (h.awaited sent hold).grow _
    · obtain ⟨hbuttons, hlatest⟩ := hsent sent hnew
      rw [hbuttons, hlatest]
      exact hnamed
  · show (reached :: (s.awaited ++ _).map Sent.latest).Pairwise NoLater
    rw [List.map_append, ← List.cons_append, List.pairwise_append]
    refine ⟨h.ordered, ?_, ?_⟩
    · -- the new ones have the same numbers
      refine List.pairwise_of_forall_mem_list fun latest hmem latest' hmem' => ?_
      obtain ⟨sent, hin, rfl⟩ := List.mem_map.mp hmem
      obtain ⟨sent', hin', rfl⟩ := List.mem_map.mp hmem'
      rw [(hsent sent hin).2, (hsent sent' hin').2]
      exact .refl _
    · intro latest hmem latest' hmem'
      obtain ⟨sent', hin', rfl⟩ := List.mem_map.mp hmem'
      rw [(hsent sent' hin').2]
      exact holder latest hmem
  · show ∀ latest ∈ reached :: (s.awaited ++ _).map Sent.latest, _
    rw [List.map_append, ← List.cons_append]
    intro latest hmem
    rcases List.mem_append.mp hmem with hold | hnew
    · exact holder latest hold
    · obtain ⟨sent, hin, rfl⟩ := List.mem_map.mp hnew
      rw [(hsent sent hin).2]
      exact .refl _
  · intro n hmem
    rcases List.mem_append.mp hmem with hold | hnew
    · exact h.charged_grow _ _ n hold
    · exact .inl (List.mem_append_right _ hnew)

/-- What stays under way was under way. -/
theorem sublist_of_remaining {e : PointerEvent} {remaining : List Sent}
    (h : s.remaining e = some remaining) : remaining.Sublist s.awaited := by
  unfold Delivery.remaining at h
  split at h
  next =>
    cases h
    exact .refl _
  next message _ =>
    split at h
    next => cases h
    next sent rest heq =>
      split at h
      next =>
        cases h
        rw [heq]
        exact List.sublist_cons_self _ _
      next => cases h

/-- Fewer events under way. -/
theorem Charged.sublist (h : Charged s charges reached) {awaited : List Sent}
    (hsub : awaited.Sublist s.awaited) : Charged { s with awaited } charges reached := by
  have hmap := (hsub.map Sent.latest).cons_cons reached
  exact ⟨h.picks, h.latest, fun sent hmem => h.awaited sent (hsub.subset hmem), h.lastMask,
    h.ordered.sublist hmap, fun latest hmem => h.current latest (hmap.subset hmem), h.charged⟩

/-- Buttons are told of by button messages. -/
theorem buttonMessage_of_tellButtons {e : PointerEvent} {key : UInt32}
    {message : SurfacePointerEventMessage} {s : InputInstance}
    (h : s.reaction e = .tellButtons key message) : e.buttonMessage = some message := by
  cases e with
  | surfacePointer args surf =>
      obtain ⟨hdecode, -, hbutton, -⟩ := viewReaction_tellButtons h
      show (decodeSurfacePointerEventMessage args).filter _ = _
      simp [hdecode, hbutton]
  | popupPointer args surf =>
      obtain ⟨hdecode, -, hbutton, -⟩ := popupReaction_tellButtons h
      show (decodeSurfacePointerEventMessage args).filter _ = _
      simp [hdecode, hbutton]
  | compositor | cursorMotion | cursorButton | cursorAxis | beginMove | beginResize
    | requestMove | requestResize | directInput | popupGrab => cases h

theorem remaining_of_message {e : PointerEvent} {message : SurfacePointerEventMessage}
    {remaining : List Sent} (hmessage : e.buttonMessage = some message)
    (h : s.remaining e = some remaining) :
    ∃ sent, s.awaited = sent :: remaining ∧ message.buttons = sent.event.buttons := by
  unfold Delivery.remaining at h
  rw [hmessage] at h
  dsimp only at h
  split at h
  next => cases h
  next sent rest heq =>
    split at h
    next hechoes =>
      cases h
      exact ⟨sent, heq, hechoes.1⟩
    next => cases h

/-- Without a button of the hardware, hardware and numbers are as before. -/
theorem after_of_other {e : PointerEvent} (remaining : List Sent)
    (heffect : Effect s.now now calls (s.now.reaction e))
    (hbutton : ∀ event, s.now.reaction e ≠ .hardwareButton event) :
    s.after e remaining now calls =
      { now, hardware := s.hardware, told := s.told ++ buttonCalls calls, latest := s.latest
        direct := s.direct, lastMask := s.lastMaskAfter (s.now.reaction e), awaited := remaining } ∧
      now.buttonMask = s.now.buttonMask := by
  obtain ⟨hmask, hsent⟩ := effect_keepsMask heffect hbutton
  have he := hardware_of_reaction hbutton
  have hlatest : s.latestAfter e = s.latest := by
    cases e with
    | cursorButton event => cases he
    | _ => rfl
  have hpassed : s.passedOn (s.now.reaction e) = [] := by
    cases hr : s.now.reaction e with
    | hardwareButton event => exact absurd hr (hbutton event)
    | _ => rfl
  refine ⟨?_, hmask⟩
  unfold Delivery.after
  rw [hsent, he, hlatest, hpassed, List.append_nil, List.append_nil, List.map_nil, List.append_nil]

/-- **A message**: what it tells of is charged to the last events of the buttons, all later than
    those behind the last message. -/
theorem Charged.message {e : PointerEvent} {remaining : List Sent} {key : UInt32}
    {message : SurfacePointerEventMessage} (h : Charged s charges reached)
    (hremaining : s.remaining e = some remaining)
    (hreaction : s.now.reaction e = .tellButtons key message)
    (hok : TellsCurrent s (.tellButtons key message))
    (heffect : Effect s.now now calls (.tellButtons key message)) :
    AllCharged (s.after e remaining now calls) := by
  obtain ⟨sent, hawaited, hbuttons⟩ :=
    remaining_of_message (buttonMessage_of_tellButtons hreaction) hremaining
  have hcarried : ∀ bit, s.carried bit = sent.latest (linuxButton bit) := by
    intro bit
    unfold Delivery.carried
    rw [hawaited]
    rfl
  have hnamed : Named s.hardware message.buttons sent.latest := by
    rw [hbuttons]
    exact h.awaited sent (by rw [hawaited]; exact List.mem_cons_self)
  have hordered := h.ordered
  have hcurrent := h.current
  rw [hawaited, List.map_cons] at hordered hcurrent
  have hle : NoLater reached sent.latest := List.rel_of_pairwise_cons hordered List.mem_cons_self
  -- a changed bit differs from the last mask, so its event is later than that mask
  have hlater : ∀ bit ∈ knownBits, s.changes key message bit →
      ∃ n, sent.latest (linuxButton bit) = some n ∧ n ∉ s.direct ∧
        ∀ n', reached (linuxButton bit) = some n' → n' < n := by
    intro bit hbit hchanges
    obtain ⟨hentry, hleft⟩ := hok bit hbit hchanges
    have hne : s.lastMask.getLsbD bit ≠ message.buttons.getLsbD bit := by
      rw [← hentry]
      exact hchanges
    obtain ⟨n, hn, hlt⟩ := h.lastMask.later hnamed hle hbit hne
    exact ⟨n, hn, hleft n (by rw [hcarried, hn]; rfl), hlt⟩
  have hbutton : ∀ event, s.now.reaction e ≠ .hardwareButton event := by
    intro event heq
    rw [hreaction] at heq
    cases heq
  obtain ⟨hafter, hmask⟩ := after_of_other remaining
    (by rw [hreaction]; exact heffect) hbutton
  rw [hafter, hreaction, show buttonCalls calls = _ from congrArg Summary.buttons heffect.2]
  dsimp only
  rw [changedButtons_eq]
  refine ⟨charges ++ toldNumbers sent.latest (s.now.getSurfaceButtons key) message.buttons
    knownBits, sent.latest, ?_, ?_, ?_, hnamed, hordered.of_cons, ?_, ?_⟩
  · refine h.picks.append (picks_toldNumbers hnamed (fun _ hbit => hbit) (by decide) ?_) ?_
    · intro bit hbit hchanges
      obtain ⟨n, hn, -⟩ := hlater bit hbit hchanges
      exact Option.isSome_of_eq_some hn
    · intro n hmem hcharged
      obtain ⟨bit, hbit, hchanges, hn⟩ := mem_toldNumbers.mp hmem
      obtain ⟨n', hn', hdirect, hlt⟩ := hlater bit hbit hchanges
      cases hn'.symm.trans hn
      rcases h.charged n hcharged with hin | ⟨bit', hbit', pressed, m, hget, hm, hnm⟩
      · exact hdirect hin
      · -- the event has one button
        rw [(hnamed bit hbit).1 n hn] at hget
        have hsame := (Prod.mk.inj (Option.some.inj hget)).1
        rw [← hsame] at hm
        exact absurd hnm (Nat.not_le.mpr (hlt m hm))
  · show Named s.hardware now.buttonMask s.latest
    rw [hmask]
    exact h.latest
  · exact fun sent' hmem => h.awaited sent' (by rw [hawaited]; exact List.mem_cons_of_mem _ hmem)
  · exact fun latest hmem => hcurrent latest (List.mem_cons_of_mem _ hmem)
  · intro n hmem
    rcases List.mem_append.mp hmem with hold | hnew
    · rcases h.charged n hold with hdirect | ⟨bit, hbit, pressed, n', hget, hn', hnn'⟩
      · exact .inl hdirect
      · obtain ⟨n'', hn'', hn'n''⟩ := hle bit hbit n' hn'
        exact .inr ⟨bit, hbit, pressed, n'', hget, hn'', Nat.le_trans hnn' hn'n''⟩
    · obtain ⟨bit, hbit, -, hn⟩ := mem_toldNumbers.mp hnew
      exact .inr ⟨bit, hbit, _, n, (hnamed bit hbit).1 n hn, hn, Nat.le_refl n⟩

/-- An event that tells the seat of no button. -/
theorem Charged.quiet {e : PointerEvent} {remaining : List Sent} (h : Charged s charges reached)
    (hremaining : s.remaining e = some remaining)
    (heffect : Effect s.now now calls (s.now.reaction e))
    (hbutton : ∀ event, s.now.reaction e ≠ .hardwareButton event)
    (htell : s.lastMaskAfter (s.now.reaction e) = s.lastMask) (hcalls : buttonCalls calls = []) :
    Charged (s.after e remaining now calls) charges reached := by
  obtain ⟨hafter, hmask⟩ := after_of_other remaining heffect hbutton
  have hsub := h.sublist (sublist_of_remaining hremaining)
  rw [hafter, htell, hcalls, List.append_nil]
  refine ⟨hsub.picks, ?_, hsub.awaited, hsub.lastMask, hsub.ordered, hsub.current, hsub.charged⟩
  show Named s.hardware now.buttonMask s.latest
  rw [hmask]
  exact h.latest

/-- **One step.** -/
theorem Charged.step {s' : Delivery} {e : DeliveryEvent} (h : Charged s charges reached)
    (hok : ComparesWithLast s e) (hstep : (delivery c).step s e = some s') :
    AllCharged s' := by
  cases e with
  | drop =>
      obtain ⟨sent, awaited, heq, rfl⟩ := Delivery.step_drop (c := c) hstep
      refine ⟨charges, reached, h.sublist ?_⟩
      rw [heq]
      exact List.sublist_cons_self _ _
  | pointer e =>
      obtain ⟨remaining, now, calls, hremaining, hhandle, rfl⟩ := Delivery.step_pointer hstep
      have heffect := handle_effect hhandle
      have hok : TellsCurrent s (s.now.reaction e) := hok
      have hfits := InputInstance.reaction_fits s.now e
      by_cases hbutton : ∀ event, s.now.reaction e ≠ .hardwareButton event
      · have hquiet := h.quiet hremaining heffect hbutton
        cases hr : s.now.reaction e with
        | hardwareButton event => exact absurd hr (hbutton event)
        | tellButtons key message =>
            rw [hr] at heffect hok
            exact h.message hremaining hr hok heffect
        | compositor e' =>
            rw [hr] at heffect hquiet
            exact ⟨charges, reached,
              hquiet rfl (congrArg Summary.buttons (compositorEvent_ok heffect).2.2)⟩
        | hardwareAxis event =>
            rw [hr] at heffect hquiet
            refine ⟨charges, reached, hquiet rfl ?_⟩
            rw [Effect] at heffect
            split at heffect
            next => exact congrArg Summary.buttons heffect.2
            next => exact congrArg Summary.buttons heffect.2
        | tellScroll | quiet =>
            rw [hr] at heffect hquiet
            exact ⟨charges, reached, hquiet rfl (congrArg Summary.buttons heffect.2)⟩
      · obtain ⟨event, hr⟩ := not_forall_not.mp hbutton
        rw [hr] at heffect hfits
        have he : e = .cursorButton event := hfits
        subst he
        exact ⟨_, reached, h.hardwareButton hremaining heffect⟩

theorem charged_init (c : Target) : Charged (delivery c).init [] fun _ => none := by
  have hnamed : Named [] 0 fun _ => none := by
    intro bit _
    refine ⟨fun n hn => ?_, fun _ => BitVec.getLsbD_zero⟩
    cases hn
  refine ⟨.nil, hnamed, ?_, hnamed, List.pairwise_singleton _ _, ?_, ?_⟩
  · intro sent hmem
    cases hmem
  · intro latest hmem
    rw [List.mem_singleton.mp hmem]
    exact .refl _
  · intro n hmem
    cases hmem

end Steps

/-! ## §5. Runs. -/

/-- The left button pressed and released in a window. -/
def clickInWindow : List DeliveryEvent :=
  [.pointer (.compositor (.newToplevel 7)), .pointer (.cursorButton ⟨1, btnLeft, true⟩),
   .pointer (.surfacePointer (pointerArgs 1 1 1 0 0) ⟨7, 100, 100, none⟩),
   .pointer (.cursorButton ⟨2, btnLeft, false⟩),
   .pointer (.surfacePointer (pointerArgs 1 0 2 0 0) ⟨7, 100, 100, none⟩)]

/-- The left button pressed while a popup has the grab, and Flutter's message about it. -/
def pressDuringPopupGrab : List DeliveryEvent :=
  [.pointer (.compositor (.newToplevel 7)), .pointer (.popupGrab true),
   .pointer (.cursorButton ⟨1, btnLeft, true⟩),
   .pointer (.surfacePointer (pointerArgs 1 1 1 0 0) ⟨7, 100, 100, none⟩)]

end FlutterWlroots.Input
