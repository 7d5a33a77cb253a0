/-
  FlutterWlroots.Desktop.KeyForwarding — the keys that clients are told of (input.c).

  `keyboard_handle_key` keeps a press to itself that is a shortcut: Alt+Tab, and with the Logo key
  held an arrow, or any key while there is no window to tile.  A release is always passed on.  The
  record of a key event keeps the desktop it came to and the calls to the seat.

    • `keyCalls_eq`         — which events are passed on,
    • `reach_paired_iff`    — presses and releases alternate for clients exactly as long as no shortcut
                              is released,
    • `not_paired_altTab`   — the release of Tab comes without a press.
-/
import FlutterWlroots.Lib.Alternation
import FlutterWlroots.Desktop.Shell

namespace FlutterWlroots.Desktop

open Lib Lib.StateRun FlutterWlroots.Compositor FlutterWlroots.Input

/-! ## §1. Calls to the seat. -/

/-- A call of `wlr_seat_keyboard_notify_key`. -/
structure KeyCall where
  timeMsec : UInt32
  keycode : UInt32
  pressed : Bool
deriving DecidableEq, Repr

namespace Shell

variable (s : Shell) (timeMsec keycode : UInt32) (event : KeyEvent)

/-- What `keyboard_handle_key` tells the seat. -/
def keyCalls : List KeyCall :=
  let notify := [⟨timeMsec, keycode, event.pressed⟩]
  if event.pressed ∧ event.alt ∧ event.sym = .tab then []
  else if event.pressed ∧ event.logo then
    match s.tiledWindow with
    -- the handler returns before it looks at the key
    | none => []
    | some _ =>
        match event.sym with
        | .left => []
        | .right => []
        | .up => []
        | _ => notify
  -- a release gets here whatever was done with its press
  else notify

/-- The press is a shortcut. -/
def Consumes : Prop :=
  event.pressed ∧ (event.alt ∧ event.sym = .tab ∨
    event.logo ∧
      (s.tiledWindow = none ∨ event.sym = .left ∨ event.sym = .right ∨ event.sym = .up))

instance : Decidable (s.Consumes event) := inferInstanceAs (Decidable (_ ∧ _))

/-- **All events but shortcuts are passed on.** -/
theorem keyCalls_eq :
    s.keyCalls timeMsec keycode event =
      if s.Consumes event then [] else [⟨timeMsec, keycode, event.pressed⟩] := by
  unfold keyCalls
  dsimp only
  split
  next htab => rw [if_pos (show s.Consumes event from ⟨htab.1, .inl htab.2⟩)]
  next htab =>
    split
    next hlogo =>
      cases hwindow : s.tiledWindow with
      | none =>
          rw [if_pos (show s.Consumes event from ⟨hlogo.1, .inr ⟨hlogo.2, .inl hwindow⟩⟩)]
      | some p =>
          -- with a window to tile, the arrows are shortcuts
          have harrow : s.Consumes event ↔
              event.sym = .left ∨ event.sym = .right ∨ event.sym = .up := by
            refine ⟨fun h => ?_, fun h => ⟨hlogo.1, .inr ⟨hlogo.2, .inr h⟩⟩⟩
            rcases h.2 with htab' | ⟨-, hnone | harrow⟩
            · exact absurd ⟨h.1, htab'⟩ htab
            · cases hwindow.symm.trans hnone
            · exact harrow
          cases hsym : event.sym <;> simp [harrow, hsym]
    next hlogo =>
      refine (if_neg fun h => ?_).symm
      rcases h.2 with htab' | hlogo'
      · exact htab ⟨h.1, htab'⟩
      · exact hlogo ⟨h.1, hlogo'.1⟩

end Shell

/-! ## §2. Keyboards. -/

/-- A key event that has been handled, and the desktop it came to. -/
structure KeyRecord where
  before : Shell
  keyboard : Nat
  keycode : UInt32
  event : KeyEvent
  calls : List KeyCall

/-- The desktop, and the key events so far. -/
structure Keys where
  now : Shell
  history : List KeyRecord

/-- The event is one of a key. -/
def ShellEvent.isKey : ShellEvent → Bool
  | .key _ => true
  | _ => false

inductive KeysEvent where
  | key (keyboard : Nat) (keycode timeMsec : UInt32) (event : KeyEvent)
  /-- Anything else on the desktop. -/
  | shell (e : ShellEvent)

namespace KeyRecord

variable (r : KeyRecord)

/-- The event is of this key of this keyboard. -/
def IsOf (keyboard : Nat) (keycode : UInt32) : Prop := r.keyboard = keyboard ∧ r.keycode = keycode

instance (keyboard : Nat) (keycode : UInt32) : Decidable (r.IsOf keyboard keycode) :=
  inferInstanceAs (Decidable (_ ∧ _))

/-- It was kept from the client. -/
def Consumed : Prop := r.before.Consumes r.event

instance : Decidable r.Consumed := inferInstanceAs (Decidable (r.before.Consumes r.event))

end KeyRecord

namespace Keys

variable (s : Keys) (keyboard : Nat) (keycode : UInt32)

/-- The events of a key. -/
def ofKey : List KeyRecord := s.history.filter (KeyRecord.IsOf · keyboard keycode)

/-- What the hardware says of a key. -/
def hardware : List Bool := (s.ofKey keyboard keycode).map (·.event.pressed)

/-- What the seat is told of a key by the handler of a keyboard. -/
def told : List Bool :=
  (((s.history.filter (·.keyboard = keyboard)).flatMap (·.calls)).filter
    (·.keycode = keycode)).map (·.pressed)

/-- **Clients see a press before each release.** -/
def Paired : Prop := ∀ keyboard keycode, Alternates true (s.told keyboard keycode)

/-- No press that was kept from the client has been followed by its release. -/
def NoShortcutReleased : Prop :=
  ∀ keyboard keycode, ∀ r ∈ (s.ofKey keyboard keycode).dropLast, ¬ r.Consumed

/-- The state after a key event. -/
def after (timeMsec : UInt32) (event : KeyEvent) (now : Shell) : Keys where
  now := now
  history := s.history ++
    [⟨s.now, keyboard, keycode, event, s.now.keyCalls timeMsec keycode event⟩]

end Keys

/-- The desktop with its keyboards: each presses and releases a key in turn. -/
def keys (c : Target) : Machine Keys KeysEvent where
  init := { now := .init, history := [] }
  step := fun s e =>
    match e with
    | .key keyboard keycode timeMsec event =>
        if Alternates true (s.hardware keyboard keycode ++ [event.pressed]) then
          match s.now.keyboardHandleKey event with
          | .ok now => some (s.after keyboard keycode timeMsec event now)
          | .error _ => none
        else none
    | .shell e =>
        if e.isKey then none else ((shell c).step s.now e).map fun now => { s with now }

/-! ## §3. The invariant. -/

/-- The calls are those of the handler, and the hardware alternates. -/
structure KeysTold (s : Keys) : Prop where
  calls : ∀ r ∈ s.history, ∃ timeMsec, r.calls = r.before.keyCalls timeMsec r.keycode r.event
  hardware : ∀ keyboard keycode, Alternates true (s.hardware keyboard keycode)

variable {c : Target} {s s' : Keys} {keyboard : Nat} {keycode : UInt32}

theorem ofKey_after (s : Keys) (timeMsec : UInt32) (event : KeyEvent) (now : Shell)
    (keyboard' : Nat) (keycode' : UInt32) :
    (s.after keyboard keycode timeMsec event now).ofKey keyboard' keycode' =
      s.ofKey keyboard' keycode' ++ if keyboard = keyboard' ∧ keycode = keycode' then
        [⟨s.now, keyboard, keycode, event, s.now.keyCalls timeMsec keycode event⟩] else [] := by
  unfold Keys.ofKey Keys.after
  rw [List.filter_append, List.filter_cons]
  exact congrArg (_ ++ ·) (if_congr decide_eq_true_iff rfl rfl)

theorem KeysTold.key (h : KeysTold s) {timeMsec : UInt32} {event : KeyEvent} {now : Shell}
    (hturn : Alternates true (s.hardware keyboard keycode ++ [event.pressed])) :
    KeysTold (s.after keyboard keycode timeMsec event now) where
  calls := by
    intro r hr
    rcases List.mem_append.mp hr with hold | hnew
    · exact h.calls r hold
    · rw [List.mem_singleton.mp hnew]
      exact ⟨timeMsec, rfl⟩
  hardware := by
    intro keyboard' keycode'
    unfold Keys.hardware
    rw [ofKey_after, List.map_append]
    split
    next hkey =>
      obtain ⟨rfl, rfl⟩ := hkey
      exact hturn
    next =>
      rw [List.map_nil, List.append_nil]
      exact h.hardware keyboard' keycode'

theorem KeysTold.step {e : KeysEvent} (h : KeysTold s) (hstep : (keys c).step s e = some s') :
    KeysTold s' := by
  cases e with
  | key keyboard keycode timeMsec event =>
      change (if _ then _ else none) = some s' at hstep
      split at hstep
      next hturn =>
        split at hstep
        next now _ =>
          cases hstep
          exact h.key hturn
        next => cases hstep
      next => cases hstep
  | shell e =>
      -- the history stays as it is
      change (if e.isKey then none else _) = some s' at hstep
      split at hstep
      next => cases hstep
      next =>
        obtain ⟨now, -, rfl⟩ := Option.map_eq_some_iff.mp hstep
        exact ⟨h.calls, h.hardware⟩

theorem keysTold_init (c : Target) : KeysTold (keys c).init where
  calls := fun _ hr => absurd hr List.not_mem_nil
  hardware := fun _ _ => trivial

/-- The seat is told of the events of a key that are no shortcuts. -/
theorem told_eq (h : KeysTold s) :
    s.told keyboard keycode =
      ((s.ofKey keyboard keycode).filter (¬ KeyRecord.Consumed ·)).map (·.event.pressed) := by
  unfold Keys.told Keys.ofKey
  have hcalls := h.calls
  generalize s.history = history at hcalls
  induction history with
  | nil => rfl
  | cons r history ih =>
      have ih := ih fun r hr => hcalls r (List.mem_cons_of_mem _ hr)
      obtain ⟨timeMsec, hr⟩ := hcalls r List.mem_cons_self
      rw [Shell.keyCalls_eq] at hr
      by_cases hkeyboard : r.keyboard = keyboard
      · by_cases hkeycode : r.keycode = keycode
        · by_cases hconsumed : r.Consumed
          · rw [if_pos (show r.before.Consumes r.event from hconsumed)] at hr
            simpa [hkeyboard, hkeycode, hconsumed, hr, KeyRecord.IsOf] using ih
          · rw [if_neg (show ¬ r.before.Consumes r.event from hconsumed)] at hr
            simpa [hkeyboard, hkeycode, hconsumed, hr, KeyRecord.IsOf] using ih
        · have hnone : (r.calls.filter (·.keycode = keycode)) = [] := by
            rw [hr]
            split
            · rfl
            · simp [hkeycode]
          simpa [hkeyboard, hkeycode, hnone, KeyRecord.IsOf] using ih
      · simpa [hkeyboard, KeyRecord.IsOf] using ih

/-- **Clients see a press before each release exactly as long as no shortcut is released.** -/
theorem reach_paired_iff (h : (keys c).Reachable s) : s.Paired ↔ s.NoShortcutReleased := by
  have hinv : KeysTold s := h.invariant (P := KeysTold) (keysTold_init c)
    (fun _ _ _ hs _ hstep => hs.step hstep)
  refine forall_congr' fun keyboard => forall_congr' fun keycode => ?_
  rw [told_eq hinv, alternates_kept_iff (hinv.hardware keyboard keycode) fun r _ hleft => ?_]
  · simp only [decide_eq_true_eq]
  · exact (of_decide_eq_false hleft |> not_not.mp).1

/-- A letter typed in a new window. -/
def typeLetter : List KeysEvent :=
  [.shell (.pointer (.compositor (.newToplevel 7))),
   .shell (.pointer (.compositor (.toplevelMap 0 ⟨0, 0, 640, 480⟩ (fun _ _ => none) true))),
   .key 0 30 1000 ⟨true, false, false, false, .other, 0, 0⟩,
   .key 0 30 1060 ⟨false, false, false, false, .other, 0, 0⟩]

theorem reach_paired_iff_letter : ∃ s, (keys .still).Reachable s ∧
    s.told 0 30 = [true, false] ∧ (s.Paired ↔ s.NoShortcutReleased) := by
  have hrun : ((keys .still).exec (keys .still).init typeLetter).map (·.told 0 30)
      = some [true, false] := by decide +kernel
  obtain ⟨s, hs, hend⟩ := Option.map_eq_some_iff.mp hrun
  have hreach := Machine.reach_exec typeLetter .init hs
  exact ⟨s, hreach, hend, reach_paired_iff hreach⟩

/-- Tab pressed and released while Alt is held. -/
def altTab : List KeysEvent :=
  [.key 0 56 1000 ⟨true, false, false, false, .other, 0, 0⟩,
   .key 0 15 1200 ⟨true, true, false, false, .tab, 0, 0⟩,
   .key 0 15 1260 ⟨false, true, false, false, .tab, 0, 0⟩]

/-- **The release of Tab comes without a press.** -/
theorem not_paired_altTab : ¬ ∀ s, (keys .still).Reachable s → s.Paired := by
  intro hall
  have hrun : ((keys .still).exec (keys .still).init altTab).map (·.told 0 15) = some [false] := by
    decide +kernel
  obtain ⟨s, hs, hend⟩ := Option.map_eq_some_iff.mp hrun
  have hpaired := hall s (Machine.reach_exec altTab .init hs) 0 15
  rw [hend] at hpaired
  revert hpaired
  decide

end FlutterWlroots.Desktop
