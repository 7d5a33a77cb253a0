/-
  FlutterWlroots.Dart.PlatformKeyboard — the on-screen keyboard (platform_keyboard.dart).

  Flutter asks for a keyboard with messages on "flutter/textinput"; whoever shows one installs
  callbacks and is told of the client and of whether to be visible.  New callbacks are told of both
  at once, old ones that both are over.  A message to show the keyboard is only heeded while it is
  shown, so it never is.

    • `reach_client`      — the callbacks know the client,
    • `reach_follows_iff` — and when the keyboard is visible, except where it should be.

  A controller is told apart by a number, callbacks too; what a client types is left out.
-/
import FlutterWlroots.Lib.Machine

namespace FlutterWlroots.Dart

open Lib

/-! ## §1. State. -/

section Keyboard

variable {Config : Type}

/-- `KeyboardClientController`; `object` says which one. -/
structure KeyboardClientController (Config : Type) where
  object : Nat
  connectionId : Int
  inputConfiguration : Config
deriving DecidableEq, Repr

/-- A call of `PlatformKeyboardCallbacks`. -/
inductive KeyboardCall (Config : Type) where
  | setShown (shown : Bool)
  | setClient (client : Option (KeyboardClientController Config))
deriving DecidableEq, Repr

/-- `PlatformKeyboard`, with the calls of each callbacks object, the number of clients so far, and
    whether the last of the messages to show and to hide was one to show. -/
structure PlatformKeyboard (Config : Type) where
  keyboardClient : Option (KeyboardClientController Config)
  shown : Bool
  keyboardCallbacks : Option Nat
  calls : List (Nat × KeyboardCall Config)
  clients : Nat
  wanted : Bool

/-- A message of Flutter, or a change of the callbacks. -/
inductive KeyboardEvent (Config : Type) where
  | show
  | hide
  | setClient (connectionId : Int) (inputConfiguration : Config)
  | clearClient
  | keyboardCallbacks (callbacks : Option Nat)

namespace PlatformKeyboard

/-! ## §2. Messages. -/

def init : PlatformKeyboard Config where
  keyboardClient := none
  shown := false
  keyboardCallbacks := none
  calls := []
  clients := 0
  wanted := false

variable (k : PlatformKeyboard Config)

/-- A call, if there are callbacks. -/
def call (callbacks : Option Nat) (c : KeyboardCall Config) : PlatformKeyboard Config :=
  { k with calls := k.calls ++ callbacks.toList.map (·, c) }

/-- `TextInput.show`. -/
def textInputShow : PlatformKeyboard Config :=
  let k := { k with wanted := true }
  -- the source asks for `_shown`, not for its negation
  if k.shown then { k.call k.keyboardCallbacks (.setShown true) with shown := true } else k

/-- `TextInput.hide`; no result if the assertion fails. -/
def textInputHide : Option (PlatformKeyboard Config) :=
  -- the callbacks are told before the assertion
  let k := { k.call k.keyboardCallbacks (.setShown false) with wanted := false }
  if k.shown then none else some { k with shown := false }

/-- `TextInput.clearClient`. -/
def textInputClearClient : PlatformKeyboard Config :=
  { k with keyboardClient := none }.call k.keyboardCallbacks (.setClient none)

/-- `TextInput.setClient`. -/
def textInputSetClient (connectionId : Int) (inputConfiguration : Config) :
    PlatformKeyboard Config :=
  let client := some { object := k.clients, connectionId, inputConfiguration }
  { k with keyboardClient := client, clients := k.clients + 1 }.call k.keyboardCallbacks
    (.setClient client)

/-- What old callbacks are told. -/
def leave (callbacks : Option Nat) : PlatformKeyboard Config :=
  let k := if k.shown then k.call callbacks (.setShown false) else k
  if k.keyboardClient.isSome then k.call callbacks (.setClient none) else k

/-- What new callbacks are told. -/
def join (callbacks : Option Nat) : PlatformKeyboard Config :=
  let k := if k.keyboardClient.isSome then k.call callbacks (.setClient k.keyboardClient) else k
  if k.shown then k.call callbacks (.setShown true) else k

/-- The setter of `keyboardCallbacks`. -/
def setKeyboardCallbacks (callbacks : Option Nat) : PlatformKeyboard Config :=
  { (k.leave k.keyboardCallbacks).join callbacks with keyboardCallbacks := callbacks }

/-- An event; Flutter shows and hides in turn. -/
def step : KeyboardEvent Config → Option (PlatformKeyboard Config)
  | .show => if k.wanted then none else some k.textInputShow
  | .hide => if k.wanted then k.textInputHide else none
  | .setClient connectionId inputConfiguration =>
      some (k.textInputSetClient connectionId inputConfiguration)
  | .clearClient => some k.textInputClearClient
  | .keyboardCallbacks callbacks => some (k.setKeyboardCallbacks callbacks)

end PlatformKeyboard

/-- The on-screen keyboard. -/
def platformKeyboard : Machine (PlatformKeyboard Config) (KeyboardEvent Config) where
  init := .init
  step := PlatformKeyboard.step

/-! ## §3. The last calls. -/

/-- The last value of `setShown`, `false` if there is none. -/
def lastShown (calls : List (Nat × KeyboardCall Config)) (callbacks : Nat) : Bool :=
  ((calls.filterMap fun (object, c) =>
    match c with
    | .setShown shown => if object = callbacks then some shown else none
    | .setClient _ => none).getLast?).getD false

/-- The last value of `setClient`, `null` if there is none. -/
def lastClient (calls : List (Nat × KeyboardCall Config)) (callbacks : Nat) :
    Option (KeyboardClientController Config) :=
  ((calls.filterMap fun (object, c) =>
    match c with
    | .setShown _ => none
    | .setClient client => if object = callbacks then some client else none).getLast?).join

namespace PlatformKeyboard

variable (k : PlatformKeyboard Config) (callbacks : Option Nat) (object : Nat) (shown : Bool)
  (client : Option (KeyboardClientController Config))

@[simp] theorem lastShown_call_setShown :
    lastShown (k.call callbacks (.setShown shown)).calls object =
      if callbacks = some object then shown else lastShown k.calls object := by
  unfold lastShown call
  rw [List.filterMap_append]
  cases callbacks with
  | none => simp
  | some callbacks => by_cases heq : callbacks = object <;> simp [heq]

@[simp] theorem lastShown_call_setClient :
    lastShown (k.call callbacks (.setClient client)).calls object = lastShown k.calls object := by
  unfold lastShown call
  rw [List.filterMap_append]
  cases callbacks <;> simp

@[simp] theorem lastClient_call_setClient :
    lastClient (k.call callbacks (.setClient client)).calls object =
      if callbacks = some object then client else lastClient k.calls object := by
  unfold lastClient call
  rw [List.filterMap_append]
  cases callbacks with
  | none => simp
  | some callbacks => by_cases heq : callbacks = object <;> simp [heq]

@[simp] theorem lastClient_call_setShown :
    lastClient (k.call callbacks (.setShown shown)).calls object = lastClient k.calls object := by
  unfold lastClient call
  rw [List.filterMap_append]
  cases callbacks <;> simp

end PlatformKeyboard

namespace PlatformKeyboard

/-- **The installed callbacks were last told what Flutter wants**: whether the keyboard is
    visible, and who the client is. -/
def Follows (k : PlatformKeyboard Config) : Prop :=
  ∀ callbacks, k.keyboardCallbacks = some callbacks →
    lastShown k.calls callbacks = k.wanted ∧ lastClient k.calls callbacks = k.keyboardClient

/-! ## §4. The invariant. -/

/-- No callbacks are told to show a keyboard; those installed know the client, and no others. -/
structure Told (k : PlatformKeyboard Config) : Prop where
  shown : k.shown = false
  hidden : ∀ callbacks, lastShown k.calls callbacks = false
  client : ∀ callbacks, lastClient k.calls callbacks =
    if k.keyboardCallbacks = some callbacks then k.keyboardClient else none

variable {k k' : PlatformKeyboard Config}

theorem told_init : Told (init : PlatformKeyboard Config) where
  shown := rfl
  hidden := fun _ => rfl
  client := fun _ => rfl

theorem Told.show (h : Told k) : Told k.textInputShow := by
  unfold textInputShow
  rw [if_neg (show ¬ k.shown = true from ne_true_of_eq_false h.shown)]
  exact ⟨h.shown, h.hidden, h.client⟩

theorem Told.hide (h : Told k) (hk : k.textInputHide = some k') : Told k' := by
  unfold textInputHide at hk
  dsimp only [call] at hk
  rw [if_neg (ne_true_of_eq_false h.shown)] at hk
  cases hk
  refine ⟨rfl, fun object => ?_, fun object => ?_⟩
  · refine (lastShown_call_setShown k k.keyboardCallbacks object false).trans ?_
    rw [h.hidden, ite_self]
  · exact (lastClient_call_setShown k k.keyboardCallbacks object false).trans (h.client object)

/-- A client set or cleared. -/
theorem Told.changeClient (h : Told k) (client : Option (KeyboardClientController Config))
    (clients : Nat) :
    Told ({ k with keyboardClient := client, clients }.call k.keyboardCallbacks
      (.setClient client)) := by
  refine ⟨h.shown, fun object => ?_, fun object => ?_⟩
  · rw [lastShown_call_setClient]
    exact h.hidden object
  · rw [lastClient_call_setClient]
    by_cases hobject : k.keyboardCallbacks = some object
    · exact (if_pos hobject).trans (if_pos hobject).symm
    · have hclient := h.client object
      rw [if_neg hobject] at hclient
      exact ((if_neg hobject).trans hclient).trans (if_neg hobject).symm

/-- As long as nothing is shown, callbacks that leave or join are at most told of a client. -/
theorem leave_eq (hshown : k.shown = false) (callbacks : Option Nat) :
    k.leave callbacks =
      if k.keyboardClient.isSome then k.call callbacks (.setClient none) else k := by
  unfold leave
  rw [if_neg (ne_true_of_eq_false hshown)]

theorem join_eq (hshown : k.shown = false) (callbacks : Option Nat) :
    k.join callbacks =
      if k.keyboardClient.isSome then k.call callbacks (.setClient k.keyboardClient) else k := by
  unfold join
  dsimp only
  split <;> exact if_neg (ne_true_of_eq_false hshown)

/-- Once the old callbacks have left nobody knows a client. -/
theorem Told.leave (h : Told k) :
    (k.leave k.keyboardCallbacks).shown = false ∧
      (k.leave k.keyboardCallbacks).keyboardClient = k.keyboardClient ∧
      ∀ object, lastShown (k.leave k.keyboardCallbacks).calls object = false ∧
        lastClient (k.leave k.keyboardCallbacks).calls object = none := by
  rw [leave_eq h.shown]
  split
  next =>
    refine ⟨h.shown, rfl, fun object => ⟨?_, ?_⟩⟩
    · rw [lastShown_call_setClient, h.hidden]
    · rw [lastClient_call_setClient, h.client]
      split <;> rfl
  next hnone =>
    refine ⟨h.shown, rfl, fun object => ⟨h.hidden object, ?_⟩⟩
    rw [h.client, Option.not_isSome_iff_eq_none.mp hnone, ite_self]

/-- Only new callbacks are told of the client. -/
theorem lastClient_join (hshown : k.shown = false)
    (hnone : ∀ object, lastClient k.calls object = none) (callbacks : Option Nat) (object : Nat) :
    lastClient (k.join callbacks).calls object =
      if callbacks = some object then k.keyboardClient else none := by
  rw [join_eq hshown]
  split
  next => rw [lastClient_call_setClient, hnone]
  next hclient => rw [hnone, Option.not_isSome_iff_eq_none.mp hclient, ite_self]

theorem lastShown_join (hshown : k.shown = false) (callbacks : Option Nat) (object : Nat) :
    lastShown (k.join callbacks).calls object = lastShown k.calls object := by
  rw [join_eq hshown]
  split
  next => rw [lastShown_call_setClient]
  next => rfl

theorem join_fields (callbacks : Option Nat) :
    (k.join callbacks).shown = k.shown ∧ (k.join callbacks).keyboardClient = k.keyboardClient := by
  unfold join
  dsimp only
  split <;> split <;> exact ⟨rfl, rfl⟩

/-- New callbacks. -/
theorem Told.setCallbacks (h : Told k) (callbacks : Option Nat) :
    Told (k.setKeyboardCallbacks callbacks) := by
  obtain ⟨hshown, hclient, hold⟩ := h.leave
  obtain ⟨hjshown, hjclient⟩ := join_fields (k := k.leave k.keyboardCallbacks) callbacks
  refine ⟨hjshown.trans hshown, fun object => ?_, fun object => ?_⟩
  · exact (lastShown_join hshown callbacks object).trans (hold object).1
  · refine (lastClient_join hshown (fun object => (hold object).2) callbacks object).trans ?_
    rw [← hjclient]
    rfl

theorem Told.step {e : KeyboardEvent Config} (h : Told k)
    (hk : platformKeyboard.step k e = some k') : Told k' := by
  cases e with
  | «show» =>
      change (if k.wanted then none else _) = some k' at hk
      split at hk
      next => cases hk
      next =>
        cases hk
        exact h.show
  | hide =>
      change (if k.wanted then k.textInputHide else none) = some k' at hk
      split at hk
      next => exact h.hide hk
      next => cases hk
  | setClient connectionId inputConfiguration =>
      cases hk
      exact h.changeClient _ _
  | clearClient =>
      cases hk
      exact h.changeClient _ _
  | keyboardCallbacks callbacks =>
      cases hk
      exact h.setCallbacks callbacks

/-! ## §5. Runs. -/

theorem reach_told (h : platformKeyboard.Reachable k) : Told k :=
  h.invariant told_init fun _ _ _ hk _ hstep => hk.step hstep

/-- **The callbacks know the client** in every state. -/
theorem reach_client (h : platformKeyboard.Reachable k) {callbacks : Nat}
    (hinstalled : k.keyboardCallbacks = some callbacks) :
    lastClient k.calls callbacks = k.keyboardClient := by
  rw [(reach_told h).client, if_pos hinstalled]

/-- **They know whether the keyboard is visible** exactly as long as it is not to be. -/
theorem reach_follows_iff (h : platformKeyboard.Reachable k) :
    k.Follows ↔ k.keyboardCallbacks = none ∨ k.wanted = false := by
  have hhidden := (reach_told h).hidden
  constructor
  · intro hfollows
    cases hinstalled : k.keyboardCallbacks with
    | none => exact .inl rfl
    | some callbacks =>
        exact .inr ((hfollows callbacks hinstalled).1.symm.trans (hhidden callbacks))
  · rintro (hnone | hwanted) callbacks hinstalled
    · cases hnone.symm.trans hinstalled
    · exact ⟨(hhidden callbacks).trans hwanted.symm, reach_client h hinstalled⟩

/-- Asked to show the keyboard and to hide it again. -/
theorem reach_follows_iff_hidden : ∃ k : PlatformKeyboard Unit, platformKeyboard.Reachable k ∧
    k.keyboardCallbacks = some 1 ∧ k.Follows := by
  obtain ⟨k, hrun, hinstalled, hwanted⟩ : ∃ k : PlatformKeyboard Unit,
      platformKeyboard.exec .init [.keyboardCallbacks (some 1), .setClient 3 (), .show, .hide] =
        some k ∧ k.keyboardCallbacks = some 1 ∧ k.wanted = false :=
    ⟨_, rfl, rfl, rfl⟩
  have hk := Machine.reach_exec _ .init hrun
  exact ⟨k, hk, hinstalled, (reach_follows_iff hk).mpr (.inr hwanted)⟩

/-- Callbacks that are there when the keyboard is to be shown are not told. -/
theorem not_follows_show : ¬ ∀ k : PlatformKeyboard Unit, platformKeyboard.Reachable k →
    k.Follows := by
  intro hall
  obtain ⟨k, hrun, hinstalled, hshown, hwanted⟩ : ∃ k : PlatformKeyboard Unit,
      platformKeyboard.exec .init [.keyboardCallbacks (some 1), .show] = some k ∧
        k.keyboardCallbacks = some 1 ∧ lastShown k.calls 1 = false ∧ k.wanted = true :=
    ⟨_, rfl, rfl, rfl, rfl⟩
  have hfollows := (hall k (Machine.reach_exec _ .init hrun) 1 hinstalled).1
  rw [hshown, hwanted] at hfollows
  cases hfollows

end PlatformKeyboard

end Keyboard

end FlutterWlroots.Dart
