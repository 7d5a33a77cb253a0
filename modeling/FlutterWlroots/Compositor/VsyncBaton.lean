/-
  FlutterWlroots.Compositor.VsyncBaton — the batons of the engine.

  A thread of the engine asks for the next vsync by storing a baton in `vsync_baton`.  The frame
  and present handlers of the driver take it out by an atomic exchange, and whoever has got one
  returns it by a call of `OnVsync`.  Here every atomic access is a step of its own, and any number
  of handlers can be under way, so that the accesses come in any order.

    • `step_moves`         — what a step does to the batons: hand one in, return one, or neither,
    • `reach_returnedOnce` — none is returned that was not handed in, none is returned twice, and
      none is lost if the engine waits for its batons.
-/
import FlutterWlroots.Compositor.Events
import Mathlib.Data.List.Perm.Basic

namespace FlutterWlroots.Compositor

open Lib Lib.StateRun

/-! ## §1. Handlers. -/

/-- `intptr_t`. -/
abbrev Baton := BitVec 64

/-- The rate limit (in Hz, 0 for none) applied to a time between frames. -/
def limitInterval (vsyncRateLimit : Int) (refreshNs : UInt64) : UInt64 :=
  if 0 < vsyncRateLimit then
    let limitedNs := 1000000000 / UInt64.ofInt vsyncRateLimit
    if refreshNs < limitedNs then limitedNs else refreshNs
  else refreshNs

/-- The time between frames of `output_frame`, from the refresh rate in mHz. -/
def frameInterval (vsyncRateLimit : Int) (refresh : Option Int) : UInt64 :=
  limitInterval vsyncRateLimit
    (match refresh with
    | some refresh => if 0 < refresh then 1000000000000 / UInt64.ofInt refresh else 16600000
    | none => 16600000)

/-- The time between frames of `output_present`, from the event. -/
def presentInterval (vsyncRateLimit : Int) (refresh : Int) : UInt64 :=
  let frameTargetNs := UInt64.ofInt refresh
  limitInterval vsyncRateLimit (if frameTargetNs = 0 then 16600000 else frameTargetNs)

/-- The two handlers that return batons; a present event has a refresh time. -/
inductive VsyncHandler where
  | outputFrame
  | outputPresent (refresh : Int)
deriving DecidableEq, Repr

/-- How far a handler has come. -/
inductive Stage where
  | entered
  /-- `output == instance->vsync_output` has been found true. -/
  | driving
  /-- `atomic_exchange` has given a baton. -/
  | holding (baton : Baton)
deriving DecidableEq, Repr

/-- The baton that a handler holds. -/
def Stage.baton : Stage → Option Baton
  | .holding baton => some baton
  | _ => none

/-- A handler under way. -/
structure Activation where
  handler : VsyncHandler
  output : Ptr
  stage : Stage
deriving DecidableEq, Repr

abbrev Activation.baton (a : Activation) : Option Baton := a.stage.baton

/-- A call of `OnVsync`. -/
structure VsyncCall where
  baton : Baton
  frameStartTime : UInt64
  frameTargetTime : UInt64
deriving DecidableEq, Repr

/-- What concerns vsync, with the batons handed in and the calls made so far. -/
structure VsyncState where
  compositor : Instance
  vsyncRateLimit : Int
  vsyncBaton : Baton
  activations : List Activation
  delivered : List Baton
  calls : List VsyncCall

namespace VsyncState

variable (s : VsyncState)

def init : VsyncState := ⟨.init, 0, 0, [], [], []⟩

/-- The batons that were returned. -/
def returned : List Baton := s.calls.map (·.baton)

/-- The batons that handlers hold, which they return next. -/
def held : List Baton := s.activations.filterMap (·.baton)

/-- The baton that is stored, if there is one. -/
def stored : List Baton := if s.vsyncBaton = 0 then [] else [s.vsyncBaton]

/-- Another handler is where `a` was. -/
def advance (a : Activation) (stage : Stage) : List Activation :=
  { a with stage } :: s.activations.erase a

end VsyncState

/-! ## §2. Steps. -/

/-- The steps; those of a handler name the activation. -/
inductive VsyncEvent where
  | engineVsyncCallback (baton : Baton)
  | enters (handler : VsyncHandler) (output : Ptr)
  | compares (a : Activation)
  | exchanges (a : Activation)
  | callsOnVsync (a : Activation) (currentTime : UInt64)
  | setVsyncRateLimit (maxHz : Int)
  | compositor (e : Event)

/-- The time between frames that a handler computes. -/
def VsyncState.interval (s : VsyncState) (a : Activation) : Except Fault UInt64 := do
  let output ← s.compositor.output a.output
  match a.handler with
  | .outputFrame => return frameInterval s.vsyncRateLimit output.wlrOutput.refresh
  | .outputPresent refresh => return presentInterval s.vsyncRateLimit refresh

/-- A step; an activation comes to its end where nothing is left to do. -/
def VsyncState.step (s : VsyncState) : VsyncEvent → Option VsyncState
  | .engineVsyncCallback baton =>
      if baton ≠ 0 then
        some { s with vsyncBaton := baton, delivered := s.delivered ++ [baton] }
      else none
  | .enters handler output =>
      if s.compositor.outputObjects.Live output then
        some { s with activations := ⟨handler, output, .entered⟩ :: s.activations }
      else none
  | .compares a =>
      if a ∈ s.activations ∧ a.stage = .entered then
        if s.compositor.vsyncOutput = some a.output then
          some { s with activations := s.advance a .driving }
        else some { s with activations := s.activations.erase a }
      else none
  | .exchanges a =>
      if a ∈ s.activations ∧ a.stage = .driving then
        if s.vsyncBaton ≠ 0 then
          some { s with vsyncBaton := 0, activations := s.advance a (.holding s.vsyncBaton) }
        else some { s with activations := s.activations.erase a }
      else none
  | .callsOnVsync a currentTime =>
      if a ∈ s.activations then
        match a.baton, s.interval a with
        | some baton, .ok interval =>
            some { s with
              activations := s.activations.erase a
              calls := s.calls ++ [⟨baton, currentTime, currentTime + interval⟩] }
        | _, _ => none
      else none
  | .setVsyncRateLimit maxHz => some { s with vsyncRateLimit := maxHz }
  | .compositor e => (Compositor.compositor.step s.compositor e).map fun compositor =>
      { s with compositor }

/-- The engine, the handlers and the compositor. -/
def vsync : Machine VsyncState VsyncEvent where
  init := .init
  step := VsyncState.step

/-- The engine hands in a baton only when the one before has been returned. -/
def WaitsForBaton (s : VsyncState) : VsyncEvent → Prop
  | .engineVsyncCallback _ =>
      ∀ b ∈ s.delivered.getLast?, s.returned.count b = s.delivered.count b
  | _ => True

instance (s : VsyncState) : (e : VsyncEvent) → Decidable (WaitsForBaton s e)
  -- not by trying every `b`
  | .engineVsyncCallback _ => Option.decidableForallMem s.delivered.getLast?
  | .enters .. => inferInstanceAs (Decidable True)
  | .compares _ => inferInstanceAs (Decidable True)
  | .exchanges _ => inferInstanceAs (Decidable True)
  | .callsOnVsync .. => inferInstanceAs (Decidable True)
  | .setVsyncRateLimit _ => inferInstanceAs (Decidable True)
  | .compositor _ => inferInstanceAs (Decidable True)

/-! ## §3. What a step does to the batons. -/

/-- A step hands in a baton, in the place of what was stored; returns one that was held; or moves
    batons from the store to a handler at most. -/
inductive Moves (s : VsyncState) (e : VsyncEvent) (s' : VsyncState) : Prop where
  | handsIn (baton : Baton) (he : e = .engineVsyncCallback baton)
      (hdelivered : s'.delivered = s.delivered ++ [baton]) (hreturned : s'.returned = s.returned)
      (hheld : s'.held = s.held) (hstored : s'.stored = [baton])
  | returns (baton : Baton) (hdelivered : s'.delivered = s.delivered)
      (hreturned : s'.returned = s.returned ++ [baton]) (hheld : s.held.Perm (baton :: s'.held))
      (hstored : s'.stored = s.stored)
  | moves (hdelivered : s'.delivered = s.delivered) (hreturned : s'.returned = s.returned)
      (hkept : (s.held ++ s.stored).Perm (s'.held ++ s'.stored))

section Steps

variable {s s' : VsyncState} {e : VsyncEvent} {a : Activation}

/-- What the other handlers hold, and what this one does. -/
theorem held_perm (ha : a ∈ s.activations) :
    s.held.Perm (a.baton.toList ++ (s.activations.erase a).filterMap (·.baton)) := by
  have hperm := (List.perm_cons_erase ha).filterMap (·.baton)
  cases hbaton : a.baton with
  | none => simpa [VsyncState.held, List.filterMap_cons, hbaton] using hperm
  | some baton => simpa [VsyncState.held, List.filterMap_cons, hbaton] using hperm

/-- A handler without a baton goes on without one, or ends. -/
theorem held_erase (ha : a ∈ s.activations) (hnone : a.baton = none) :
    ((s.activations.erase a).filterMap (·.baton)).Perm s.held := by
  have hperm := held_perm ha
  rw [hnone] at hperm
  exact hperm.symm

theorem stored_eq (h : s.vsyncBaton ≠ 0) : s.stored = [s.vsyncBaton] := if_neg h

theorem step_moves (h : s.step e = some s') : Moves s e s' := by
  cases e with
  | engineVsyncCallback baton =>
      rw [VsyncState.step] at h
      split at h
      case isTrue hne =>
        cases h
        exact .handsIn baton rfl rfl rfl rfl (if_neg hne)
      case isFalse => cases h
  | enters handler output =>
      rw [VsyncState.step] at h
      split at h
      case isTrue =>
        cases h
        exact .moves rfl rfl (.refl _)
      case isFalse => cases h
  | compares a =>
      rw [VsyncState.step] at h
      split at h
      case isTrue hin =>
        have hkept := held_erase hin.1 (congrArg Stage.baton hin.2)
        -- with or without the handler, the batons that are held stay the same
        split at h
        · cases h
          exact .moves rfl rfl (hkept.symm.append_right _)
        · cases h
          exact .moves rfl rfl (hkept.symm.append_right _)
      case isFalse => cases h
  | exchanges a =>
      rw [VsyncState.step] at h
      split at h
      case isTrue hin =>
        have hkept := held_erase hin.1 (congrArg Stage.baton hin.2)
        split at h
        case isTrue hne =>
          cases h
          refine .moves rfl rfl ?_
          rw [stored_eq hne]
          -- the handler takes what was stored
          have htaken : (s.held ++ [s.vsyncBaton]).Perm
              (s.vsyncBaton :: (s.activations.erase a).filterMap (·.baton)) :=
            (List.perm_append_singleton ..).trans (hkept.symm.cons _)
          exact htaken.trans (.of_eq (List.append_nil _).symm)
        case isFalse =>
          cases h
          exact .moves rfl rfl (hkept.symm.append_right _)
      case isFalse => cases h
  | callsOnVsync a currentTime =>
      rw [VsyncState.step] at h
      split at h
      case isTrue hin =>
        have hperm := held_perm hin
        split at h
        next baton interval hbaton hinterval =>
          cases h
          rw [hbaton] at hperm
          exact .returns baton rfl (by simp [VsyncState.returned]) hperm rfl
        next => cases h
      case isFalse => cases h
  | setVsyncRateLimit maxHz =>
      cases h
      exact .moves rfl rfl (.refl _)
  | compositor e =>
      obtain ⟨compositor, -, rfl⟩ := Option.map_eq_some_iff.mp h
      exact .moves rfl rfl (.refl _)

end Steps

/-! ## §4. Runs. -/

section Runs

variable {s s' : VsyncState}

/-- Whatever is returned, held or stored has been handed in, as many times. -/
def Covered (s : VsyncState) : Prop :=
  ∀ b, (s.returned ++ (s.held ++ s.stored)).count b ≤ s.delivered.count b

theorem Covered.moves {e : VsyncEvent} (h : Covered s) (hm : Moves s e s') : Covered s' := by
  intro b
  have hb := h b
  cases hm with
  | handsIn baton he hdelivered hreturned hheld hstored =>
      rw [hdelivered, hreturned, hheld, hstored]
      simp only [List.count_append] at hb ⊢
      omega
  | returns baton hdelivered hreturned hheld hstored =>
      rw [hdelivered, hreturned, hstored]
      rw [List.count_append, List.count_append, hheld.count_eq] at hb
      simp only [List.count_append, List.count_cons, List.count_nil] at hb ⊢
      omega
  | moves hdelivered hreturned hkept =>
      rw [hdelivered, hreturned, List.count_append, ← hkept.count_eq, ← List.count_append]
      exact hb

/-- Every baton is returned, held or stored, and the engine waits for one at most. -/
structure Accounted (s : VsyncState) : Prop where
  perm : s.delivered.Perm (s.returned ++ (s.held ++ s.stored))
  one : (s.held ++ s.stored).length ≤ 1
  last : ∀ b ∈ s.held ++ s.stored, b ∈ s.delivered.getLast?

/-- Once the last baton has been returned, none is on its way. -/
theorem Accounted.eq_nil (h : Accounted s)
    (hwaits : ∀ b ∈ s.delivered.getLast?, s.returned.count b = s.delivered.count b) :
    s.held ++ s.stored = [] := by
  rw [List.eq_nil_iff_forall_not_mem]
  intro b hb
  have hcount := hwaits b (h.last b hb)
  rw [h.perm.count_eq, List.count_append] at hcount
  have hpos := List.count_pos_iff.mpr hb
  omega

theorem Accounted.handsIn (h : Accounted s) {baton : Baton} (hnil : s.held ++ s.stored = [])
    (hdelivered : s'.delivered = s.delivered ++ [baton]) (hreturned : s'.returned = s.returned)
    (hheld : s'.held = s.held) (hstored : s'.stored = [baton]) : Accounted s' := by
  have hkept : s'.held ++ s'.stored = [baton] := by
    rw [hheld, hstored, (List.append_eq_nil_iff.mp hnil).1]
    rfl
  refine ⟨?_, ?_, fun b hb => ?_⟩
  · have hperm := h.perm
    rw [hnil, List.append_nil] at hperm
    rw [hkept, hdelivered, hreturned]
    exact hperm.append_right _
  · rw [hkept]
    exact Nat.le_refl 1
  · rw [hkept] at hb
    rw [List.mem_singleton.mp hb, hdelivered, List.getLast?_append]
    rfl

theorem Accounted.returns (h : Accounted s) {baton : Baton}
    (hdelivered : s'.delivered = s.delivered) (hreturned : s'.returned = s.returned ++ [baton])
    (hheld : s.held.Perm (baton :: s'.held)) (hstored : s'.stored = s.stored) : Accounted s' := by
  have hkept : (s.held ++ s.stored).Perm (baton :: (s'.held ++ s'.stored)) := by
    rw [hstored]
    exact hheld.append_right _
  refine ⟨?_, ?_, fun b hb => ?_⟩
  · rw [hdelivered, hreturned, List.append_assoc]
    exact h.perm.trans (hkept.append_left _)
  · have hlength := hkept.length_eq
    have hone := h.one
    rw [List.length_cons] at hlength
    omega
  · rw [hdelivered]
    exact h.last b (hkept.symm.subset (List.mem_cons_of_mem _ hb))

theorem Accounted.moves (h : Accounted s) (hdelivered : s'.delivered = s.delivered)
    (hreturned : s'.returned = s.returned)
    (hkept : (s.held ++ s.stored).Perm (s'.held ++ s'.stored)) : Accounted s' := by
  refine ⟨?_, ?_, fun b hb => ?_⟩
  · rw [hdelivered, hreturned]
    exact h.perm.trans (hkept.append_left _)
  · rw [← hkept.length_eq]
    exact h.one
  · rw [hdelivered]
    exact h.last b (hkept.symm.subset hb)

theorem Accounted.step (h : Accounted s) {e : VsyncEvent} (hok : WaitsForBaton s e)
    (hstep : s.step e = some s') : Accounted s' := by
  cases step_moves hstep with
  | handsIn baton he hdelivered hreturned hheld hstored =>
      subst he
      exact h.handsIn (h.eq_nil hok) hdelivered hreturned hheld hstored
  | returns baton hdelivered hreturned hheld hstored =>
      exact h.returns hdelivered hreturned hheld hstored
  | moves hdelivered hreturned hkept => exact h.moves hdelivered hreturned hkept

theorem reach_covered (hs : vsync.Reachable s) : Covered s :=
  hs.invariant (P := Covered) (fun _ => Nat.le_refl _) fun _ _ _ h _ hstep =>
    h.moves (step_moves hstep)

theorem accounted_init : Accounted vsync.init where
  perm := .refl []
  one := Nat.zero_le 1
  last := fun _ hb => absurd hb List.not_mem_nil

theorem reach_accounted (hs : vsync.Reach WaitsForBaton s) : Accounted s :=
  hs.invariant (P := Accounted) accounted_init fun _ _ _ h hok hstep => h.step hok hstep

/-- **Batons are returned once.**  No baton is returned more often than it was handed in; if the
    engine waits for its batons, each one is stored, held by the handler that calls `OnVsync` with
    it next, or returned, and none is in the cell or on the way when the next comes. -/
theorem reach_returnedOnce :
    (∀ s, vsync.Reachable s → ∀ b, s.returned.count b ≤ s.delivered.count b) ∧
    ∀ s, vsync.Reach WaitsForBaton s →
      s.delivered.Perm (s.returned ++ (s.held ++ s.stored)) ∧
      (s.held = [] → ∀ b ∈ s.delivered, s.vsyncBaton = b ∨ b ∈ s.returned) ∧
      ∀ b, WaitsForBaton s (.engineVsyncCallback b) → s.vsyncBaton = 0 ∧ s.held = [] := by
  refine ⟨fun s hs b => ?_, fun s hs => ?_⟩
  · have hcovered := reach_covered hs b
    rw [List.count_append] at hcovered
    omega
  · have haccounted := reach_accounted hs
    refine ⟨haccounted.perm, fun hheld b hb => ?_, fun b hwaits => ?_⟩
    · have hmem := haccounted.perm.subset hb
      rw [hheld, List.nil_append] at hmem
      rcases List.mem_append.mp hmem with hreturned | hstored
      · exact .inr hreturned
      · unfold VsyncState.stored at hstored
        split at hstored
        · cases hstored
        · exact .inl (List.mem_singleton.mp hstored).symm
    · obtain ⟨hheld, hstored⟩ := List.append_eq_nil_iff.mp (haccounted.eq_nil hwaits)
      refine ⟨?_, hheld⟩
      unfold VsyncState.stored at hstored
      split at hstored
      next heq => exact heq
      next => cases hstored

/-- A frame of the driver returns the first of two batons; the handler of another output leaves the
    second alone. -/
theorem reach_returnedOnce_frame : ∃ s, vsync.Reach WaitsForBaton s ∧
    s.delivered.Perm (s.returned ++ (s.held ++ s.stored)) ∧ s.returned = [5] ∧ s.stored = [9] := by
  have hrun : ((vsync.execIf WaitsForBaton vsync.init
      [.compositor (.newOutput ⟨0, some 60000, 1⟩ true),
        .compositor (.newOutput ⟨1, some 30000, 1⟩ true),
        .engineVsyncCallback 5,
        .enters .outputFrame 0,
        .enters (.outputPresent 0) 1,
        .compares ⟨.outputFrame, 0, .entered⟩,
        .exchanges ⟨.outputFrame, 0, .driving⟩,
        .callsOnVsync ⟨.outputFrame, 0, .holding 5⟩ 1000,
        .engineVsyncCallback 9,
        .compares ⟨.outputPresent 0, 1, .entered⟩]).map
      fun s => (s.returned, s.stored)) = some ([5], [9]) := by decide +kernel
  obtain ⟨s, hs, hend⟩ := Option.map_eq_some_iff.mp hrun
  have hreach := Machine.reach_execIf _ .init hs
  obtain ⟨hreturned, hstored⟩ := Prod.mk.inj hend
  exact ⟨s, hreach, (reach_returnedOnce.2 s hreach).1, hreturned, hstored⟩

end Runs

end FlutterWlroots.Compositor
