/-
  FlutterWlroots.Compositor.VsyncRate — the rate limit of vsync.

  Batons go back from two handlers, each of which runs to its end before the next: the engine can
  only store a baton in between.  The rate limit stretches the time to the next frame that `OnVsync`
  is told; when the baton goes back it does not matter.

    • `reach_vsync`     — runs of whole handlers are runs of their atomic steps,
    • `exec_readings`   — calls of `OnVsync` start at readings of the clock, in their order,
    • `exec_breaksRate` — with a limit up to 10^9 Hz every run that has come to a vsync output can
                          go on to calls that are closer than a period of the limit,
    • `keepsRate_iff`   — so the limits that are kept are those above 10^9 Hz.
-/
import FlutterWlroots.Compositor.VsyncBaton
import FlutterWlroots.Lib.Watch
import Mathlib.Data.List.Chain

namespace FlutterWlroots.Compositor

open Lib Lib.StateRun

/-! ## §1. Handlers. -/

/-- What a handler does with the baton. -/
def VsyncState.returnBaton (s : VsyncState) (handler : VsyncHandler) (output : Ptr)
    (currentTime : UInt64) : Except Fault VsyncState :=
  if s.compositor.vsyncOutput = some output then
    if s.vsyncBaton ≠ 0 then do
      let interval ← s.interval ⟨handler, output, .holding s.vsyncBaton⟩
      return { s with
        vsyncBaton := 0
        calls := s.calls ++ [⟨s.vsyncBaton, currentTime, currentTime + interval⟩] }
    else return s
  else return s

/-- The part of `output_frame` before the render pass. -/
def VsyncState.outputFrame (s : VsyncState) (output : Ptr) (currentTime : UInt64) :
    Except Fault VsyncState := s.returnBaton .outputFrame output currentTime

/-- `output_present`. -/
def VsyncState.outputPresent (s : VsyncState) (output : Ptr) (refresh : Int)
    (currentTime : UInt64) : Except Fault VsyncState :=
  s.returnBaton (.outputPresent refresh) output currentTime

/-- The events; the time is what `GetCurrentTime` says if the handler asks. -/
inductive FrameEvent where
  | engineVsyncCallback (baton : Baton)
  | outputFrame (output : Ptr) (currentTime : UInt64)
  | outputPresent (output : Ptr) (refresh : Int) (currentTime : UInt64)
  | setVsyncRateLimit (maxHz : Int)
  | compositor (e : Event)

/-- The handler of an event of an output that is there. -/
def VsyncState.frameStep (s : VsyncState) : FrameEvent → Option VsyncState
  | .engineVsyncCallback baton => s.step (.engineVsyncCallback baton)
  | .outputFrame output currentTime =>
      if s.compositor.outputObjects.Live output then (s.outputFrame output currentTime).toOption
      else none
  | .outputPresent output refresh currentTime =>
      if s.compositor.outputObjects.Live output then
        (s.outputPresent output refresh currentTime).toOption
      else none
  | .setVsyncRateLimit maxHz => s.step (.setVsyncRateLimit maxHz)
  | .compositor e => s.step (.compositor e)

/-- The engine, the outputs and the compositor. -/
def frames : Machine VsyncState FrameEvent where
  init := .init
  step := VsyncState.frameStep

/-- How many calls there were before the last change of the limit. -/
def noteLimit (s : VsyncState) (e : FrameEvent) (before : Nat) : Nat :=
  match e with
  | .setVsyncRateLimit maxHz => if maxHz = s.vsyncRateLimit then before else s.calls.length
  | _ => before

/-- The events, with the last change of the limit. -/
abbrev limitedFrames : Machine (Watched VsyncState Nat) FrameEvent :=
  frames.watch 0 noteLimit

/-- What `GetCurrentTime` says at an event of an output. -/
def FrameEvent.reading : FrameEvent → Option UInt64
  | .outputFrame _ currentTime => some currentTime
  | .outputPresent _ _ currentTime => some currentTime
  | _ => none

def readings (es : List FrameEvent) : List UInt64 := es.filterMap FrameEvent.reading

/-- The clock never goes back. -/
def ClockRuns (es : List FrameEvent) : Prop :=
  (readings es).Pairwise fun earlier later => earlier.toNat ≤ later.toNat

namespace VsyncState

/-- The calls with the limit that is in force. -/
def callsUnderLimit (w : Watched VsyncState Nat) : List VsyncCall :=
  w.state.calls.drop w.note

/-- A period of the limit, in nanoseconds. -/
def period (s : VsyncState) : Nat := 1000000000 / s.vsyncRateLimit.toNat

/-- The start times of consecutive calls are a period of the limit apart. -/
def RateLimited (w : Watched VsyncState Nat) : Prop :=
  (callsUnderLimit w).IsChain fun call next =>
    call.frameStartTime.toNat + w.state.period ≤ next.frameStartTime.toNat

end VsyncState

/-- **The limit is kept**, in every run that has come to it. -/
def KeepsRate (maxHz : Int) : Prop :=
  ∀ es w, limitedFrames.exec limitedFrames.init es = some w → ClockRuns es →
    w.state.vsyncRateLimit = maxHz → VsyncState.RateLimited w

namespace VsyncState

/-! ## §2. Atomic steps. -/

variable {s s' : VsyncState} {handler : VsyncHandler} {output : Ptr} {currentTime : UInt64}

theorem returnBaton_of_other (h : s.compositor.vsyncOutput ≠ some output) :
    s.returnBaton handler output currentTime = .ok s := if_neg h

theorem returnBaton_of_none (h : s.vsyncBaton = 0) :
    s.returnBaton handler output currentTime = .ok s := by
  unfold returnBaton
  rw [if_neg (not_not.mpr h), ite_self]
  rfl

theorem returnBaton_ok (h : s.returnBaton handler output currentTime = .ok s')
    (hdriver : s.compositor.vsyncOutput = some output) (hbaton : s.vsyncBaton ≠ 0) :
    ∃ interval, s.interval ⟨handler, output, .holding s.vsyncBaton⟩ = .ok interval ∧
      s' = { s with
        vsyncBaton := 0
        calls := s.calls ++ [⟨s.vsyncBaton, currentTime, currentTime + interval⟩] } := by
  unfold returnBaton at h
  rw [if_pos hdriver, if_pos hbaton, except_bind_eq_ok] at h
  obtain ⟨interval, hinterval, h⟩ := h
  cases h
  exact ⟨interval, hinterval, rfl⟩

/-- One more handler under way. -/
def under (s : VsyncState) (a : Activation) : VsyncState :=
  { s with activations := a :: s.activations }

section Activations

variable {a : Activation}

theorem enters_step (hlive : s.compositor.outputObjects.Live output) :
    vsync.step s (.enters handler output) = some (s.under ⟨handler, output, .entered⟩) :=
  if_pos hlive

theorem compares_driver (hstage : a.stage = .entered)
    (hdriver : s.compositor.vsyncOutput = some a.output) :
    vsync.step (s.under a) (.compares a) = some (s.under { a with stage := .driving }) := by
  simp [vsync, step, under, advance, hstage, hdriver]

theorem compares_other (hstage : a.stage = .entered)
    (hother : s.compositor.vsyncOutput ≠ some a.output) :
    vsync.step (s.under a) (.compares a) = some s := by
  simp [vsync, step, under, hstage, hother]

theorem exchanges_baton (hstage : a.stage = .driving) (hbaton : s.vsyncBaton ≠ 0) :
    vsync.step (s.under a) (.exchanges a)
      = some (({ s with vsyncBaton := 0 } : VsyncState).under
          { a with stage := .holding s.vsyncBaton }) := by
  show (s.under a).step (.exchanges a) = _
  rw [step, if_pos ⟨List.mem_cons_self, hstage⟩, under, if_pos hbaton]
  simp [under, advance]

theorem exchanges_none (hstage : a.stage = .driving) (hnone : s.vsyncBaton = 0) :
    vsync.step (s.under a) (.exchanges a) = some s := by
  show (s.under a).step (.exchanges a) = _
  rw [step, if_pos ⟨List.mem_cons_self, hstage⟩, under, if_neg (not_not.mpr hnone)]
  simp

theorem callsOnVsync_holding {baton : Baton} {interval : UInt64}
    (hstage : a.stage = .holding baton) (hinterval : s.interval a = .ok interval) :
    vsync.step (s.under a) (.callsOnVsync a currentTime)
      = some { s with calls := s.calls ++ [⟨baton, currentTime, currentTime + interval⟩] } := by
  have hbaton : a.baton = some baton := congrArg Stage.baton hstage
  have hsame : (s.under a).interval a = .ok interval := hinterval
  show (s.under a).step (.callsOnVsync a currentTime) = _
  rw [step, if_pos (show a ∈ (s.under a).activations from List.mem_cons_self), hbaton, hsame]
  simp [under]

end Activations

/-- A whole handler in atomic steps. -/
theorem reachable_returnBaton (hs : vsync.Reachable s)
    (hlive : s.compositor.outputObjects.Live output)
    (h : s.returnBaton handler output currentTime = .ok s') : vsync.Reachable s' := by
  have hentered : vsync.Reachable (s.under ⟨handler, output, .entered⟩) :=
    hs.step (.enters handler output) trivial (enters_step hlive)
  by_cases hdriver : s.compositor.vsyncOutput = some output
  · have hdriving : vsync.Reachable (s.under ⟨handler, output, .driving⟩) :=
      hentered.step _ trivial (compares_driver (s := s) rfl hdriver)
    by_cases hbaton : s.vsyncBaton = 0
    · rw [returnBaton_of_none hbaton] at h
      cases h
      exact hdriving.step _ trivial (exchanges_none (s := s) rfl hbaton)
    · obtain ⟨interval, hinterval, rfl⟩ := returnBaton_ok h hdriver hbaton
      have hholding := hdriving.step _ trivial (exchanges_baton (s := s) rfl hbaton)
      exact hholding.step _ trivial
        (callsOnVsync_holding (s := { s with vsyncBaton := 0 }) rfl hinterval)
  · rw [returnBaton_of_other hdriver] at h
    cases h
    exact hentered.step _ trivial (compares_other (s := s) rfl hdriver)

/-- **Whole handlers are runs of atomic steps**, so that what holds of these holds of them. -/
theorem reach_vsync (hs : frames.Reachable s) : vsync.Reachable s := by
  have hinit : vsync.Reachable frames.init := .init
  refine Machine.Reach.invariant (P := vsync.Reachable) hinit (fun s e s' hs _ hstep => ?_) hs
  cases e with
  | engineVsyncCallback baton => exact hs.step (.engineVsyncCallback baton) trivial hstep
  | outputFrame output currentTime =>
      obtain ⟨hlive, hhandle⟩ := guarded_eq_some.mp hstep
      exact reachable_returnBaton hs hlive hhandle
  | outputPresent output refresh currentTime =>
      obtain ⟨hlive, hhandle⟩ := guarded_eq_some.mp hstep
      exact reachable_returnBaton hs hlive hhandle
  | setVsyncRateLimit maxHz => exact hs.step (.setVsyncRateLimit maxHz) trivial hstep
  | compositor e => exact hs.step (.compositor e) trivial hstep

/-! ## §3. Start times are readings of the clock. -/

variable {w w' : Watched VsyncState Nat} {e : FrameEvent}

theorem returnBaton_calls (h : s.returnBaton handler output currentTime = .ok s') :
    s'.calls = s.calls ∨
      ∃ call : VsyncCall, call.frameStartTime = currentTime ∧ s'.calls = s.calls ++ [call] := by
  by_cases hdriver : s.compositor.vsyncOutput = some output
  · by_cases hbaton : s.vsyncBaton = 0
    · rw [returnBaton_of_none hbaton] at h
      cases h
      exact .inl rfl
    · obtain ⟨interval, -, rfl⟩ := returnBaton_ok h hdriver hbaton
      exact .inr ⟨_, rfl, rfl⟩
  · rw [returnBaton_of_other hdriver] at h
    cases h
    exact .inl rfl

/-- **One event** makes at most one call, at the time it reads. -/
theorem frameStep_calls (h : s.frameStep e = some s') :
    ∃ calls, s'.calls = s.calls ++ calls ∧
      (calls.map (·.frameStartTime)).Sublist e.reading.toList := by
  have hquiet : s'.calls = s.calls → ∃ calls, s'.calls = s.calls ++ calls ∧
      (calls.map (·.frameStartTime)).Sublist e.reading.toList := by
    intro hsame
    exact ⟨[], by rw [hsame, List.append_nil], List.nil_sublist _⟩
  have hhandler : ∀ {handler output currentTime}, e.reading = some currentTime →
      s.returnBaton handler output currentTime = .ok s' →
      ∃ calls, s'.calls = s.calls ++ calls ∧
        (calls.map (·.frameStartTime)).Sublist e.reading.toList := by
    intro handler output currentTime hreading hhandle
    rcases returnBaton_calls hhandle with hsame | ⟨call, hstart, hcalls⟩
    · exact hquiet hsame
    · refine ⟨[call], hcalls, ?_⟩
      rw [hreading, List.map_singleton, hstart]
      exact .refl _
  cases e with
  | engineVsyncCallback baton =>
      have h : s.step (.engineVsyncCallback baton) = some s' := h
      rw [step] at h
      split at h
      next =>
        cases h
        exact hquiet rfl
      next => cases h
  | outputFrame output currentTime => exact hhandler rfl (guarded_eq_some.mp h).2
  | outputPresent output refresh currentTime => exact hhandler rfl (guarded_eq_some.mp h).2
  | setVsyncRateLimit maxHz =>
      cases h
      exact hquiet rfl
  | compositor e =>
      obtain ⟨compositor, -, rfl⟩ := Option.map_eq_some_iff.mp h
      exact hquiet rfl

/-- **A run** makes its calls at readings of its clock, in order. -/
theorem exec_readings {es : List FrameEvent} (h : limitedFrames.exec w es = some w') :
    ∃ calls, w'.state.calls = w.state.calls ++ calls ∧
      (calls.map (·.frameStartTime)).Sublist (readings es) := by
  induction es generalizing w with
  | nil =>
      cases h
      exact ⟨[], (List.append_nil _).symm, .refl _⟩
  | cons e es ih =>
      obtain ⟨w1, hstep, hrest⟩ := Machine.exec_cons.mp h
      obtain ⟨calls, hcalls, hsub⟩ := frameStep_calls (Machine.watch_step.mp hstep).1
      obtain ⟨calls', hcalls', hsub'⟩ := ih hrest
      refine ⟨calls ++ calls', ?_, ?_⟩
      · rw [hcalls', hcalls, List.append_assoc]
      · have hreadings : readings (e :: es) = e.reading.toList ++ readings es := by
          unfold readings
          cases hreading : e.reading with
          | none => rw [List.filterMap_cons_none hreading]; rfl
          | some t => rw [List.filterMap_cons_some hreading]; rfl
        rw [List.map_append, hreadings]
        exact hsub.append hsub'

/-- A limit above 10^9 Hz has no period. -/
theorem rateLimited_of_fast {es : List FrameEvent}
    (h : limitedFrames.exec limitedFrames.init es = some w) (hclock : ClockRuns es)
    (hfast : 1000000000 < w.state.vsyncRateLimit) : RateLimited w := by
  have hperiod : w.state.period = 0 := by
    unfold period
    exact Nat.div_eq_of_lt (by omega)
  obtain ⟨calls, hcalls, hsub⟩ := exec_readings h
  have hcalls : w.state.calls = calls := hcalls
  have hordered : w.state.calls.Pairwise fun call next =>
      call.frameStartTime.toNat ≤ next.frameStartTime.toNat := by
    have hsorted := hclock.sublist hsub
    rw [hcalls]
    exact (List.pairwise_map (R := fun t t' : UInt64 => t.toNat ≤ t'.toNat)).mp hsorted
  unfold RateLimited callsUnderLimit
  rw [hperiod]
  exact (hordered.sublist (List.drop_sublist _ _)).isChain

/-! ## §4. The next two frames. -/

/-- The output is there and drives vsync. -/
structure Drives (s : VsyncState) (output : Ptr) : Prop where
  live : s.compositor.outputObjects.Live output
  driver : s.compositor.vsyncOutput = some output

/-- A baton and a frame of the vsync output. -/
def nextFrame (baton : Baton) (output : Ptr) (currentTime : UInt64) : List FrameEvent :=
  [.engineVsyncCallback baton, .outputFrame output currentTime]

/-- **The limit does not hold a frame back.** -/
theorem exec_nextFrame (baton : Baton) (hdrives : Drives w.state output) (hbaton : baton ≠ 0)
    (currentTime : UInt64) :
    ∃ w' call, limitedFrames.exec w (nextFrame baton output currentTime) = some w' ∧
      w'.note = w.note ∧ w'.state.vsyncRateLimit = w.state.vsyncRateLimit ∧
      Drives w'.state output ∧ call.frameStartTime = currentTime ∧
      w'.state.calls = w.state.calls ++ [call] := by
  obtain ⟨out, hout⟩ := Instance.deref_of_live .freedOutput hdrives.live
  -- the baton is stored, the frame handler takes it out and calls
  let stored : VsyncState :=
    { w.state with vsyncBaton := baton, delivered := w.state.delivered ++ [baton] }
  let interval := frameInterval w.state.vsyncRateLimit out.wlrOutput.refresh
  let called : VsyncState :=
    { stored with
      vsyncBaton := 0
      calls := w.state.calls ++ [⟨baton, currentTime, currentTime + interval⟩] }
  have hstored : limitedFrames.step w (.engineVsyncCallback baton) = some ⟨stored, w.note⟩ :=
    Machine.watch_step.mpr ⟨if_pos hbaton, rfl⟩
  have hinterval : stored.interval ⟨.outputFrame, output, .holding baton⟩ = .ok interval := by
    show (Instance.deref w.state.compositor.outputObjects .freedOutput output >>= _) = _
    rw [hout]
    rfl
  have hcalled : stored.outputFrame output currentTime = .ok called := by
    unfold outputFrame returnBaton
    rw [if_pos hdrives.driver, if_pos hbaton, hinterval]
    rfl
  have hframe : limitedFrames.step ⟨stored, w.note⟩ (.outputFrame output currentTime)
      = some ⟨called, w.note⟩ :=
    Machine.watch_step.mpr ⟨guarded_eq_some.mpr ⟨hdrives.live, hcalled⟩, rfl⟩
  refine ⟨⟨called, w.note⟩, ⟨baton, currentTime, currentTime + interval⟩, ?_, rfl, rfl, ?_, rfl,
    rfl⟩
  · exact Machine.exec_cons.mpr ⟨_, hstored, Machine.exec_cons.mpr ⟨_, hframe, rfl⟩⟩
  · exact ⟨hdrives.live, hdrives.driver⟩

theorem note_le_calls {es : List FrameEvent}
    (h : limitedFrames.exec w es = some w') (hle : w.note ≤ w.state.calls.length) :
    w'.note ≤ w'.state.calls.length := by
  induction es generalizing w with
  | nil =>
      cases h
      exact hle
  | cons e es ih =>
      obtain ⟨w1, hstep, hrest⟩ := Machine.exec_cons.mp h
      refine ih hrest ?_
      obtain ⟨hstate, hnote⟩ := Machine.watch_step.mp hstep
      obtain ⟨calls, hcalls, -⟩ := frameStep_calls hstate
      rw [hcalls, List.length_append, hnote]
      unfold noteLimit
      split
      next =>
        split
        next => exact Nat.le_add_right_of_le hle
        next => exact Nat.le_add_right _ _
      next => exact Nat.le_add_right_of_le hle

/-- Two frames at one time, with a limit that has a period. -/
theorem exec_breaksRate {es : List FrameEvent}
    (h : limitedFrames.exec limitedFrames.init es = some w) (hclock : ClockRuns es)
    (hdrives : Drives w.state output) (hpos : 0 < w.state.vsyncRateLimit)
    (hslow : w.state.vsyncRateLimit ≤ 1000000000) :
    ∃ more w', limitedFrames.exec limitedFrames.init (es ++ more) = some w' ∧
      ClockRuns (es ++ more) ∧ w'.state.vsyncRateLimit = w.state.vsyncRateLimit ∧
      ¬ RateLimited w' := by
  -- a time that is no earlier than any reading so far
  obtain ⟨t, ht⟩ : ∃ t : UInt64, ∀ earlier ∈ readings es, earlier.toNat ≤ t.toNat :=
    ⟨UInt64.ofNat (2 ^ 64 - 1), fun earlier _ => by
      have := earlier.toNat_lt
      show _ ≤ 2 ^ 64 - 1
      omega⟩
  obtain ⟨w1, call1, hexec1, hnote1, hlimit1, hdrives1, hstart1, hcalls1⟩ :=
    exec_nextFrame 5 hdrives (by decide) t
  obtain ⟨w2, call2, hexec2, hnote2, hlimit2, -, hstart2, hcalls2⟩ :=
    exec_nextFrame 9 hdrives1 (by decide) t
  have hle := note_le_calls h (Nat.le_refl 0)
  refine ⟨nextFrame 5 output t ++ nextFrame 9 output t, w2, ?_, ?_, hlimit2.trans hlimit1, ?_⟩
  · rw [Machine.exec_append h, Machine.exec_append hexec1, hexec2]
  · have hreadings : readings (es ++ (nextFrame 5 output t ++ nextFrame 9 output t))
        = readings es ++ [t, t] := List.filterMap_append
    unfold ClockRuns
    rw [hreadings, List.pairwise_append]
    refine ⟨hclock, ?_, fun earlier hmem later hlater => ?_⟩
    · simp
    · have hsame : later = t := by simpa using hlater
      rw [hsame]
      exact ht earlier hmem
  · intro hlimited
    have hperiod : 0 < w2.state.period := by
      unfold period
      rw [hlimit2, hlimit1]
      exact Nat.div_pos (by omega) (by omega)
    have hcalls : callsUnderLimit w2 = callsUnderLimit w ++ [call1, call2] := by
      unfold callsUnderLimit
      rw [hnote2, hnote1, hcalls2, hcalls1, List.append_assoc, List.drop_append_of_le_length hle]
      rfl
    unfold RateLimited at hlimited
    rw [hcalls, List.isChain_append] at hlimited
    have happart := (List.isChain_cons_cons.mp hlimited.2.1).1
    rw [hstart1, hstart2] at happart
    omega

end VsyncState

/-! ## §5. The limits that are kept. -/

/-- One output with 60 Hz, and a limit. -/
def limitOneOutput (maxHz : Int) : List FrameEvent :=
  [.compositor (.newOutput ⟨0, some 60000, 1⟩ true), .setVsyncRateLimit maxHz]

theorem exec_limitOneOutput (maxHz : Int) :
    ∃ w, limitedFrames.exec limitedFrames.init (limitOneOutput maxHz) = some w ∧
      w.state.vsyncRateLimit = maxHz ∧ VsyncState.Drives w.state 0 := by
  have hfirst : (limitedFrames.step limitedFrames.init
      (.compositor (.newOutput ⟨0, some 60000, 1⟩ true))).map
        (fun w =>
          (decide (w.state.compositor.outputObjects.Live 0), w.state.compositor.vsyncOutput))
      = some (true, some 0) := by
    decide +kernel
  obtain ⟨w, hw, hend⟩ := Option.map_eq_some_iff.mp hfirst
  obtain ⟨hlive, hdriver⟩ := Prod.mk.inj hend
  refine ⟨_, Machine.exec_cons.mpr ⟨w, hw, rfl⟩, rfl, of_decide_eq_true hlive, hdriver⟩

/-- **The limits that are kept** are those whose period is no whole nanosecond. -/
theorem keepsRate_iff (maxHz : Int) (h : 0 < maxHz) : KeepsRate maxHz ↔ 1000000000 < maxHz := by
  constructor
  · intro hkeeps
    by_contra hslow
    obtain ⟨w, hw, hlimit, hdrives⟩ := exec_limitOneOutput maxHz
    obtain ⟨more, w', hexec, hclock, hlimit', hbroken⟩ :=
      VsyncState.exec_breaksRate hw List.Pairwise.nil hdrives (by rwa [hlimit])
        (by rw [hlimit]; exact Int.not_lt.mp hslow)
    exact hbroken (hkeeps _ w' hexec hclock (hlimit'.trans hlimit))
  · intro hfast es w hexec hclock hlimit
    exact VsyncState.rateLimited_of_fast hexec hclock (by rwa [hlimit])

/-- The greatest `int`. -/
theorem keepsRate_iff_greatest : KeepsRate 2147483647 :=
  (keepsRate_iff 2147483647 (by decide)).mpr (by decide)

/-- Two frames of a monitor with 60 Hz. -/
def twoFrames : List FrameEvent :=
  limitOneOutput 30 ++ [.engineVsyncCallback 5, .outputFrame 0 1000, .engineVsyncCallback 9,
    .outputFrame 0 16667666]

/-- **A limit of 30 Hz does not hold back the next frame of the monitor.** -/
theorem not_keepsRate_thirty : ¬ KeepsRate 30 := by
  intro hkeeps
  have hrun : (limitedFrames.exec limitedFrames.init twoFrames).map
      (fun w => (w.state.vsyncRateLimit, VsyncState.callsUnderLimit w))
        = some (30, [⟨5, 1000, 33334333⟩, ⟨9, 16667666, 50000999⟩]) := by
    decide +kernel
  obtain ⟨w, hw, hend⟩ := Option.map_eq_some_iff.mp hrun
  obtain ⟨hlimit, hcalls⟩ := Prod.mk.inj hend
  have hclock : ClockRuns twoFrames :=
    List.pairwise_pair.mpr (show 1000 ≤ 16667666 by decide)
  have hlimited := hkeeps twoFrames w hw hclock hlimit
  unfold VsyncState.RateLimited VsyncState.period at hlimited
  rw [hlimit, hcalls] at hlimited
  exact absurd (List.isChain_cons_cons.mp hlimited).1 (by decide)

end FlutterWlroots.Compositor
