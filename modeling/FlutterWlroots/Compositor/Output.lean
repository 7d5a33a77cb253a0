/-
  FlutterWlroots.Compositor.Output — the outputs of output.c.

  Connecting and disconnecting, the choice of the output that drives vsync, and the output a box is
  on.  Each operation comes with what it does to the pointers: the functions that choose an output
  choose one that is connected.
-/
import FlutterWlroots.Lib.StateRun
import FlutterWlroots.Compositor.Instance

namespace FlutterWlroots.Compositor

open Lib Lib.StateRun

/-- The output layout: the output at a point (`wlr_output_layout_output_at`). -/
abbrev OutputLayout := Rat → Rat → Option Nat

/-- `get_output_refresh`, in mHz. -/
def getOutputRefresh (output : WlrOutput) : Int := output.refresh.getD 60000

namespace Instance

/-! ## §1. Choosing an output. -/

/-- The loop of `fwr_select_highest_refresh_output`. -/
def highestRefresh (s : Instance) : List Ptr → Option Ptr → Int → Except Fault (Option Ptr)
  | [], best, _ => .ok best
  | p :: ps, best, bestRefresh => do
      let output ← s.output p
      let refresh := getOutputRefresh output.wlrOutput
      if bestRefresh < refresh then highestRefresh s ps (some p) refresh
      else highestRefresh s ps best bestRefresh

/-- `fwr_select_highest_refresh_output`. -/
def fwrSelectHighestRefreshOutput (s : Instance) : Except Fault Instance := do
  let best ← s.highestRefresh s.outputs none 0
  .ok { s with vsyncOutput := best }

/-- The first output of a list with a given property. -/
def findOutput (s : Instance) (found : FwrOutput → Bool) : List Ptr → Except Fault (Option Ptr)
  | [] => .ok none
  | p :: ps => do
      let output ← s.output p
      if found output then .ok (some p) else findOutput s found ps

/-- `fwr_set_vsync_output`. -/
def fwrSetVsyncOutput (s : Instance) (outputId : UInt32) : Except Fault Instance :=
  if outputId = 0 then s.fwrSelectHighestRefreshOutput
  else do
    match ← s.findOutput (fun output => output.id == outputId) s.outputs with
    | some p => .ok { s with vsyncOutput := some p }
    | none => s.fwrSelectHighestRefreshOutput

/-- `fwr_get_first_output`. -/
def fwrGetFirstOutput (s : Instance) : Option Ptr := s.outputs.head?

/-- `fwr_output_for_box`: the output the centre of a box is on. -/
def fwrOutputForBox (s : Instance) (layout : OutputLayout) (x y width height : Int) :
    Except Fault (Option Ptr) :=
  let cx : Rat := x + (width : Rat) / 2
  let cy : Rat := y + (height : Rat) / 2
  match layout cx cy with
  | none => .ok s.fwrGetFirstOutput
  | some wlrOut => do
      match ← s.findOutput (fun output => output.wlrOutput.id == wlrOut) s.outputs with
      | some p => .ok (some p)
      | none => .ok s.fwrGetFirstOutput

/-- The scale cached for an output, 1.0 without one. -/
def scaleOf (s : Instance) : Option Ptr → Except Fault Rat
  | none => .ok 1
  | some p => do
      let output ← s.output p
      .ok output.wlrOutput.scale

/-- A cached output is followed for a message or for the log, if there is one. -/
def readOutput (s : Instance) : Option Ptr → Except Fault Unit
  | none => .ok ()
  | some p => do
      let _ ← s.output p
      .ok ()

/-! ## §2. Connecting and disconnecting. -/

/-- `fwr_server_new_output`; `committed` is the result of `wlr_output_commit_state`. -/
def fwrServerNewOutput (s : Instance) (wlrOutput : WlrOutput) (committed : Bool) :
    Except Fault Instance :=
  let id := s.nextOutputId + 1
  let output := s.outputObjects.next
  let connected : Instance :=
    { s with
      nextOutputId := id
      outputObjects := s.outputObjects.alloc ⟨id, wlrOutput⟩
      outputs := output :: s.outputs }
  if committed then connected.fwrSelectHighestRefreshOutput
  else
    -- clean up on failure
    .ok { connected with
      outputs := connected.outputs.erase output
      outputObjects := connected.outputObjects.free output }

/-- `output_destroy`: the output is taken off the list and freed, and vsync moves to another one.
    The views, subsurfaces and popups that cache it are not visited. -/
def outputDestroy (s : Instance) (output : Ptr) : Except Fault Instance := do
  let _ ← s.output output
  let wasVsyncOutput : Bool := s.vsyncOutput = some output
  let removed : Instance :=
    { s with
      outputs := s.outputs.erase output
      vsyncOutput := if wasVsyncOutput then none else s.vsyncOutput
      outputObjects := s.outputObjects.free output }
  if wasVsyncOutput then removed.fwrSelectHighestRefreshOutput else .ok removed

/-- A commit of the output changes its mode or scale: `output_request_state`,
    `fwr_set_output_mode`, `fwr_set_output_scale`. -/
def outputCommitState (s : Instance) (p : Ptr) (refresh : Option Int) (scale : Rat) :
    Except Fault Instance := do
  let output ← s.output p
  .ok { s with
    outputObjects := s.outputObjects.set p
      { output with wlrOutput := { output.wlrOutput with refresh := refresh, scale := scale } } }

/-! ## §3. What is chosen is connected. -/

variable {s s' : Instance} {p : Ptr}

theorem highestRefresh_mem {s : Instance} {ps : List Ptr} {best result : Option Ptr} {r : Int}
    (h : s.highestRefresh ps best r = .ok result) {p : Ptr} (hp : result = some p) :
    best = some p ∨ p ∈ ps := by
  induction ps generalizing best r with
  | nil =>
      cases h
      exact .inl hp
  | cons q ps ih =>
      rw [highestRefresh, except_bind_eq_ok] at h
      obtain ⟨output, -, h⟩ := h
      dsimp only at h
      split at h
      · rcases ih h with heq | hmem
        · cases heq
          exact .inr List.mem_cons_self
        · exact .inr (List.mem_cons_of_mem q hmem)
      · exact (ih h).imp_right (List.mem_cons_of_mem q)

/-- The vsync output is chosen among the connected ones. -/
theorem fwrSelectHighestRefreshOutput_ok (h : s.fwrSelectHighestRefreshOutput = .ok s') :
    ∃ best, (∀ p, best = some p → p ∈ s.outputs) ∧ s' = { s with vsyncOutput := best } := by
  rw [fwrSelectHighestRefreshOutput, except_bind_eq_ok] at h
  obtain ⟨best, hbest, h⟩ := h
  cases h
  exact ⟨best, fun p hp => (highestRefresh_mem hbest hp).resolve_left nofun, rfl⟩

theorem findOutput_mem {s : Instance} {found : FwrOutput → Bool} {ps : List Ptr}
    {result : Option Ptr} (h : s.findOutput found ps = .ok result) {p : Ptr}
    (hp : result = some p) : p ∈ ps := by
  induction ps with
  | nil =>
      cases h
      cases hp
  | cons q ps ih =>
      rw [findOutput, except_bind_eq_ok] at h
      obtain ⟨output, -, h⟩ := h
      split at h
      · cases h
        cases hp
        exact List.mem_cons_self
      · exact List.mem_cons_of_mem q (ih h)

theorem fwrSetVsyncOutput_ok {outputId : UInt32} (h : s.fwrSetVsyncOutput outputId = .ok s') :
    ∃ best, (∀ p, best = some p → p ∈ s.outputs) ∧ s' = { s with vsyncOutput := best } := by
  rw [fwrSetVsyncOutput] at h
  split at h
  · exact fwrSelectHighestRefreshOutput_ok h
  · rw [except_bind_eq_ok] at h
    obtain ⟨result, hresult, h⟩ := h
    split at h
    · cases h
      exact ⟨_, fun q hq => findOutput_mem hresult hq, rfl⟩
    · exact fwrSelectHighestRefreshOutput_ok h

theorem fwrGetFirstOutput_mem (h : s.fwrGetFirstOutput = some p) : p ∈ s.outputs :=
  List.mem_of_head? h

/-- **The output a box is on is a connected one.** -/
theorem fwrOutputForBox_mem {layout : OutputLayout} {x y width height : Int} {result : Option Ptr}
    (h : s.fwrOutputForBox layout x y width height = .ok result) (hp : result = some p) :
    p ∈ s.outputs := by
  rw [fwrOutputForBox] at h
  split at h
  · cases h
    exact fwrGetFirstOutput_mem hp
  · rw [except_bind_eq_ok] at h
    obtain ⟨found, hfound, h⟩ := h
    split at h
    · cases h
      exact findOutput_mem hfound hp
    · cases h
      exact fwrGetFirstOutput_mem hp

end Instance

end FlutterWlroots.Compositor
