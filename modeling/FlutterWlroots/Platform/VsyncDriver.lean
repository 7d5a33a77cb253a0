/-
  FlutterWlroots.Platform.VsyncDriver — which output drives vsync.

  Flutter can name an output; otherwise the output with the highest refresh rate is to drive vsync.
  `fwr_select_highest_refresh_output` searches for that one, and finds nothing if all rates are 0.
  It is called for every output that is connected, whatever has been named, when the driver is
  disconnected, and when an id is unknown, but not when the mode of an output changes.

    • `handle_rightAfter` — after which events the driver is the right one,
    • `reach_elected`     — the runs in which it always is.
-/
import FlutterWlroots.Lib.Election
import FlutterWlroots.Platform.MistypedArguments

namespace FlutterWlroots.Platform

open Lib Lib.StateRun FlutterWlroots.Compositor FlutterWlroots.Codec

/-! ## §1. Events. -/

/-- The outputs, and the one that the last `set_vsync_output` named. -/
structure DriverState where
  fwr : FwrInstance
  named : Option Ptr

namespace DriverState

abbrev compositor (s : DriverState) : Instance := s.fwr.compositor

abbrev outputs (s : DriverState) : List Ptr := s.compositor.outputs

/-- The driver is what it should be. -/
abbrev Right (s : DriverState) : Prop :=
  Elected (refreshOf s.compositor) s.outputs s.named s.compositor.vsyncOutput

end DriverState

/-- What happens to outputs; an output that is connected brings its modes along. -/
inductive OutputEvent where
  | newOutput (wlrOutput : WlrOutput) (config : OutputConfig) (committed : Bool)
  | outputDestroy (output : Ptr)
  | setOutputMode (outputId : UInt32) (width height refresh : Int) (committed : Bool)
  | setVsyncOutput (outputId : UInt32)

/-- No refresh rate is negative, and only what is connected is disconnected. -/
def OutputEvent.Deliverable (s : DriverState) : OutputEvent → Prop
  | .newOutput wlrOutput config _ =>
      0 ≤ getOutputRefresh wlrOutput ∧ ∀ mode ∈ config.modes, 0 ≤ mode.refresh
  | .outputDestroy p => p ∈ s.outputs
  | .setOutputMode .. => True
  | .setVsyncOutput _ => True

instance (s : DriverState) : (e : OutputEvent) → Decidable (e.Deliverable s)
  | .newOutput wlrOutput config _ => inferInstanceAs (Decidable
      (0 ≤ getOutputRefresh wlrOutput ∧ ∀ mode ∈ config.modes, 0 ≤ mode.refresh))
  | .outputDestroy p => inferInstanceAs (Decidable (p ∈ s.outputs))
  | .setOutputMode .. => inferInstanceAs (Decidable True)
  | .setVsyncOutput _ => inferInstanceAs (Decidable True)

/-- The handler of an event. -/
def DriverState.handle (s : DriverState) : OutputEvent → Except Fault DriverState
  | .newOutput wlrOutput config committed => do
      let compositor ← s.compositor.fwrServerNewOutput wlrOutput committed
      return { s with
        fwr := (s.fwr.setCompositor compositor).setOutputConfig
          s.compositor.outputObjects.next config }
  | .outputDestroy p => do
      let compositor ← s.compositor.outputDestroy p
      return { s with fwr := s.fwr.setCompositor compositor }
  | .setOutputMode outputId width height refresh committed => do
      let (fwr, _) ← s.fwr.fwrSetOutputMode ⟨fun _ _ => none, none, committed⟩ outputId width
        height refresh
      return { s with fwr }
  | .setVsyncOutput outputId => do
      let compositor ← s.compositor.fwrSetVsyncOutput outputId
      let found ← findOutputById s.compositor outputId
      return {
        fwr := s.fwr.setCompositor compositor
        named := if outputId = 0 then none else found }

/-- The outputs, from a start without any. -/
def outputDriver (wlSocket : CString) : Machine DriverState OutputEvent where
  init := ⟨.init wlSocket, none⟩
  step := fun s e => if e.Deliverable s then (s.handle e).toOption else none

theorem outputDriver_step {wlSocket : CString} {s s' : DriverState} {e : OutputEvent} :
    (outputDriver wlSocket).step s e = some s' ↔ e.Deliverable s ∧ s.handle e = .ok s' :=
  guarded_eq_some

/-- The connected output with an id. -/
def outputOfId (s : Instance) (outputId : UInt32) : Option Ptr :=
  s.outputs.find? fun p => (s.outputObjects.get p).any (·.id == outputId)

/-- The condition on an event under which the driver stays the right one. -/
def KeepsDriver (s : DriverState) : OutputEvent → Prop
  -- some rate is positive, and an output that was named leads the new one as well
  | .newOutput wlrOutput _ committed => committed = true →
      (0 < getOutputRefresh wlrOutput ∨ SomePositive (refreshOf s.compositor) s.outputs) ∧
        ∀ p ∈ s.named, p ∈ s.outputs →
          getOutputRefresh wlrOutput < refreshOf s.compositor p ∧
            Leads (refreshOf s.compositor) s.outputs p
  -- if the driver goes, some rate of the others is positive
  | .outputDestroy p => s.compositor.vsyncOutput = some p →
      s.outputs.erase p = [] ∨ SomePositive (refreshOf s.compositor) (s.outputs.erase p)
  -- an output was named, or the driver still has the highest rate
  | .setOutputMode outputId width height refresh committed => committed = true →
      (∀ n ∈ s.named, n ∉ s.outputs) → ∀ p ∈ outputOfId s.compositor outputId,
        ∀ mode ∈ bestMode width height refresh (s.fwr.outputConfigs p).modes none,
          (s.compositor.vsyncOutput = some p →
            ∀ q ∈ s.outputs, q ≠ p → refreshOf s.compositor q ≤ mode.refresh) ∧
          ∀ d ∈ s.compositor.vsyncOutput, d ≠ p → mode.refresh ≤ refreshOf s.compositor d
  -- an output is named, or some rate is positive
  | .setVsyncOutput outputId =>
      (outputId ≠ 0 ∧ (outputOfId s.compositor outputId).isSome) ∨
        s.outputs = [] ∨ SomePositive (refreshOf s.compositor) s.outputs

instance (s : DriverState) : (e : OutputEvent) → Decidable (KeepsDriver s e)
  | .newOutput wlrOutput _ committed => inferInstanceAs (Decidable (committed = true →
      (0 < getOutputRefresh wlrOutput ∨ SomePositive (refreshOf s.compositor) s.outputs) ∧
        ∀ p ∈ s.named, p ∈ s.outputs →
          getOutputRefresh wlrOutput < refreshOf s.compositor p ∧
            Leads (refreshOf s.compositor) s.outputs p))
  | .outputDestroy p => inferInstanceAs (Decidable (s.compositor.vsyncOutput = some p →
      s.outputs.erase p = [] ∨ SomePositive (refreshOf s.compositor) (s.outputs.erase p)))
  | .setOutputMode outputId width height refresh committed => inferInstanceAs (Decidable
      (committed = true →
      (∀ n ∈ s.named, n ∉ s.outputs) → ∀ p ∈ outputOfId s.compositor outputId,
        ∀ mode ∈ bestMode width height refresh (s.fwr.outputConfigs p).modes none,
          (s.compositor.vsyncOutput = some p →
            ∀ q ∈ s.outputs, q ≠ p → refreshOf s.compositor q ≤ mode.refresh) ∧
          ∀ d ∈ s.compositor.vsyncOutput, d ≠ p → mode.refresh ≤ refreshOf s.compositor d))
  | .setVsyncOutput outputId => inferInstanceAs (Decidable
      ((outputId ≠ 0 ∧ (outputOfId s.compositor outputId).isSome) ∨
        s.outputs = [] ∨ SomePositive (refreshOf s.compositor) s.outputs))

/-! ## §2. The searches. -/

section Searches

variable {s s' : Instance} {p : Ptr} {ps : List Ptr}

theorem leads_of_firstHighest : ∀ {ps : List Ptr} {p : Ptr}, firstHighest s ps = some p →
    Leads (refreshOf s) ps p := by
  intro ps
  induction ps with
  | nil =>
      intro p h
      cases h
  | cons q ps ih =>
      intro p h
      rw [firstHighest] at h
      split at h
      next hnone =>
        cases h
        -- there is no other output
        have hnil : ps = [] := by
          cases ps with
          | nil => rfl
          | cons r ps =>
              rw [firstHighest] at hnone
              split at hnone
              · cases hnone
              · split at hnone
                · cases hnone
                · cases hnone
        subst hnil
        exact leads_cons_self.mpr fun b hb => absurd hb List.not_mem_nil
      next r hr =>
        have hleads := ih hr
        split at h
        next hlt =>
          cases h
          have hne : p ≠ q := by
            rintro rfl
            exact Int.lt_irrefl _ hlt
          exact (leads_cons_of_ne hne).mpr ⟨hlt, hleads⟩
        next hge =>
          cases h
          exact leads_cons_self.mpr fun b hb => Int.le_trans (hleads.le hb) (Int.not_lt.mp hge)

theorem firstHighest_eq_some_iff : firstHighest s ps = some p ↔ Leads (refreshOf s) ps p := by
  refine ⟨leads_of_firstHighest, fun h => ?_⟩
  cases hfirst : firstHighest s ps with
  | none =>
      cases ps with
      | nil => cases h.1
      | cons q ps =>
          rw [firstHighest] at hfirst
          split at hfirst
          · cases hfirst
          · split at hfirst
            · cases hfirst
            · cases hfirst
  | some q => rw [(leads_of_firstHighest hfirst).unique h]

/-- The automatic choice is the one of the search. -/
theorem automatic_highestRefreshOutput (s : Instance) :
    Automatic (refreshOf s) s.outputs (highestRefreshOutput s) := by
  intro p
  unfold highestRefreshOutput
  rw [Option.filter_eq_some_iff, firstHighest_eq_some_iff, decide_eq_true_eq]

theorem refreshOf_congr (h : s'.outputObjects.get p = s.outputObjects.get p) :
    refreshOf s' p = refreshOf s p := by
  unfold refreshOf
  rw [h]

theorem findOutput_eq {found : FwrOutput → Bool} (hlive : ∀ p ∈ ps, s.outputObjects.Live p) :
    s.findOutput found ps = .ok (ps.find? fun p => (s.outputObjects.get p).any found) := by
  induction ps with
  | nil => rfl
  | cons q ps ih =>
      obtain ⟨output, houtput⟩ := Store.live_iff.mp (hlive q List.mem_cons_self)
      have hread : s.output q = .ok output := Instance.deref_eq_ok.mpr houtput
      rw [Instance.findOutput, hread]
      show (if found output then _ else _) = _
      rw [ih fun p hp => hlive p (List.mem_cons_of_mem q hp), List.find?_cons, houtput]
      cases hfound : found output with
      | true => simp [hfound]
      | false => simp [hfound]

theorem findOutputById_eq (hlive : ∀ p ∈ s.outputs, s.outputObjects.Live p) (outputId : UInt32) :
    findOutputById s outputId = .ok (outputOfId s outputId) := findOutput_eq hlive

theorem outputOfId_mem {outputId : UInt32} (h : outputOfId s outputId = some p) : p ∈ s.outputs :=
  List.mem_of_find?_eq_some h

end Searches

/-! ## §3. What an event does to the driver. -/

/-- The list leads to outputs that are there, each once; what was named is not to come. -/
structure Wired (s : DriverState) : Prop where
  live : ∀ p ∈ s.outputs, s.compositor.outputObjects.Live p
  nodup : s.outputs.Nodup
  named : ∀ p, s.named = some p → p < s.compositor.outputObjects.next

/-- The event is handled, and the driver is the right one after it just if the condition is met. -/
def RightAfter (s : DriverState) (e : OutputEvent) : Prop :=
  ∃ s', s.handle e = .ok s' ∧ Wired s' ∧ (s'.Right ↔ KeepsDriver s e)

section Events

variable {s : DriverState}

theorem fwrServerNewOutput_failed (s : Instance) (wlrOutput : WlrOutput) :
    s.fwrServerNewOutput wlrOutput false =
      .ok { s with
        nextOutputId := s.nextOutputId + 1
        outputObjects := (s.outputObjects.alloc ⟨s.nextOutputId + 1, wlrOutput⟩).free
          s.outputObjects.next } := by
  simp [Instance.fwrServerNewOutput]

/-- What is in the list is kept by an output that is not. -/
theorem refreshOf_alloc {s s' : Instance} {output : FwrOutput}
    (h : s'.outputObjects = s.outputObjects.alloc output) {p : Ptr} (hp : s.outputObjects.Live p) :
    refreshOf s' p = refreshOf s p := by
  refine refreshOf_congr ?_
  rw [h]
  exact Store.get_alloc_ne (Store.ne_next hp)

theorem handle_newOutput {wlrOutput : WlrOutput} {config : OutputConfig} {committed : Bool}
    {compositor : Instance}
    (h : s.compositor.fwrServerNewOutput wlrOutput committed = .ok compositor) :
    s.handle (.newOutput wlrOutput config committed) = .ok { s with
      fwr := (s.fwr.setCompositor compositor).setOutputConfig
        s.compositor.outputObjects.next config } := by
  show (s.compositor.fwrServerNewOutput wlrOutput committed >>= _) = _
  rw [h]
  rfl

theorem newOutput_failed_right (hw : Wired s) (hr : s.Right) (wlrOutput : WlrOutput)
    (config : OutputConfig) : RightAfter s (.newOutput wlrOutput config false) := by
  refine ⟨_, handle_newOutput (fwrServerNewOutput_failed ..),
    ⟨fun p hp => ?_, hw.nodup, fun p hp => ?_⟩, iff_of_true ?_ nofun⟩
  · exact Store.live_free.mpr ⟨Store.ne_next (hw.live p hp),
      Store.live_alloc.mpr (.inr (hw.live p hp))⟩
  · exact Nat.lt_succ_of_lt (hw.named p hp)
  · refine Elected.congr hr fun p hp => refreshOf_congr ?_
    have hne := Store.ne_next (hw.live p hp)
    show ((s.compositor.outputObjects.alloc _).free _).get p = _
    rw [Store.get_free_eq, Function.update_of_ne hne, Store.get_alloc_ne hne]

theorem newOutput_committed_right (hw : Wired s) (wlrOutput : WlrOutput) (config : OutputConfig) :
    RightAfter s (.newOutput wlrOutput config true) := by
  have hne : ∀ {p}, p ∈ s.outputs → p ≠ s.compositor.outputObjects.next :=
    fun hp => Store.ne_next (hw.live _ hp)
  let output : FwrOutput := ⟨s.compositor.nextOutputId + 1, wlrOutput⟩
  let connected : Instance := { s.compositor with
    nextOutputId := s.compositor.nextOutputId + 1
    outputObjects := s.compositor.outputObjects.alloc output
    outputs := s.compositor.outputObjects.next :: s.outputs }
  have hlive : ∀ p ∈ connected.outputs, connected.outputObjects.Live p := by
    intro p hp
    rcases List.mem_cons.mp hp with rfl | hmem
    · exact Store.live_alloc.mpr (.inl rfl)
    · exact Store.live_alloc.mpr (.inr (hw.live p hmem))
  have hhandle : s.compositor.fwrServerNewOutput wlrOutput true =
      .ok { connected with vsyncOutput := highestRefreshOutput connected } :=
    fwrSelectHighestRefreshOutput_eq hlive
  have hold : ∀ p ∈ s.outputs, refreshOf connected p = refreshOf s.compositor p :=
    fun p hp => refreshOf_alloc rfl (hw.live p hp)
  have hnew : refreshOf connected s.compositor.outputObjects.next = getOutputRefresh wlrOutput := by
    unfold refreshOf
    rw [show connected.outputObjects.get s.compositor.outputObjects.next = some output from
      Store.get_alloc_next ..]
  refine ⟨_, handle_newOutput hhandle,
    ⟨hlive, ?_, fun p hp => Nat.lt_succ_of_lt (hw.named p hp)⟩, ?_⟩
  · exact List.nodup_cons.mpr ⟨fun hmem => hne hmem rfl, hw.nodup⟩
  · have hauto : Elected (refreshOf connected) connected.outputs s.named _ ↔ _ :=
      (automatic_highestRefreshOutput connected).elected_iff
    have hpositive : SomePositive (refreshOf connected) connected.outputs ↔
        0 < getOutputRefresh wlrOutput ∨ SomePositive (refreshOf s.compositor) s.outputs := by
      unfold SomePositive
      rw [List.exists_mem_cons_iff, hnew]
      exact or_congr_right (somePositive_congr hold)
    have hleads : ∀ {p}, p ∈ s.outputs → (Leads (refreshOf connected) connected.outputs p ↔
        getOutputRefresh wlrOutput < refreshOf s.compositor p ∧
          Leads (refreshOf s.compositor) s.outputs p) := by
      intro p hp
      rw [leads_cons_of_ne (hne hp), hnew, hold p hp, leads_congr hold]
    refine hauto.trans ⟨fun ⟨hsome, hnamed⟩ _ => ⟨?_, fun p hp hmem => ?_⟩, fun h => ⟨?_, ?_⟩⟩
    · exact hpositive.mp (hsome.resolve_left nofun)
    · exact (hleads hmem).mp (hnamed p hp (List.mem_cons_of_mem _ hmem))
    · exact .inr (hpositive.mpr (h rfl).1)
    · intro p hp hmem
      -- what was named is not the output that is new
      have hold : p ∈ s.outputs :=
        (List.mem_cons.mp hmem).resolve_left (Nat.ne_of_lt (hw.named p hp))
      exact (hleads hold).mpr ((h rfl).2 p hp hold)

theorem handle_outputDestroy {p : Ptr} {compositor : Instance}
    (h : s.compositor.outputDestroy p = .ok compositor) :
    s.handle (.outputDestroy p) = .ok { s with fwr := s.fwr.setCompositor compositor } := by
  show (s.compositor.outputDestroy p >>= _) = _
  rw [h]
  rfl

theorem outputDestroy_right (hw : Wired s) (hr : s.Right) {p : Ptr} (hp : p ∈ s.outputs) :
    RightAfter s (.outputDestroy p) := by
  obtain ⟨output, hread⟩ := Instance.deref_of_live .freedOutput (hw.live p hp)
  let removed : Instance := { s.compositor with
    outputs := s.outputs.erase p
    outputObjects := s.compositor.outputObjects.free p }
  have hmem : ∀ {q}, q ∈ s.outputs.erase p ↔ q ≠ p ∧ q ∈ s.outputs :=
    List.Nodup.mem_erase_iff hw.nodup
  have hlive : ∀ q ∈ s.outputs.erase p, (s.compositor.outputObjects.free p).Live q :=
    fun q hq => Store.live_free.mpr ⟨(hmem.mp hq).1, hw.live q (hmem.mp hq).2⟩
  have hrate : ∀ q ∈ s.outputs.erase p, refreshOf removed q = refreshOf s.compositor q := by
    intro q hq
    refine refreshOf_congr ?_
    show (s.compositor.outputObjects.free p).get q = _
    rw [Store.get_free_eq, Function.update_of_ne (hmem.mp hq).1]
  have hnodup : (s.outputs.erase p).Nodup := hw.nodup.erase p
  by_cases hdriver : s.compositor.vsyncOutput = some p
  · have hselect : ({ removed with vsyncOutput := none } : Instance).fwrSelectHighestRefreshOutput =
        .ok { removed with
          vsyncOutput := highestRefreshOutput { removed with vsyncOutput := none } } :=
      fwrSelectHighestRefreshOutput_eq hlive
    have hhandle : s.compositor.outputDestroy p = .ok { removed with
        vsyncOutput := highestRefreshOutput { removed with vsyncOutput := none } } := by
      show (s.compositor.output p >>= _) = _
      rw [show s.compositor.output p = .ok output from hread]
      simpa [hdriver, bind, Except.bind] using hselect
    refine ⟨_, handle_outputDestroy hhandle, ⟨hlive, hnodup, hw.named⟩, ?_⟩
    have hauto : Elected (refreshOf removed) removed.outputs s.named _ ↔ _ :=
      (automatic_highestRefreshOutput { removed with vsyncOutput := none }).elected_iff
    have helected : Elected (refreshOf s.compositor) s.outputs s.named (some p) := by
      rw [← hdriver]
      exact hr
    have hgone : ∀ n, s.named = some n → n ∉ s.outputs.erase p :=
      fun n hn => helected.named_notMem_erase hw.nodup hn
    refine hauto.trans ⟨fun ⟨hsome, _⟩ _ => hsome.imp_right (somePositive_congr hrate).mp,
      fun h => ⟨(h hdriver).imp_right (somePositive_congr hrate).mpr,
        fun n hn hkept => absurd hkept (hgone n hn)⟩⟩
  · have hhandle : s.compositor.outputDestroy p = .ok removed := by
      show (s.compositor.output p >>= _) = _
      rw [show s.compositor.output p = .ok output from hread]
      simp [hdriver, bind, Except.bind, removed]
    refine ⟨_, handle_outputDestroy hhandle, ⟨hlive, hnodup, hw.named⟩,
      iff_of_true ?_ fun h => absurd h hdriver⟩
    exact (hr.erase hdriver).congr hrate

theorem handle_setVsyncOutput {outputId : UInt32} {compositor : Instance} {found : Option Ptr}
    (h : s.compositor.fwrSetVsyncOutput outputId = .ok compositor)
    (hfound : findOutputById s.compositor outputId = .ok found) :
    s.handle (.setVsyncOutput outputId) = .ok {
      fwr := s.fwr.setCompositor compositor
      named := if outputId = 0 then none else found } := by
  show (s.compositor.fwrSetVsyncOutput outputId >>= _) = _
  rw [h]
  show (findOutputById s.compositor outputId >>= _) = _
  rw [hfound]
  rfl

theorem setVsyncOutput_right (hw : Wired s) (outputId : UInt32) :
    RightAfter s (.setVsyncOutput outputId) := by
  have hfound := findOutputById_eq hw.live outputId
  have hauto : Elected (refreshOf s.compositor) s.outputs none _ ↔ _ :=
    (automatic_highestRefreshOutput s.compositor).elected_iff
  by_cases hnamed : outputId ≠ 0 ∧ (outputOfId s.compositor outputId).isSome
  · -- the output is found
    obtain ⟨hne, hsome⟩ := hnamed
    obtain ⟨p, hp⟩ := Option.isSome_iff_exists.mp hsome
    have hmem := outputOfId_mem hp
    have hhandle : s.compositor.fwrSetVsyncOutput outputId =
        .ok { s.compositor with vsyncOutput := some p } := by
      unfold Instance.fwrSetVsyncOutput
      rw [if_neg hne]
      show (findOutputById s.compositor outputId >>= _) = _
      rw [hfound, hp]
      rfl
    refine ⟨_, handle_setVsyncOutput hhandle hfound, ⟨hw.live, hw.nodup, fun q hq => ?_⟩,
      iff_of_true ?_ (.inl ⟨hne, hsome⟩)⟩
    · rw [if_neg hne, hp] at hq
      cases hq
      exact s.compositor.outputObjects.fresh p (hw.live p hmem)
    · show Elected _ _ (if outputId = 0 then none else outputOfId s.compositor outputId) (some p)
      rw [if_neg hne, hp]
      refine ⟨iff_of_false nofun (List.ne_nil_of_mem hmem), fun _ h _ => h, fun h => ?_⟩
      exact absurd hmem (h p rfl)
  · -- the search
    have hhandle : s.compositor.fwrSetVsyncOutput outputId =
        .ok { s.compositor with vsyncOutput := highestRefreshOutput s.compositor } := by
      unfold Instance.fwrSetVsyncOutput
      by_cases hzero : outputId = 0
      · rw [if_pos hzero]
        exact fwrSelectHighestRefreshOutput_eq hw.live
      · have hnone : outputOfId s.compositor outputId = none := by
          rw [← Option.not_isSome_iff_eq_none]
          exact fun h => hnamed ⟨hzero, h⟩
        rw [if_neg hzero]
        show (findOutputById s.compositor outputId >>= _) = _
        rw [hfound, hnone]
        exact fwrSelectHighestRefreshOutput_eq hw.live
    have hnone : (if outputId = 0 then none else outputOfId s.compositor outputId) = none := by
      split
      · rfl
      · next hne =>
          rw [← Option.not_isSome_iff_eq_none]
          exact fun h => hnamed ⟨hne, h⟩
    refine ⟨_, handle_setVsyncOutput hhandle hfound, ⟨hw.live, hw.nodup, fun q hq => ?_⟩, ?_⟩
    · rw [hnone] at hq
      cases hq
    · show Elected (refreshOf s.compositor) s.outputs
        (if outputId = 0 then none else outputOfId s.compositor outputId) _ ↔ _
      rw [hnone]
      refine hauto.trans ⟨fun ⟨hsome, _⟩ => .inr hsome, fun h => ⟨h.resolve_left hnamed, nofun⟩⟩

theorem handle_setOutputMode {outputId : UInt32} {width height refresh : Int}
    {committed success : Bool} {fwr : FwrInstance}
    (h : s.fwr.fwrSetOutputMode ⟨fun _ _ => none, none, committed⟩ outputId width height refresh =
      .ok (fwr, success)) :
    s.handle (.setOutputMode outputId width height refresh committed) = .ok { s with fwr } := by
  show (s.fwr.fwrSetOutputMode _ _ _ _ _ >>= _) = _
  rw [h]
  rfl

/-- A mode that is set. -/
theorem setOutputMode_accepted_right (hw : Wired s) (hr : s.Right) {outputId : UInt32}
    {width height refresh : Int} {p : Ptr} {mode : WlrOutputMode}
    (hid : outputOfId s.compositor outputId = some p)
    (hmode : bestMode width height refresh (s.fwr.outputConfigs p).modes none = some mode) :
    RightAfter s (.setOutputMode outputId width height refresh true) := by
  have hmem := outputOfId_mem hid
  obtain ⟨output, houtput⟩ := Store.live_iff.mp (hw.live p hmem)
  have hread : s.compositor.output p = .ok output := Instance.deref_eq_ok.mpr houtput
  let tuned : Instance := { s.compositor with
    outputObjects := s.compositor.outputObjects.set p { output with
      wlrOutput := { output.wlrOutput with refresh := some mode.refresh } } }
  have hcommit : s.compositor.outputCommitState p (some mode.refresh) output.wlrOutput.scale =
      .ok tuned := by
    unfold Instance.outputCommitState
    rw [hread]
    rfl
  have hhandle : s.fwr.fwrSetOutputMode ⟨fun _ _ => none, none, true⟩ outputId width height
      refresh = .ok ((s.fwr.setCompositor tuned).setOutputConfig p
        { s.fwr.outputConfigs p with width := mode.width, height := mode.height }, true) := by
    unfold FwrInstance.fwrSetOutputMode
    rw [findOutputById_eq hw.live, hid]
    simp only [bind, Except.bind, hmode, hread, hcommit]
    rfl
  have hother : ∀ q, q ≠ p → refreshOf tuned q = refreshOf s.compositor q :=
    fun q hq => refreshOf_congr (Store.get_set_ne hq)
  have hself : refreshOf tuned p = mode.refresh := by
    unfold refreshOf
    rw [show tuned.outputObjects.get p = _ from Store.get_set_self (hw.live p hmem)]
    rfl
  have hwired : Wired ⟨(s.fwr.setCompositor tuned).setOutputConfig p
      { s.fwr.outputConfigs p with width := mode.width, height := mode.height }, s.named⟩ := by
    refine ⟨fun q hq => Store.live_set.mpr (hw.live q hq), hw.nodup, fun q hq => ?_⟩
    have hlt := hw.named q hq
    rwa [← Store.next_set s.compositor.outputObjects p] at hlt
  refine ⟨_, handle_setOutputMode hhandle, hwired, ?_⟩
  refine (Elected.retune_iff hr hmem hother).trans ?_
  rw [hself]
  constructor
  · intro h _ hgone q hq mode' hbest
    cases hid.symm.trans hq
    cases hmode.symm.trans hbest
    exact h hgone
  · intro h hgone
    exact h rfl hgone p hid mode hmode

theorem setOutputMode_right (hw : Wired s) (hr : s.Right) (outputId : UInt32)
    (width height refresh : Int) (committed : Bool) :
    RightAfter s (.setOutputMode outputId width height refresh committed) := by
  have hfound := findOutputById_eq hw.live outputId
  have hunchanged : s.fwr.fwrSetOutputMode ⟨fun _ _ => none, none, committed⟩ outputId
      width height refresh = .ok (s.fwr, false) →
      KeepsDriver s (.setOutputMode outputId width height refresh committed) →
      RightAfter s (.setOutputMode outputId width height refresh committed) :=
    fun hhandle hkeeps => ⟨s, handle_setOutputMode hhandle, hw, iff_of_true hr hkeeps⟩
  cases hid : outputOfId s.compositor outputId with
  | none =>
      refine hunchanged ?_ fun _ _ p hp => ?_
      · unfold FwrInstance.fwrSetOutputMode
        rw [hfound, hid]
        rfl
      · rw [hid] at hp
        cases hp
  | some p =>
      cases hmode : bestMode width height refresh (s.fwr.outputConfigs p).modes none with
      | none =>
          refine hunchanged ?_ fun _ _ q hq mode hbest => ?_
          · unfold FwrInstance.fwrSetOutputMode
            rw [hfound, hid]
            simp only [bind, Except.bind, hmode]
            rfl
          · cases hid.symm.trans hq
            cases hmode.symm.trans hbest
      | some mode =>
          cases committed with
          | true => exact setOutputMode_accepted_right hw hr hid hmode
          | false =>
              refine hunchanged ?_ nofun
              unfold FwrInstance.fwrSetOutputMode
              rw [hfound, hid]
              simp only [bind, Except.bind, hmode]
              rfl

/-- **After an event the driver is the right one just if the condition is met.** -/
theorem handle_rightAfter {e : OutputEvent} (hw : Wired s) (hr : s.Right) (he : e.Deliverable s) :
    RightAfter s e := by
  cases e with
  | newOutput wlrOutput config committed =>
      cases committed with
      | false => exact newOutput_failed_right hw hr wlrOutput config
      | true => exact newOutput_committed_right hw wlrOutput config
  | outputDestroy p => exact outputDestroy_right hw hr he
  | setOutputMode outputId width height refresh committed =>
      exact setOutputMode_right hw hr outputId width height refresh committed
  | setVsyncOutput outputId => exact setVsyncOutput_right hw outputId

end Events

/-! ## §4. Runs. -/

section Runs

variable {wlSocket : CString} {s : DriverState}

theorem wired_init : Wired (outputDriver wlSocket).init where
  live := nofun
  nodup := List.nodup_nil
  named := nofun

theorem right_init : (outputDriver wlSocket).init.Right where
  none_iff := iff_of_true rfl rfl
  named := nofun
  highest := fun _ _ h => by cases h

/-- **The driver is the right one while every event meets the condition.** -/
theorem reach_elected (hs : (outputDriver wlSocket).Reach KeepsDriver s) :
    Elected (refreshOf s.compositor) s.outputs s.named s.compositor.vsyncOutput := by
  have hboth : Wired s ∧ s.Right := by
    refine Machine.Reach.invariant (P := fun s => Wired s ∧ s.Right) ⟨wired_init, right_init⟩
      (fun s e s' ⟨hw, hr⟩ hok hstep => ?_) hs
    obtain ⟨hdeliverable, hhandle⟩ := outputDriver_step.mp hstep
    obtain ⟨s'', hhandle', hw', hiff⟩ := handle_rightAfter hw hr hdeliverable
    cases hhandle.symm.trans hhandle'
    exact ⟨hw', hiff.mpr hok⟩
  exact hboth.2

/-- An output is named while a faster one is there, which goes; a slower one comes, and the output
    that was named gets a mode that is slower still. -/
theorem reach_elected_named : ∃ s, (outputDriver (.ofLiteral "wayland-1")).Reach KeepsDriver s ∧
    Elected (refreshOf s.compositor) s.outputs s.named s.compositor.vsyncOutput ∧
    (s.named, s.outputs, s.compositor.vsyncOutput) = (some 0, [2, 0], some 0) := by
  have hrun : (((outputDriver (.ofLiteral "wayland-1")).execIf KeepsDriver
      (outputDriver (.ofLiteral "wayland-1")).init
      [.newOutput ⟨0, some 60000, 1⟩ ⟨[⟨1920, 1080, 60000⟩, ⟨1280, 720, 24000⟩], 0, 0, none⟩ true,
        .newOutput ⟨1, some 144000, 1⟩ ⟨[], 0, 0, none⟩ true,
        .setVsyncOutput 1,
        .outputDestroy 1,
        .newOutput ⟨2, some 30000, 1⟩ ⟨[], 0, 0, none⟩ true,
        .setOutputMode 1 1280 720 24000 true]).map
      fun s => (s.named, s.outputs, s.compositor.vsyncOutput)) =
        some (some 0, [2, 0], some 0) := by decide +kernel
  obtain ⟨s, hs, hend⟩ := Option.map_eq_some_iff.mp hrun
  have hreach := Machine.reach_execIf _ .init hs
  exact ⟨s, hreach, reach_elected hreach, hend⟩

/-- **A hotplug overrides what was named**: a faster output takes over from the one that Flutter has
    chosen. -/
theorem not_elected_hotplug : ¬ ∀ s, (outputDriver (.ofLiteral "wayland-1")).Reachable s →
    Elected (refreshOf s.compositor) s.outputs s.named s.compositor.vsyncOutput := by
  intro hall
  have hrun : (((outputDriver (.ofLiteral "wayland-1")).exec
      (outputDriver (.ofLiteral "wayland-1")).init
      [.newOutput ⟨0, some 60000, 1⟩ ⟨[], 0, 0, none⟩ true,
        .setVsyncOutput 1,
        .newOutput ⟨1, some 144000, 1⟩ ⟨[], 0, 0, none⟩ true]).map
      fun s => (s.named, s.outputs, s.compositor.vsyncOutput)) =
        some (some 0, [1, 0], some 1) := by decide +kernel
  obtain ⟨s, hs, hend⟩ := Option.map_eq_some_iff.mp hrun
  obtain ⟨hnamed, houtputs, hdriver⟩ : s.named = some 0 ∧ s.outputs = [1, 0] ∧
      s.compositor.vsyncOutput = some 1 := by
    simpa only [Prod.mk.injEq] using hend
  have helected := hall s (Machine.reach_exec _ .init hs)
  have hchosen := helected.named 0 hnamed (by rw [houtputs]; decide)
  rw [hdriver] at hchosen
  cases hchosen

end Runs

end FlutterWlroots.Platform
