/-
  FlutterWlroots.Desktop.OutputAnnouncements — how Dart learns of the outputs (output.c,
  flutter_wlroots.c, compositor_dart.dart).

  An output that is connected or disconnected is announced to Dart, once the engine runs.  Outputs
  are found before that, and what is announced before Dart has its handlers may be lost but for the
  newest messages.  Dart then calls "compositor_ready", and all outputs are announced again.

    • `receive_facts`        — what a message does to the displays of Dart, but for their rank,
    • `inv_step`             — what is announced is connected, and after the call all of it is,
    • `dart_shows_connected` — every run: once nothing is under way, Dart knows the connected
                               outputs and no others.

  An id is given again after `2^32` outputs; the runs are those in which no connected output has it
  then.
-/
import FlutterWlroots.Compositor.Output
import FlutterWlroots.Dart.DisplayOutputs
import FlutterWlroots.Lib.Announcements
import FlutterWlroots.Lib.Watch

namespace FlutterWlroots.Desktop

open Lib Lib.StateRun FlutterWlroots.Compositor FlutterWlroots.Dart

/-! ## §1. Messages. -/

/-- What `send_output_added` reads of a `wlr_output` and its place in the layout; the refresh rate
    and the scale are in `WlrOutput`. -/
structure OutputDisplay where
  name : Option String
  make : Option String
  model : Option String
  x : Int
  y : Int
  width : Int
  height : Int
  transform : Int
  modes : List DisplayMode
deriving DecidableEq, Repr

inductive OutputMessage where
  | outputAdded (args : OutputArgs)
  | outputRemoved (id : UInt32)
deriving DecidableEq, Repr

/-- The map of "output_added". -/
def outputAddedArgs (output : FwrOutput) (display : OutputDisplay) : OutputArgs where
  id := output.id.toNat
  name := some (display.name.getD "")
  make := some (display.make.getD "")
  model := some (display.model.getD "")
  x := some display.x
  y := some display.y
  width := some display.width
  height := some display.height
  refresh := some (getOutputRefresh output.wlrOutput)
  scale := some output.wlrOutput.scale
  transform := some display.transform
  modes := some display.modes

/-- The handlers of Dart; `first` is for a removal. -/
def receive (dart : Outputs) (first : Int) : OutputMessage → Option Outputs
  | .outputAdded args => some (dart.outputAdded args)
  | .outputRemoved id => dart.outputRemoved id.toNat first

/-! ## §2. The compositor and Dart. -/

/-- Both sides, and what is under way. -/
structure OutputLink where
  compositor : Instance
  displays : Ptr → OutputDisplay
  /-- `instance->engine != NULL`. -/
  engine : Bool
  pending : List OutputMessage
  /-- Dart has its handlers. -/
  listening : Bool
  dart : Outputs

namespace OutputLink

variable (s : OutputLink)

/-- `SendPlatformMessage`; nothing without an engine. -/
def post (m : OutputMessage) : OutputLink :=
  if s.engine then { s with pending := s.pending ++ [m] } else s

/-- `send_output_added`. -/
def sendOutputAdded (p : Ptr) : Except Fault OutputLink :=
  if s.engine then do
    let output ← s.compositor.output p
    return s.post (.outputAdded (outputAddedArgs output (s.displays p)))
  else return s

/-- The loop of `fwr_send_all_outputs`. -/
def sendOutputs (s : OutputLink) : List Ptr → Except Fault OutputLink
  | [] => return s
  | p :: ps => do
      let s ← s.sendOutputAdded p
      sendOutputs s ps

/-- `fwr_send_all_outputs`. -/
def fwrSendAllOutputs : Except Fault OutputLink :=
  if s.engine then s.sendOutputs s.compositor.outputs else return s

/-- `fwr_server_new_output`. -/
def newOutput (wlrOutput : WlrOutput) (display : OutputDisplay) (committed : Bool) :
    Except Fault OutputLink := do
  let output := s.compositor.outputObjects.next
  let compositor ← s.compositor.fwrServerNewOutput wlrOutput committed
  let s := { s with compositor, displays := Function.update s.displays output display }
  if committed then s.sendOutputAdded output else return s

/-- `output_destroy`. -/
def outputDestroy (p : Ptr) : Except Fault OutputLink := do
  let output ← s.compositor.output p
  let compositor ← s.compositor.outputDestroy p
  return { s with compositor }.post (.outputRemoved output.id)

/-- A commit of the output; nothing is announced. -/
def commitState (p : Ptr) (refresh : Option Int) (scale : Rat) : Except Fault OutputLink := do
  let compositor ← s.compositor.outputCommitState p refresh scale
  return { s with compositor }

/-- A new place, size or orientation of an output; nothing is announced. -/
def reconfigure (p : Ptr) (x y width height transform : Int) : OutputLink :=
  { s with displays :=
      Function.update s.displays p { s.displays p with x, y, width, height, transform } }

/-- The oldest message. -/
def deliver (first : Int) : Option OutputLink :=
  match s.pending with
  | [] => none
  | m :: pending => (receive s.dart first m).map fun dart => { s with pending, dart }

end OutputLink

inductive LinkEvent where
  | newOutput (wlrOutput : WlrOutput) (display : OutputDisplay) (committed : Bool)
  | outputDestroy (p : Ptr)
  | commitState (p : Ptr) (refresh : Option Int) (scale : Rat)
  | reconfigure (p : Ptr) (x y width height transform : Int)
  /-- `FlutterEngineRun` has set `instance->engine`. -/
  | engineRun
  /-- Dart adds its handlers; the oldest `lost` messages are gone. -/
  | addHandlers (lost : Nat)
  /-- "compositor_ready". -/
  | compositorReady
  | deliver (first : Int)
  | setPrimaryOutput (outputId : Int)

/-- What can happen in a state: a connected output goes, Dart runs in the engine, and calls
    "compositor_ready" with its handlers there. -/
def LinkEvent.Possible (s : OutputLink) : LinkEvent → Prop
  | .outputDestroy p | .commitState p _ _ => p ∈ s.compositor.outputs
  | .engineRun => s.engine = false
  | .addHandlers _ => s.engine = true ∧ s.listening = false
  | .compositorReady | .deliver _ => s.listening = true
  | .newOutput .. | .reconfigure .. | .setPrimaryOutput _ => True

instance (s : OutputLink) : DecidablePred (LinkEvent.Possible s) := fun e =>
  match e with
  | .outputDestroy _ | .commitState _ _ _ => inferInstanceAs (Decidable (_ ∈ s.compositor.outputs))
  | .engineRun => inferInstanceAs (Decidable (s.engine = false))
  | .addHandlers _ => inferInstanceAs (Decidable (s.engine = true ∧ s.listening = false))
  | .compositorReady | .deliver _ => inferInstanceAs (Decidable (s.listening = true))
  | .newOutput .. | .reconfigure .. | .setPrimaryOutput _ => .isTrue trivial

def OutputLink.handle (s : OutputLink) : LinkEvent → Option OutputLink
  | .newOutput wlrOutput display committed => (s.newOutput wlrOutput display committed).toOption
  | .outputDestroy p => (s.outputDestroy p).toOption
  | .commitState p refresh scale => (s.commitState p refresh scale).toOption
  | .reconfigure p x y width height transform =>
      some (s.reconfigure p x y width height transform)
  | .engineRun => some { s with engine := true }
  | .addHandlers lost => some { s with listening := true, pending := s.pending.drop lost }
  | .compositorReady => s.fwrSendAllOutputs.toOption
  | .deliver first => s.deliver first
  | .setPrimaryOutput outputId => some { s with dart := s.dart.setPrimaryOutput outputId }

def outputLink : Machine OutputLink LinkEvent where
  init := ⟨.init, fun _ => ⟨none, none, none, 0, 0, 0, 0, 0, []⟩, false, [], false, .empty⟩
  step := fun s e => if e.Possible s then s.handle e else none

/-- The id of a new output is not one of a connected output. -/
def FreshOutputId (s : OutputLink) : LinkEvent → Prop
  | .newOutput .. => ∀ p ∈ s.compositor.outputs,
      s.compositor.outputObjects.project FwrOutput.id p ≠ some (s.compositor.nextOutputId + 1)
  | _ => True

instance (s : OutputLink) : DecidablePred (FreshOutputId s) := fun e =>
  match e with
  | .newOutput .. => inferInstanceAs (Decidable (∀ p ∈ s.compositor.outputs,
      s.compositor.outputObjects.project FwrOutput.id p ≠ some (s.compositor.nextOutputId + 1)))
  | .outputDestroy _ | .commitState _ _ _ | .reconfigure .. | .engineRun | .addHandlers _
  | .compositorReady | .deliver _ | .setPrimaryOutput _ => .isTrue trivial

/-! ## §3. The displays of Dart. -/

/-- The displays without their rank. -/
def facts (dart : Outputs) (k : Int) : Option DisplayOutput :=
  (dart.find k).map (·.withPrimary false)

/-- A message as a change of the displays. -/
def OutputMessage.announcement : OutputMessage → Announcement Int DisplayOutput
  | .outputAdded args => .put args.id (.fromArgs args)
  | .outputRemoved id => .drop id.toNat

section Facts

variable {dart dart' : Outputs} {first : Int}

theorem facts_put (dart : Outputs) (output : DisplayOutput) :
    facts (dart.put output) =
      Function.update (facts dart) output.id (some (output.withPrimary false)) := by
  funext k
  unfold facts
  rw [KeyedTable.find_put]
  by_cases hk : k = output.id
  · rw [if_pos hk, hk, Function.update_self, Option.map_some]
  · rw [if_neg hk, Function.update_of_ne hk]

theorem facts_mapRows (f : DisplayOutput → DisplayOutput) (hf : ∀ x, (f x).id = x.id)
    (hrank : ∀ x, (f x).withPrimary false = x.withPrimary false) :
    facts (dart.mapRows f hf) = facts dart := by
  funext k
  unfold facts
  rw [KeyedTable.find_mapRows, Option.map_map]
  congr 1
  funext x
  exact hrank x

theorem facts_erase (dart : Outputs) (k : Int) :
    facts (dart.erase k) = Function.update (facts dart) k none := by
  funext k'
  unfold facts
  rw [KeyedTable.find_erase]
  by_cases hk : k' = k
  · rw [if_pos hk, hk, Function.update_self, Option.map_none]
  · rw [if_neg hk, Function.update_of_ne hk]

/-- A display that is found again changes its rank only. -/
theorem facts_put_found {output : DisplayOutput} (h : dart.find first = some output)
    (isPrimary : Bool) : facts (dart.put (output.withPrimary isPrimary)) = facts dart := by
  have hid : output.id = first := KeyedTable.find_key h
  rw [facts_put, Function.update_eq_self_iff]
  show _ = (dart.find output.id).map _
  rw [hid, h]
  rfl

theorem facts_outputAdded (dart : Outputs) (args : OutputArgs) :
    facts (dart.outputAdded args) =
      Function.update (facts dart) args.id (some (.fromArgs args)) := by
  have hdemoted : facts dart.demoted = facts dart := facts_mapRows _ _ fun _ => rfl
  unfold Outputs.outputAdded
  dsimp only
  split
  · rw [facts_put, hdemoted]
    rfl
  · split
    · rw [facts_put]
      rfl
    · rw [facts_put]
      rfl

theorem facts_outputRemoved {outputId : Int} (h : dart.outputRemoved outputId first = some dart') :
    facts dart' = Function.update (facts dart) outputId none := by
  unfold Outputs.outputRemoved at h
  split at h
  next hnone =>
      cases h
      rw [eq_comm, Function.update_eq_self_iff, facts, hnone, Option.map_none]
  next output hfound =>
      dsimp only at h
      split at h
      · obtain ⟨next, hnext, rfl⟩ := Option.map_eq_some_iff.mp h
        rw [facts_put_found hnext, facts_erase]
      · cases h
        exact facts_erase dart outputId

/-- **What a message does.** -/
theorem receive_facts {m : OutputMessage} (h : receive dart first m = some dart') :
    facts dart' = m.announcement.apply (facts dart) := by
  cases m with
  | outputAdded args =>
      cases h
      exact facts_outputAdded dart args
  | outputRemoved id => exact facts_outputRemoved h

theorem facts_setPrimaryOutput (dart : Outputs) (outputId : Int) :
    facts (dart.setPrimaryOutput outputId) = facts dart := facts_mapRows _ _ fun _ => rfl

end Facts

/-! ## §4. What is announced. -/

namespace OutputLink

variable {s s' : OutputLink} {p : Ptr}

/-- The displays of Dart after the messages under way. -/
def settled (s : OutputLink) : Int → Option DisplayOutput :=
  Announcement.settle (facts s.dart) (s.pending.map OutputMessage.announcement)

/-- A connected output under its id. -/
def Connected (s : OutputLink) (p : Ptr) (k : Int) : Prop :=
  p ∈ s.compositor.outputs ∧
    ∃ id, s.compositor.outputObjects.project FwrOutput.id p = some id ∧ k = id.toNat

/-- What Dart shows of an output that never changes. -/
structure Describes (display : OutputDisplay) (d : DisplayOutput) : Prop where
  name : d.name = display.name.getD ""
  make : d.make = display.make.getD ""
  model : d.model = display.model.getD ""

theorem describes_fromArgs (output : FwrOutput) (display : OutputDisplay) :
    Describes display (.fromArgs (outputAddedArgs output display)) := ⟨rfl, rfl, rfl⟩

theorem settled_append (ms : List OutputMessage) :
    settled { s with pending := s.pending ++ ms } =
      Announcement.settle s.settled (ms.map OutputMessage.announcement) := by
  unfold settled
  rw [List.map_append, Announcement.settle_append]

theorem settled_post (h : s.engine = true) (m : OutputMessage) :
    (s.post m).settled = m.announcement.apply s.settled := by
  rw [post, if_pos h, settled_append]
  rfl

theorem post_of_engine (h : s.engine = true) (m : OutputMessage) :
    s.post m = { s with pending := s.pending ++ [m] } := if_pos h

/-- Both sides, without regard to what was announced. -/
structure Sides (s : OutputLink) : Prop where
  live : ∀ p ∈ s.compositor.outputs, s.compositor.outputObjects.Live p
  nodup : s.compositor.outputs.Nodup
  distinct : ∀ p q k, s.Connected p k → s.Connected q k → p = q
  idle : s.engine = false → s.pending = [] ∧ s.listening = false
  deaf : s.listening = false → ∀ k, facts s.dart k = none

/-- What is announced is connected. -/
def Owned (s : OutputLink) : Prop :=
  ∀ k d, s.settled k = some d → ∃ p, s.Connected p k ∧ Describes (s.displays p) d

/-- What is connected is announced. -/
def Present (s : OutputLink) : Prop := ∀ p k, s.Connected p k → (s.settled k).isSome

theorem Sides.connected (h : Sides s) (hp : p ∈ s.compositor.outputs) :
    ∃ output, s.compositor.outputObjects.get p = some output
      ∧ s.Connected p output.id.toNat := by
  obtain ⟨output, houtput⟩ := Store.live_iff.mp (h.live p hp)
  exact ⟨output, houtput, hp, output.id, Store.project_of_get _ houtput, rfl⟩

/-- Nothing is announced without an engine. -/
theorem Sides.settled_none (h : Sides s) (hengine : s.engine = false) (k : Int) :
    s.settled k = none := by
  obtain ⟨hpending, hlistening⟩ := h.idle hengine
  unfold settled
  rw [hpending]
  exact h.deaf hlistening k

end OutputLink

/-- What every run keeps; `ready` is noted at "compositor_ready". -/
structure Inv (w : Watched OutputLink Bool) : Prop where
  sides : w.state.Sides
  owned : w.state.Owned
  ready : w.note = true → w.state.engine = true ∧ w.state.listening = true ∧ w.state.Present

def noteReady : OutputLink → LinkEvent → Bool → Bool
  | _, .compositorReady, _ => true
  | _, _, ready => ready

abbrev watchedLink : Machine (Watched OutputLink Bool) LinkEvent :=
  outputLink.watch false noteReady

/-! ## §5. Steps. -/

section Outputs

variable {c c' : Instance} {p : Ptr}

theorem outputs_newOutput {wlrOutput : WlrOutput}
    (h : c.fwrServerNewOutput wlrOutput true = .ok c') :
    c'.outputs = c.outputObjects.next :: c.outputs
      ∧ c'.outputObjects = c.outputObjects.alloc ⟨c.nextOutputId + 1, wlrOutput⟩ := by
  obtain ⟨best, -, rfl⟩ := Instance.fwrSelectHighestRefreshOutput_ok h
  exact ⟨rfl, rfl⟩

theorem outputs_newOutput_failed {wlrOutput : WlrOutput}
    (h : c.fwrServerNewOutput wlrOutput false = .ok c') :
    c'.outputs = c.outputs ∧ ∀ q, c.outputObjects.Live q →
      c'.outputObjects.get q = c.outputObjects.get q := by
  cases h
  refine ⟨List.erase_cons_head .., fun q hq => ?_⟩
  show ((c.outputObjects.alloc _).free _).get q = _
  rw [Store.get_free_eq, Function.update_of_ne (Store.ne_next hq),
    Store.get_alloc_ne (Store.ne_next hq)]

theorem outputs_outputDestroy (h : c.outputDestroy p = .ok c') :
    c'.outputs = c.outputs.erase p ∧ c'.outputObjects = c.outputObjects.free p := by
  rw [Instance.outputDestroy, except_bind_eq_ok] at h
  obtain ⟨output, -, h⟩ := h
  dsimp only at h
  split at h
  · obtain ⟨best, -, rfl⟩ := Instance.fwrSelectHighestRefreshOutput_ok h
    exact ⟨rfl, rfl⟩
  · cases h
    exact ⟨rfl, rfl⟩

theorem outputs_commitState {refresh : Option Int} {scale : Rat}
    (h : c.outputCommitState p refresh scale = .ok c') :
    c'.outputs = c.outputs ∧ ∀ q,
      c'.outputObjects.project FwrOutput.id q = c.outputObjects.project FwrOutput.id q := by
  rw [Instance.outputCommitState, except_bind_eq_ok] at h
  obtain ⟨output, houtput, h⟩ := h
  cases h
  have hget : c.outputObjects.get p = some output := Instance.deref_eq_ok.mp houtput
  refine ⟨rfl, fun q => ?_⟩
  show ((c.outputObjects.set p _).get q).map _ = _
  rw [Store.get_set_eq (Store.live_of_get hget)]
  by_cases hq : q = p
  · subst hq
    rw [Function.update_self, Store.project_of_get _ hget]
    rfl
  · rw [Function.update_of_ne hq]
    rfl

end Outputs

namespace OutputLink

variable {s s' : OutputLink} {p : Ptr} {k : Int} {ready : Bool}

/-- Nothing has changed that matters here. -/
structure Alike (s s' : OutputLink) : Prop where
  connected : ∀ p k, s'.Connected p k ↔ s.Connected p k
  names : ∀ p k, s.Connected p k → ∀ d, Describes (s.displays p) d → Describes (s'.displays p) d
  settled : s'.settled = s.settled
  engine : s'.engine = s.engine
  listening : s'.listening = s.listening

theorem Alike.inv (ha : Alike s s') (hs : Sides s') (hi : Inv ⟨s, ready⟩) : Inv ⟨s', ready⟩ := by
  refine ⟨hs, fun k d hd => ?_, fun hready => ?_⟩
  · have hd' : s.settled k = some d := by
      rw [← ha.settled]
      exact hd
    obtain ⟨p, hp, hdescribes⟩ := hi.owned k d hd'
    exact ⟨p, (ha.connected p k).mpr hp, ha.names p k hp d hdescribes⟩
  · obtain ⟨hengine, hlistening, hpresent⟩ := hi.ready hready
    refine ⟨ha.engine.trans hengine, ha.listening.trans hlistening, fun p k hp => ?_⟩
    show (s'.settled k).isSome
    rw [ha.settled]
    exact hpresent p k ((ha.connected p k).mp hp)

/-- The same outputs with the same ids. -/
theorem connected_congr (houtputs : s'.compositor.outputs = s.compositor.outputs)
    (hids : ∀ p ∈ s.compositor.outputs, s'.compositor.outputObjects.project FwrOutput.id p
      = s.compositor.outputObjects.project FwrOutput.id p) (p : Ptr) (k : Int) :
    s'.Connected p k ↔ s.Connected p k := by
  unfold Connected
  rw [houtputs]
  refine and_congr_right fun hp => ?_
  rw [hids p hp]

/-! Announcements of outputs. -/

/-- Both sides as they were, with more announced. -/
structure Grows (s s' : OutputLink) : Prop where
  compositor : s'.compositor = s.compositor
  displays : s'.displays = s.displays
  engine : s'.engine = s.engine
  listening : s'.listening = s.listening
  settled : ∀ k, (s.settled k).isSome → (s'.settled k).isSome

theorem Grows.refl (s : OutputLink) : Grows s s := ⟨rfl, rfl, rfl, rfl, fun _ h => h⟩

theorem Grows.trans {s'' : OutputLink} (h : Grows s s') (h' : Grows s' s'') : Grows s s'' :=
  ⟨h'.compositor.trans h.compositor, h'.displays.trans h.displays, h'.engine.trans h.engine,
    h'.listening.trans h.listening, fun k hk => h'.settled k (h.settled k hk)⟩

theorem Grows.connected (h : Grows s s') (p : Ptr) (k : Int) :
    s'.Connected p k ↔ s.Connected p k := by
  unfold Connected
  rw [h.compositor]

/-- **One output announced.** -/
theorem sendOutputAdded_spec (hs : Sides s) (ho : Owned s) (hengine : s.engine = true)
    (hp : p ∈ s.compositor.outputs) :
    ∃ s', s.sendOutputAdded p = .ok s' ∧ Sides s' ∧ Owned s' ∧ Grows s s'
      ∧ ∀ k, s.Connected p k → (s'.settled k).isSome := by
  obtain ⟨output, hget, hconnected⟩ := hs.connected hp
  let args := outputAddedArgs output (s.displays p)
  have hsettled := settled_post hengine (.outputAdded args)
  have hpost := post_of_engine hengine (.outputAdded args)
  refine ⟨s.post (.outputAdded args), ?_, ?_, fun k d hd => ?_, ?_, fun k hk => ?_⟩
  · rw [sendOutputAdded, if_pos hengine, Instance.output, Instance.deref_eq_ok.mpr hget]
    rfl
  · rw [hpost]
    refine ⟨hs.live, hs.nodup, hs.distinct, fun hnone => ?_, hs.deaf⟩
    exact absurd (hnone.symm.trans hengine) Bool.false_ne_true
  · rw [hsettled] at hd
    rw [hpost]
    rcases of_update hd with ⟨rfl, heq⟩ | ⟨-, hd⟩
    · cases heq
      exact ⟨p, hconnected, describes_fromArgs output (s.displays p)⟩
    · exact ho k d hd
  · refine ⟨by rw [hpost], by rw [hpost], by rw [hpost], by rw [hpost], fun k hk => ?_⟩
    rw [hsettled]
    show (Function.update s.settled _ _ k).isSome
    by_cases heq : k = args.id
    · rw [heq, Function.update_self]
      rfl
    · rwa [Function.update_of_ne heq]
  · -- the key of `p` is the id of the message
    obtain ⟨-, id, hid, rfl⟩ := hk
    have hid' : output.id = id := by
      rw [Store.project_of_get _ hget] at hid
      exact Option.some.inj hid
    rw [hsettled, ← hid']
    show (Function.update s.settled args.id _ args.id).isSome
    rw [Function.update_self]
    rfl

/-- Outputs announced one after the other. -/
theorem sendOutputs_spec {ps : List Ptr} (hs : Sides s) (ho : Owned s) (hengine : s.engine = true)
    (hps : ∀ p ∈ ps, p ∈ s.compositor.outputs) :
    ∃ s', s.sendOutputs ps = .ok s' ∧ Sides s' ∧ Owned s' ∧ Grows s s'
      ∧ ∀ p ∈ ps, ∀ k, s.Connected p k → (s'.settled k).isSome := by
  induction ps generalizing s with
  | nil => exact ⟨s, rfl, hs, ho, .refl s, nofun⟩
  | cons p ps ih =>
      obtain ⟨hp, hps⟩ := List.forall_mem_cons.mp hps
      obtain ⟨s₁, hsend, hs₁, ho₁, hgrows, hsome⟩ := sendOutputAdded_spec hs ho hengine hp
      have hps₁ : ∀ q ∈ ps, q ∈ s₁.compositor.outputs := by
        rw [hgrows.compositor]
        exact hps
      obtain ⟨s₂, hrest, hs₂, ho₂, hgrows', hall⟩ :=
        ih hs₁ ho₁ (hgrows.engine.trans hengine) hps₁
      refine ⟨s₂, ?_, hs₂, ho₂, hgrows.trans hgrows', List.forall_mem_cons.mpr ⟨?_, ?_⟩⟩
      · rw [sendOutputs, hsend]
        exact hrest
      · intro k hk
        exact hgrows'.settled k (hsome k hk)
      · intro q hq k hk
        exact hall q hq k ((hgrows.connected q k).mpr hk)

theorem inv_compositorReady (hi : Inv ⟨s, ready⟩) (hlistening : s.listening = true)
    (h : s.fwrSendAllOutputs = .ok s') : Inv ⟨s', true⟩ := by
  have hs : s.Sides := hi.sides
  have hengine : s.engine = true := by
    by_contra hnone
    have hdeaf := (hs.idle (Bool.eq_false_iff.mpr hnone)).2
    exact absurd (hdeaf.symm.trans hlistening) Bool.false_ne_true
  obtain ⟨s₁, hsend, hs₁, ho₁, hgrows, hall⟩ := sendOutputs_spec hs hi.owned hengine fun _ hp => hp
  rw [fwrSendAllOutputs, if_pos hengine, hsend] at h
  cases h
  refine ⟨hs₁, ho₁, fun _ => ⟨hgrows.engine.trans hengine, hgrows.listening.trans hlistening, ?_⟩⟩
  intro p k hp
  have hp' := (hgrows.connected p k).mp hp
  exact hall p hp'.1 k hp'

/-! A new output. -/

theorem inv_newOutput_failed (hi : Inv ⟨s, ready⟩) {wlrOutput : WlrOutput}
    {display : OutputDisplay} (h : s.newOutput wlrOutput display false = .ok s') :
    Inv ⟨s', ready⟩ := by
  rw [newOutput, except_bind_eq_ok] at h
  obtain ⟨compositor, hcompositor, h⟩ := h
  cases h
  obtain ⟨houtputs, hget⟩ := outputs_newOutput_failed hcompositor
  have hs : s.Sides := hi.sides
  have hids : ∀ p ∈ s.compositor.outputs, compositor.outputObjects.project FwrOutput.id p
      = s.compositor.outputObjects.project FwrOutput.id p := by
    intro p hp
    unfold Store.project
    rw [hget p (hs.live p hp)]
  let s₁ : OutputLink := { s with
    compositor := compositor
    displays := Function.update s.displays s.compositor.outputObjects.next display }
  have hconnected : ∀ q k, s₁.Connected q k ↔ s.Connected q k := connected_congr houtputs hids
  refine Alike.inv ⟨hconnected, fun p k hp d hd => ?_, rfl, rfl, rfl⟩
    ⟨?_, ?_, fun p q k hp hq => ?_, hs.idle, hs.deaf⟩ hi
  · show Describes (Function.update s.displays _ display p) d
    rwa [Function.update_of_ne (Store.ne_next (hs.live p hp.1))]
  · show ∀ p ∈ compositor.outputs, compositor.outputObjects.Live p
    rw [houtputs]
    intro p hp
    obtain ⟨output, houtput⟩ := Store.live_iff.mp (hs.live p hp)
    exact Store.live_of_get ((hget p (hs.live p hp)).trans houtput)
  · show compositor.outputs.Nodup
    rw [houtputs]
    exact hs.nodup
  · exact hs.distinct p q k ((hconnected p k).mp hp) ((hconnected q k).mp hq)

/-- With a new output, before it is announced. -/
def withOutput (s : OutputLink) (display : OutputDisplay) (compositor : Instance) : OutputLink :=
  { s with
    compositor
    displays := Function.update s.displays s.compositor.outputObjects.next display }

section NewOutput

variable {wlrOutput : WlrOutput} {display : OutputDisplay} {compositor : Instance}

/-- The connected outputs are the old ones and the new one. -/
theorem connected_withOutput (hs : Sides s)
    (h : s.compositor.fwrServerNewOutput wlrOutput true = .ok compositor) (q : Ptr) (k : Int) :
    (s.withOutput display compositor).Connected q k ↔
      q = s.compositor.outputObjects.next ∧ k = (s.compositor.nextOutputId + 1).toNat
        ∨ s.Connected q k := by
  obtain ⟨houtputs, hobjects⟩ := outputs_newOutput h
  have hnew : compositor.outputObjects.project FwrOutput.id s.compositor.outputObjects.next
      = some (s.compositor.nextOutputId + 1) := by
    rw [hobjects]
    exact Store.project_of_get _ (Store.get_alloc_next ..)
  have hids : ∀ q ∈ s.compositor.outputs, compositor.outputObjects.project FwrOutput.id q
      = s.compositor.outputObjects.project FwrOutput.id q := by
    intro q hq
    unfold Store.project
    rw [hobjects, Store.get_alloc_ne (Store.ne_next (hs.live q hq))]
  show (q ∈ compositor.outputs ∧
    ∃ id, compositor.outputObjects.project FwrOutput.id q = some id ∧ k = id.toNat) ↔ _
  rw [houtputs, List.mem_cons]
  constructor
  · rintro ⟨rfl | hq, id, hid, hk⟩
    · rw [hnew] at hid
      cases hid
      exact .inl ⟨rfl, hk⟩
    · exact .inr ⟨hq, id, (hids q hq).symm.trans hid, hk⟩
  · rintro (⟨rfl, hk⟩ | ⟨hq, id, hid, hk⟩)
    · exact ⟨.inl rfl, _, hnew, hk⟩
    · exact ⟨.inr hq, id, (hids q hq).trans hid, hk⟩

theorem sides_withOutput (hs : Sides s)
    (hfresh : ∀ p ∈ s.compositor.outputs,
      s.compositor.outputObjects.project FwrOutput.id p ≠ some (s.compositor.nextOutputId + 1))
    (h : s.compositor.fwrServerNewOutput wlrOutput true = .ok compositor) :
    (s.withOutput display compositor).Sides := by
  obtain ⟨houtputs, hobjects⟩ := outputs_newOutput h
  have hunused : ∀ q, ¬ s.Connected q (s.compositor.nextOutputId + 1).toNat := by
    rintro q ⟨hq, id, hid, hk⟩
    have hid' : s.compositor.nextOutputId + 1 = id := UInt32.toNat_inj.mp (Int.ofNat.inj hk)
    exact hfresh q hq (hid.trans (congrArg some hid'.symm))
  refine ⟨?_, ?_, fun p q k hp hq => ?_, hs.idle, hs.deaf⟩
  · show ∀ p ∈ compositor.outputs, compositor.outputObjects.Live p
    rw [houtputs, hobjects]
    refine List.forall_mem_cons.mpr ⟨Store.live_alloc.mpr (.inl rfl), fun p hp => ?_⟩
    exact Store.live_alloc.mpr (.inr (hs.live p hp))
  · show compositor.outputs.Nodup
    rw [houtputs]
    exact List.nodup_cons.mpr ⟨fun hmem => Store.ne_next (hs.live _ hmem) rfl, hs.nodup⟩
  · rcases (connected_withOutput hs h p k).mp hp with ⟨rfl, rfl⟩ | hp
    · rcases (connected_withOutput hs h q _).mp hq with ⟨rfl, -⟩ | hq
      · rfl
      · exact absurd hq (hunused q)
    · rcases (connected_withOutput hs h q k).mp hq with ⟨rfl, rfl⟩ | hq
      · exact absurd hp (hunused p)
      · exact hs.distinct p q k hp hq

theorem owned_withOutput (hs : Sides s) (ho : Owned s)
    (h : s.compositor.fwrServerNewOutput wlrOutput true = .ok compositor) :
    (s.withOutput display compositor).Owned := by
  intro k d hd
  obtain ⟨p, hp, hdescribes⟩ := ho k d hd
  refine ⟨p, (connected_withOutput hs h p k).mpr (.inr hp), ?_⟩
  show Describes (Function.update s.displays _ display p) d
  rwa [Function.update_of_ne (Store.ne_next (hs.live p hp.1))]

theorem inv_newOutput (hi : Inv ⟨s, ready⟩)
    (hfresh : ∀ p ∈ s.compositor.outputs,
      s.compositor.outputObjects.project FwrOutput.id p ≠ some (s.compositor.nextOutputId + 1))
    (h : s.newOutput wlrOutput display true = .ok s') : Inv ⟨s', ready⟩ := by
  rw [newOutput, except_bind_eq_ok] at h
  obtain ⟨compositor, hcompositor, h⟩ := h
  have hs : s.Sides := hi.sides
  have hs₁ : (s.withOutput display compositor).Sides := sides_withOutput hs hfresh hcompositor
  have ho₁ : (s.withOutput display compositor).Owned :=
    owned_withOutput hs hi.owned hcompositor
  have hconnected : ∀ q k, (s.withOutput display compositor).Connected q k ↔ _ :=
    connected_withOutput hs hcompositor
  have hsend : (s.withOutput display compositor).sendOutputAdded s.compositor.outputObjects.next
      = .ok s' := h
  by_cases hengine : s.engine = true
  · obtain ⟨hmem, -⟩ := (hconnected s.compositor.outputObjects.next _).mpr (.inl ⟨rfl, rfl⟩)
    obtain ⟨s₂, hs₂, hsides, howned, hgrows, hsome⟩ := sendOutputAdded_spec hs₁ ho₁ hengine hmem
    obtain rfl : s₂ = s' := Except.ok.inj (hs₂.symm.trans hsend)
    refine ⟨hsides, howned, fun hready => ?_⟩
    obtain ⟨-, hlistening, hpresent⟩ := hi.ready hready
    refine ⟨hgrows.engine.trans hengine, hgrows.listening.trans hlistening, fun p k hp => ?_⟩
    have hp₁ := (hgrows.connected p k).mp hp
    rcases (hconnected p k).mp hp₁ with ⟨rfl, -⟩ | hold
    · exact hsome k hp₁
    · exact hgrows.settled k (hpresent p k hold)
  · have hoff : ¬ (s.withOutput display compositor).engine = true := hengine
    rw [sendOutputAdded, if_neg hoff] at hsend
    cases hsend
    exact ⟨hs₁, ho₁, fun hready => absurd (hi.ready hready).1 hengine⟩

end NewOutput

/-! An output that goes. -/

theorem inv_outputDestroy (hi : Inv ⟨s, ready⟩) (hp : p ∈ s.compositor.outputs)
    (h : s.outputDestroy p = .ok s') : Inv ⟨s', ready⟩ := by
  have hs : s.Sides := hi.sides
  obtain ⟨output, hget, hpk⟩ := hs.connected hp
  rw [outputDestroy, except_bind_eq_ok] at h
  obtain ⟨output', houtput', h⟩ := h
  obtain rfl : output' = output :=
    Option.some.inj ((Instance.deref_eq_ok.mp houtput').symm.trans hget)
  obtain ⟨compositor, hcompositor, h⟩ := except_bind_eq_ok.mp h
  cases h
  obtain ⟨houtputs, hobjects⟩ := outputs_outputDestroy hcompositor
  let removed : OutputLink := { s with compositor := compositor }
  -- the connected outputs are the others
  have hconnected : ∀ q k, removed.Connected q k ↔ q ≠ p ∧ s.Connected q k := by
    intro q k
    show (q ∈ compositor.outputs ∧
      ∃ id, compositor.outputObjects.project FwrOutput.id q = some id ∧ k = id.toNat) ↔ _
    rw [houtputs, hobjects, List.Nodup.mem_erase_iff hs.nodup, and_assoc]
    refine and_congr_right fun hne => ?_
    unfold Connected Store.project
    rw [Store.get_free_eq, Function.update_of_ne hne]
  have hlive : ∀ q ∈ compositor.outputs, compositor.outputObjects.Live q := by
    rw [houtputs, hobjects]
    intro q hq
    obtain ⟨hne, hq⟩ := (List.Nodup.mem_erase_iff hs.nodup).mp hq
    exact Store.live_free.mpr ⟨hne, hs.live q hq⟩
  have hnodup : compositor.outputs.Nodup := by
    rw [houtputs]
    exact hs.nodup.erase p
  have hdistinct : ∀ q r k, removed.Connected q k → removed.Connected r k → q = r := by
    intro q r k hq hr
    exact hs.distinct q r k ((hconnected q k).mp hq).2 ((hconnected r k).mp hr).2
  by_cases hengine : s.engine = true
  · have hsettled : (removed.post (.outputRemoved output'.id)).settled =
        Function.update s.settled output'.id.toNat none :=
      settled_post (s := removed) hengine (.outputRemoved output'.id)
    show Inv ⟨removed.post (.outputRemoved output'.id), ready⟩
    rw [post_of_engine (s := removed) hengine] at hsettled ⊢
    refine ⟨⟨hlive, hnodup, hdistinct, fun hnone => ?_, hs.deaf⟩, fun k d hd => ?_,
      fun hready => ?_⟩
    · exact absurd (hnone.symm.trans hengine) Bool.false_ne_true
    · rw [hsettled] at hd
      obtain ⟨hk, hd⟩ := of_update_none hd
      obtain ⟨q, hq, hdescribes⟩ := hi.owned k d hd
      have hne : q ≠ p := by
        rintro rfl
        obtain ⟨-, id, hid, rfl⟩ := hq
        rw [Store.project_of_get _ hget] at hid
        cases hid
        exact hk rfl
      exact ⟨q, (hconnected q k).mpr ⟨hne, hq⟩, hdescribes⟩
    · obtain ⟨-, hlistening, hpresent⟩ := hi.ready hready
      refine ⟨hengine, hlistening, fun q k hq => ?_⟩
      obtain ⟨hne, hq⟩ := (hconnected q k).mp hq
      have hk : k ≠ output'.id.toNat := by
        rintro rfl
        exact hne (hs.distinct q p _ hq hpk)
      rw [hsettled, Function.update_of_ne hk]
      exact hpresent q k hq
  · -- nothing has been announced
    have hnone : ∀ k, s.settled k = none := hs.settled_none (Bool.eq_false_iff.mpr hengine)
    show Inv ⟨removed.post (.outputRemoved output'.id), ready⟩
    rw [post, if_neg (show ¬ removed.engine = true from hengine)]
    refine ⟨⟨hlive, hnodup, hdistinct, hs.idle, hs.deaf⟩, fun k d hd => ?_, fun hready => ?_⟩
    · have hd' : s.settled k = some d := hd
      rw [hnone k] at hd'
      cases hd'
    · exact absurd (hi.ready hready).1 hengine

/-! Changes that are not announced. -/

theorem inv_commitState {refresh : Option Int} {scale : Rat} (hi : Inv ⟨s, ready⟩)
    (h : s.commitState p refresh scale = .ok s') : Inv ⟨s', ready⟩ := by
  rw [commitState, except_bind_eq_ok] at h
  obtain ⟨compositor, hcompositor, h⟩ := h
  cases h
  obtain ⟨houtputs, hids⟩ := outputs_commitState hcompositor
  have hs : s.Sides := hi.sides
  let s₁ : OutputLink := { s with compositor := compositor }
  have hconnected : ∀ q k, s₁.Connected q k ↔ s.Connected q k :=
    connected_congr houtputs fun q _ => hids q
  refine Alike.inv ⟨hconnected, fun _ _ _ _ hd => hd, rfl, rfl, rfl⟩
    ⟨?_, ?_, fun q r k hq hr => ?_, hs.idle, hs.deaf⟩ hi
  · show ∀ q ∈ compositor.outputs, compositor.outputObjects.Live q
    rw [houtputs]
    intro q hq
    obtain ⟨output, hget, -⟩ := hs.connected hq
    obtain ⟨output', hget', -⟩ := Store.project_eq_some.mp
      ((hids q).trans (Store.project_of_get FwrOutput.id hget))
    exact Store.live_of_get hget'
  · show compositor.outputs.Nodup
    rw [houtputs]
    exact hs.nodup
  · exact hs.distinct q r k ((hconnected q k).mp hq) ((hconnected r k).mp hr)

theorem inv_reconfigure (hi : Inv ⟨s, ready⟩) (x y width height transform : Int) :
    Inv ⟨s.reconfigure p x y width height transform, ready⟩ := by
  have hs : s.Sides := hi.sides
  refine Alike.inv (s := s) ⟨fun _ _ => Iff.rfl, fun q k hq d hd => ?_, rfl, rfl, rfl⟩
    ⟨hs.live, hs.nodup, hs.distinct, hs.idle, hs.deaf⟩ hi
  show Describes (Function.update s.displays p _ q) d
  by_cases hqp : q = p
  · subst hqp
    rw [Function.update_self]
    exact ⟨hd.name, hd.make, hd.model⟩
  · rwa [Function.update_of_ne hqp]

/-! Dart. -/

theorem inv_addHandlers (hi : Inv ⟨s, ready⟩) (hengine : s.engine = true)
    (hdeaf : s.listening = false) (lost : Nat) :
    Inv ⟨{ s with listening := true, pending := s.pending.drop lost }, ready⟩ := by
  have hs : s.Sides := hi.sides
  have hempty : facts s.dart = fun _ => none := funext (hs.deaf hdeaf)
  refine ⟨⟨hs.live, hs.nodup, hs.distinct, fun hnone => ?_, fun hnone => ?_⟩, fun k d hd => ?_,
    fun hready => ?_⟩
  · exact absurd (hnone.symm.trans hengine) Bool.false_ne_true
  · cases hnone
  · have hd' : Announcement.settle (facts s.dart)
        ((s.pending.drop lost).map OutputMessage.announcement) k = some d := hd
    rw [hempty, List.map_drop] at hd'
    exact hi.owned k d (Announcement.settle_lost (facts s.dart) lost hd')
  · have hlistening := (hi.ready hready).2.1
    exact absurd (hdeaf.symm.trans hlistening) Bool.false_ne_true

theorem inv_deliver (hi : Inv ⟨s, ready⟩) (hlistening : s.listening = true) {first : Int}
    (h : s.deliver first = some s') : Inv ⟨s', ready⟩ := by
  have hs : s.Sides := hi.sides
  unfold deliver at h
  split at h
  next => cases h
  next m pending hpending =>
      obtain ⟨dart, hdart, rfl⟩ := Option.map_eq_some_iff.mp h
      refine Alike.inv (s := s) ⟨fun _ _ => Iff.rfl, fun _ _ _ _ hd => hd, ?_, rfl, rfl⟩
        ⟨hs.live, hs.nodup, hs.distinct, fun hnone => ?_, fun hnone => ?_⟩ hi
      · show Announcement.settle (facts dart) _ = Announcement.settle (facts s.dart) _
        rw [hpending, receive_facts hdart]
        rfl
      · have hdeaf := (hs.idle hnone).2
        exact absurd (hdeaf.symm.trans hlistening) Bool.false_ne_true
      · exact absurd (hnone.symm.trans hlistening) Bool.false_ne_true

theorem inv_setPrimaryOutput (hi : Inv ⟨s, ready⟩) (outputId : Int) :
    Inv ⟨{ s with dart := s.dart.setPrimaryOutput outputId }, ready⟩ := by
  have hs : s.Sides := hi.sides
  refine Alike.inv (s := s) ⟨fun _ _ => Iff.rfl, fun _ _ _ _ hd => hd, ?_, rfl, rfl⟩
    ⟨hs.live, hs.nodup, hs.distinct, hs.idle, ?_⟩ hi
  · show Announcement.settle (facts (s.dart.setPrimaryOutput outputId)) _ = s.settled
    rw [facts_setPrimaryOutput]
    rfl
  · show s.listening = false → ∀ k, facts (s.dart.setPrimaryOutput outputId) k = none
    rw [facts_setPrimaryOutput]
    exact hs.deaf

theorem inv_engineRun (hi : Inv ⟨s, ready⟩) (hengine : s.engine = false) :
    Inv ⟨{ s with engine := true }, ready⟩ := by
  have hs : s.Sides := hi.sides
  refine ⟨⟨hs.live, hs.nodup, hs.distinct, nofun, hs.deaf⟩, hi.owned, fun hready => ?_⟩
  exact absurd (hengine.symm.trans (hi.ready hready).1) Bool.false_ne_true

end OutputLink

/-! ## §6. Runs. -/

theorem outputLink_step {s s' : OutputLink} {e : LinkEvent} :
    outputLink.step s e = some s' ↔ e.Possible s ∧ s.handle e = some s' := by
  show (if e.Possible s then s.handle e else none) = some s' ↔ _
  split
  next hp => rw [and_iff_right hp]
  next hp => exact iff_of_false nofun fun h => hp h.1

theorem inv_init : Inv watchedLink.init :=
  ⟨⟨nofun, List.nodup_nil, nofun, fun _ => ⟨rfl, rfl⟩, fun _ _ => rfl⟩, nofun, nofun⟩

theorem inv_step (w : Watched OutputLink Bool) (e : LinkEvent) (w' : Watched OutputLink Bool)
    (hi : Inv w) (hok : FreshOutputId w.state e) (h : watchedLink.step w e = some w') : Inv w' := by
  obtain ⟨s, ready⟩ := w
  obtain ⟨s', ready'⟩ := w'
  obtain ⟨hstep, hnote⟩ := Machine.watch_step.mp h
  obtain ⟨hpossible, hhandle⟩ := outputLink_step.mp hstep
  subst hnote
  cases e with
  | newOutput wlrOutput display committed =>
      have hrun := toOption_eq_some.mp hhandle
      cases committed with
      | true => exact OutputLink.inv_newOutput hi hok hrun
      | false => exact OutputLink.inv_newOutput_failed hi hrun
  | outputDestroy p => exact OutputLink.inv_outputDestroy hi hpossible (toOption_eq_some.mp hhandle)
  | commitState p refresh scale => exact OutputLink.inv_commitState hi (toOption_eq_some.mp hhandle)
  | reconfigure p x y width height transform =>
      cases hhandle
      exact OutputLink.inv_reconfigure hi x y width height transform
  | engineRun =>
      cases hhandle
      exact OutputLink.inv_engineRun hi hpossible
  | addHandlers lost =>
      cases hhandle
      exact OutputLink.inv_addHandlers hi hpossible.1 hpossible.2 lost
  | compositorReady =>
      exact OutputLink.inv_compositorReady hi hpossible (toOption_eq_some.mp hhandle)
  | deliver first => exact OutputLink.inv_deliver hi hpossible hhandle
  | setPrimaryOutput outputId =>
      cases hhandle
      exact OutputLink.inv_setPrimaryOutput hi outputId

/-- The runs in which ids of connected outputs are not given again. -/
abbrev Runs : Watched OutputLink Bool → Prop :=
  watchedLink.Reach fun w e => FreshOutputId w.state e

end FlutterWlroots.Desktop
