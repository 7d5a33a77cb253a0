/-
  FlutterWlroots.Dart.DisplayOutputs — the displays that Dart knows (compositor_dart.dart, output.dart).

  `Compositor.outputs` is a `HashMap` by id.  The display at the origin is made the primary one, or
  the first that comes, or the one an app asks for; when it goes, any other takes its place.  A display
  that comes again under its id replaces the old entry, without its rank, and a request for a display
  that is gone takes the rank from all others.

    • `step_exactlyOne_iff`  — which events keep the primary display unique,
    • `along_exactlyOne_iff` — in which runs it is always unique.

  The order of a `HashMap` means nothing; which entry is the first one comes with the event.  The
  streams of changes and the answer of the compositor are left out.
-/
import Mathlib.Data.Rat.Defs
import FlutterWlroots.Lib.KeyedTable
import FlutterWlroots.Lib.Machine

namespace FlutterWlroots.Dart

open Lib

/-! ## §1. output.dart. -/

/-- `DisplayMode`. -/
structure DisplayMode where
  width : Int
  height : Int
  refresh : Int
deriving DecidableEq, Repr

/-- `DisplayOutput`. -/
structure DisplayOutput where
  id : Int
  name : String
  make : String
  model : String
  x : Int
  y : Int
  width : Int
  height : Int
  refreshRate : Int
  scale : Rat
  transform : Int
  availableModes : List DisplayMode
  isPrimary : Bool
deriving DecidableEq, Repr

/-- The arguments of the messages, as far as they are there. -/
structure OutputArgs where
  id : Int
  name : Option String
  make : Option String
  model : Option String
  x : Option Int
  y : Option Int
  width : Option Int
  height : Option Int
  refresh : Option Int
  scale : Option Rat
  transform : Option Int
  modes : Option (List DisplayMode)
deriving DecidableEq, Repr

namespace DisplayOutput

/-- `updateFrom`. -/
def updateFrom (output : DisplayOutput) (args : OutputArgs) : DisplayOutput :=
  { output with
    x := args.x.getD output.x
    y := args.y.getD output.y
    width := args.width.getD output.width
    height := args.height.getD output.height
    refreshRate := args.refresh.getD output.refreshRate
    scale := args.scale.getD output.scale
    transform := args.transform.getD output.transform
    availableModes := args.modes.getD output.availableModes }

/-- `DisplayOutput.fromArgs`. -/
def fromArgs (args : OutputArgs) : DisplayOutput :=
  updateFrom
    { id := args.id, name := args.name.getD "", make := args.make.getD ""
      model := args.model.getD "", x := 0, y := 0, width := 0, height := 0, refreshRate := 60000
      scale := 1, transform := 0, availableModes := [], isPrimary := false }
    args

/-- The flag set or cleared. -/
def withPrimary (output : DisplayOutput) (isPrimary : Bool) : DisplayOutput :=
  { output with isPrimary }

@[simp] theorem withPrimary_id (output : DisplayOutput) (isPrimary : Bool) :
    (output.withPrimary isPrimary).id = output.id := rfl

@[simp] theorem updateFrom_id (output : DisplayOutput) (args : OutputArgs) :
    (output.updateFrom args).id = output.id := rfl

@[simp] theorem fromArgs_id (args : OutputArgs) : (fromArgs args).id = args.id := rfl

end DisplayOutput

/-! ## §2. compositor_dart.dart. -/

/-- `Compositor.outputs`. -/
abbrev Outputs := KeyedTable DisplayOutput DisplayOutput.id

/-- What can happen to the displays. -/
inductive OutputEvent where
  | outputAdded (args : OutputArgs)
  /-- `first` is the id of `outputs.values.first` after the removal. -/
  | outputRemoved (outputId first : Int)
  | outputChanged (args : OutputArgs)
  | setPrimaryOutput (outputId : Int)

namespace Outputs

variable (outputs : Outputs)

/-- No display is primary. -/
def demoted : Outputs :=
  outputs.mapRows (·.withPrimary false) fun output => output.withPrimary_id false

/-- The handler of "output_added". -/
def outputAdded (args : OutputArgs) : Outputs :=
  let output := DisplayOutput.fromArgs args
  if output.x = 0 ∧ output.y = 0 then
    outputs.demoted.put (output.withPrimary true)
  else if outputs.isEmpty then outputs.put (output.withPrimary true)
  -- an entry under the same id goes, and its flag with it
  else outputs.put output

/-- The handler of "output_removed". -/
def outputRemoved (outputId first : Int) : Option Outputs :=
  match outputs.find outputId with
  | none => some outputs
  | some output =>
      let rest := outputs.erase outputId
      if output.isPrimary ∧ rest.isEmpty = false then
        (rest.find first).map fun output => rest.put (output.withPrimary true)
      else some rest

/-- The handler of "output_changed". -/
def outputChanged (args : OutputArgs) : Outputs :=
  match outputs.find args.id with
  | none => outputs
  | some output => outputs.put (output.updateFrom args)

/-- `setPrimaryOutput`. -/
def setPrimaryOutput (outputId : Int) : Outputs :=
  outputs.mapRows (fun output => output.withPrimary (output.id = outputId))
    fun output => output.withPrimary_id (output.id = outputId)

/-- An event; nothing that is not in the table can be its first entry. -/
def step : OutputEvent → Option Outputs
  | .outputAdded args => some (outputs.outputAdded args)
  | .outputRemoved outputId first => outputs.outputRemoved outputId first
  | .outputChanged args => some (outputs.outputChanged args)
  | .setPrimaryOutput outputId => some (outputs.setPrimaryOutput outputId)

end Outputs

/-- The displays of Dart. -/
def displays : Machine Outputs OutputEvent where
  init := .empty
  step := Outputs.step

/-! ## §3. The primary display. -/

namespace Outputs

/-- The number of primary displays. -/
def primaries (outputs : Outputs) : Nat := outputs.count (·.isPrimary)

/-- **Exactly one display is primary**, if there is one. -/
def ExactlyOne (outputs : Outputs) : Prop :=
  outputs.primaries = if outputs.isEmpty then 0 else 1

instance (outputs : Outputs) : Decidable outputs.ExactlyOne :=
  inferInstanceAs (Decidable (_ = _))

/-- A display that comes again is not the primary one, unless it is at the origin now; a display that
    is to be the primary one is there. -/
def KeepsPrimary (outputs : Outputs) : OutputEvent → Prop
  | .outputAdded args =>
      (DisplayOutput.fromArgs args).x = 0 ∧ (DisplayOutput.fromArgs args).y = 0 ∨
        (outputs.find args.id).all (!·.isPrimary)
  | .setPrimaryOutput outputId => outputs.isEmpty ∨ (outputs.find outputId).isSome
  | _ => True

instance (outputs : Outputs) : (e : OutputEvent) → Decidable (outputs.KeepsPrimary e)
  | .outputAdded _ => inferInstanceAs (Decidable (_ ∨ _))
  | .setPrimaryOutput _ => inferInstanceAs (Decidable (_ ∨ _))
  | .outputRemoved .. | .outputChanged _ => .isTrue trivial

variable {outputs outputs' : Outputs} {args : OutputArgs} {outputId first : Int}
  {output : DisplayOutput}

/-- A table that has entries. -/
theorem exactlyOne_put : ExactlyOne (outputs.put output) ↔
    primaries (outputs.erase output.id) + (if output.isPrimary then 1 else 0) = 1 := by
  unfold ExactlyOne primaries
  rw [KeyedTable.count_put, KeyedTable.isEmpty_put, if_neg Bool.false_ne_true]

theorem primaries_demoted : outputs.demoted.primaries = 0 := by
  unfold primaries demoted
  rw [KeyedTable.count_mapRows]
  exact List.countP_eq_zero.mpr fun _ _ => Bool.false_ne_true

theorem primaries_erase_le (outputs : Outputs) (outputId : Int) :
    primaries (outputs.erase outputId) ≤ outputs.primaries :=
  List.filter_sublist.countP_le

/-- An entry that is there is not alone in being none. -/
theorem isEmpty_of_find (h : outputs.find outputId = some output) : outputs.isEmpty = false := by
  cases hempty : outputs.isEmpty with
  | false => rfl
  | true =>
      have hcount := KeyedTable.count_of_isEmpty hempty (·.id = outputId)
      rw [KeyedTable.count_key, h] at hcount
      cases hcount

/-- The primary display is the entry, or one of the others. -/
theorem primaries_of_find (h : outputs.find outputId = some output) (hone : outputs.ExactlyOne) :
    primaries (outputs.erase outputId) + (if output.isPrimary then 1 else 0) = 1 := by
  unfold ExactlyOne at hone
  rw [isEmpty_of_find h, if_neg Bool.false_ne_true] at hone
  exact (KeyedTable.count_erase h (·.isPrimary)).symm.trans hone

theorem outputAdded_iff (hone : outputs.ExactlyOne) :
    (outputs.outputAdded args).ExactlyOne ↔ outputs.KeepsPrimary (.outputAdded args) := by
  unfold outputAdded KeepsPrimary
  dsimp only
  split
  next horigin =>
    -- all others are demoted
    refine iff_of_true (exactlyOne_put.mpr ?_) (.inl horigin)
    have hle := primaries_erase_le outputs.demoted args.id
    rw [primaries_demoted] at hle
    show primaries (outputs.demoted.erase args.id) + 1 = 1
    omega
  next horigin =>
    rw [or_iff_right horigin]
    split
    next hempty =>
      have hfind : outputs.find args.id = none := by
        cases hfind : outputs.find args.id with
        | none => rfl
        | some output =>
            rw [isEmpty_of_find hfind] at hempty
            cases hempty
      rw [hfind]
      refine iff_of_true (exactlyOne_put.mpr ?_) rfl
      have hle := primaries_erase_le outputs args.id
      rw [show outputs.primaries = 0 from KeyedTable.count_of_isEmpty hempty _] at hle
      show primaries (outputs.erase args.id) + 1 = 1
      omega
    next hempty =>
      rw [exactlyOne_put]
      show primaries (outputs.erase args.id) + 0 = 1 ↔ _
      cases hfind : outputs.find args.id with
      | none =>
          refine iff_of_true ?_ rfl
          show (outputs.erase args.id).count _ = 1
          rw [KeyedTable.count_erase_of_none hfind]
          unfold ExactlyOne at hone
          rwa [if_neg hempty] at hone
      | some old =>
          -- the new entry is not primary, so the old one must not have been
          have hsum := primaries_of_find hfind hone
          show _ ↔ (!old.isPrimary) = true
          cases hprimary : old.isPrimary with
          | true =>
              rw [hprimary, if_pos rfl] at hsum
              exact iff_of_false (by omega) Bool.false_ne_true
          | false =>
              rw [hprimary, if_neg Bool.false_ne_true] at hsum
              exact iff_of_true hsum rfl

theorem outputRemoved_exactlyOne (hone : outputs.ExactlyOne)
    (h : outputs.outputRemoved outputId first = some outputs') : outputs'.ExactlyOne := by
  unfold outputRemoved at h
  split at h
  next =>
    cases h
    exact hone
  next output hfind =>
    have hsum := primaries_of_find hfind hone
    dsimp only at h
    split at h
    next hprimary =>
      -- the primary display goes, and another one takes its place
      obtain ⟨other, hother, rfl⟩ := Option.map_eq_some_iff.mp h
      rw [hprimary.1, if_pos rfl] at hsum
      refine exactlyOne_put.mpr ?_
      have hle := primaries_erase_le (outputs.erase outputId) other.id
      show primaries ((outputs.erase outputId).erase other.id) + 1 = 1
      omega
    next hprimary =>
      cases h
      unfold ExactlyOne
      cases hempty : (outputs.erase outputId).isEmpty with
      | true =>
          rw [if_pos rfl]
          exact KeyedTable.count_of_isEmpty hempty _
      | false =>
          have hfalse : output.isPrimary = false :=
            Bool.eq_false_iff.mpr fun htrue => hprimary ⟨htrue, hempty⟩
          rw [hfalse, if_neg Bool.false_ne_true] at hsum
          rw [if_neg Bool.false_ne_true]
          exact hsum

theorem outputChanged_exactlyOne (hone : outputs.ExactlyOne) :
    (outputs.outputChanged args).ExactlyOne := by
  unfold outputChanged
  split
  next => exact hone
  next output hfind =>
    -- neither the id nor the flag changes
    refine exactlyOne_put.mpr ?_
    have hsum := primaries_of_find hfind hone
    rwa [← KeyedTable.find_key hfind] at hsum

theorem setPrimaryOutput_iff :
    (outputs.setPrimaryOutput outputId).ExactlyOne ↔
      outputs.KeepsPrimary (.setPrimaryOutput outputId) := by
  have hcount : (outputs.setPrimaryOutput outputId).primaries
      = if (outputs.find outputId).isSome then 1 else 0 := by
    unfold primaries setPrimaryOutput
    rw [KeyedTable.count_mapRows]
    exact outputs.count_key outputId
  unfold ExactlyOne KeepsPrimary
  rw [hcount, setPrimaryOutput, KeyedTable.isEmpty_mapRows]
  cases hfind : outputs.find outputId with
  | none => cases outputs.isEmpty <;> simp [hfind]
  | some output => simp [isEmpty_of_find hfind, hfind]

/-- **Which events keep the primary display unique.** -/
theorem step_exactlyOne_iff {e : OutputEvent} (hone : outputs.ExactlyOne)
    (h : displays.step outputs e = some outputs') :
    outputs'.ExactlyOne ↔ outputs.KeepsPrimary e := by
  cases e with
  | outputAdded args =>
      cases h
      exact outputAdded_iff hone
  | outputRemoved outputId first => exact iff_of_true (outputRemoved_exactlyOne hone h) trivial
  | outputChanged args =>
      cases h
      exact iff_of_true (outputChanged_exactlyOne hone) trivial
  | setPrimaryOutput outputId =>
      cases h
      exact setPrimaryOutput_iff

end Outputs

/-! ## §4. Runs. -/

/-- **In which runs exactly one display is primary all the time.** -/
theorem along_exactlyOne_iff (es : List OutputEvent)
    (h : (displays.exec displays.init es).isSome) :
    displays.Along Outputs.ExactlyOne displays.init es ↔
      displays.Meets Outputs.KeepsPrimary displays.init es :=
  Machine.along_iff_meets (fun _ _ _ => Outputs.step_exactlyOne_iff) (by rfl) h

/-- A message about a display at a place. -/
def outputArgs (id x y : Int) : OutputArgs where
  id := id
  name := some "eDP-1"
  make := none
  model := none
  x := some x
  y := some y
  width := some 1920
  height := some 1080
  refresh := none
  scale := none
  transform := none
  modes := none

/-- Two displays, of which the second is at the origin and goes again. -/
def twoDisplays : List OutputEvent :=
  [.outputAdded (outputArgs 1 1920 0), .outputAdded (outputArgs 2 0 0), .setPrimaryOutput 2,
   .outputChanged (outputArgs 1 0 0), .outputRemoved 2 1]

theorem along_exactlyOne_iff_two :
    displays.Along Outputs.ExactlyOne displays.init twoDisplays ↔
      displays.Meets Outputs.KeepsPrimary displays.init twoDisplays :=
  along_exactlyOne_iff twoDisplays (by decide +kernel)

/-- **A request for a display that is not there leaves none.** -/
theorem not_exactlyOne_unknown :
    ¬ ∀ es, displays.Along Outputs.ExactlyOne displays.init es := by
  intro hall
  have hrun : (displays.exec displays.init
      [.outputAdded (outputArgs 1 0 0), .setPrimaryOutput 5]).map
        (fun outputs => decide outputs.ExactlyOne) = some false := by decide +kernel
  obtain ⟨outputs, hexec, hend⟩ := Option.map_eq_some_iff.mp hrun
  exact of_decide_eq_false hend ((hall _).exec hexec)

end FlutterWlroots.Dart
