/-
  FlutterWlroots.Input.ButtonTable — the button table as a map.

  `surface_button_states` has 32 slots for any number of surfaces, and windows and popups share it: a
  popup has the key 200000 above its handle.  A call that finds no slot is only logged.

    • `readsLast_step_iff` — one call,
    • `buttonTable_iff`    — the table reads as a map in the runs in which every set finds a slot, and
                             keys are apart in the runs in which new objects get unused ones.
-/
import FlutterWlroots.Compositor.ButtonKeys
import FlutterWlroots.Input.PointerEvents
import FlutterWlroots.Lib.Watch

namespace FlutterWlroots.Input

open Lib
open FlutterWlroots.Compositor (Event Instance compositor)

/-! ## §1. Calls. -/

/-- The calls that change the table. -/
inductive ButtonCall where
  | setSurfaceButtons (surfaceHandle : UInt32) (buttons : BitVec 64)
  | fwrClearSurfaceButtons (surfaceHandle : UInt32)
  deriving DecidableEq, Repr

/-- The table under its calls, in any order. -/
def buttonTable : Machine InputInstance ButtonCall where
  init := .init
  step := fun s call =>
    match call with
    | .setSurfaceButtons surfaceHandle buttons =>
        some (s.setSurfaceButtons surfaceHandle buttons)
    | .fwrClearSurfaceButtons surfaceHandle => some (s.fwrClearSurfaceButtons surfaceHandle)

/-- The value of the last set of each key since its last clear, or 0. -/
def noteCall (_ : InputInstance) : ButtonCall → (UInt32 → BitVec 64) → UInt32 → BitVec 64
  | .setSurfaceButtons surfaceHandle buttons, last => Function.update last surfaceHandle buttons
  | .fwrClearSurfaceButtons surfaceHandle, last => Function.update last surfaceHandle 0

/-- The calls, with the last set of each key. -/
abbrev watchedTable : Machine (Watched InputInstance (UInt32 → BitVec 64)) ButtonCall :=
  buttonTable.watch (fun _ => 0) noteCall

/-- The table reads as the map. -/
def ReadsLast (w : Watched InputInstance (UInt32 → BitVec 64)) : Prop :=
  ∀ key, w.state.getSurfaceButtons key = w.note key

/-- A set finds the slot of its key or a free one, or has nothing to remember. -/
def FindsSlot (w : Watched InputInstance (UInt32 → BitVec 64)) : ButtonCall → Prop
  | .setSurfaceButtons surfaceHandle buttons =>
      surfaceHandle ∈ w.state.surfaceButtonStates.keys ∨ none ∈ w.state.surfaceButtonStates
        ∨ buttons = 0
  | .fwrClearSurfaceButtons _ => True

section Calls

variable {s : InputInstance} {w w' : Watched InputInstance (UInt32 → BitVec 64)}
  {call : ButtonCall} {key : UInt32} {buttons : BitVec 64}

theorem getSurfaceButtons_of_notMem (h : key ∉ s.surfaceButtonStates.keys) :
    s.getSurfaceButtons key = 0 := by
  unfold InputInstance.getSurfaceButtons
  rw [SlotTable.get_eq_none_iff.mpr h]
  rfl

theorem getSurfaceButtons_set
    (h : key ∈ s.surfaceButtonStates.keys ∨ none ∈ s.surfaceButtonStates) :
    (s.setSurfaceButtons key buttons).getSurfaceButtons
      = Function.update s.getSurfaceButtons key buttons := by
  obtain ⟨table, htable⟩ := SlotTable.exists_put h buttons
  funext k
  unfold InputInstance.setSurfaceButtons InputInstance.getSurfaceButtons
  dsimp only
  rw [htable, Option.getD_some, SlotTable.get_put htable]
  by_cases hk : k = key
  · rw [hk, Function.update_self, Function.update_self]
    rfl
  · rw [Function.update_of_ne hk, Function.update_of_ne hk]

/-- Without a slot the table stays as it is. -/
theorem setSurfaceButtons_of_full (hkey : key ∉ s.surfaceButtonStates.keys)
    (hfull : none ∉ s.surfaceButtonStates) : s.setSurfaceButtons key buttons = s := by
  have hput : s.surfaceButtonStates.put key buttons = none := by
    unfold SlotTable.put
    rw [SlotTable.overwrite_eq_none_iff.mpr hkey]
    exact SlotTable.occupy_eq_none_iff.mpr hfull
  unfold InputInstance.setSurfaceButtons
  rw [hput]
  rfl

theorem getSurfaceButtons_clear (h : s.surfaceButtonStates.Distinct) :
    (s.fwrClearSurfaceButtons key).getSurfaceButtons
      = Function.update s.getSurfaceButtons key 0 := by
  funext k
  unfold InputInstance.fwrClearSurfaceButtons InputInstance.getSurfaceButtons
  dsimp only
  rw [SlotTable.get_erase h]
  by_cases hk : k = key
  · rw [hk, Function.update_self, Function.update_self]
    rfl
  · rw [Function.update_of_ne hk, Function.update_of_ne hk]

theorem distinct_setSurfaceButtons (h : s.surfaceButtonStates.Distinct) :
    (s.setSurfaceButtons key buttons).surfaceButtonStates.Distinct := by
  unfold InputInstance.setSurfaceButtons
  dsimp only
  cases hput : s.surfaceButtonStates.put key buttons with
  | none => exact h
  | some table => exact h.put hput

/-- No key has two slots, whatever is called. -/
theorem distinct_step (h : w.state.surfaceButtonStates.Distinct)
    (hstep : watchedTable.step w call = some w') : w'.state.surfaceButtonStates.Distinct := by
  obtain ⟨hstate, -⟩ := Machine.watch_step.mp hstep
  cases call with
  | setSurfaceButtons key buttons =>
      rw [← Option.some.inj hstate]
      exact distinct_setSurfaceButtons h
  | fwrClearSurfaceButtons key =>
      rw [← Option.some.inj hstate]
      exact h.erase key

/-- **One call.** -/
theorem readsLast_step_iff (hdistinct : w.state.surfaceButtonStates.Distinct) (h : ReadsLast w)
    (hstep : watchedTable.step w call = some w') : ReadsLast w' ↔ FindsSlot w call := by
  obtain ⟨hstate, hnote⟩ := Machine.watch_step.mp hstep
  have hlast : w.state.getSurfaceButtons = w.note := funext h
  cases call with
  | setSurfaceButtons key buttons =>
      unfold ReadsLast FindsSlot
      rw [← Option.some.inj hstate, hnote]
      by_cases hslot : key ∈ w.state.surfaceButtonStates.keys ∨ none ∈ w.state.surfaceButtonStates
      · rw [getSurfaceButtons_set hslot, hlast]
        exact iff_of_true (fun _ => rfl) (hslot.imp id .inl)
      · obtain ⟨hkey, hfull⟩ := not_or.mp hslot
        rw [setSurfaceButtons_of_full hkey hfull]
        have hzero : w.note key = 0 := (h key).symm.trans (getSurfaceButtons_of_notMem hkey)
        constructor
        · intro hread
          have hbuttons := hread key
          rw [h key, hzero] at hbuttons
          exact .inr (.inr (hbuttons.trans (Function.update_self ..)).symm)
        · intro hor
          have hbuttons := (hor.resolve_left hkey).resolve_left hfull
          intro k
          rw [h k, hbuttons, ← hzero]
          exact congrFun (Function.update_eq_self key w.note).symm k
  | fwrClearSurfaceButtons key =>
      refine iff_of_true (fun k => ?_) trivial
      rw [← Option.some.inj hstate, hnote, getSurfaceButtons_clear hdistinct, hlast]
      rfl

theorem distinct_init : watchedTable.init.state.surfaceButtonStates.Distinct :=
  SlotTable.distinct_empty 32

theorem readsLast_init : ReadsLast watchedTable.init := fun _ => rfl

/-- Every call returns. -/
theorem exec_isSome : ∀ (calls : List ButtonCall) (w : Watched InputInstance (UInt32 → BitVec 64)),
    (watchedTable.exec w calls).isSome
  | [], _ => rfl
  | .setSurfaceButtons .. :: calls, _ => exec_isSome calls _
  | .fwrClearSurfaceButtons _ :: calls, _ => exec_isSome calls _

end Calls

/-! ## §2. Runs. -/

/-- **When the table is a map with a key for every object**: it reads as a map in the runs whose sets
    find a slot, and the keys are apart in the runs in which new objects get unused ones. -/
theorem buttonTable_iff (calls : List ButtonCall) (es : List Event)
    (h : (compositor.exec compositor.init es).isSome) :
    (watchedTable.Along ReadsLast watchedTable.init calls ↔
      watchedTable.Meets FindsSlot watchedTable.init calls) ∧
    (compositor.Along Instance.KeysApart compositor.init es ↔
      compositor.Meets Instance.NewKeyUnused compositor.init es) :=
  ⟨Machine.along_iff_meets_of_invariant (I := fun w => w.state.surfaceButtonStates.Distinct)
      (fun _ _ _ => distinct_step) (fun _ _ _ => readsLast_step_iff) distinct_init readsLast_init
      (exec_isSome calls _),
    Machine.along_iff_meets (fun _ _ _ => Instance.keysApart_step_iff) Instance.keysApart_init h⟩

/-- Buttons held in 33 surfaces. -/
def heldEverywhere : List ButtonCall :=
  (List.range 33).map fun i => .setSurfaceButtons (.ofNat (i + 1)) 1

/-- A window with a menu. -/
def windowWithMenu : List Event :=
  [.newToplevel 7, .newPopup (some 7) Compositor.menuSurface true]

theorem buttonTable_iff_menu :
    (watchedTable.Along ReadsLast watchedTable.init (heldEverywhere.take 32) ↔
      watchedTable.Meets FindsSlot watchedTable.init (heldEverywhere.take 32)) ∧
    (compositor.Along Instance.KeysApart compositor.init windowWithMenu ↔
      compositor.Meets Instance.NewKeyUnused compositor.init windowWithMenu) :=
  buttonTable_iff (heldEverywhere.take 32) windowWithMenu (by decide +kernel)

/-- **The 33rd surface is forgotten.** -/
theorem not_readsLast_full :
    ¬ ∀ calls, watchedTable.Along ReadsLast watchedTable.init calls := by
  intro hall
  have hrun : (watchedTable.exec watchedTable.init heldEverywhere).map
      (fun w => (w.state.getSurfaceButtons 33, w.note 33)) = some (0, 1) := by
    decide +kernel
  obtain ⟨w, hw, hend⟩ := Option.map_eq_some_iff.mp hrun
  have hread := (hall heldEverywhere).exec hw 33
  obtain ⟨hget, hlast⟩ := Prod.mk.inj hend
  rw [hget, hlast] at hread
  cases hread

end FlutterWlroots.Input
