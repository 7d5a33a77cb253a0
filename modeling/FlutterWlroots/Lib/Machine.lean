/-
  FlutterWlroots.Lib.Machine — state machines driven by events.

  A machine has a start state and a partial step function; an event that cannot happen in a state
  has no step.  `Reach ok` are the states of the runs whose every event meets the condition `ok`
  in the state it happens in: with a trivial condition these are all reachable states, otherwise
  the states one can get to while a caller keeps its side of a contract.

    • `Reach.invariant` — what holds at the start and is kept by every step holds in every state,
    • `Reach.simulate`  — a machine whose steps another can follow keeps to that one's states,
    • `reach_exec`      — executing a list of events stays among the reachable states,
    • `along_iff_meets` — a condition that says exactly which steps keep a property says exactly
                          which runs do, next to an invariant too (`along_iff_meets_of_invariant`).
-/
import Mathlib.Init

namespace Lib

/-- A start state and a partial step function. -/
structure Machine (State Event : Type) where
  init : State
  step : State → Event → Option State

namespace Machine

variable {State Event : Type} {m : Machine State Event} {ok : State → Event → Prop}

/-- The states of the runs whose events all meet `ok`. -/
inductive Reach (m : Machine State Event) (ok : State → Event → Prop) : State → Prop where
  | init : Reach m ok m.init
  | step {s s' : State} (e : Event) (hs : Reach m ok s) (hok : ok s e)
      (hstep : m.step s e = some s') : Reach m ok s'

/-- The states of all runs. -/
abbrev Reachable (m : Machine State Event) : State → Prop := m.Reach fun _ _ => True

/-- **Invariant rule.** -/
theorem Reach.invariant {P : State → Prop} (hinit : P m.init)
    (hstep : ∀ s e s', P s → ok s e → m.step s e = some s' → P s') {s : State}
    (hs : m.Reach ok s) : P s := by
  induction hs with
  | init => exact hinit
  | step e _ hok hs ih => exact hstep _ e _ ih hok hs

/-- **Simulation rule.**  If `n` can follow every step of `m` and the related states stay related,
    every reachable state of `m` is related to a reachable state of `n`. -/
theorem Reach.simulate {State' Event' : Type} {n : Machine State' Event'}
    {ok' : State' → Event' → Prop} {R : State → State' → Prop} (hinit : R m.init n.init)
    (hstep : ∀ s a e s', R s a → ok s e → m.step s e = some s' →
      ∃ e' a', ok' a e' ∧ n.step a e' = some a' ∧ R s' a') {s : State} (hs : m.Reach ok s) :
    ∃ a, n.Reach ok' a ∧ R s a := by
  induction hs with
  | init => exact ⟨n.init, .init, hinit⟩
  | step e _ hok hs ih =>
      obtain ⟨a, ha, hR⟩ := ih
      obtain ⟨e', a', hok', hn, hR'⟩ := hstep _ a e _ hR hok hs
      exact ⟨a', ha.step e' hok' hn, hR'⟩

/-- The state after a list of events, if all of them can happen. -/
def exec (m : Machine State Event) : State → List Event → Option State
  | s, [] => some s
  | s, e :: es =>
      match m.step s e with
      | some s' => exec m s' es
      | none => none

theorem exec_cons {s s' : State} {e : Event} {es : List Event} :
    m.exec s (e :: es) = some s' ↔ ∃ s1, m.step s e = some s1 ∧ m.exec s1 es = some s' := by
  rw [exec]
  cases m.step s e with
  | none => simp
  | some s1 => simp

theorem exec_append {es es' : List Event} : ∀ {s s1 : State}, m.exec s es = some s1 →
    m.exec s (es ++ es') = m.exec s1 es' := by
  induction es with
  | nil =>
      intro s s1 h
      cases h
      rfl
  | cons e es ih =>
      intro s s1 h
      obtain ⟨s2, hstep, hrest⟩ := exec_cons.mp h
      rw [List.cons_append, exec, hstep]
      exact ih hrest

theorem reach_exec : ∀ (es : List Event) {s s' : State}, m.Reachable s → m.exec s es = some s' →
    m.Reachable s'
  | [], s, s', hs, h => by
      cases h
      exact hs
  | e :: es, s, s', hs, h => by
      rw [exec] at h
      split at h
      next s1 hstep => exact reach_exec es (hs.step e trivial hstep) h
      next => cases h

/-- The state after a list of events that all meet `ok`. -/
def execIf (m : Machine State Event) (ok : State → Event → Prop) [∀ s e, Decidable (ok s e)] :
    State → List Event → Option State
  | s, [] => some s
  | s, e :: es =>
      if ok s e then
        match m.step s e with
        | some s' => execIf m ok s' es
        | none => none
      else none

theorem reach_execIf [∀ s e, Decidable (ok s e)] : ∀ (es : List Event) {s s' : State},
    m.Reach ok s → m.execIf ok s es = some s' → m.Reach ok s'
  | [], s, s', hs, h => by
      cases h
      exact hs
  | e :: es, s, s', hs, h => by
      rw [execIf] at h
      split at h
      case isTrue hok =>
        split at h
        next s1 hstep => exact reach_execIf es (hs.step e hok hstep) h
        next => cases h
      case isFalse => cases h

/-- `P` holds in every state of the run of these events. -/
def Along (m : Machine State Event) (P : State → Prop) : State → List Event → Prop
  | s, [] => P s
  | s, e :: es => P s ∧ ∀ s', m.step s e = some s' → Along m P s' es

theorem Along.head {P : State → Prop} {s : State} : ∀ {es : List Event}, m.Along P s es → P s
  | [], h => h
  | _ :: _, h => h.1

/-- Every event of the run meets `ok` in the state it happens in. -/
def Meets (m : Machine State Event) (ok : State → Event → Prop) : State → List Event → Prop
  | _, [] => True
  | s, e :: es => ok s e ∧ ∀ s', m.step s e = some s' → Meets m ok s' es

/-- **Exact conditions**, next to an invariant.  If a step keeps `P` exactly when its event meets
    `ok`, a run keeps `P` exactly when all of its events do. -/
theorem along_iff_meets_of_invariant {I P : State → Prop}
    (hinvariant : ∀ s e s', I s → m.step s e = some s' → I s')
    (hkeeps : ∀ s e s', I s → P s → m.step s e = some s' → (P s' ↔ ok s e)) {es : List Event}
    {s : State} (hI : I s) (hs : P s) (hrun : (m.exec s es).isSome) :
    m.Along P s es ↔ m.Meets ok s es := by
  induction es generalizing s with
  | nil => exact iff_of_true hs trivial
  | cons e es ih =>
      rw [exec] at hrun
      split at hrun
      next s1 hstep =>
        have hone : ∀ s', m.step s e = some s' → s' = s1 :=
          fun s' hs' => Option.some.inj (hs'.symm.trans hstep)
        have hI1 := hinvariant s e s1 hI hstep
        constructor
        · rintro ⟨-, halong⟩
          have hs1 : P s1 := (halong s1 hstep).head
          refine ⟨(hkeeps s e s1 hI hs hstep).mp hs1, fun s' hs' => ?_⟩
          rw [hone s' hs']
          exact (ih hI1 hs1 hrun).mp (halong s1 hstep)
        · rintro ⟨hok, hmeets⟩
          refine ⟨hs, fun s' hs' => ?_⟩
          rw [hone s' hs']
          exact (ih hI1 ((hkeeps s e s1 hI hs hstep).mpr hok) hrun).mpr (hmeets s1 hstep)
      next => cases hrun

/-- **Exact conditions.** -/
theorem along_iff_meets {P : State → Prop}
    (hkeeps : ∀ s e s', P s → m.step s e = some s' → (P s' ↔ ok s e)) {es : List Event} {s : State}
    (hs : P s) (hrun : (m.exec s es).isSome) : m.Along P s es ↔ m.Meets ok s es :=
  along_iff_meets_of_invariant (I := fun _ => True) (fun _ _ _ _ _ => trivial)
    (fun s e s' _ => hkeeps s e s') trivial hs hrun

theorem Along.exec {P : State → Prop} : ∀ {es : List Event} {s s' : State}, m.Along P s es →
    m.exec s es = some s' → P s'
  | [], s, s', h, hexec => by
      cases hexec
      exact h
  | e :: es, s, s', h, hexec => by
      rw [Machine.exec] at hexec
      split at hexec
      next s1 hstep => exact (h.2 s1 hstep).exec hexec
      next => cases hexec

end Machine

end Lib
