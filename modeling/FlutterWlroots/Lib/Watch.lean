/-
  FlutterWlroots.Lib.Watch — runs that are watched.

  A note is kept beside the state of a machine and changed with every event, by what the event is and
  the state it happens in.  The machine itself does not see the note, so that every run can be
  watched.

    • `watch_step`  — one watched step,
    • `Reach.watch` — every run can be watched.
-/
import FlutterWlroots.Lib.Machine

namespace Lib

/-- A state with what has been noted on the way to it. -/
structure Watched (State Note : Type) where
  state : State
  note : Note

namespace Machine

variable {State Event Note : Type} {m : Machine State Event} {start : Note}
  {remark : State → Event → Note → Note} {ok : State → Event → Prop}

/-- A machine whose runs are watched. -/
def watch (m : Machine State Event) (start : Note) (remark : State → Event → Note → Note) :
    Machine (Watched State Note) Event where
  init := ⟨m.init, start⟩
  step := fun w e => (m.step w.state e).map fun s => ⟨s, remark w.state e w.note⟩

theorem watch_step {w w' : Watched State Note} {e : Event} :
    (m.watch start remark).step w e = some w' ↔
      m.step w.state e = some w'.state ∧ w'.note = remark w.state e w.note := by
  obtain ⟨s', note'⟩ := w'
  show (m.step w.state e).map _ = _ ↔ _
  rw [Option.map_eq_some_iff]
  constructor
  · rintro ⟨s, hs, heq⟩
    cases heq
    exact ⟨hs, rfl⟩
  · rintro ⟨hs, rfl⟩
    exact ⟨s', hs, rfl⟩

/-- Every run can be watched. -/
theorem Reach.watch (start : Note) (remark : State → Event → Note → Note) {s : State}
    (h : m.Reach ok s) :
    ∃ note, (m.watch start remark).Reach (fun w e => ok w.state e) ⟨s, note⟩ := by
  induction h with
  | init => exact ⟨start, .init⟩
  | @step s s' e _ hok hstep ih =>
      obtain ⟨note, hnote⟩ := ih
      exact ⟨remark s e note, hnote.step e hok (watch_step.mpr ⟨hstep, rfl⟩)⟩

end Machine

end Lib
