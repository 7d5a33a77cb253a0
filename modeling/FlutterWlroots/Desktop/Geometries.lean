/-
  FlutterWlroots.Desktop.Geometries — the geometry of a window on both sides.

  `xdg_toplevel_commit` tells Dart of a geometry that differs from the one in the view.  That is not
  always the one Dart has: a resize by the mouse or the keyboard changes the view before the client
  does, and the size of the buffer is in the message but not in the view.  A commit that is not told
  does no harm if the last message about the view already said the same.  A map with a title or an
  app id that does not fit the message leaves Dart without the surface.

    • `reach_geometriesAgree`      — with such commits only, Dart has what was last committed,
    • `not_geometriesAgree_resize` — a client that commits the size it was resized to.
-/
import FlutterWlroots.Desktop.SurfaceTable

namespace FlutterWlroots.Desktop

open Lib Lib.CInt Lib.StateRun FlutterWlroots.Compositor FlutterWlroots.Input

namespace Shell

/-! ## §1. The property. -/

/-- With all messages delivered, Dart's surface of a mapped view has the geometry and the buffer
    size that were last committed. -/
def GeometriesAgree (w : Watched Shell GeometryNote) : Prop :=
  w.state.channel.pending = [] → ∀ p f g, w.state.frames.frames p = some f →
    (w.state.windows p).mapped = true → w.note.committed p = some g →
      ∃ surface, w.state.channel.receiver f.handle = some surface ∧ surface.geometry = g

/-- The commit of a toplevel. -/
def commitOf : ShellEvent → Option (Ptr × WlrBox)
  | .pointer (.compositor (.toplevelCommit p geo)) => some (p, geo)
  | _ => none

/-- Dart is told of a commit of a mapped view, or the last message about the view said the same. -/
def KeepsInformed (w : Watched Shell GeometryNote) (e : ShellEvent) : Prop :=
  ∀ q ∈ commitOf e, (w.state.windows q.1).mapped = true →
    w.state.tells q.1 q.2 = true ∨ w.note.sent q.1 = w.state.committedGeometry q.1 q.2

instance (w : Watched Shell GeometryNote) (e : ShellEvent) : Decidable (KeepsInformed w e) :=
  inferInstanceAs (Decidable (∀ q ∈ commitOf e, _))

/-- The map of a toplevel. -/
def mapOf : ShellEvent → Option Ptr
  | .pointer (.compositor (.toplevelMap p ..)) => some p
  | _ => none

/-- A toplevel is mapped with a title and an app id that fit the message. -/
def MapsReadably (s : Shell) (e : ShellEvent) : Prop :=
  ∀ p ∈ mapOf e, (s.windows p).textsFit = true

instance (s : Shell) (e : ShellEvent) : Decidable (s.MapsReadably e) :=
  inferInstanceAs (Decidable (∀ p ∈ mapOf e, _))

/-- Both sides of a commit, maps that can be decoded, and handles kept apart. -/
def KeepsGeometry (w : Watched Shell GeometryNote) (e : ShellEvent) : Prop :=
  w.state.KeepsHandlesApart e ∧ w.state.MapsReadably e ∧ KeepsInformed w e

instance (w : Watched Shell GeometryNote) (e : ShellEvent) : Decidable (KeepsGeometry w e) :=
  inferInstanceAs (Decidable (_ ∧ _))

/-! ## §2. Notes. -/

/-- What was committed has been sent. -/
def Informed (note : GeometryNote) : Prop :=
  ∀ p g, note.committed p = some g → note.sent p = some g

variable {c : Target} {s : Shell} {w : Watched Shell GeometryNote} {note : GeometryNote} {p : Ptr}

/-- A map forgets what was committed. -/
theorem informed_map (h : Informed note) (g : Option Geometry) (lost : Ptr → Bool) :
    Informed { sent := Function.update note.sent p g
               committed := Function.update note.committed p none
               lost := lost } := by
  intro q k hq
  have hcommitted : Function.update note.committed p none q = some k := hq
  show Function.update note.sent p g q = some k
  obtain ⟨hqp, hcommitted⟩ := of_update_none hcommitted
  rw [Function.update_of_ne hqp]
  exact h q k hcommitted

theorem informed_commit {geo : WlrBox} (h : Informed note)
    (hok : (s.windows p).mapped = true →
      s.tells p geo = true ∨ note.sent p = s.committedGeometry p geo) :
    Informed (s.noteGeometry (.pointer (.compositor (.toplevelCommit p geo))) note) := by
  intro q g hq
  have hcommitted : Function.update note.committed p
      (if (s.windows p).mapped then s.committedGeometry p geo else none) q = some g := hq
  show (if s.tells p geo then Function.update note.sent p (s.committedGeometry p geo)
    else note.sent) q = some g
  by_cases hqp : q = p
  · subst hqp
    rw [Function.update_self] at hcommitted
    split at hcommitted
    next hmapped =>
      split
      next => rw [Function.update_self, hcommitted]
      next htells => rw [(hok hmapped).resolve_left htells, hcommitted]
    next => cases hcommitted
  · rw [Function.update_of_ne hqp] at hcommitted
    split
    · rw [Function.update_of_ne hqp]
      exact h q g hcommitted
    · exact h q g hcommitted

theorem informed_step {e : ShellEvent} (h : Informed w.note) (hok : KeepsInformed w e) :
    Informed (w.state.noteGeometry e w.note) := by
  unfold noteGeometry
  split
  next => exact informed_map h _ _
  next p geo => exact informed_commit h (hok (p, geo) rfl)
  next => exact h

/-- No map was lost. -/
def NoneLost (note : GeometryNote) : Prop := ∀ p, note.lost p = false

theorem noneLost_step {e : ShellEvent} (h : NoneLost note) (hok : s.MapsReadably e) :
    NoneLost (s.noteGeometry e note) := by
  intro q
  unfold noteGeometry
  split
  next p geo layout registered =>
    have hfit : (s.windows p).textsFit = true := hok p rfl
    show Function.update note.lost p (!(s.windows p).textsFit) q = false
    rw [hfit]
    by_cases hq : q = p
    · rw [hq, Function.update_self]
      rfl
    · rw [Function.update_of_ne hq]
      exact h q
  next => exact h q
  next => exact h q

/-! ## §3. Runs. -/

/-- **Dart has the geometry and the buffer size that were last committed** for each mapped view, in
    every run in which each commit of a mapped toplevel is told to Dart or was told before, each map
    has texts that fit, and no toplevel gets the handle of another. -/
theorem reach_geometriesAgree (h : (geometryShell c).Reach KeepsGeometry w) :
    GeometriesAgree w := by
  have hmirrored : w.state.Mirrored w.note := reach_mirrored (fun _ _ hok => hok.1) h
  have hinformed : Informed w.note := by
    refine h.invariant (P := fun w => Informed w.note) (fun p g hp => by cases hp) ?_
    intro w e w' hw hok hstep
    rw [(Machine.watch_step.mp hstep).2]
    exact informed_step hw hok.2.2
  have hnone : NoneLost w.note := by
    refine h.invariant (P := fun w => NoneLost w.note) (fun _ => rfl) ?_
    intro w e w' hw hok hstep
    rw [(Machine.watch_step.mp hstep).2]
    exact noneLost_step hw hok.2.1
  intro hpending p f g hf hmapped hcommitted
  have hshown : (w.state.mirror w.note.lost).shown p = true := by
    show ((w.state.windows p).mapped && !w.note.lost p) = true
    rw [hmapped, hnone p]
    rfl
  obtain ⟨surface, hsurface⟩ := hmirrored.present p f.handle (keyOf_of_frame hf) hshown
  have hright := hmirrored.relation (keyOf_of_frame hf) hsurface
  refine ⟨surface, ?_, ?_⟩
  · rw [receiver_eq hpending]
    exact hsurface
  · have hsent := hinformed p g hcommitted
    rw [hright.2] at hsent
    exact Option.some.inj hsent

/-- A window that gets larger, with a shadow around it. -/
theorem reach_geometriesAgree_larger : ∃ w, (geometryShell .still).Reach KeepsGeometry w ∧
    GeometriesAgree w ∧ w.state.channel.pending = [] ∧ (w.state.windows 0).mapped = true ∧
    w.note.committed 0 = some ⟨700, 500, 720, 520, 10, 10⟩ := by
  have hrun : (((geometryShell .still).execIf KeepsGeometry (geometryShell .still).init
      (newWindow 0 7 ++ [.surfaceSize 7 720 520,
        .pointer (.compositor (.toplevelCommit 0 ⟨10, 10, 700, 500⟩)), .deliver, .deliver])).map
      fun w => (w.state.channel.pending, (w.state.windows 0).mapped, w.note.committed 0)) =
      some ([], true, some ⟨700, 500, 720, 520, 10, 10⟩) := by decide +kernel
  obtain ⟨w, hw, hend⟩ := Option.map_eq_some_iff.mp hrun
  have hreach := Machine.reach_execIf _ .init hw
  simp only [Prod.mk.injEq] at hend
  exact ⟨w, hreach, reach_geometriesAgree hreach, hend⟩

/-- **A client that commits the size its window was resized to**: the view has that size already,
    and Dart is not told. -/
theorem not_geometriesAgree_resize :
    ¬∀ w, (geometryShell .still).Reachable w → GeometriesAgree w := by
  intro h
  have hrun : (((geometryShell .still).exec (geometryShell .still).init
      [.pointer (.compositor (.newToplevel 7)), .surfaceSize 7 50 50,
        .pointer (.compositor (.toplevelMap 0 ⟨0, 0, 50, 50⟩ (fun _ _ => none) true)),
        .pointer (.requestResize 0 8), .pointer (.cursorMotion 0 0 1 false),
        .surfaceSize 7 100 100, .pointer (.compositor (.toplevelCommit 0 ⟨0, 0, 100, 100⟩)),
        .deliver]).map
      fun w => (w.state.channel.pending, (w.state.frames.frames 0).map (·.handle),
        (w.state.windows 0).mapped, w.note.committed 0,
        (w.state.channel.receiver 1).map Surface.geometry)) =
      some ([], some 1, true, some ⟨100, 100, 100, 100, 0, 0⟩, some ⟨50, 50, 50, 50, 0, 0⟩) := by
    decide +kernel
  obtain ⟨w, hw, hend⟩ := Option.map_eq_some_iff.mp hrun
  simp only [Prod.mk.injEq] at hend
  obtain ⟨hpending, hframe, hmapped, hcommitted, hreceiver⟩ := hend
  obtain ⟨f, hf, hhandle⟩ := Option.map_eq_some_iff.mp hframe
  obtain ⟨surface, hsurface, hgeometry⟩ :=
    h w (Machine.reach_exec _ .init hw) hpending 0 f _ hf hmapped hcommitted
  rw [hhandle] at hsurface
  rw [hsurface, Option.map_some, hgeometry] at hreceiver
  cases hreceiver

end Shell

end FlutterWlroots.Desktop
