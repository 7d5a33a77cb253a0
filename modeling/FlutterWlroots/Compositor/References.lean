/-
  FlutterWlroots.Compositor.References — the cached outputs and the cursor surface.

  Views, subsurfaces, popups and the vsync driver cache an output, and the instance caches the
  cursor surface of a client.  Every handler that writes one of these writes a connected output or
  an existing surface.  The handlers that free are another matter: `output_destroy` clears
  `vsync_output` and nothing else, and no handler at all sees the end of the cursor surface.  So the
  references are sound exactly as long as nothing goes away while it is cached
  (`reach_noDangling`).
-/
import FlutterWlroots.Compositor.Links

namespace FlutterWlroots.Compositor

open Lib

/-! ## §1. References. -/

/-- The output cached in a view. -/
def FwrView.Caches (v : FwrView) (o : Ptr) : Prop := v.currentOutput = some o

/-- The output cached in a subsurface. -/
def FwrSubsurface.Caches (r : FwrSubsurface) (o : Ptr) : Prop := r.currentOutput = some o

/-- The output cached in a popup. -/
def FwrPopup.Caches (r : FwrPopup) (o : Ptr) : Prop := r.currentOutput = some o

instance (v : FwrView) (o : Ptr) : Decidable (v.Caches o) :=
  inferInstanceAs (Decidable (_ = _))

instance (r : FwrSubsurface) (o : Ptr) : Decidable (r.Caches o) :=
  inferInstanceAs (Decidable (_ = _))

instance (r : FwrPopup) (o : Ptr) : Decidable (r.Caches o) :=
  inferInstanceAs (Decidable (_ = _))

/-- Every cached output is in the list of outputs, and the cursor surface exists. -/
structure NoDangling (s : Instance) : Prop where
  views : s.viewObjects.Closed FwrView.Caches (· ∈ s.outputs)
  subsurfaces : s.subsurfaceObjects.Closed FwrSubsurface.Caches (· ∈ s.outputs)
  popups : s.popupObjects.Closed FwrPopup.Caches (· ∈ s.outputs)
  vsync : ∀ o, s.vsyncOutput = some o → o ∈ s.outputs
  cursor : ∀ p, s.clientCursorSurface = some p → s.wlrSurfaces.Live p

/-- The output that an event takes away. -/
def Event.disconnects : Event → Option Ptr
  | .outputDestroy p => some p
  | _ => none

/-- The client surface that an event takes away. -/
def Event.endsSurface : Event → Option Ptr
  | .surfaceDestroy p => some p
  | _ => none

/-- No view, subsurface or popup caches the output. -/
def Uncached (s : Instance) (o : Ptr) : Prop :=
  s.viewObjects.Forall (fun v => ¬ v.Caches o) ∧
    s.subsurfaceObjects.Forall (fun r => ¬ r.Caches o) ∧
    s.popupObjects.Forall (fun r => ¬ r.Caches o)

instance (s : Instance) (o : Ptr) : Decidable (Uncached s o) := inferInstanceAs (Decidable (_ ∧ _))

/-- The condition on an event: what it takes away is not cached. -/
def FreesUncached (s : Instance) (e : Event) : Prop :=
  (∀ o ∈ e.disconnects, Uncached s o) ∧ ∀ p ∈ e.endsSurface, s.clientCursorSurface ≠ some p

instance (s : Instance) (e : Event) : Decidable (FreesUncached s e) :=
  inferInstanceAs (Decidable (_ ∧ _))

/-! ## §2. The handlers write sound references. -/

namespace NoDangling

variable {s s' : Instance}

/-- What an instance knows of is connected. -/
theorem known (h : NoDangling s) {o : Ptr} (ho : s.Known o) : o ∈ s.outputs := by
  rcases ho with ho | ⟨p, v, hv, ho⟩
  · exact ho
  · exact h.views.apply hv ho

/-- **One update keeps the references sound.** -/
theorem update (h : NoDangling s) (hu : s.Update s') : NoDangling s' := by
  cases hu with
  | view hv hhandle hout =>
      exact { h with views := h.views.set fun o ho => h.known (hout o ho) }
  | subsurface hr hparent hout =>
      exact { h with
        subsurfaces := h.subsurfaces.set fun o ho => h.subsurfaces.apply hr (hout.symm.trans ho) }
  | popup hr hparent hout =>
      exact { h with
        popups := h.popups.set fun o ho => (hout o ho).elim (h.popups.apply hr ·) h.known }
  | children hsubs hpopups hf hg =>
      exact { h with
        subsurfaces :=
          h.subsurfaces.modifyAll (fun r o ho => .inr (h.known ((hf r).2 o ho))) hsubs
        popups := h.popups.modifyAll (fun r o ho => ((hg r).2 o ho).imp_right h.known) hpopups }
  | outputObjects objects nextOutputId => exact { h with }
  | newOutput o =>
      exact { h with
        views := h.views.mono fun _ => List.mem_cons_of_mem o
        subsurfaces := h.subsurfaces.mono fun _ => List.mem_cons_of_mem o
        popups := h.popups.mono fun _ => List.mem_cons_of_mem o
        vsync := fun q hq => List.mem_cons_of_mem o (h.vsync q hq) }
  | vsync best hbest => exact { h with vsync := hbest }
  | call c => exact { h with }
  | newView hhandle hout =>
      exact { h with views := h.views.alloc fun o ho => nomatch hout.symm.trans ho }
  | newSubsurface subsurfaces hparent hout =>
      exact { h with subsurfaces := h.subsurfaces.alloc fun o ho => nomatch hout.symm.trans ho }
  | subsurfaceGone p subsurfaces => exact { h with subsurfaces := h.subsurfaces.free }
  | newPopup popups hparent hout =>
      exact { h with popups := h.popups.alloc fun o ho => h.known (hout o ho) }
  | popupGone p popups => exact { h with popups := h.popups.free }
  | newSurface => exact { h with cursor := fun p hp => Store.live_alloc.mpr (.inr (h.cursor p hp)) }
  | cursor x y name hsurface => exact { h with cursor := hsurface }

/-! ## §3. What is freed must not be cached. -/

/-- An output that is not cached can be taken off the list. -/
theorem outputDestroy (h : NoDangling s) {p : Ptr} (hun : Uncached s p) {best : Option Ptr}
    (hbest : ∀ o, best = some o → o ∈ s.outputs.erase p ∨ s.vsyncOutput = some o ∧ o ≠ p) :
    NoDangling
      { s with
        outputs := s.outputs.erase p
        vsyncOutput := best
        outputObjects := s.outputObjects.free p } := by
  obtain ⟨hviews, hsubs, hpopups⟩ := hun
  -- every other output stays on the list
  have hstay : ∀ {o}, o ≠ p → o ∈ s.outputs → o ∈ s.outputs.erase p := fun hne =>
    (List.mem_erase_of_ne hne).mpr
  exact { h with
    views := h.views.retarget fun q x o hx ho =>
      hstay fun heq => hviews q x hx (heq ▸ ho)
    subsurfaces := h.subsurfaces.retarget fun q x o hx ho =>
      hstay fun heq => hsubs q x hx (heq ▸ ho)
    popups := h.popups.retarget fun q x o hx ho =>
      hstay fun heq => hpopups q x hx (heq ▸ ho)
    vsync := fun o ho => (hbest o ho).elim id fun hv => hstay hv.2 (h.vsync o hv.1) }

/-- **One event keeps the references sound**, if it frees nothing that is cached. -/
theorem handle (h : NoDangling s) {e : Event} (he : FreesUncached s e) (hs : s.Handled e s') :
    NoDangling s' := by
  cases hs with
  | updates hu => exact hu.recOn h fun _ hstep ih => ih.update hstep
  | outputDestroy hbest => exact h.outputDestroy (he.1 _ rfl) hbest
  | toplevelDestroy hv calls => exact { h with views := h.views.free }
  | @surfaceDestroy p =>
      refine { h with cursor := fun q hq => Store.live_free.mpr ⟨fun heq => ?_, h.cursor q hq⟩ }
      exact he.2 p rfl (heq ▸ hq)

theorem init : NoDangling .init :=
  ⟨Store.closed_empty, Store.closed_empty, Store.closed_empty, nofun, nofun⟩

end NoDangling

/-- **No reference dangles** in any run in which outputs are disconnected and client surfaces end
    only while they are not cached. -/
theorem reach_noDangling {s : Instance} (hs : compositor.Reach FreesUncached s) : NoDangling s :=
  hs.invariant NoDangling.init fun _ _ _ h he hstep =>
    h.handle he (Instance.handle_handled (compositor_step.mp hstep).1 (compositor_step.mp hstep).2)

/-- A monitor, and a window on it. -/
def mappedWindow : List Event :=
  [.newOutput ⟨0, some 60000, 1⟩ true, .newToplevel 0,
    .toplevelMap 0 ⟨0, 0, 640, 480⟩ (fun _ _ => some 0) true]

/-- A second monitor to which the window is moved before the first one goes. -/
theorem reach_noDangling_moved :
    ∃ s, compositor.execIf FreesUncached .init
      (mappedWindow ++ [.newOutput ⟨1, some 60000, 1⟩ true,
        .setPosition 1 2000 0 (fun _ _ => some 1), .outputDestroy 0]) = some s ∧ NoDangling s := by
  have hrun : (compositor.execIf FreesUncached .init
      (mappedWindow ++ [.newOutput ⟨1, some 60000, 1⟩ true,
        .setPosition 1 2000 0 (fun _ _ => some 1), .outputDestroy 0])).isSome = true := by
    decide +kernel
  obtain ⟨s, hs⟩ := Option.isSome_iff_exists.mp hrun
  exact ⟨s, hs, reach_noDangling (Machine.reach_execIf _ .init hs)⟩

/-- **A monitor unplugged under a window** leaves the window with a pointer to it. -/
theorem not_noDangling_unplugged : ¬ ∀ s, compositor.Reachable s → NoDangling s := by
  intro hall
  have hrun : (compositor.exec .init (mappedWindow ++ [.outputDestroy 0])).map
      (fun s => ((s.viewObjects.get 0).bind (·.currentOutput), s.outputs)) = some (some 0, []) := by
    decide +kernel
  obtain ⟨s, hs, heq⟩ := Option.map_eq_some_iff.mp hrun
  obtain ⟨hcached, hnone⟩ := Prod.mk.inj heq
  obtain ⟨v, hv, hout⟩ := Option.bind_eq_some_iff.mp hcached
  have hmem := (hall s (Machine.reach_exec _ .init hs)).views.apply hv hout
  rw [hnone] at hmem
  cases hmem

end FlutterWlroots.Compositor
