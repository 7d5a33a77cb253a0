/-
  FlutterWlroots.Compositor.Parents — the parent views of subsurfaces and popups.

  Every handler of a subsurface, and the first commit of a popup, follows `parent_view`.  A child is
  created with a view that is there, so the pointer is sound until the view is freed; but
  `xdg_toplevel_destroy` frees it whether or not it still has children, which the role object of a
  toplevel may have when a client destroys it.  If every toplevel is destroyed after its children,
  no handler follows a freed view (`reach_childrenSafe`).
-/
import FlutterWlroots.Compositor.Links

namespace FlutterWlroots.Compositor

open Lib Lib.StateRun

/-! ## §1. Parents. -/

/-- The parent of a subsurface. -/
def FwrSubsurface.ChildOf (r : FwrSubsurface) (p : Ptr) : Prop := r.parentView = p

/-- The parent of a popup. -/
def FwrPopup.ChildOf (r : FwrPopup) (p : Ptr) : Prop := r.parentView = p

instance (r : FwrSubsurface) (p : Ptr) : Decidable (r.ChildOf p) :=
  inferInstanceAs (Decidable (_ = _))

instance (r : FwrPopup) (p : Ptr) : Decidable (r.ChildOf p) :=
  inferInstanceAs (Decidable (_ = _))

/-- Every subsurface and every popup has a parent that is there. -/
structure ParentsLive (s : Instance) : Prop where
  subsurfaces : s.subsurfaceObjects.Closed FwrSubsurface.ChildOf s.viewObjects.Live
  popups : s.popupObjects.Closed FwrPopup.ChildOf s.viewObjects.Live

/-- The list and the map of the views hold views that are there. -/
structure Tracked (s : Instance) : Prop where
  listed : ∀ p ∈ s.viewsList, s.viewObjects.Live p
  nodup : s.viewsList.Nodup
  mapped : ∀ handle p, s.views.get handle = some p →
    ∃ v, s.viewObjects.get p = some v ∧ v.handle = handle

/-- The view that an event frees. -/
def Event.destroysView : Event → Option Ptr
  | .toplevelDestroy p => some p
  | _ => none

/-- No subsurface and no popup has the view as its parent. -/
def Childless (s : Instance) (p : Ptr) : Prop :=
  s.subsurfaceObjects.Forall (fun r => ¬ r.ChildOf p) ∧
    s.popupObjects.Forall (fun r => ¬ r.ChildOf p)

instance (s : Instance) (p : Ptr) : Decidable (Childless s p) := inferInstanceAs (Decidable (_ ∧ _))

/-- The condition on an event: a toplevel is destroyed after its children. -/
def FreesChildless (s : Instance) (e : Event) : Prop := ∀ p ∈ e.destroysView, Childless s p

instance (s : Instance) (e : Event) : Decidable (FreesChildless s e) :=
  inferInstanceAs (Decidable (∀ p ∈ e.destroysView, Childless s p))

/-! ## §2. The parents stay. -/

variable {s s' : Instance}

namespace Tracked

theorem update (h : Tracked s) (hu : s.Update s') : Tracked s' := by
  cases hu with
  | @view p v v' hv hhandle hout =>
      refine ⟨fun q hq => Store.live_set.mpr (h.listed q hq), h.nodup, fun handle q hq => ?_⟩
      obtain ⟨w, hw, hwhandle⟩ := h.mapped handle q hq
      by_cases hqp : q = p
      · -- the view that is written keeps its handle
        subst hqp
        rw [hv] at hw
        cases hw
        exact ⟨v', Store.get_set_self (Store.live_of_get hv), hhandle.trans hwhandle⟩
      · exact ⟨w, (Store.get_set_ne hqp).trans hw, hwhandle⟩
  | @newView v hhandle hout =>
      refine ⟨fun q hq => ?_, ?_, fun handle q hq => ?_⟩
      · rcases List.mem_cons.mp hq with rfl | hq
        · exact Store.live_alloc.mpr (.inl rfl)
        · exact Store.live_alloc.mpr (.inr (h.listed q hq))
      · exact List.nodup_cons.mpr ⟨fun hmem => Store.ne_next (h.listed _ hmem) rfl, h.nodup⟩
      · rcases HandleMap.get_add hq with ⟨rfl, rfl⟩ | hq
        · exact ⟨v, Store.get_alloc_next _ _, hhandle⟩
        · obtain ⟨w, hw, hwhandle⟩ := h.mapped handle q hq
          exact ⟨w, (Store.get_alloc_ne (Store.ne_next (Store.live_of_get hw))).trans hw, hwhandle⟩
  | _ => exact { h with }

theorem toplevelDestroy (h : Tracked s) {p : Ptr} {v : FwrView}
    (hv : s.viewObjects.get p = some v) (calls : List TextureCall) :
    Tracked
      { s with
        textureCalls := calls
        views := (s.views.remove v.handle).2
        viewsList := s.viewsList.erase p
        viewObjects := s.viewObjects.free p } := by
  refine ⟨fun q hq => ?_, h.nodup.erase p, fun handle q hq => ?_⟩
  · obtain ⟨hne, hmem⟩ := (List.Nodup.mem_erase_iff h.nodup).mp hq
    exact Store.live_free.mpr ⟨hne, h.listed q hmem⟩
  · -- another handle leads to another view, since the views know their handles
    obtain ⟨hne, hq⟩ := HandleMap.get_remove hq
    obtain ⟨w, hw, hwhandle⟩ := h.mapped handle q hq
    refine ⟨w, Store.get_free_ne (fun heq => hne ?_) hw, hwhandle⟩
    subst heq
    rw [hv] at hw
    cases hw
    exact hwhandle.symm

theorem handle (h : Tracked s) {e : Event} (hs : s.Handled e s') : Tracked s' := by
  cases hs with
  | updates hu => exact hu.recOn h fun _ hstep ih => ih.update hstep
  | outputDestroy hbest => exact { h with }
  | toplevelDestroy hv calls => exact h.toplevelDestroy hv calls
  | surfaceDestroy => exact { h with }

theorem init : Tracked .init :=
  ⟨nofun, .nil, fun _ _ h => nomatch (HandleMap.get_new _).symm.trans h⟩

end Tracked

namespace ParentsLive

theorem update (h : ParentsLive s) (hu : s.Update s') : ParentsLive s' := by
  cases hu with
  | view hv hhandle hout =>
      exact ⟨h.subsurfaces.mono fun _ => Store.live_set.mpr,
        h.popups.mono fun _ => Store.live_set.mpr⟩
  | subsurface hr hparent hout =>
      exact { h with
        subsurfaces := h.subsurfaces.set fun t ht =>
          h.subsurfaces.apply hr (hparent.symm.trans ht) }
  | popup hr hparent hout =>
      exact { h with
        popups := h.popups.set fun t ht => h.popups.apply hr (hparent.symm.trans ht) }
  | @children f g _ _ _ _ hsubs hpopups hf hg =>
      have hf' : ∀ r t, (f r).ChildOf t → r.ChildOf t ∨ s.viewObjects.Live t := fun r _ ht =>
        .inl ((hf r).1.symm.trans ht)
      have hg' : ∀ r t, (g r).ChildOf t → r.ChildOf t ∨ s.viewObjects.Live t := fun r _ ht =>
        .inl ((hg r).1.symm.trans ht)
      exact ⟨h.subsurfaces.modifyAll hf' hsubs, h.popups.modifyAll hg' hpopups⟩
  | newView hhandle hout =>
      exact ⟨h.subsurfaces.mono fun _ ht => Store.live_alloc.mpr (.inr ht),
        h.popups.mono fun _ ht => Store.live_alloc.mpr (.inr ht)⟩
  | newSubsurface subsurfaces hparent hout =>
      exact { h with subsurfaces := h.subsurfaces.alloc fun t ht => ht ▸ hparent }
  | subsurfaceGone p subsurfaces => exact { h with subsurfaces := h.subsurfaces.free }
  | newPopup popups hparent hout =>
      exact { h with popups := h.popups.alloc fun t ht => ht ▸ hparent }
  | popupGone p popups => exact { h with popups := h.popups.free }
  | _ => exact { h with }

/-- **One event keeps the parents**, if it frees no parent. -/
theorem handle (h : ParentsLive s) {e : Event} (he : FreesChildless s e) (hs : s.Handled e s') :
    ParentsLive s' := by
  cases hs with
  | updates hu => exact hu.recOn h fun _ hstep ih => ih.update hstep
  | outputDestroy hbest => exact { h with }
  | @toplevelDestroy p v hv calls =>
      -- only the freed view stops being a target, and no child refers to it
      obtain ⟨hsubs, hpopups⟩ := he p rfl
      exact ⟨h.subsurfaces.retarget fun q r t hr ht hlive =>
          Store.live_free.mpr ⟨fun heq => hsubs q r hr (heq ▸ ht), hlive⟩,
        h.popups.retarget fun q r t hr ht hlive =>
          Store.live_free.mpr ⟨fun heq => hpopups q r hr (heq ▸ ht), hlive⟩⟩
  | surfaceDestroy => exact { h with }

theorem init : ParentsLive .init := ⟨Store.closed_empty, Store.closed_empty⟩

end ParentsLive

/-! ## §3. No freed view is followed. -/

namespace Instance

variable {p : Ptr} {layout : OutputLayout} {surf : PopupSurface} {registered : Bool}

theorem avoids_view (h : s.viewObjects.Live p) : Avoids .freedView (s.view p) := by
  obtain ⟨v, hv⟩ := deref_of_live .freedView h
  rw [view, hv]
  exact avoids_ok _ v

theorem avoids_deref {α : Type} {objects : Store α} {fault fault' : Fault} (h : fault' ≠ fault)
    (p : Ptr) : Avoids fault (deref objects fault' p) := by
  rw [deref]
  split
  · exact avoids_ok _ _
  · exact avoids_error h

theorem avoids_output (s : Instance) (p : Ptr) : Avoids .freedView (s.output p) :=
  avoids_deref (by decide) p

theorem avoids_subsurface (s : Instance) (p : Ptr) : Avoids .freedView (s.subsurface p) :=
  avoids_deref (by decide) p

theorem avoids_popup (s : Instance) (p : Ptr) : Avoids .freedView (s.popup p) :=
  avoids_deref (by decide) p

theorem avoids_highestRefresh (ps : List Ptr) (best : Option Ptr) (r : Int) :
    Avoids .freedView (s.highestRefresh ps best r) := by
  induction ps generalizing best r with
  | nil => exact avoids_ok _ _
  | cons q ps ih =>
      rw [highestRefresh]
      refine avoids_bind (s.avoids_output q) fun output _ => ?_
      dsimp only
      split
      · exact ih _ _
      · exact ih _ _

theorem avoids_selectHighestRefresh (s : Instance) :
    Avoids .freedView s.fwrSelectHighestRefreshOutput :=
  avoids_bind (avoids_highestRefresh _ _ _) fun _ _ => avoids_ok _ _

theorem avoids_findOutput (found : FwrOutput → Bool) (ps : List Ptr) :
    Avoids .freedView (s.findOutput found ps) := by
  induction ps with
  | nil => exact avoids_ok _ _
  | cons q ps ih =>
      rw [findOutput]
      refine avoids_bind (s.avoids_output q) fun output _ => ?_
      split
      · exact avoids_ok _ _
      · exact ih

theorem avoids_outputForBox (s : Instance) (layout : OutputLayout) (x y width height : Int) :
    Avoids .freedView (s.fwrOutputForBox layout x y width height) := by
  rw [fwrOutputForBox]
  split
  · exact avoids_ok _ _
  · refine avoids_bind (avoids_findOutput _ _) fun found _ => ?_
    split <;> exact avoids_ok _ _

theorem avoids_scaleOf (s : Instance) (output : Option Ptr) :
    Avoids .freedView (s.scaleOf output) := by
  cases output with
  | none => exact avoids_ok _ _
  | some o => exact avoids_bind (s.avoids_output o) fun _ _ => avoids_ok _ _

theorem avoids_readOutput (s : Instance) (output : Option Ptr) :
    Avoids .freedView (s.readOutput output) := by
  cases output with
  | none => exact avoids_ok _ _
  | some o => exact avoids_bind (s.avoids_output o) fun _ _ => avoids_ok _ _

theorem avoids_serverNewOutput (s : Instance) (wlrOutput : WlrOutput) (committed : Bool) :
    Avoids .freedView (s.fwrServerNewOutput wlrOutput committed) := by
  rw [fwrServerNewOutput]
  dsimp only
  split
  · exact avoids_selectHighestRefresh _
  · exact avoids_ok _ _

theorem avoids_outputDestroy (s : Instance) (p : Ptr) : Avoids .freedView (s.outputDestroy p) := by
  refine avoids_bind (s.avoids_output p) fun output _ => ?_
  dsimp only
  split
  · exact avoids_selectHighestRefresh _
  · exact avoids_ok _ _

theorem avoids_setVsyncOutput (s : Instance) (outputId : UInt32) :
    Avoids .freedView (s.fwrSetVsyncOutput outputId) := by
  rw [fwrSetVsyncOutput]
  split
  · exact avoids_selectHighestRefresh _
  · refine avoids_bind (avoids_findOutput _ _) fun found _ => ?_
    split
    · exact avoids_ok _ _
    · exact avoids_selectHighestRefresh _

theorem avoids_toplevelMap (hp : s.viewObjects.Live p) (geo : WlrBox) (layout : OutputLayout)
    (registered : Bool) : Avoids .freedView (s.xdgToplevelMap p geo layout registered) :=
  avoids_bind (avoids_view hp) fun _ _ => avoids_bind (avoids_outputForBox _ _ _ _ _ _) fun _ _ =>
    avoids_bind (avoids_scaleOf _ _) fun _ _ => avoids_ok _ _

theorem avoids_updateAll {α : Type} {fault : Fault} (h : fault ≠ .freedView) (f : α → α)
    (ps : List Ptr) (objects : Store α) : Avoids .freedView (updateAll fault f ps objects) := by
  rw [updateAll]
  split
  · exact avoids_ok _ _
  · exact avoids_error h

theorem avoids_moveToOutput (s : Instance) (p : Ptr) (view : FwrView) (newOutput : Option Ptr) :
    Avoids .freedView (s.moveToOutput p view newOutput) := by
  rw [moveToOutput]
  split
  · exact avoids_bind (avoids_scaleOf _ _) fun _ _ =>
      avoids_bind (avoids_updateAll (by decide) _ _ _) fun _ _ =>
        avoids_bind (avoids_updateAll (by decide) _ _ _) fun _ _ => avoids_ok _ _
  · exact avoids_ok _ _

theorem avoids_setPosition (h : Tracked s) (surfaceHandle : UInt32) (x y : Int)
    (layout : OutputLayout) :
    Avoids .freedView (s.fwrHandleSurfaceSetPosition surfaceHandle x y layout) := by
  rw [fwrHandleSurfaceSetPosition]
  split
  · exact avoids_ok _ _
  next p hp =>
    obtain ⟨v, hv, -⟩ := h.mapped _ _ hp
    exact avoids_bind (avoids_view (Store.live_of_get hv)) fun _ _ =>
      avoids_bind (avoids_outputForBox _ _ _ _ _ _) fun _ _ => avoids_moveToOutput _ _ _ _

/-- A handler of a subsurface follows `parent_view` at once. -/
theorem avoids_parent (h : ParentsLive s) {p : Ptr}
    {f : FwrSubsurface → FwrView → Except Fault Instance} (hf : ∀ r v, Avoids .freedView (f r v)) :
    Avoids .freedView (s.subsurface p >>= fun r => s.view r.parentView >>= f r) :=
  avoids_bind (s.avoids_subsurface p) fun r hr =>
    avoids_bind (avoids_view (h.subsurfaces.apply (subsurface_ok hr) rfl)) fun v _ => hf r v

theorem avoids_sendPopupMap (s : Instance) (p : Ptr) (popup : FwrPopup) (surf : PopupSurface) :
    Avoids .freedView (s.sendPopupMap p popup surf) :=
  avoids_bind (avoids_readOutput _ _) fun _ _ => avoids_ok _ _

theorem avoids_popupHandleMap (s : Instance) (p : Ptr) (surf : PopupSurface) (registered : Bool) :
    Avoids .freedView (s.popupHandleMap p surf registered) := by
  refine avoids_bind (s.avoids_popup p) fun popup _ => ?_
  split <;> exact avoids_sendPopupMap _ _ _ _

theorem avoids_popupEnsureTexture (s : Instance) (p : Ptr) (popup : FwrPopup) (surf : PopupSurface)
    (registered : Bool) : Avoids .freedView (s.popupEnsureTexture p popup surf registered) := by
  rw [popupEnsureTexture]
  split
  · exact avoids_ok _ _
  · dsimp only
    split
    · exact avoids_bind (avoids_sendPopupMap _ _ _ _) fun _ _ => avoids_ok _ _
    · exact avoids_ok _ _

theorem avoids_popupFrame (s : Instance) (p : Ptr) (popup : FwrPopup) (surf : PopupSurface) :
    Avoids .freedView (s.popupFrame p popup surf) := by
  rw [popupFrame]
  split
  · refine avoids_bind ?_ fun _ _ => avoids_ok _ _
    rw [popupResize]
    split
    · exact avoids_sendPopupMap _ _ _ _
    · exact avoids_ok _ _
  · exact avoids_ok _ _

theorem avoids_popupHandleReposition (s : Instance) (p : Ptr) (surf : PopupSurface) :
    Avoids .freedView (s.popupHandleReposition p surf) := by
  refine avoids_bind (s.avoids_popup p) fun popup _ => ?_
  dsimp only
  split
  · exact avoids_sendPopupMap _ _ _ _
  · exact avoids_ok _ _

theorem avoids_parentOutput (s : Instance) (parentView : Ptr) (parent : FwrView)
    (layout : OutputLayout) : Avoids .freedView (s.parentOutput parentView parent layout) := by
  rw [parentOutput]
  split
  · exact avoids_ok _ _
  · refine avoids_bind (avoids_outputForBox _ _ _ _ _ _) fun found _ => ?_
    split
    · exact avoids_bind (avoids_scaleOf _ _) fun _ _ => avoids_ok _ _
    · exact avoids_ok _ _

theorem avoids_popupUnconstrain {popup : FwrPopup} (h : s.viewObjects.Live popup.parentView)
    (p : Ptr) (layout : OutputLayout) : Avoids .freedView (s.popupUnconstrain p popup layout) := by
  refine avoids_bind (avoids_view h) fun parent _ =>
    avoids_bind (avoids_parentOutput _ _ _ _) fun result _ => ?_
  dsimp only
  split
  · exact avoids_bind (avoids_scaleOf _ _) fun _ _ => avoids_ok _ _
  · exact avoids_ok _ _

theorem avoids_popupHandleCommit (h : ParentsLive s) (p : Ptr) (surf : PopupSurface)
    (layout : OutputLayout) (registered : Bool) :
    Avoids .freedView (s.popupHandleCommit p surf layout registered) := by
  refine avoids_bind (s.avoids_popup p) fun popup hpopup => avoids_bind ?_ fun result _ => ?_
  · rw [popupFirstCommit]
    split
    · exact avoids_ok _ _
    · exact avoids_popupUnconstrain (h.popups.apply (popup_ok hpopup) rfl) _ _
  · dsimp only
    split
    · exact avoids_bind (avoids_popupEnsureTexture _ _ _ _ _) fun _ _ => avoids_popupFrame _ _ _ _
    · exact avoids_ok _ _

theorem avoids_findView {parentXdg : Nat} {ps : List Ptr} (h : ∀ p ∈ ps, s.viewObjects.Live p) :
    Avoids .freedView (s.findView parentXdg ps) := by
  induction ps with
  | nil => exact avoids_ok _ _
  | cons q ps ih =>
      rw [findView]
      refine avoids_bind (avoids_view (h q List.mem_cons_self)) fun view _ => ?_
      split
      · exact avoids_ok _ _
      · exact ih fun p hp => h p (List.mem_cons_of_mem q hp)

theorem avoids_newXdgPopup (h : Tracked s) (parentXdg : Option Nat) (surf : PopupSurface)
    (registered : Bool) : Avoids .freedView (s.fwrNewXdgPopup parentXdg surf registered) := by
  cases parentXdg with
  | none => exact avoids_ok _ _
  | some parentXdg =>
      refine avoids_bind (avoids_findView h.listed) fun found hfound => ?_
      split
      next => exact avoids_ok _ _
      next parentView =>
        refine avoids_bind (avoids_view (findView_mem hfound).2) fun parent _ => ?_
        dsimp only
        refine avoids_bind (avoids_readOutput _ _) fun _ _ => ?_
        split
        · exact avoids_popupHandleMap _ _ _ _
        · exact avoids_ok _ _

/-- **No handler follows a freed view** while the parents are there. -/
theorem handle_avoids (ht : Tracked s) (hp : ParentsLive s) {e : Event} (hd : s.Deliverable e) :
    Avoids .freedView (s.handle e) := by
  cases e with
  | newOutput wlrOutput committed => exact s.avoids_serverNewOutput wlrOutput committed
  | outputDestroy p => exact s.avoids_outputDestroy p
  | outputCommitState p refresh scale =>
      exact avoids_bind (s.avoids_output p) fun _ _ => avoids_ok _ _
  | setVsyncOutput outputId => exact s.avoids_setVsyncOutput outputId
  | newToplevel xdgSurface => exact avoids_ok _ _
  | toplevelMap p geo layout registered => exact avoids_toplevelMap (hd _ rfl) geo layout registered
  | toplevelUnmap p => exact avoids_bind (avoids_view (hd _ rfl)) fun _ _ => avoids_ok _ _
  | toplevelCommit p geo => exact avoids_bind (avoids_view (hd _ rfl)) fun _ _ => avoids_ok _ _
  | toplevelDestroy p => exact avoids_bind (avoids_view (hd _ rfl)) fun _ _ => avoids_ok _ _
  | setPosition handle x y layout => exact avoids_setPosition ht handle x y layout
  | newSubsurface p => exact avoids_bind (avoids_view (hd _ rfl)) fun _ _ => avoids_ok _ _
  | subsurfaceMap p box registered => exact avoids_parent hp fun _ _ => avoids_ok _ _
  | subsurfaceUnmap p => exact avoids_parent hp fun _ _ => avoids_ok _ _
  | subsurfaceCommit p box => exact avoids_parent hp fun _ _ => avoids_ok _ _
  | subsurfaceDestroy p => exact avoids_parent hp fun _ _ => avoids_ok _ _
  | newPopup parentXdg surf registered => exact avoids_newXdgPopup ht parentXdg surf registered
  | popupMap p surf registered => exact s.avoids_popupHandleMap p surf registered
  | popupUnmap p => exact avoids_bind (s.avoids_popup p) fun _ _ => avoids_ok _ _
  | popupCommit p surf layout registered =>
      exact avoids_popupHandleCommit hp p surf layout registered
  | popupReposition p surf => exact s.avoids_popupHandleReposition p surf
  | popupDestroy p => exact avoids_bind (s.avoids_popup p) fun _ _ => avoids_ok _ _
  | newSurface => exact avoids_ok _ _
  | surfaceDestroy p => exact avoids_ok _ _
  | requestCursor focused surface x y => exact avoids_ok _ _
  | activateSystemCursor name => exact avoids_ok _ _

end Instance

/-- The children have their parents, and no handler of an event that can come follows a freed
    view. -/
def ChildrenSafe (s : Instance) : Prop :=
  ParentsLive s ∧ ∀ e, s.Deliverable e → s.handle e ≠ .error .freedView

/-- **Children do not outlive their parent** in any run in which every toplevel is destroyed after
    its subsurfaces and popups. -/
theorem reach_childrenSafe {s : Instance} (hs : compositor.Reach FreesChildless s) :
    ChildrenSafe s := by
  obtain ⟨ht, hp⟩ : Tracked s ∧ ParentsLive s :=
    hs.invariant (P := fun s => Tracked s ∧ ParentsLive s) ⟨.init, .init⟩
      fun s e s' h he hstep => by
        obtain ⟨hd, hhandle⟩ := compositor_step.mp hstep
        have hs := Instance.handle_handled hd hhandle
        exact ⟨h.1.handle hs, h.2.handle he hs⟩
  exact ⟨hp, fun e hd => Instance.handle_avoids ht hp hd⟩

/-- A window with a subsurface. -/
def windowWithSubsurface : List Event := [.newToplevel 0, .newSubsurface 0]

/-- The subsurface goes first. -/
theorem reach_childrenSafe_inOrder :
    ∃ s, compositor.execIf FreesChildless .init
      (windowWithSubsurface ++ [.subsurfaceDestroy 0, .toplevelDestroy 0]) = some s ∧
        ChildrenSafe s := by
  have hrun : (compositor.execIf FreesChildless .init
      (windowWithSubsurface ++ [.subsurfaceDestroy 0, .toplevelDestroy 0])).isSome = true := by
    decide +kernel
  obtain ⟨s, hs⟩ := Option.isSome_iff_exists.mp hrun
  exact ⟨s, hs, reach_childrenSafe (Machine.reach_execIf _ .init hs)⟩

/-- **A toplevel destroyed before its subsurface** leaves the subsurface with a freed parent. -/
theorem not_childrenSafe_toplevelFirst : ¬ ∀ s, compositor.Reachable s → ChildrenSafe s := by
  intro hall
  have hrun : (compositor.exec .init (windowWithSubsurface ++ [.toplevelDestroy 0])).map
      (fun s => ((s.subsurfaceObjects.get 0).map (·.parentView), (s.viewObjects.get 0).isSome)) =
        some (some 0, false) := by
    decide +kernel
  obtain ⟨s, hs, heq⟩ := Option.map_eq_some_iff.mp hrun
  obtain ⟨hparent, hfreed⟩ := Prod.mk.inj heq
  obtain ⟨r, hr, hchild⟩ := Option.map_eq_some_iff.mp hparent
  have hparents : ParentsLive s := (hall s (Machine.reach_exec _ .init hs)).1
  obtain ⟨v, hv⟩ := Store.live_iff.mp (hparents.subsurfaces.apply hr hchild)
  rw [hv] at hfreed
  cases hfreed

end FlutterWlroots.Compositor
