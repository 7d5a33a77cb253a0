/-
  FlutterWlroots.Compositor.LiveObjects — what is found by a handle or in a list is there.

  A message names a view, a popup or an output by a number.  The handle maps, the list of outputs and
  the lists of subsurfaces lead to objects that have not been freed, whatever the order of the events;
  only pointers that an object keeps to another one can dangle, and no message follows those.

    • `Standing`        — the maps and lists,
    • `Standing.handle` — every event keeps them,
    • `Standing.moved`  — so does a window that is dragged.
-/
import FlutterWlroots.Compositor.OutputFollowing

namespace FlutterWlroots.Compositor

open Lib Lib.StateRun

/-! ## §1. Handle maps. -/

/-- Every entry of the handle map leads to an object with that handle. -/
structure Table.Leads (t : Table) : Prop where
  get : ∀ handle p, t.handles.get handle = some p → ∃ r, t.records p = some r ∧ r.handle = handle
  fresh : ∀ p, t.next ≤ p → t.records p = none

namespace Table.Leads

variable {t : Table} {p : Ptr} {r r' : TextureRecord}

theorem create (h : t.Leads) : t.create.Leads where
  get := by
    intro handle p hp
    rcases HandleMap.get_add hp with ⟨rfl, rfl⟩ | hp
    · exact ⟨_, records_create_self t, rfl⟩
    · obtain ⟨r, hr, hhandle⟩ := h.get handle p hp
      -- an older entry does not lead to the new object
      have hne : p ≠ t.next := by
        rintro rfl
        rw [h.fresh _ (Nat.le_refl _)] at hr
        cases hr
      exact ⟨r, (records_create_of_ne hne).trans hr, hhandle⟩
  fresh := by
    intro p hp
    have hlt : t.next < p := hp
    rw [records_create_of_ne (Nat.ne_of_gt hlt)]
    exact h.fresh p (Nat.le_of_lt hlt)

theorem put (h : t.Leads) (hr : t.records p = some r) (hhandle : r'.handle = r.handle) :
    (t.put p r').Leads where
  get := by
    intro handle q hq
    obtain ⟨r₁, hr₁, h₁⟩ := h.get handle q hq
    by_cases hqp : q = p
    · subst hqp
      cases hr.symm.trans hr₁
      exact ⟨r', records_put_self t q r', hhandle.trans h₁⟩
    · exact ⟨r₁, (records_put_of_ne hqp).trans hr₁, h₁⟩
  fresh := by
    intro q hq
    have hne : q ≠ p := by
      rintro rfl
      rw [h.fresh q hq] at hr
      cases hr
    rw [records_put_of_ne hne]
    exact h.fresh q hq

/-- The entry that goes is the only one that can lead to the object. -/
theorem destroy (h : t.Leads) (hr : t.records p = some r) : (t.destroy p r.handle).Leads where
  get := by
    intro handle q hq
    obtain ⟨hne, hq⟩ := HandleMap.get_remove hq
    obtain ⟨r₁, hr₁, h₁⟩ := h.get handle q hq
    have hqp : q ≠ p := by
      rintro rfl
      cases hr.symm.trans hr₁
      exact hne h₁.symm
    exact ⟨r₁, (records_destroy_of_ne hqp).trans hr₁, h₁⟩
  fresh := by
    intro q hq
    by_cases hqp : q = p
    · rw [hqp, records_destroy_self]
    · rw [records_destroy_of_ne hqp]
      exact h.fresh q hq

end Table.Leads

/-- The maps that messages look handles up in. -/
structure Tables.Lead (t : Tables) : Prop where
  views : t.views.Leads
  popups : t.popups.Leads

open Instance in
theorem Tables.Lead.effect {t t' : Tables} {e : Event} (h : t.Lead) (he : Effect t e t') : t'.Lead := by
  cases he with
  | unchanged => exact h
  | newToplevel => exact { h with views := h.views.create }
  | toplevelMap hr => exact { h with views := h.views.put hr rfl }
  | toplevelDestroy hr => exact { h with views := h.views.destroy hr }
  | newSubsurface => exact { h with }
  | subsurfaceMap hr => exact { h with }
  | subsurfaceDestroy hr => exact { h with }
  | newPopup => exact { h with popups := h.popups.create }
  | newPopupMapped hmapped =>
      refine { h with popups := h.popups.create.put (Table.records_create_self t.popups) ?_ }
      rfl
  | popupMap hr => exact { h with popups := h.popups.put hr rfl }
  | popupCommit hmapped hr => exact { h with popups := h.popups.put hr rfl }
  | popupUnmap hr => exact { h with popups := h.popups.put hr rfl }
  | popupDestroy hr => exact { h with popups := h.popups.destroy hr }

/-! ## §2. The list of outputs. -/

namespace Instance

variable {s s' : Instance} {p : Ptr} {popup popup' : FwrPopup} {surf : PopupSurface}
  {registered : Bool} {layout : OutputLayout}

/-- The outputs of the list are there. -/
structure OutputsLive (s : Instance) : Prop where
  nodup : s.outputs.Nodup
  live : ∀ p ∈ s.outputs, s.outputObjects.Live p

/-- The outputs are what they were. -/
structure SameOutputs (s s' : Instance) : Prop where
  outputs : s'.outputs = s.outputs
  objects : s'.outputObjects = s.outputObjects

theorem SameOutputs.refl (s : Instance) : SameOutputs s s := ⟨rfl, rfl⟩

theorem SameOutputs.trans {t : Instance} (h : SameOutputs s t) (h' : SameOutputs t s') :
    SameOutputs s s' := ⟨h'.outputs.trans h.outputs, h'.objects.trans h.objects⟩

theorem OutputsLive.same (h : s.OutputsLive) (heq : SameOutputs s s') : s'.OutputsLive := by
  refine ⟨?_, ?_⟩
  · rw [heq.outputs]
    exact h.nodup
  · rw [heq.outputs, heq.objects]
    exact h.live

theorem moveToOutput_sameOutputs {view : FwrView} {newOutput : Option Ptr}
    (h : s.moveToOutput p view newOutput = .ok s') : SameOutputs s s' := by
  rw [moveToOutput] at h
  split at h
  · simp only [except_bind_eq_ok] at h
    obtain ⟨scale, -, subs, -, popups, -, h⟩ := h
    cases h
    exact ⟨rfl, rfl⟩
  · cases h
    exact ⟨rfl, rfl⟩

theorem fwrHandleSurfaceSetPosition_sameOutputs {surfaceHandle : UInt32} {x y : Int}
    (h : s.fwrHandleSurfaceSetPosition surfaceHandle x y layout = .ok s') : SameOutputs s s' := by
  rw [fwrHandleSurfaceSetPosition] at h
  split at h
  · cases h
    exact .refl s
  · simp only [except_bind_eq_ok] at h
    obtain ⟨view, -, newOutput, -, h⟩ := h
    exact moveToOutput_sameOutputs h

theorem sendPopupMap_sameOutputs (h : s.sendPopupMap p popup surf = .ok s') : SameOutputs s s' := by
  rw [sendPopupMap, except_bind_eq_ok] at h
  obtain ⟨-, -, h⟩ := h
  cases h
  exact ⟨rfl, rfl⟩

theorem popupHandleMap_sameOutputs (h : s.popupHandleMap p surf registered = .ok s') :
    SameOutputs s s' := by
  rw [popupHandleMap, except_bind_eq_ok] at h
  obtain ⟨popup, -, h⟩ := h
  split at h
  · exact sendPopupMap_sameOutputs h
  · obtain ⟨houtputs, hobjects⟩ := sendPopupMap_sameOutputs h
    exact ⟨houtputs, hobjects⟩

theorem parentOutput_sameOutputs {parentView : Ptr} {parent : FwrView} {output : Option Ptr}
    (h : s.parentOutput parentView parent layout = .ok (output, s')) : SameOutputs s s' := by
  rw [parentOutput] at h
  split at h
  · cases h
    exact .refl s
  · rw [except_bind_eq_ok] at h
    obtain ⟨found, -, h⟩ := h
    split at h
    · rw [except_bind_eq_ok] at h
      obtain ⟨scale, -, h⟩ := h
      cases h
      exact ⟨rfl, rfl⟩
    · cases h
      exact .refl s

theorem popupFirstCommit_sameOutputs (h : s.popupFirstCommit p popup layout = .ok (popup', s')) :
    SameOutputs s s' := by
  rw [popupFirstCommit] at h
  split at h
  · cases h
    exact .refl s
  · simp only [popupUnconstrain, except_bind_eq_ok] at h
    obtain ⟨parent, -, ⟨output, s₁⟩, houtput, h⟩ := h
    refine (parentOutput_sameOutputs houtput).trans ?_
    dsimp only at h
    split at h
    · rw [except_bind_eq_ok] at h
      obtain ⟨scale, -, h⟩ := h
      cases h
      exact ⟨rfl, rfl⟩
    · cases h
      exact ⟨rfl, rfl⟩

theorem popupEnsureTexture_sameOutputs
    (h : s.popupEnsureTexture p popup surf registered = .ok (popup', s')) : SameOutputs s s' := by
  rw [popupEnsureTexture] at h
  split at h
  · cases h
    exact .refl s
  · dsimp only at h
    split at h
    · rw [except_bind_eq_ok] at h
      obtain ⟨s₁, hsend, h⟩ := h
      cases h
      obtain ⟨houtputs, hobjects⟩ := sendPopupMap_sameOutputs hsend
      exact ⟨houtputs, hobjects⟩
    · cases h
      exact ⟨rfl, rfl⟩

theorem popupFrame_sameOutputs (h : s.popupFrame p popup surf = .ok s') : SameOutputs s s' := by
  rw [popupFrame] at h
  split at h
  · rw [except_bind_eq_ok] at h
    obtain ⟨s₁, hresize, h⟩ := h
    cases h
    rw [popupResize] at hresize
    split at hresize
    · exact (sendPopupMap_sameOutputs hresize).trans ⟨rfl, rfl⟩
    · cases hresize
      exact ⟨rfl, rfl⟩
  · cases h
    exact .refl s

theorem popupHandleCommit_sameOutputs (h : s.popupHandleCommit p surf layout registered = .ok s') :
    SameOutputs s s' := by
  simp only [popupHandleCommit, except_bind_eq_ok] at h
  obtain ⟨popup, -, ⟨popup', s₁⟩, hfirst, h⟩ := h
  refine (popupFirstCommit_sameOutputs hfirst).trans ?_
  dsimp only at h
  split at h
  · rw [except_bind_eq_ok] at h
    obtain ⟨⟨popup'', s₂⟩, hensure, h⟩ := h
    exact (popupEnsureTexture_sameOutputs hensure).trans (popupFrame_sameOutputs h)
  · cases h
    exact .refl _

theorem fwrNewXdgPopup_sameOutputs {parentXdg : Option Nat}
    (h : s.fwrNewXdgPopup parentXdg surf registered = .ok s') : SameOutputs s s' := by
  cases parentXdg with
  | none =>
      cases h
      exact .refl s
  | some parentXdg =>
      simp only [fwrNewXdgPopup] at h
      rw [except_bind_eq_ok] at h
      obtain ⟨found, -, h⟩ := h
      split at h
      · cases h
        exact .refl s
      · simp only [except_bind_eq_ok] at h
        obtain ⟨parent, -, -, -, h⟩ := h
        split at h
        · obtain ⟨houtputs, hobjects⟩ := popupHandleMap_sameOutputs h
          exact ⟨houtputs, hobjects⟩
        · cases h
          exact ⟨rfl, rfl⟩

/-! ## §3. All events. -/

/-- **Every event leaves a list of outputs that are there.** -/
theorem OutputsLive.handle {e : Event} (hs : s.OutputsLive) (h : s.handle e = .ok s') :
    s'.OutputsLive := by
  cases e with
  | newOutput wlrOutput committed =>
      have hconnected : OutputsLive { s with
          nextOutputId := s.nextOutputId + 1
          outputObjects := s.outputObjects.alloc ⟨s.nextOutputId + 1, wlrOutput⟩
          outputs := s.outputObjects.next :: s.outputs } := by
        refine ⟨List.nodup_cons.mpr ⟨fun hmem => Store.ne_next (hs.live _ hmem) rfl, hs.nodup⟩, ?_⟩
        intro p hp
        rcases List.mem_cons.mp hp with rfl | hp
        · exact Store.live_alloc.mpr (.inl rfl)
        · exact Store.live_alloc.mpr (.inr (hs.live p hp))
      simp only [Instance.handle, fwrServerNewOutput] at h
      split at h
      · obtain ⟨best, -, rfl⟩ := fwrSelectHighestRefreshOutput_ok h
        exact ⟨hconnected.nodup, hconnected.live⟩
      · cases h
        refine ⟨hconnected.nodup.erase _, fun p hp => ?_⟩
        obtain ⟨hne, hp⟩ := (List.Nodup.mem_erase_iff hconnected.nodup).mp hp
        exact Store.live_free.mpr ⟨hne, hconnected.live p hp⟩
  | outputDestroy p =>
      have hremoved : ∀ best, OutputsLive { s with
          outputs := s.outputs.erase p, vsyncOutput := best
          outputObjects := s.outputObjects.free p } := by
        refine fun best => ⟨hs.nodup.erase p, fun q hq => ?_⟩
        obtain ⟨hne, hq⟩ := (List.Nodup.mem_erase_iff hs.nodup).mp hq
        exact Store.live_free.mpr ⟨hne, hs.live q hq⟩
      simp only [Instance.handle, Instance.outputDestroy, except_bind_eq_ok] at h
      obtain ⟨output, -, h⟩ := h
      split at h
      · obtain ⟨best, -, rfl⟩ := fwrSelectHighestRefreshOutput_ok h
        exact hremoved best
      · cases h
        exact hremoved _
  | outputCommitState p refresh scale =>
      simp only [Instance.handle, Instance.outputCommitState, except_bind_eq_ok] at h
      obtain ⟨output, -, h⟩ := h
      cases h
      exact ⟨hs.nodup, fun q hq => Store.live_set.mpr (hs.live q hq)⟩
  | setVsyncOutput outputId =>
      obtain ⟨best, -, rfl⟩ := fwrSetVsyncOutput_ok h
      exact ⟨hs.nodup, hs.live⟩
  | setPosition surfaceHandle x y layout =>
      exact hs.same (fwrHandleSurfaceSetPosition_sameOutputs h)
  | newPopup parentXdg surf registered => exact hs.same (fwrNewXdgPopup_sameOutputs h)
  | popupMap p surf registered => exact hs.same (popupHandleMap_sameOutputs h)
  | popupCommit p surf layout registered => exact hs.same (popupHandleCommit_sameOutputs h)
  | popupReposition p surf =>
      simp only [Instance.handle, Instance.popupHandleReposition, except_bind_eq_ok] at h
      obtain ⟨popup, -, h⟩ := h
      split at h
      · obtain ⟨houtputs, hobjects⟩ := sendPopupMap_sameOutputs h
        exact hs.same ⟨houtputs, hobjects⟩
      · cases h
        exact hs.same ⟨rfl, rfl⟩
  | newToplevel xdgSurface | newSurface | surfaceDestroy p | activateSystemCursor xcursorName =>
      cases h
      exact hs.same ⟨rfl, rfl⟩
  | requestCursor focused surface x y =>
      cases h
      unfold onSeatRequestCursor
      split
      · exact hs.same ⟨rfl, rfl⟩
      · exact hs
  | toplevelMap p geo layout registered =>
      simp only [Instance.handle, xdgToplevelMap, except_bind_eq_ok] at h
      obtain ⟨view, -, output, -, scale, -, h⟩ := h
      cases h
      exact hs.same ⟨rfl, rfl⟩
  | toplevelUnmap p | newSubsurface p =>
      obtain ⟨view, -, h⟩ := except_bind_eq_ok.mp h
      cases h
      exact hs.same ⟨rfl, rfl⟩
  | subsurfaceMap p box registered | subsurfaceUnmap p =>
      obtain ⟨sub, -, h⟩ := except_bind_eq_ok.mp h
      obtain ⟨view, -, h⟩ := except_bind_eq_ok.mp h
      cases h
      exact hs.same ⟨rfl, rfl⟩
  -- what these do depends on the texture of the object
  | toplevelCommit p geo | toplevelDestroy p | popupUnmap p | popupDestroy p =>
      obtain ⟨object, -, h⟩ := except_bind_eq_ok.mp h
      cases h
      split
      · exact hs.same ⟨rfl, rfl⟩
      · exact hs.same ⟨rfl, rfl⟩
  | subsurfaceCommit p box | subsurfaceDestroy p =>
      obtain ⟨sub, -, h⟩ := except_bind_eq_ok.mp h
      obtain ⟨view, -, h⟩ := except_bind_eq_ok.mp h
      cases h
      split
      · exact hs.same ⟨rfl, rfl⟩
      · exact hs.same ⟨rfl, rfl⟩

end Instance

/-! ## §4. What messages rely on. -/

/-- Handle maps, outputs and lists of subsurfaces hold objects that are there. -/
structure Standing (s : Instance) : Prop where
  maps : s.tables.Lead
  outputs : s.OutputsLive
  listed : s.outputLinks.Listed

theorem HandleMap.get_of_mem_values {m : HandleMap Ptr} {p : Ptr} (h : p ∈ m.values) :
    ∃ handle, m.get handle = some p := by
  unfold HandleMap.values at h
  obtain ⟨⟨handle, q⟩, hmem, rfl⟩ := List.mem_map.mp h
  refine ⟨handle, AList.mem_lookup_iff.mpr ?_⟩
  rwa [List.mem_insertionSort] at hmem

namespace Standing

variable {s s' : Instance} {p : Ptr} {surfaceHandle : UInt32}

theorem view (h : Standing s) (hp : s.views.get surfaceHandle = some p) :
    ∃ view, s.viewObjects.get p = some view := by
  obtain ⟨r, hr, -⟩ := h.maps.views.get surfaceHandle p hp
  obtain ⟨view, hview, -⟩ := Table.records_ok hr
  exact ⟨view, hview⟩

theorem popup (h : Standing s) (hp : s.popups.get surfaceHandle = some p) :
    ∃ popup, s.popupObjects.get p = some popup := by
  obtain ⟨r, hr, -⟩ := h.maps.popups.get surfaceHandle p hp
  obtain ⟨popup, hpopup, -⟩ := Table.records_ok hr
  exact ⟨popup, hpopup⟩

/-- The subsurfaces in the list of a view. -/
theorem subsurface {view : FwrView} (h : Standing s) (hview : s.viewObjects.get p = some view) {q : Ptr}
    (hq : q ∈ view.subsurfaces) : s.subsurfaceObjects.Live q := by
  have hlist : s.outputLinks.lists p = some view.subsurfaces := Store.project_of_get _ hview
  obtain ⟨child, hchild, -⟩ := (h.listed.mem_iff p _ hlist q).mp hq
  obtain ⟨sub, hsub, -⟩ := Store.project_eq_some.mp hchild
  exact Store.live_of_get hsub

theorem init : Standing .init where
  maps := by
    have hempty : Table.Leads ⟨0, fun _ => none, .new⟩ := by
      refine ⟨fun handle p hp => ?_, fun _ _ => rfl⟩
      cases (HandleMap.get_new handle).symm.trans hp
    exact ⟨hempty, hempty⟩
  outputs := ⟨.nil, nofun⟩
  listed := WindowState.listed_init

/-- **Every event keeps the maps and lists**, also one after which a pointer dangles. -/
theorem handle {e : Event} (hs : Standing s) (h : s.handle e = .ok s') : Standing s' where
  maps := hs.maps.effect (Instance.handle_effect h)
  outputs := hs.outputs.handle h
  listed := WindowState.listed_relinked hs.listed (Instance.handle_relinked h)

/-- A view of which only the place and the size change. -/
theorem moved {v v' : FwrView} (hs : Standing s) (hv : s.viewObjects.get p = some v)
    (hrecord : v'.textureRecord = v.textureRecord) (hcached : v'.cached = v.cached)
    (hlist : v'.subsurfaces = v.subsurfaces) : Standing (s.setView p v') where
  maps := by
    rw [Instance.tables_setView_same hv hrecord]
    exact hs.maps
  outputs := hs.outputs.same ⟨rfl, rfl⟩
  listed := by
    rw [Instance.outputLinks_setView_same hv hcached hlist]
    exact hs.listed

/-! ## §5. Handlers that come to an end. -/

theorem findOutput_ends (h : Standing s) (found : FwrOutput → Bool) :
    Ends (s.findOutput found s.outputs) fun result => ∀ p ∈ result, p ∈ s.outputs := by
  have hends : ∀ ps, (∀ p ∈ ps, s.outputObjects.Live p) → ∃ result, s.findOutput found ps = .ok result := by
    intro ps hlive
    induction ps with
    | nil => exact ⟨none, rfl⟩
    | cons q ps ih =>
        obtain ⟨output, houtput⟩ := Store.live_iff.mp (hlive q List.mem_cons_self)
        have hread : s.output q = .ok output := Instance.deref_eq_ok.mpr houtput
        rw [Instance.findOutput, hread]
        show ∃ result, (if found output = true then _ else _) = _
        split
        · exact ⟨some q, rfl⟩
        · exact ih fun p hp => hlive p (List.mem_cons_of_mem q hp)
  obtain ⟨result, hresult⟩ := hends s.outputs h.outputs.live
  exact ⟨result, hresult, fun p hp => Instance.findOutput_mem hresult hp⟩

theorem outputForBox_ends (h : Standing s) (layout : OutputLayout) (x y width height : Int) :
    Ends (s.fwrOutputForBox layout x y width height) fun result => ∀ p ∈ result, p ∈ s.outputs := by
  have hends : ∃ result, s.fwrOutputForBox layout x y width height = .ok result := by
    unfold Instance.fwrOutputForBox
    dsimp only
    split
    · exact ⟨_, rfl⟩
    · obtain ⟨found, hfound, -⟩ := h.findOutput_ends fun output => output.wlrOutput.id == _
      rw [hfound]
      cases found with
      | none => exact ⟨_, rfl⟩
      | some p => exact ⟨_, rfl⟩
  obtain ⟨result, hresult⟩ := hends
  exact ⟨result, hresult, fun p hp => Instance.fwrOutputForBox_mem hresult hp⟩

theorem scaleOf_ends (h : Standing s) {output : Option Ptr} (ho : ∀ p ∈ output, p ∈ s.outputs) :
    Ends (s.scaleOf output) fun _ => True := by
  cases output with
  | none => exact ends_ok trivial
  | some p =>
      obtain ⟨object, hobject⟩ := Store.live_iff.mp (h.outputs.live p (ho p rfl))
      have hread : s.output p = .ok object := Instance.deref_eq_ok.mpr hobject
      unfold Instance.scaleOf
      dsimp only
      rw [hread]
      exact ends_ok trivial

theorem updateAll_ends {α : Type} {fault : Fault} {f : α → α} {ps : List Ptr} {objects : Store α}
    (h : ∀ p ∈ ps, objects.Live p) : Ends (Instance.updateAll fault f ps objects) fun _ => True := by
  obtain ⟨objects', hall⟩ := Store.exists_modifyAll f h
  unfold Instance.updateAll
  rw [hall]
  exact ends_ok trivial

/-- **A window can be moved wherever it is**: the handler follows no other pointers. -/
theorem setPosition_ends (h : Standing s) (surfaceHandle : UInt32) (x y : Int) (layout : OutputLayout) :
    Ends (s.fwrHandleSurfaceSetPosition surfaceHandle x y layout) Standing := by
  have hends : Ends (s.fwrHandleSurfaceSetPosition surfaceHandle x y layout) fun _ => True := by
    unfold Instance.fwrHandleSurfaceSetPosition
    cases hp : s.views.get surfaceHandle with
    | none => exact ends_ok trivial
    | some p =>
        obtain ⟨view, hview⟩ := h.view hp
        have hread : s.view p = .ok view := Instance.deref_eq_ok.mpr hview
        dsimp only
        rw [hread]
        refine (h.outputForBox_ends layout _ _ _ _).bind fun newOutput hnew => ?_
        unfold Instance.moveToOutput
        split
        · refine (h.scaleOf_ends hnew).bind fun scale _ => ?_
          refine (updateAll_ends fun q hq => h.subsurface hview hq).bind fun subs _ => ?_
          refine (updateAll_ends fun q hq => ?_).bind fun popups _ => ends_ok trivial
          obtain ⟨handle, hhandle⟩ := HandleMap.get_of_mem_values hq
          exact Store.live_iff.mpr (h.popup hhandle)
        · exact ends_ok trivial
  obtain ⟨s', hrun, -⟩ := hends
  exact ⟨s', hrun, h.handle (e := .setPosition surfaceHandle x y layout) hrun⟩

end Standing

end FlutterWlroots.Compositor
