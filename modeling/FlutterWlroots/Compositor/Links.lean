/-
  FlutterWlroots.Compositor.Links — what a handler can do to the pointers.

  `Update` lists the ways in which the handlers change who points to whom; `handle_handled` says
  that every handler is a sequence of such updates, but for the three that free something others
  may point to: `output_destroy`, `xdg_toplevel_destroy`, and the end of a client surface.  What is
  to be proved of all pointers is thus proved of the updates, and of these three.
-/
import Mathlib.Logic.Relation
import FlutterWlroots.Compositor.Events

namespace FlutterWlroots.Compositor

open Lib Lib.StateRun

namespace Instance

/-! ## §1. Updates. -/

/-- An output that is connected, or that some view caches. -/
def Known (s : Instance) (o : Ptr) : Prop :=
  o ∈ s.outputs ∨ ∃ p v, s.viewObjects.get p = some v ∧ v.currentOutput = some o

/-- One change of the pointers. -/
inductive Update (s : Instance) : Instance → Prop where
  | view {p : Ptr} {v v' : FwrView} (hv : s.viewObjects.get p = some v)
      (hhandle : v'.handle = v.handle) (hout : ∀ o, v'.currentOutput = some o → s.Known o) :
      Update s (s.setView p v')
  | subsurface {p : Ptr} {r r' : FwrSubsurface} (hr : s.subsurfaceObjects.get p = some r)
      (hparent : r'.parentView = r.parentView) (hout : r'.currentOutput = r.currentOutput) :
      Update s (s.setSubsurface p r')
  | popup {p : Ptr} {r r' : FwrPopup} (hr : s.popupObjects.get p = some r)
      (hparent : r'.parentView = r.parentView)
      (hout : ∀ o, r'.currentOutput = some o → r.currentOutput = some o ∨ s.Known o) :
      Update s (s.setPopup p r')
  | children {f : FwrSubsurface → FwrSubsurface} {g : FwrPopup → FwrPopup} {ps qs : List Ptr}
      {subs : Store FwrSubsurface} {popups : Store FwrPopup}
      (hsubs : s.subsurfaceObjects.modifyAll f ps = some subs)
      (hpopups : s.popupObjects.modifyAll g qs = some popups)
      (hf : ∀ r, (f r).parentView = r.parentView ∧
        ∀ o, (f r).currentOutput = some o → s.Known o)
      (hg : ∀ r, (g r).parentView = r.parentView ∧
        ∀ o, (g r).currentOutput = some o → r.currentOutput = some o ∨ s.Known o) :
      Update s { s with subsurfaceObjects := subs, popupObjects := popups }
  | outputObjects (objects : Store FwrOutput) (nextOutputId : UInt32) :
      Update s { s with outputObjects := objects, nextOutputId := nextOutputId }
  | newOutput (o : Ptr) : Update s { s with outputs := o :: s.outputs }
  | vsync (best : Option Ptr) (hbest : ∀ o, best = some o → o ∈ s.outputs) :
      Update s { s with vsyncOutput := best }
  | call (c : TextureCall) : Update s (s.call c)
  | newView {v : FwrView} (hhandle : v.handle = s.views.next) (hout : v.currentOutput = none) :
      Update s
        { s with
          viewsList := s.viewObjects.next :: s.viewsList
          views := (s.views.add s.viewObjects.next).2
          viewObjects := s.viewObjects.alloc v }
  | newSubsurface {r : FwrSubsurface} (subsurfaces : HandleMap Ptr)
      (hparent : s.viewObjects.Live r.parentView) (hout : r.currentOutput = none) :
      Update s
        { s with subsurfaces := subsurfaces, subsurfaceObjects := s.subsurfaceObjects.alloc r }
  | subsurfaceGone (p : Ptr) (subsurfaces : HandleMap Ptr) :
      Update s
        { s with subsurfaces := subsurfaces, subsurfaceObjects := s.subsurfaceObjects.free p }
  | newPopup {r : FwrPopup} (popups : HandleMap Ptr) (hparent : s.viewObjects.Live r.parentView)
      (hout : ∀ o, r.currentOutput = some o → s.Known o) :
      Update s { s with popups := popups, popupObjects := s.popupObjects.alloc r }
  | popupGone (p : Ptr) (popups : HandleMap Ptr) :
      Update s { s with popups := popups, popupObjects := s.popupObjects.free p }
  | newSurface : Update s { s with wlrSurfaces := s.wlrSurfaces.alloc () }
  | cursor {surface : Option Ptr} (x y : Int) (name : Option String)
      (hsurface : ∀ p, surface = some p → s.wlrSurfaces.Live p) :
      Update s
        { s with
          clientCursorSurface := surface
          clientCursorHotspotX := x
          clientCursorHotspotY := y
          currentXcursorName := name }

/-- Any number of changes. -/
abbrev Updates : Instance → Instance → Prop := Relation.ReflTransGen Update

/-- The result of a handler: updates, or one of the three that free what others may point to. -/
inductive Handled (s : Instance) : Event → Instance → Prop where
  | updates {e : Event} {s' : Instance} (h : Updates s s') : Handled s e s'
  | outputDestroy {p : Ptr} {best : Option Ptr}
      (hbest : ∀ o, best = some o → o ∈ s.outputs.erase p ∨ s.vsyncOutput = some o ∧ o ≠ p) :
      Handled s (.outputDestroy p)
        { s with
          outputs := s.outputs.erase p
          vsyncOutput := best
          outputObjects := s.outputObjects.free p }
  | toplevelDestroy {p : Ptr} {v : FwrView} (hv : s.viewObjects.get p = some v)
      (calls : List TextureCall) :
      Handled s (.toplevelDestroy p)
        { s with
          textureCalls := calls
          views := (s.views.remove v.handle).2
          viewsList := s.viewsList.erase p
          viewObjects := s.viewObjects.free p }
  | surfaceDestroy {p : Ptr} :
      Handled s (.surfaceDestroy p) { s with wlrSurfaces := s.wlrSurfaces.free p }

variable {s s' : Instance} {p : Ptr} {popup : FwrPopup} {surf : PopupSurface} {registered : Bool}

theorem view_ok {v : FwrView} (h : s.view p = .ok v) : s.viewObjects.get p = some v :=
  deref_eq_ok.mp h

theorem subsurface_ok {r : FwrSubsurface} (h : s.subsurface p = .ok r) :
    s.subsurfaceObjects.get p = some r :=
  deref_eq_ok.mp h

theorem popup_ok {r : FwrPopup} (h : s.popup p = .ok r) : s.popupObjects.get p = some r :=
  deref_eq_ok.mp h

/-- The output a view caches is known. -/
theorem known_of_view {v : FwrView} (hv : s.viewObjects.get p = some v) {o : Ptr}
    (ho : v.currentOutput = some o) : s.Known o := .inr ⟨p, v, hv, ho⟩

/-- A view of which only the position, the size or the texture changes. -/
theorem Update.sameOutput {v v' : FwrView} (hv : s.viewObjects.get p = some v)
    (hhandle : v'.handle = v.handle) (hout : v'.currentOutput = v.currentOutput) :
    Update s (s.setView p v') :=
  .view hv hhandle fun _ ho => known_of_view hv (hout ▸ ho)

theorem updates_call (s : Instance) (c : TextureCall) : Updates s (s.call c) := .single (.call c)

theorem updates_if_call (s : Instance) (b : Bool) (c : TextureCall) :
    Updates s (if b then s.call c else s) := by
  cases b with
  | true => exact updates_call s c
  | false => exact .refl

/-! ## §2. Outputs and views. -/

theorem fwrServerNewOutput_updates {wlrOutput : WlrOutput} {committed : Bool}
    (h : s.fwrServerNewOutput wlrOutput committed = .ok s') : Updates s s' := by
  rw [fwrServerNewOutput] at h
  dsimp only at h
  split at h
  case isTrue =>
    -- allocated, put on the list, and the vsync output chosen anew
    obtain ⟨best, hbest, rfl⟩ := fwrSelectHighestRefreshOutput_ok h
    exact ((Relation.ReflTransGen.single (.outputObjects _ _)).tail (.newOutput _)).tail
      (.vsync best hbest)
  case isFalse =>
    -- taken off the list again
    cases h
    rw [List.erase_cons_head]
    exact .single (.outputObjects _ _)

theorem outputDestroy_handled (h : s.outputDestroy p = .ok s') :
    Handled s (.outputDestroy p) s' := by
  rw [outputDestroy, except_bind_eq_ok] at h
  obtain ⟨output, -, h⟩ := h
  by_cases hvsync : s.vsyncOutput = some p
  · simp only [hvsync, decide_true, if_true] at h
    obtain ⟨best, hbest, rfl⟩ := fwrSelectHighestRefreshOutput_ok h
    exact .outputDestroy fun o ho => .inl (hbest o ho)
  · simp only [hvsync, decide_false, Bool.false_eq_true, if_false] at h
    cases h
    exact .outputDestroy fun o ho => .inr ⟨ho, fun heq => hvsync (heq ▸ ho)⟩

theorem outputCommitState_updates {refresh : Option Int} {scale : Rat}
    (h : s.outputCommitState p refresh scale = .ok s') : Updates s s' := by
  rw [outputCommitState, except_bind_eq_ok] at h
  obtain ⟨output, -, h⟩ := h
  cases h
  exact .single (.outputObjects _ _)

theorem fwrSetVsyncOutput_updates {outputId : UInt32} (h : s.fwrSetVsyncOutput outputId = .ok s') :
    Updates s s' := by
  obtain ⟨best, hbest, rfl⟩ := fwrSetVsyncOutput_ok h
  exact .single (.vsync best hbest)

theorem fwrNewXdgToplevel_updates {xdgSurface : Nat}
    (h : s.fwrNewXdgToplevel xdgSurface = .ok s') : Updates s s' := by
  cases h
  exact .single (.newView rfl rfl)

theorem xdgToplevelMap_updates {geo : WlrBox} {layout : OutputLayout}
    (h : s.xdgToplevelMap p geo layout registered = .ok s') : Updates s s' := by
  simp only [xdgToplevelMap, except_bind_eq_ok] at h
  obtain ⟨view, hview, output, houtput, scale, -, h⟩ := h
  cases h
  have hknown : ∀ o, output = some o → s.Known o := fun o ho =>
    .inl (fwrOutputForBox_mem houtput ho)
  exact (Relation.ReflTransGen.single (.view (view_ok hview) rfl hknown)).tail (.call _)

theorem xdgToplevelUnmap_updates (h : s.xdgToplevelUnmap p = .ok s') : Updates s s' := by
  rw [xdgToplevelUnmap, except_bind_eq_ok] at h
  obtain ⟨view, -, h⟩ := h
  cases h
  exact .refl

theorem xdgToplevelCommit_updates {geo : WlrBox} (h : s.xdgToplevelCommit p geo = .ok s') :
    Updates s s' := by
  rw [xdgToplevelCommit, except_bind_eq_ok] at h
  obtain ⟨view, hview, h⟩ := h
  cases h
  refine Relation.ReflTransGen.trans ?_ (updates_if_call _ _ _)
  exact .single (.sameOutput (view_ok hview) rfl rfl)

theorem xdgToplevelDestroy_handled (h : s.xdgToplevelDestroy p = .ok s') :
    Handled s (.toplevelDestroy p) s' := by
  rw [xdgToplevelDestroy, except_bind_eq_ok] at h
  obtain ⟨view, hview, h⟩ := h
  cases h
  split
  · exact .toplevelDestroy (view_ok hview) _
  · exact .toplevelDestroy (view_ok hview) _

theorem updateAll_ok {α : Type} {fault : Fault} {f : α → α} {ps : List Ptr}
    {objects objects' : Store α} (h : updateAll fault f ps objects = .ok objects') :
    objects.modifyAll f ps = some objects' := by
  rw [updateAll] at h
  split at h
  next heq =>
    cases h
    exact heq
  next => cases h

/-- A window that is moved takes its subsurfaces and popups along. -/
theorem moveToOutput_updates {view v : FwrView} {newOutput : Option Ptr}
    (hv : s.viewObjects.get p = some v) (hhandle : view.handle = v.handle)
    (hcurrent : view.currentOutput = v.currentOutput)
    (hnew : ∀ o, newOutput = some o → o ∈ s.outputs)
    (h : s.moveToOutput p view newOutput = .ok s') : Updates s s' := by
  rw [moveToOutput] at h
  split at h
  case isTrue =>
    simp only [except_bind_eq_ok] at h
    obtain ⟨scale, -, subs, hsubs, popups, hpopups, h⟩ := h
    cases h
    -- the window first, then all its subsurfaces and popups at once
    refine (Relation.ReflTransGen.single (.view hv hhandle fun o ho => .inl (hnew o ho))).tail
      (.children (updateAll_ok hsubs) (updateAll_ok hpopups)
        (fun r => ⟨rfl, fun o ho => .inl (hnew o ho)⟩) fun r => ?_)
    unfold popupOutput
    split
    · exact ⟨rfl, fun o ho => .inr (.inl (hnew o ho))⟩
    · exact ⟨rfl, fun o ho => .inl ho⟩
  case isFalse =>
    cases h
    exact .single (.sameOutput hv hhandle hcurrent)

theorem fwrHandleSurfaceSetPosition_updates {surfaceHandle : UInt32} {x y : Int}
    {layout : OutputLayout} (h : s.fwrHandleSurfaceSetPosition surfaceHandle x y layout = .ok s') :
    Updates s s' := by
  rw [fwrHandleSurfaceSetPosition] at h
  split at h
  next =>
    cases h
    exact .refl
  next p _ =>
    simp only [except_bind_eq_ok] at h
    obtain ⟨view, hview, newOutput, hnew, h⟩ := h
    refine moveToOutput_updates (view_ok hview) ?_ ?_ (fun o ho => fwrOutputForBox_mem hnew ho) h
    · rfl
    · rfl

/-! ## §3. Subsurfaces. -/

theorem handleNewSubsurface_updates (h : s.handleNewSubsurface p = .ok s') : Updates s s' := by
  rw [handleNewSubsurface, except_bind_eq_ok] at h
  obtain ⟨view, hview, h⟩ := h
  cases h
  have hlive : s.viewObjects.Live p := Store.live_of_get (view_ok hview)
  refine (Relation.ReflTransGen.single (.sameOutput (view_ok hview) ?_ ?_)).tail
    (.newSubsurface _ (Store.live_set.mpr hlive) ?_)
  · rfl
  · rfl
  · rfl

theorem subsurfaceHandleMap_updates {box : WlrBox}
    (h : s.subsurfaceHandleMap p box registered = .ok s') : Updates s s' := by
  simp only [subsurfaceHandleMap, except_bind_eq_ok] at h
  obtain ⟨sub, hsub, view, -, h⟩ := h
  cases h
  exact (Relation.ReflTransGen.single (.subsurface (subsurface_ok hsub) rfl rfl)).tail (.call _)

theorem subsurfaceHandleUnmap_updates (h : s.subsurfaceHandleUnmap p = .ok s') : Updates s s' := by
  simp only [subsurfaceHandleUnmap, except_bind_eq_ok] at h
  obtain ⟨sub, -, view, -, h⟩ := h
  cases h
  exact .refl

theorem subsurfaceHandleCommit_updates {box : WlrBox}
    (h : s.subsurfaceHandleCommit p box = .ok s') : Updates s s' := by
  simp only [subsurfaceHandleCommit, except_bind_eq_ok] at h
  obtain ⟨sub, hsub, view, -, h⟩ := h
  cases h
  refine Relation.ReflTransGen.trans ?_ (updates_if_call _ _ _)
  exact .single (.subsurface (subsurface_ok hsub) rfl rfl)

theorem subsurfaceHandleDestroy_updates (h : s.subsurfaceHandleDestroy p = .ok s') :
    Updates s s' := by
  simp only [subsurfaceHandleDestroy, except_bind_eq_ok] at h
  obtain ⟨sub, hsub, view, hview, h⟩ := h
  cases h
  split
  · refine (Relation.ReflTransGen.single (.call _)).tail (.sameOutput (view_ok hview) ?_ ?_) |>.tail
      (.subsurfaceGone p _)
    · rfl
    · rfl
  · refine (Relation.ReflTransGen.single (.sameOutput (view_ok hview) ?_ ?_)).tail
      (.subsurfaceGone p _)
    · rfl
    · rfl

/-! ## §4. Popups. -/

theorem get_setPopup {r r' : FwrPopup} (hr : s.popupObjects.get p = some r) :
    (s.setPopup p r').popupObjects.get p = some r' :=
  Store.get_set_self (Store.live_of_get hr)

theorem sendPopupMap_updates (hp : s.popupObjects.get p = some popup)
    (h : s.sendPopupMap p popup surf = .ok s') :
    Updates s s' ∧ s'.popupObjects.get p = some (popup.place surf.mapBox) := by
  rw [sendPopupMap, except_bind_eq_ok] at h
  obtain ⟨-, -, h⟩ := h
  cases h
  exact ⟨.single (.popup hp rfl fun _ ho => .inl ho), get_setPopup hp⟩

/-- The registration of a popup's texture leaves the popup it returns in its place. -/
theorem registerPopup_updates (hp : s.popupObjects.get p = some popup) (registered : Bool) :
    Updates s (s.registerPopup p popup registered).2 ∧
      (s.registerPopup p popup registered).2.popupObjects.get p =
        some (s.registerPopup p popup registered).1 := by
  have hset : Updates s (s.setPopup p (s.registerPopup p popup registered).1) :=
    .single (.popup hp rfl fun _ ho => .inl ho)
  exact ⟨hset.tail (.call _), get_setPopup hp⟩

theorem popupHandleMap_updates (h : s.popupHandleMap p surf registered = .ok s') :
    Updates s s' := by
  rw [popupHandleMap, except_bind_eq_ok] at h
  obtain ⟨popup, hpopup, h⟩ := h
  split at h
  · exact (sendPopupMap_updates (popup_ok hpopup) h).1
  · obtain ⟨hupdates, hp⟩ := registerPopup_updates (popup_ok hpopup) registered
    exact hupdates.trans (sendPopupMap_updates hp h).1

theorem popupHandleUnmap_updates (h : s.popupHandleUnmap p = .ok s') : Updates s s' := by
  rw [popupHandleUnmap, except_bind_eq_ok] at h
  obtain ⟨popup, hpopup, h⟩ := h
  cases h
  split
  · exact (Relation.ReflTransGen.single (.popup (popup_ok hpopup) rfl fun _ ho => .inl ho)).tail
      (.call _)
  · exact .refl

theorem popupHandleDestroy_updates (h : s.popupHandleDestroy p = .ok s') : Updates s s' := by
  rw [popupHandleDestroy, except_bind_eq_ok] at h
  obtain ⟨popup, -, h⟩ := h
  cases h
  split
  · exact (updates_call s _).tail (.popupGone p _)
  · exact .single (.popupGone p _)

/-- The output of the parent is known, and the popups are as they were. -/
theorem parentOutput_updates {parentView : Ptr} {parent : FwrView} {layout : OutputLayout}
    {output : Option Ptr} (hv : s.viewObjects.get parentView = some parent)
    (h : s.parentOutput parentView parent layout = .ok (output, s')) :
    Updates s s' ∧ s'.popupObjects = s.popupObjects ∧ ∀ o, output = some o → s'.Known o := by
  rw [parentOutput] at h
  split at h
  next hcurrent =>
    cases h
    refine ⟨.refl, rfl, fun o ho => known_of_view hv ?_⟩
    rw [hcurrent, ho]
  next =>
    rw [except_bind_eq_ok] at h
    obtain ⟨found, hfound, h⟩ := h
    split at h
    next o =>
      rw [except_bind_eq_ok] at h
      obtain ⟨scale, -, h⟩ := h
      cases h
      have hmem : o ∈ s.outputs := fwrOutputForBox_mem hfound rfl
      have hknown : ∀ o', some o = some o' → s.Known o' := by
        rintro _ ⟨⟩
        exact .inl hmem
      exact ⟨.single (.view hv rfl hknown), rfl, fun o' ho' => by cases ho'; exact .inl hmem⟩
    next =>
      cases h
      exact ⟨.refl, rfl, fun o ho => .inl (fwrGetFirstOutput_mem ho)⟩

/-- After the first commit the popup that is returned is in its place. -/
theorem popupUnconstrain_updates {layout : OutputLayout} {popup' : FwrPopup}
    (hp : s.popupObjects.get p = some popup)
    (h : s.popupUnconstrain p popup layout = .ok (popup', s')) :
    Updates s s' ∧ s'.popupObjects.get p = some popup' := by
  rw [popupUnconstrain, except_bind_eq_ok] at h
  obtain ⟨parent, hparent, h⟩ := h
  rw [except_bind_eq_ok] at h
  obtain ⟨⟨output, s1⟩, houtput, h⟩ := h
  obtain ⟨hupdates, hpopups, hknown⟩ := parentOutput_updates (view_ok hparent) houtput
  have hp1 : s1.popupObjects.get p = some popup := by rw [hpopups, hp]
  dsimp only at h
  split at h
  next o =>
    rw [except_bind_eq_ok] at h
    obtain ⟨scale, -, h⟩ := h
    cases h
    exact ⟨hupdates.tail (.popup hp1 rfl fun o' ho' => .inr (hknown o' ho')), get_setPopup hp1⟩
  next =>
    cases h
    exact ⟨hupdates.tail (.popup hp1 rfl fun o' ho' => .inl ho'), get_setPopup hp1⟩

/-- The fallback of a commit leaves the popup it returns in its place. -/
theorem popupEnsureTexture_updates {popup' : FwrPopup} (hp : s.popupObjects.get p = some popup)
    (h : s.popupEnsureTexture p popup surf registered = .ok (popup', s')) :
    Updates s s' ∧ s'.popupObjects.get p = some popup' := by
  obtain ⟨hupdates, hp'⟩ := registerPopup_updates hp registered
  rw [popupEnsureTexture] at h
  split at h
  · cases h
    exact ⟨.refl, hp⟩
  · dsimp only at h
    split at h
    · rw [except_bind_eq_ok] at h
      obtain ⟨s1, hsend, h⟩ := h
      cases h
      exact (sendPopupMap_updates hp' hsend).imp_left hupdates.trans
    · cases h
      exact ⟨hupdates, hp'⟩

theorem popupResize_updates (hp : s.popupObjects.get p = some popup)
    (h : s.popupResize p popup surf = .ok s') : Updates s s' := by
  rw [popupResize] at h
  split at h
  · exact (sendPopupMap_updates hp h).1
  · cases h
    exact .refl

theorem popupFrame_updates (hp : s.popupObjects.get p = some popup)
    (h : s.popupFrame p popup surf = .ok s') : Updates s s' := by
  rw [popupFrame] at h
  split at h
  · rw [except_bind_eq_ok] at h
    obtain ⟨s1, hresize, h⟩ := h
    cases h
    exact (popupResize_updates hp hresize).tail (.call _)
  · cases h
    exact .refl

theorem popupHandleCommit_updates {layout : OutputLayout}
    (h : s.popupHandleCommit p surf layout registered = .ok s') : Updates s s' := by
  rw [popupHandleCommit, except_bind_eq_ok] at h
  obtain ⟨popup, hpopup, h⟩ := h
  rw [except_bind_eq_ok] at h
  obtain ⟨⟨popup', s1⟩, hfirst, h⟩ := h
  obtain ⟨hupdates, hp⟩ : Updates s s1 ∧ s1.popupObjects.get p = some popup' := by
    rw [popupFirstCommit] at hfirst
    split at hfirst
    · cases hfirst
      exact ⟨.refl, popup_ok hpopup⟩
    · exact popupUnconstrain_updates (popup_ok hpopup) hfirst
  dsimp only at h
  split at h
  · rw [except_bind_eq_ok] at h
    obtain ⟨⟨popup'', s2⟩, hensure, h⟩ := h
    obtain ⟨hupdates', hp'⟩ := popupEnsureTexture_updates hp hensure
    exact (hupdates.trans hupdates').trans (popupFrame_updates hp' h)
  · cases h
    exact hupdates

theorem popupHandleReposition_updates (h : s.popupHandleReposition p surf = .ok s') :
    Updates s s' := by
  rw [popupHandleReposition, except_bind_eq_ok] at h
  obtain ⟨popup, hpopup, h⟩ := h
  have hplaced : Update s (s.setPopup p (popup.place surf.scheduled)) :=
    .popup (popup_ok hpopup) rfl fun _ ho => .inl ho
  dsimp only at h
  split at h
  · exact .head hplaced (sendPopupMap_updates (get_setPopup (popup_ok hpopup)) h).1
  · cases h
    exact .single hplaced

theorem findView_mem {parentXdg : Nat} {ps : List Ptr}
    (h : s.findView parentXdg ps = .ok (some p)) :
    p ∈ ps ∧ s.viewObjects.Live p := by
  induction ps with
  | nil => cases h
  | cons q ps ih =>
      rw [findView, except_bind_eq_ok] at h
      obtain ⟨view, hview, h⟩ := h
      split at h
      · cases h
        exact ⟨List.mem_cons_self, Store.live_of_get (view_ok hview)⟩
      · exact (ih h).imp_left (List.mem_cons_of_mem q)

theorem fwrNewXdgPopup_updates {parentXdg : Option Nat}
    (h : s.fwrNewXdgPopup parentXdg surf registered = .ok s') : Updates s s' := by
  cases parentXdg with
  | none =>
    cases h
    exact .refl
  | some parentXdg =>
    simp only [fwrNewXdgPopup] at h
    rw [except_bind_eq_ok] at h
    obtain ⟨found, hfound, h⟩ := h
    split at h
    next =>
      cases h
      exact .refl
    next parentView =>
      rw [except_bind_eq_ok] at h
      obtain ⟨parent, hparent, h⟩ := h
      -- the popup inherits the output that its parent caches
      have hknown : ∀ o, parent.currentOutput = some o → s.Known o := fun o ho =>
        known_of_view (view_ok hparent) ho
      rw [except_bind_eq_ok] at h
      obtain ⟨-, -, h⟩ := h
      split at h
      · exact .head (.newPopup _ (findView_mem hfound).2 hknown) (popupHandleMap_updates h)
      · cases h
        exact .single (.newPopup _ (findView_mem hfound).2 hknown)

/-! ## §5. All handlers. -/

theorem onSeatRequestCursor_updates {focused : Bool} {surface : Option Ptr} {x y : Int}
    (h : ∀ p, surface = some p → s.wlrSurfaces.Live p) :
    Updates s (s.onSeatRequestCursor focused surface x y) := by
  rw [onSeatRequestCursor]
  split
  · exact .single (.cursor x y _ h)
  · exact .refl

/-- **What a handler does to the pointers.** -/
theorem handle_handled {e : Event} (hd : s.Deliverable e) (h : s.handle e = .ok s') :
    Handled s e s' := by
  cases e with
  | newOutput wlrOutput committed => exact .updates (fwrServerNewOutput_updates h)
  | outputDestroy p => exact outputDestroy_handled h
  | outputCommitState p refresh scale => exact .updates (outputCommitState_updates h)
  | setVsyncOutput outputId => exact .updates (fwrSetVsyncOutput_updates h)
  | newToplevel xdgSurface => exact .updates (fwrNewXdgToplevel_updates h)
  | toplevelMap p geo layout registered => exact .updates (xdgToplevelMap_updates h)
  | toplevelUnmap p => exact .updates (xdgToplevelUnmap_updates h)
  | toplevelCommit p geo => exact .updates (xdgToplevelCommit_updates h)
  | toplevelDestroy p => exact xdgToplevelDestroy_handled h
  | setPosition handle x y layout => exact .updates (fwrHandleSurfaceSetPosition_updates h)
  | newSubsurface p => exact .updates (handleNewSubsurface_updates h)
  | subsurfaceMap p box registered => exact .updates (subsurfaceHandleMap_updates h)
  | subsurfaceUnmap p => exact .updates (subsurfaceHandleUnmap_updates h)
  | subsurfaceCommit p box => exact .updates (subsurfaceHandleCommit_updates h)
  | subsurfaceDestroy p => exact .updates (subsurfaceHandleDestroy_updates h)
  | newPopup parentXdg surf registered => exact .updates (fwrNewXdgPopup_updates h)
  | popupMap p surf registered => exact .updates (popupHandleMap_updates h)
  | popupUnmap p => exact .updates (popupHandleUnmap_updates h)
  | popupCommit p surf layout registered => exact .updates (popupHandleCommit_updates h)
  | popupReposition p surf => exact .updates (popupHandleReposition_updates h)
  | popupDestroy p => exact .updates (popupHandleDestroy_updates h)
  | newSurface =>
      cases h
      exact .updates (.single .newSurface)
  | surfaceDestroy p =>
      cases h
      exact .surfaceDestroy
  | requestCursor focused surface x y =>
      cases h
      refine .updates (onSeatRequestCursor_updates fun p hp => ?_)
      subst hp
      exact hd (.surface p) rfl
  | activateSystemCursor name =>
      cases h
      exact .updates (.single (.cursor _ _ _ nofun))

end Instance

end FlutterWlroots.Compositor
