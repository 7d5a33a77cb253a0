/-
  FlutterWlroots.Compositor.TextureEffects — what a handler does to handles and texture ids.

  `handle_effect`: the three tables of the compositor after an event.  Few events touch them:
  creation and destruction, the map events, which register a texture, and the events of a popup that
  unregister its texture or register it late.
-/
import FlutterWlroots.Compositor.Links
import FlutterWlroots.Compositor.TextureTables

namespace FlutterWlroots.Compositor

open Lib Lib.StateRun

/-! ## §1. The tables of the compositor. -/

def FwrView.textureRecord (view : FwrView) : TextureRecord :=
  ⟨view.handle, view.textureId, view.textureRegistered⟩

def FwrSubsurface.textureRecord (sub : FwrSubsurface) : TextureRecord :=
  ⟨sub.handle, sub.textureId, sub.textureRegistered⟩

def FwrPopup.textureRecord (popup : FwrPopup) : TextureRecord :=
  ⟨popup.handle, popup.textureId, popup.textureRegistered⟩

/-- One table for each kind of object. -/
structure Tables where
  views : Table
  subsurfaces : Table
  popups : Table

namespace Instance

/-- The tables of an instance. -/
def tables (s : Instance) : Tables where
  views := .ofStore s.viewObjects FwrView.textureRecord s.views
  subsurfaces := .ofStore s.subsurfaceObjects FwrSubsurface.textureRecord s.subsurfaces
  popups := .ofStore s.popupObjects FwrPopup.textureRecord s.popups

/-- The tables after an event. -/
inductive Effect (t : Tables) : Event → Tables → Prop where
  | unchanged (e : Event) : Effect t e t
  | newToplevel {xdgSurface : Nat} :
      Effect t (.newToplevel xdgSurface) { t with views := t.views.create }
  | toplevelMap {p : Ptr} {geo : WlrBox} {layout : OutputLayout} {registered : Bool}
      {r : TextureRecord} (hr : t.views.records p = some r) :
      Effect t (.toplevelMap p geo layout registered)
        { t with views := t.views.put p ⟨r.handle, r.handle.toNat, registered⟩ }
  | toplevelDestroy {p : Ptr} {r : TextureRecord} (hr : t.views.records p = some r) :
      Effect t (.toplevelDestroy p) { t with views := t.views.destroy p r.handle }
  | newSubsurface {p : Ptr} :
      Effect t (.newSubsurface p) { t with subsurfaces := t.subsurfaces.create }
  | subsurfaceMap {p : Ptr} {box : WlrBox} {registered : Bool} {r : TextureRecord}
      (hr : t.subsurfaces.records p = some r) :
      Effect t (.subsurfaceMap p box registered)
        { t with
          subsurfaces := t.subsurfaces.put p
            ⟨r.handle, (100000 + r.handle).toNat, registered⟩ }
  | subsurfaceDestroy {p : Ptr} {r : TextureRecord} (hr : t.subsurfaces.records p = some r) :
      Effect t (.subsurfaceDestroy p)
        { t with subsurfaces := t.subsurfaces.destroy p r.handle }
  | newPopup {parentXdg : Option Nat} {surf : PopupSurface} {registered : Bool} :
      Effect t (.newPopup parentXdg surf registered) { t with popups := t.popups.create }
  | newPopupMapped {parentXdg : Option Nat} {surf : PopupSurface} {registered : Bool}
      (hmapped : surf.mapped = true) :
      Effect t (.newPopup parentXdg surf registered)
        { t with
          popups := t.popups.create.put t.popups.next
            ⟨t.popups.handles.next, (t.popups.handles.next + 200000).toNat, registered⟩ }
  | popupMap {p : Ptr} {surf : PopupSurface} {registered : Bool} {r : TextureRecord}
      (hr : t.popups.records p = some r) :
      Effect t (.popupMap p surf registered)
        { t with
          popups := t.popups.put p ⟨r.handle, (r.handle + 200000).toNat, registered⟩ }
  | popupCommit {p : Ptr} {surf : PopupSurface} {layout : OutputLayout} {registered : Bool}
      {r : TextureRecord} (hmapped : surf.mapped = true) (hr : t.popups.records p = some r) :
      Effect t (.popupCommit p surf layout registered)
        { t with
          popups := t.popups.put p ⟨r.handle, (r.handle + 200000).toNat, registered⟩ }
  | popupUnmap {p : Ptr} {r : TextureRecord} (hr : t.popups.records p = some r) :
      Effect t (.popupUnmap p)
        { t with popups := t.popups.put p { r with registered := false } }
  | popupDestroy {p : Ptr} {r : TextureRecord} (hr : t.popups.records p = some r) :
      Effect t (.popupDestroy p) { t with popups := t.popups.destroy p r.handle }

variable {s s' : Instance} {p : Ptr} {popup : FwrPopup} {surf : PopupSurface} {registered : Bool}
  {layout : OutputLayout}

/-! ## §2. Changes of one object. -/

theorem tables_eq {views subs popups : Table}
    (hviews : Table.ofStore s.viewObjects FwrView.textureRecord s.views = views)
    (hsubs : Table.ofStore s.subsurfaceObjects FwrSubsurface.textureRecord s.subsurfaces = subs)
    (hpopups : Table.ofStore s.popupObjects FwrPopup.textureRecord s.popups = popups) :
    s.tables = ⟨views, subs, popups⟩ := by
  unfold tables
  rw [hviews, hsubs, hpopups]

theorem effect_of_eq {t t' : Tables} {e : Event} (heq : s'.tables = t') (h : Effect t e t') :
    Effect t e s'.tables := by
  rw [heq]
  exact h

theorem tables_setView {v v' : FwrView} (hv : s.viewObjects.get p = some v) :
    (s.setView p v').tables
      = { s.tables with views := s.tables.views.put p v'.textureRecord } :=
  tables_eq (Table.ofStore_set hv v') rfl rfl

theorem tables_setView_same {v v' : FwrView} (hv : s.viewObjects.get p = some v)
    (hrecord : v'.textureRecord = v.textureRecord) : (s.setView p v').tables = s.tables :=
  tables_eq (Table.ofStore_set_same hv hrecord) rfl rfl

theorem tables_setSubsurface {r r' : FwrSubsurface} (hr : s.subsurfaceObjects.get p = some r) :
    (s.setSubsurface p r').tables
      = { s.tables with subsurfaces := s.tables.subsurfaces.put p r'.textureRecord } :=
  tables_eq rfl (Table.ofStore_set hr r') rfl

theorem tables_setSubsurface_same {r r' : FwrSubsurface}
    (hr : s.subsurfaceObjects.get p = some r) (hrecord : r'.textureRecord = r.textureRecord) :
    (s.setSubsurface p r').tables = s.tables :=
  tables_eq rfl (Table.ofStore_set_same hr hrecord) rfl

theorem tables_setPopup {r r' : FwrPopup} (hr : s.popupObjects.get p = some r) :
    (s.setPopup p r').tables
      = { s.tables with popups := s.tables.popups.put p r'.textureRecord } :=
  tables_eq rfl rfl (Table.ofStore_set hr r')

theorem tables_setPopup_same {r r' : FwrPopup} (hr : s.popupObjects.get p = some r)
    (hrecord : r'.textureRecord = r.textureRecord) : (s.setPopup p r').tables = s.tables :=
  tables_eq rfl rfl (Table.ofStore_set_same hr hrecord)

@[simp] theorem tables_call (s : Instance) (c : TextureCall) : (s.call c).tables = s.tables := rfl

theorem tables_if_call (s : Instance) (b : Bool) (c : TextureCall) :
    (if b then s.call c else s).tables = s.tables := by
  cases b <;> rfl

theorem views_record {v : FwrView} (hv : s.viewObjects.get p = some v) :
    s.tables.views.records p = some v.textureRecord := Table.records_ofStore hv

theorem subsurfaces_record {r : FwrSubsurface} (hr : s.subsurfaceObjects.get p = some r) :
    s.tables.subsurfaces.records p = some r.textureRecord := Table.records_ofStore hr

theorem popups_record {r : FwrPopup} (hr : s.popupObjects.get p = some r) :
    s.tables.popups.records p = some r.textureRecord := Table.records_ofStore hr

/-! ## §3. Outputs and views. -/

theorem fwrServerNewOutput_tables {wlrOutput : WlrOutput} {committed : Bool}
    (h : s.fwrServerNewOutput wlrOutput committed = .ok s') : s'.tables = s.tables := by
  rw [fwrServerNewOutput] at h
  dsimp only at h
  split at h
  · obtain ⟨best, -, rfl⟩ := fwrSelectHighestRefreshOutput_ok h
    rfl
  · cases h
    rfl

theorem outputDestroy_tables (h : s.outputDestroy p = .ok s') : s'.tables = s.tables := by
  rw [outputDestroy, except_bind_eq_ok] at h
  obtain ⟨output, -, h⟩ := h
  dsimp only at h
  split at h
  · obtain ⟨best, -, rfl⟩ := fwrSelectHighestRefreshOutput_ok h
    rfl
  · cases h
    rfl

theorem outputCommitState_tables {refresh : Option Int} {scale : Rat}
    (h : s.outputCommitState p refresh scale = .ok s') : s'.tables = s.tables := by
  rw [outputCommitState, except_bind_eq_ok] at h
  obtain ⟨output, -, h⟩ := h
  cases h
  rfl

theorem fwrSetVsyncOutput_tables {outputId : UInt32} (h : s.fwrSetVsyncOutput outputId = .ok s') :
    s'.tables = s.tables := by
  obtain ⟨best, -, rfl⟩ := fwrSetVsyncOutput_ok h
  rfl

theorem fwrNewXdgToplevel_effect {xdgSurface : Nat} (h : s.fwrNewXdgToplevel xdgSurface = .ok s') :
    Effect s.tables (.newToplevel xdgSurface) s'.tables := by
  cases h
  exact effect_of_eq (tables_eq (Table.ofStore_alloc rfl) rfl rfl) .newToplevel

theorem xdgToplevelMap_effect {geo : WlrBox}
    (h : s.xdgToplevelMap p geo layout registered = .ok s') :
    Effect s.tables (.toplevelMap p geo layout registered) s'.tables := by
  simp only [xdgToplevelMap, except_bind_eq_ok] at h
  obtain ⟨view, hview, output, -, scale, -, h⟩ := h
  cases h
  rw [tables_call, tables_setView (view_ok hview)]
  exact .toplevelMap (views_record (view_ok hview))

theorem xdgToplevelUnmap_tables (h : s.xdgToplevelUnmap p = .ok s') : s'.tables = s.tables := by
  rw [xdgToplevelUnmap, except_bind_eq_ok] at h
  obtain ⟨view, -, h⟩ := h
  cases h
  rfl

theorem xdgToplevelCommit_tables {geo : WlrBox} (h : s.xdgToplevelCommit p geo = .ok s') :
    s'.tables = s.tables := by
  rw [xdgToplevelCommit, except_bind_eq_ok] at h
  obtain ⟨view, hview, h⟩ := h
  cases h
  rw [tables_if_call]
  exact tables_setView_same (view_ok hview) rfl

theorem xdgToplevelDestroy_tables (h : s.xdgToplevelDestroy p = .ok s') :
    ∃ view, s.viewObjects.get p = some view ∧
      s'.tables = { s.tables with views := s.tables.views.destroy p view.handle } := by
  rw [xdgToplevelDestroy, except_bind_eq_ok] at h
  obtain ⟨view, hview, h⟩ := h
  cases h
  refine ⟨view, view_ok hview, ?_⟩
  split
  all_goals exact tables_eq (Table.ofStore_free _ _ _ _ _) rfl rfl

theorem xdgToplevelDestroy_effect (h : s.xdgToplevelDestroy p = .ok s') :
    Effect s.tables (.toplevelDestroy p) s'.tables := by
  obtain ⟨view, hview, htables⟩ := xdgToplevelDestroy_tables h
  exact effect_of_eq htables (.toplevelDestroy (views_record hview))

theorem moveToOutput_tables {view v : FwrView} {newOutput : Option Ptr}
    (hv : s.viewObjects.get p = some v) (hrecord : view.textureRecord = v.textureRecord)
    (h : s.moveToOutput p view newOutput = .ok s') : s'.tables = s.tables := by
  rw [moveToOutput] at h
  split at h
  case isTrue =>
    simp only [except_bind_eq_ok] at h
    obtain ⟨scale, -, subs, hsubs, popups, hpopups, h⟩ := h
    cases h
    have hpopup : ∀ r, (popupOutput p newOutput scale r).textureRecord = r.textureRecord := by
      intro r
      unfold popupOutput
      split <;> rfl
    -- the window and all its children, of which only the cached output changes
    have hsub : ∀ r, (subsurfaceOutput newOutput scale r).textureRecord = r.textureRecord :=
      fun _ => rfl
    exact tables_eq (Table.ofStore_set_same hv hrecord)
      (Table.ofStore_modifyAll hsub (updateAll_ok hsubs))
      (Table.ofStore_modifyAll hpopup (updateAll_ok hpopups))
  case isFalse =>
    cases h
    exact tables_setView_same hv hrecord

theorem fwrHandleSurfaceSetPosition_tables {surfaceHandle : UInt32} {x y : Int}
    (h : s.fwrHandleSurfaceSetPosition surfaceHandle x y layout = .ok s') :
    s'.tables = s.tables := by
  rw [fwrHandleSurfaceSetPosition] at h
  split at h
  next =>
    cases h
    rfl
  next p _ =>
    simp only [except_bind_eq_ok] at h
    obtain ⟨view, hview, newOutput, -, h⟩ := h
    exact moveToOutput_tables (view_ok hview) (by rfl) h

/-! ## §4. Subsurfaces. -/

theorem handleNewSubsurface_effect (h : s.handleNewSubsurface p = .ok s') :
    Effect s.tables (.newSubsurface p) s'.tables := by
  rw [handleNewSubsurface, except_bind_eq_ok] at h
  obtain ⟨view, hview, h⟩ := h
  cases h
  exact effect_of_eq
    (tables_eq (Table.ofStore_set_same (view_ok hview) rfl) (Table.ofStore_alloc rfl) rfl)
    .newSubsurface

theorem subsurfaceHandleMap_effect {box : WlrBox}
    (h : s.subsurfaceHandleMap p box registered = .ok s') :
    Effect s.tables (.subsurfaceMap p box registered) s'.tables := by
  simp only [subsurfaceHandleMap, except_bind_eq_ok] at h
  obtain ⟨sub, hsub, view, -, h⟩ := h
  cases h
  rw [tables_call, tables_setSubsurface (subsurface_ok hsub)]
  exact .subsurfaceMap (subsurfaces_record (subsurface_ok hsub))

theorem subsurfaceHandleUnmap_tables (h : s.subsurfaceHandleUnmap p = .ok s') :
    s'.tables = s.tables := by
  simp only [subsurfaceHandleUnmap, except_bind_eq_ok] at h
  obtain ⟨sub, -, view, -, h⟩ := h
  cases h
  rfl

theorem subsurfaceHandleCommit_tables {box : WlrBox}
    (h : s.subsurfaceHandleCommit p box = .ok s') : s'.tables = s.tables := by
  simp only [subsurfaceHandleCommit, except_bind_eq_ok] at h
  obtain ⟨sub, hsub, view, -, h⟩ := h
  cases h
  rw [tables_if_call]
  exact tables_setSubsurface_same (subsurface_ok hsub) rfl

theorem subsurfaceHandleDestroy_effect (h : s.subsurfaceHandleDestroy p = .ok s') :
    Effect s.tables (.subsurfaceDestroy p) s'.tables := by
  simp only [subsurfaceHandleDestroy, except_bind_eq_ok] at h
  obtain ⟨sub, hsub, view, hview, h⟩ := h
  cases h
  have heffect := Effect.subsurfaceDestroy (subsurfaces_record (subsurface_ok hsub))
  split
  all_goals
    exact effect_of_eq
      (tables_eq (Table.ofStore_set_same (view_ok hview) rfl) (Table.ofStore_free _ _ _ _ _) rfl)
      heffect

/-! ## §5. Popups. -/

theorem sendPopupMap_tables (hp : s.popupObjects.get p = some popup)
    (h : s.sendPopupMap p popup surf = .ok s') : s'.tables = s.tables := by
  rw [sendPopupMap, except_bind_eq_ok] at h
  obtain ⟨-, -, h⟩ := h
  cases h
  exact tables_setPopup_same hp rfl

theorem registerPopup_tables (hp : s.popupObjects.get p = some popup) (registered : Bool) :
    (s.registerPopup p popup registered).2.tables
      = { s.tables with
          popups := s.tables.popups.put p
            ⟨popup.handle, (popup.handle + 200000).toNat, registered⟩ } :=
  tables_setPopup hp

/-- The tables after the map handler of a popup, which registers a texture unless there is one. -/
theorem popupHandleMap_tables (h : s.popupHandleMap p surf registered = .ok s') :
    s'.tables = s.tables ∨ ∃ r, s.tables.popups.records p = some r ∧
      s'.tables = { s.tables with
        popups := s.tables.popups.put p ⟨r.handle, (r.handle + 200000).toNat, registered⟩ } := by
  rw [popupHandleMap, except_bind_eq_ok] at h
  obtain ⟨popup, hpopup, h⟩ := h
  have hp := popup_ok hpopup
  split at h
  · exact .inl (sendPopupMap_tables hp h)
  · obtain ⟨-, hp'⟩ := registerPopup_updates hp registered
    exact .inr ⟨_, popups_record hp,
      (sendPopupMap_tables hp' h).trans (registerPopup_tables hp registered)⟩

theorem popupHandleMap_effect (h : s.popupHandleMap p surf registered = .ok s') :
    Effect s.tables (.popupMap p surf registered) s'.tables := by
  rcases popupHandleMap_tables h with heq | ⟨r, hr, heq⟩
  · rw [heq]
    exact .unchanged _
  · rw [heq]
    exact .popupMap hr

theorem popupHandleUnmap_effect (h : s.popupHandleUnmap p = .ok s') :
    Effect s.tables (.popupUnmap p) s'.tables := by
  rw [popupHandleUnmap, except_bind_eq_ok] at h
  obtain ⟨popup, hpopup, h⟩ := h
  cases h
  split
  · rw [tables_call, tables_setPopup (popup_ok hpopup)]
    exact .popupUnmap (popups_record (popup_ok hpopup))
  · exact .unchanged _

theorem popupHandleDestroy_tables (h : s.popupHandleDestroy p = .ok s') :
    ∃ popup, s.popupObjects.get p = some popup ∧
      s'.tables = { s.tables with popups := s.tables.popups.destroy p popup.handle } := by
  rw [popupHandleDestroy, except_bind_eq_ok] at h
  obtain ⟨popup, hpopup, h⟩ := h
  cases h
  refine ⟨popup, popup_ok hpopup, ?_⟩
  split
  all_goals exact tables_eq rfl rfl (Table.ofStore_free _ _ _ _ _)

theorem popupHandleDestroy_effect (h : s.popupHandleDestroy p = .ok s') :
    Effect s.tables (.popupDestroy p) s'.tables := by
  obtain ⟨popup, hpopup, htables⟩ := popupHandleDestroy_tables h
  exact effect_of_eq htables (.popupDestroy (popups_record hpopup))

theorem parentOutput_tables {parentView : Ptr} {parent : FwrView} {output : Option Ptr}
    (hv : s.viewObjects.get parentView = some parent)
    (h : s.parentOutput parentView parent layout = .ok (output, s')) : s'.tables = s.tables := by
  rw [parentOutput] at h
  split at h
  next =>
    cases h
    rfl
  next =>
    rw [except_bind_eq_ok] at h
    obtain ⟨found, -, h⟩ := h
    split at h
    next o =>
      rw [except_bind_eq_ok] at h
      obtain ⟨scale, -, h⟩ := h
      cases h
      exact tables_setView_same hv rfl
    next =>
      cases h
      rfl

theorem popupUnconstrain_tables {popup' : FwrPopup} (hp : s.popupObjects.get p = some popup)
    (h : s.popupUnconstrain p popup layout = .ok (popup', s')) : s'.tables = s.tables := by
  rw [popupUnconstrain, except_bind_eq_ok] at h
  obtain ⟨parent, hparent, h⟩ := h
  rw [except_bind_eq_ok] at h
  obtain ⟨⟨output, s1⟩, houtput, h⟩ := h
  obtain ⟨-, hpopups, -⟩ := parentOutput_updates (view_ok hparent) houtput
  have hp1 : s1.popupObjects.get p = some popup := by rw [hpopups, hp]
  rw [← parentOutput_tables (view_ok hparent) houtput]
  dsimp only at h
  split at h
  next o =>
    rw [except_bind_eq_ok] at h
    obtain ⟨scale, -, h⟩ := h
    cases h
    exact tables_setPopup_same hp1 rfl
  next =>
    cases h
    exact tables_setPopup_same hp1 rfl

/-- A commit constrains the popup, which changes no table, and leaves it in its place. -/
theorem popupFirstCommit_tables {popup' : FwrPopup} (hp : s.popupObjects.get p = some popup)
    (h : s.popupFirstCommit p popup layout = .ok (popup', s')) :
    s'.tables = s.tables ∧ s'.popupObjects.get p = some popup' := by
  rw [popupFirstCommit] at h
  split at h
  · cases h
    exact ⟨rfl, hp⟩
  · exact ⟨popupUnconstrain_tables hp h, (popupUnconstrain_updates hp h).2⟩

/-- The fallback registers a texture unless there is one. -/
theorem popupEnsureTexture_tables {popup' : FwrPopup} (hp : s.popupObjects.get p = some popup)
    (h : s.popupEnsureTexture p popup surf registered = .ok (popup', s')) :
    s'.tables = s.tables ∨ s'.tables = { s.tables with
      popups := s.tables.popups.put p
        ⟨popup.handle, (popup.handle + 200000).toNat, registered⟩ } := by
  rw [popupEnsureTexture] at h
  split at h
  · cases h
    exact .inl rfl
  · dsimp only at h
    split at h
    · rw [except_bind_eq_ok] at h
      obtain ⟨s1, hsend, h⟩ := h
      cases h
      obtain ⟨-, hp'⟩ := registerPopup_updates hp registered
      exact .inr ((sendPopupMap_tables hp' hsend).trans (registerPopup_tables hp registered))
    · cases h
      exact .inr (registerPopup_tables hp registered)

theorem popupFrame_tables (hp : s.popupObjects.get p = some popup)
    (h : s.popupFrame p popup surf = .ok s') : s'.tables = s.tables := by
  rw [popupFrame] at h
  split at h
  · rw [except_bind_eq_ok] at h
    obtain ⟨s1, hresize, h⟩ := h
    cases h
    rw [tables_call]
    rw [popupResize] at hresize
    split at hresize
    · exact sendPopupMap_tables hp hresize
    · cases hresize
      rfl
  · cases h
    rfl

theorem popupHandleCommit_effect (h : s.popupHandleCommit p surf layout registered = .ok s') :
    Effect s.tables (.popupCommit p surf layout registered) s'.tables := by
  rw [popupHandleCommit, except_bind_eq_ok] at h
  obtain ⟨popup, hpopup, h⟩ := h
  rw [except_bind_eq_ok] at h
  obtain ⟨⟨popup', s1⟩, hfirst, h⟩ := h
  obtain ⟨htables, hp⟩ := popupFirstCommit_tables (popup_ok hpopup) hfirst
  rw [← htables]
  dsimp only at h
  split at h
  next hmapped =>
    rw [except_bind_eq_ok] at h
    obtain ⟨⟨popup'', s2⟩, hensure, h⟩ := h
    rw [popupFrame_tables (popupEnsureTexture_updates hp hensure).2 h]
    rcases popupEnsureTexture_tables hp hensure with heq | heq
    · rw [heq]
      exact .unchanged _
    · rw [heq]
      exact .popupCommit hmapped (popups_record hp)
  next =>
    cases h
    exact .unchanged _

theorem popupHandleReposition_tables (h : s.popupHandleReposition p surf = .ok s') :
    s'.tables = s.tables := by
  rw [popupHandleReposition, except_bind_eq_ok] at h
  obtain ⟨popup, hpopup, h⟩ := h
  have hp := popup_ok hpopup
  have hplaced : (s.setPopup p (popup.place surf.scheduled)).tables = s.tables :=
    tables_setPopup_same hp rfl
  dsimp only at h
  split at h
  · exact (sendPopupMap_tables (get_setPopup hp) h).trans hplaced
  · cases h
    exact hplaced

theorem fwrNewXdgPopup_effect {parentXdg : Option Nat}
    (h : s.fwrNewXdgPopup parentXdg surf registered = .ok s') :
    Effect s.tables (.newPopup parentXdg surf registered) s'.tables := by
  cases parentXdg with
  | none =>
    cases h
    exact .unchanged _
  | some parentXdg =>
    simp only [fwrNewXdgPopup] at h
    rw [except_bind_eq_ok] at h
    obtain ⟨found, -, h⟩ := h
    split at h
    next =>
      cases h
      exact .unchanged _
    next parentView =>
      rw [except_bind_eq_ok] at h
      obtain ⟨parent, -, h⟩ := h
      rw [except_bind_eq_ok] at h
      obtain ⟨-, -, h⟩ := h
      have hcreated : ∀ popup : FwrPopup, popup.textureRecord = ⟨s.popups.next, 0, false⟩ →
          Instance.tables { s with
            popups := (s.popups.add s.popupObjects.next).2
            popupObjects := s.popupObjects.alloc popup }
          = { s.tables with popups := s.tables.popups.create } := fun popup hrecord =>
        tables_eq rfl rfl (Table.ofStore_alloc hrecord)
      split at h
      next hmapped =>
        -- the popup is there already, so its map handler runs at once
        rcases popupHandleMap_tables h with heq | ⟨r, hr, heq⟩
        · exact effect_of_eq (heq.trans (hcreated _ rfl)) .newPopup
        · rw [hcreated _ rfl] at hr heq
          cases (Table.records_create_self s.tables.popups).symm.trans hr
          exact effect_of_eq heq (.newPopupMapped hmapped)
      next =>
        cases h
        exact effect_of_eq (hcreated _ rfl) .newPopup

/-! ## §6. All events. -/

/-- **What a handler does to handles and texture ids.** -/
theorem handle_effect {e : Event} (h : s.handle e = .ok s') : Effect s.tables e s'.tables := by
  have hsame : ∀ {e : Event}, s'.tables = s.tables → Effect s.tables e s'.tables := fun heq => by
    rw [heq]
    exact .unchanged _
  cases e with
  | newOutput wlrOutput committed => exact hsame (fwrServerNewOutput_tables h)
  | outputDestroy p => exact hsame (outputDestroy_tables h)
  | outputCommitState p refresh scale => exact hsame (outputCommitState_tables h)
  | setVsyncOutput outputId => exact hsame (fwrSetVsyncOutput_tables h)
  | newToplevel xdgSurface => exact fwrNewXdgToplevel_effect h
  | toplevelMap p geo layout registered => exact xdgToplevelMap_effect h
  | toplevelUnmap p => exact hsame (xdgToplevelUnmap_tables h)
  | toplevelCommit p geo => exact hsame (xdgToplevelCommit_tables h)
  | toplevelDestroy p => exact xdgToplevelDestroy_effect h
  | setPosition handle x y layout => exact hsame (fwrHandleSurfaceSetPosition_tables h)
  | newSubsurface p => exact handleNewSubsurface_effect h
  | subsurfaceMap p box registered => exact subsurfaceHandleMap_effect h
  | subsurfaceUnmap p => exact hsame (subsurfaceHandleUnmap_tables h)
  | subsurfaceCommit p box => exact hsame (subsurfaceHandleCommit_tables h)
  | subsurfaceDestroy p => exact subsurfaceHandleDestroy_effect h
  | newPopup parentXdg surf registered => exact fwrNewXdgPopup_effect h
  | popupMap p surf registered => exact popupHandleMap_effect h
  | popupUnmap p => exact popupHandleUnmap_effect h
  | popupCommit p surf layout registered => exact popupHandleCommit_effect h
  | popupReposition p surf => exact hsame (popupHandleReposition_tables h)
  | popupDestroy p => exact popupHandleDestroy_effect h
  | newSurface | surfaceDestroy p | activateSystemCursor xcursorName =>
      cases h
      exact .unchanged _
  | requestCursor focused surface x y =>
      cases h
      refine hsame ?_
      unfold onSeatRequestCursor
      split <;> rfl

end Instance

end FlutterWlroots.Compositor
