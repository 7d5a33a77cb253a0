/-
  FlutterWlroots.Compositor.TextureLives — the texture calls of the handlers.

  A view and a subsurface register their texture whenever they are mapped and unregister it when
  they are destroyed; a popup registers it unless it has done so, and unregisters it when it is
  unmapped as well.  `handle_lives`: an event makes calls for one object at most, its subject.
-/
import FlutterWlroots.Compositor.Textures

namespace FlutterWlroots.Compositor

open Lib Lib.StateRun

/-! ## §1. Calls of one object. -/

/-- The call registers or unregisters a texture. -/
def TextureCall.isRegistration : TextureCall → Bool
  | .register _ => true
  | .unregister _ => true
  | .markFrameAvailable _ => false

/-- Registrations and their ends. -/
def registrations (calls : List TextureCall) : List TextureCall :=
  calls.filter TextureCall.isRegistration

def TextureCall.textureId : TextureCall → Int
  | .register textureId => textureId
  | .unregister textureId => textureId
  | .markFrameAvailable textureId => textureId

/-- The calls with a texture id. -/
def callsOf (textureId : Int) (calls : List TextureCall) : List TextureCall :=
  calls.filter fun c => c.textureId = textureId

/-- Whether the texture is registered after some calls, if they alternate and have its id. -/
def replayTexture (textureId : Int) : Bool → List TextureCall → Option Bool
  | registered, [] => some registered
  | registered, .register id :: calls =>
      if registered = false ∧ id = textureId then replayTexture textureId true calls else none
  | registered, .unregister id :: calls =>
      if registered = true ∧ id = textureId then replayTexture textureId false calls else none
  | registered, .markFrameAvailable _ :: calls => replayTexture textureId registered calls

/-- The texture id of an object with a handle. -/
def TextureSource.textureId : TextureSource → UInt32 → Int
  | .view _, handle => handle.toNat
  | .subsurface _, handle => (100000 + handle).toNat
  | .popup _, handle => (handle + 200000).toNat

/-- The record of an object. -/
def Tables.record (t : Tables) : TextureSource → Option TextureRecord
  | .view p => t.views.records p
  | .subsurface p => t.subsurfaces.records p
  | .popup p => t.popups.records p

/-- The object has a texture. -/
def isRegistered (r : Option TextureRecord) : Bool := r.any (·.registered)

theorem registrations_append (calls calls' : List TextureCall) :
    registrations (calls ++ calls') = registrations calls ++ registrations calls' :=
  List.filter_append ..

theorem replayTexture_append {textureId : Int} : ∀ {registered registered' : Bool}
    {calls calls' : List TextureCall},
    replayTexture textureId registered calls = some registered' →
    replayTexture textureId registered (calls ++ calls') =
      replayTexture textureId registered' calls' := by
  intro registered registered' calls calls' h
  induction calls generalizing registered with
  | nil =>
      cases h
      rfl
  | cons call calls ih =>
      cases call with
      | register id =>
          rw [replayTexture] at h
          split at h
          next hok =>
            rw [List.cons_append, replayTexture, if_pos hok]
            exact ih h
          next => cases h
      | unregister id =>
          rw [replayTexture] at h
          split at h
          next hok =>
            rw [List.cons_append, replayTexture, if_pos hok]
            exact ih h
          next => cases h
      | markFrameAvailable id => exact ih h

/-! ## §2. Calls of the handlers. -/

namespace Instance

variable {s s' : Instance} {p : Ptr} {popup popup' : FwrPopup} {surf : PopupSurface}
  {registered : Bool} {layout : OutputLayout}

/-- The registrations so far. -/
def registrationCalls (s : Instance) : List TextureCall := registrations s.textureCalls

theorem registrationCalls_call (s : Instance) (c : TextureCall) :
    (s.call c).registrationCalls = s.registrationCalls ++ registrations [c] := registrations_append ..

theorem registrationCalls_frame (s : Instance) (b : Bool) (textureId : Int) :
    (if b then s.call (.markFrameAvailable textureId) else s).registrationCalls = s.registrationCalls := by
  cases b with
  | false => rfl
  | true =>
      show (s.call _).registrationCalls = _
      rw [registrationCalls_call]
      exact List.append_nil _

theorem outputs_registrations {e : Event}
    (he : (∃ wlrOutput committed, e = .newOutput wlrOutput committed) ∨
      (∃ p, e = .outputDestroy p) ∨ (∃ p refresh scale, e = .outputCommitState p refresh scale) ∨
      ∃ outputId, e = .setVsyncOutput outputId)
    (h : s.handle e = .ok s') : s'.registrationCalls = s.registrationCalls := by
  rcases he with ⟨wlrOutput, committed, rfl⟩ | ⟨p, rfl⟩ | ⟨p, refresh, scale, rfl⟩ | ⟨id, rfl⟩
  · rw [handle, fwrServerNewOutput] at h
    dsimp only at h
    split at h
    · obtain ⟨best, -, rfl⟩ := fwrSelectHighestRefreshOutput_ok h
      rfl
    · cases h
      rfl
  · rw [handle, outputDestroy, except_bind_eq_ok] at h
    obtain ⟨output, -, h⟩ := h
    dsimp only at h
    split at h
    · obtain ⟨best, -, rfl⟩ := fwrSelectHighestRefreshOutput_ok h
      rfl
    · cases h
      rfl
  · rw [handle, outputCommitState, except_bind_eq_ok] at h
    obtain ⟨output, -, h⟩ := h
    cases h
    rfl
  · obtain ⟨best, -, rfl⟩ := fwrSetVsyncOutput_ok h
    rfl

theorem fwrNewXdgToplevel_registrations {xdgSurface : Nat}
    (h : s.fwrNewXdgToplevel xdgSurface = .ok s') :
    s'.registrationCalls = s.registrationCalls ∧
      s'.tables = { s.tables with views := s.tables.views.create } := by
  cases h
  exact ⟨rfl, tables_eq (Table.ofStore_alloc rfl) rfl rfl⟩

theorem xdgToplevelMap_registrations {geo : WlrBox}
    (h : s.xdgToplevelMap p geo layout registered = .ok s') :
    ∃ view, s.viewObjects.get p = some view ∧
      s'.registrationCalls = s.registrationCalls ++ [.register view.handle.toNat] ∧
      s'.tables = { s.tables with
        views := s.tables.views.put p ⟨view.handle, view.handle.toNat, registered⟩ } := by
  simp only [xdgToplevelMap, except_bind_eq_ok] at h
  obtain ⟨view, hview, output, -, scale, -, h⟩ := h
  cases h
  refine ⟨view, view_ok hview, registrationCalls_call .., ?_⟩
  rw [tables_call]
  exact tables_setView (view_ok hview)

theorem xdgToplevelUnmap_registrations (h : s.xdgToplevelUnmap p = .ok s') :
    s'.registrationCalls = s.registrationCalls := by
  rw [xdgToplevelUnmap, except_bind_eq_ok] at h
  obtain ⟨view, -, h⟩ := h
  cases h
  rfl

theorem xdgToplevelCommit_registrations {geo : WlrBox} (h : s.xdgToplevelCommit p geo = .ok s') :
    s'.registrationCalls = s.registrationCalls := by
  rw [xdgToplevelCommit, except_bind_eq_ok] at h
  obtain ⟨view, -, h⟩ := h
  cases h
  exact registrationCalls_frame ..

theorem xdgToplevelDestroy_registrations (h : s.xdgToplevelDestroy p = .ok s') :
    ∃ view, s.viewObjects.get p = some view ∧
      s'.registrationCalls = s.registrationCalls ++
        (if view.textureRegistered then [.unregister view.textureId] else []) ∧
      s'.tables = { s.tables with views := s.tables.views.destroy p view.handle } := by
  obtain ⟨view, hview, htables⟩ := xdgToplevelDestroy_tables h
  have hread : s.view p = .ok view := deref_eq_ok.mpr hview
  rw [xdgToplevelDestroy, hread] at h
  cases h
  refine ⟨view, hview, ?_, htables⟩
  cases view.textureRegistered with
  | true => exact registrationCalls_call ..
  | false => exact (List.append_nil _).symm

theorem fwrHandleSurfaceSetPosition_registrations {surfaceHandle : UInt32} {x y : Int}
    (h : s.fwrHandleSurfaceSetPosition surfaceHandle x y layout = .ok s') :
    s'.registrationCalls = s.registrationCalls := by
  rw [fwrHandleSurfaceSetPosition] at h
  split at h
  next =>
    cases h
    rfl
  next p _ =>
    simp only [except_bind_eq_ok] at h
    obtain ⟨view, -, newOutput, -, h⟩ := h
    rw [moveToOutput] at h
    split at h
    · simp only [except_bind_eq_ok] at h
      obtain ⟨scale, -, subs, -, popups, -, h⟩ := h
      cases h
      rfl
    · cases h
      rfl

theorem handleNewSubsurface_registrations (h : s.handleNewSubsurface p = .ok s') :
    s'.registrationCalls = s.registrationCalls ∧
      s'.tables = { s.tables with subsurfaces := s.tables.subsurfaces.create } := by
  rw [handleNewSubsurface, except_bind_eq_ok] at h
  obtain ⟨view, hview, h⟩ := h
  cases h
  exact ⟨rfl, tables_eq (Table.ofStore_set_same (view_ok hview) rfl) (Table.ofStore_alloc rfl) rfl⟩

theorem subsurfaceHandleMap_registrations {box : WlrBox}
    (h : s.subsurfaceHandleMap p box registered = .ok s') :
    ∃ sub, s.subsurfaceObjects.get p = some sub ∧
      s'.registrationCalls = s.registrationCalls ++ [.register (100000 + sub.handle).toNat] ∧
      s'.tables = { s.tables with
        subsurfaces := s.tables.subsurfaces.put p
          ⟨sub.handle, (100000 + sub.handle).toNat, registered⟩ } := by
  simp only [subsurfaceHandleMap, except_bind_eq_ok] at h
  obtain ⟨sub, hsub, view, -, h⟩ := h
  cases h
  refine ⟨sub, subsurface_ok hsub, registrationCalls_call .., ?_⟩
  rw [tables_call]
  exact tables_setSubsurface (subsurface_ok hsub)

theorem subsurfaceHandleUnmap_registrations (h : s.subsurfaceHandleUnmap p = .ok s') :
    s'.registrationCalls = s.registrationCalls := by
  simp only [subsurfaceHandleUnmap, except_bind_eq_ok] at h
  obtain ⟨sub, -, view, -, h⟩ := h
  cases h
  rfl

theorem subsurfaceHandleCommit_registrations {box : WlrBox}
    (h : s.subsurfaceHandleCommit p box = .ok s') :
    s'.registrationCalls = s.registrationCalls := by
  simp only [subsurfaceHandleCommit, except_bind_eq_ok] at h
  obtain ⟨sub, -, view, -, h⟩ := h
  cases h
  exact registrationCalls_frame ..

theorem subsurfaceHandleDestroy_registrations (h : s.subsurfaceHandleDestroy p = .ok s') :
    ∃ sub, s.subsurfaceObjects.get p = some sub ∧
      s'.registrationCalls = s.registrationCalls ++
        (if sub.textureRegistered then [.unregister sub.textureId] else []) ∧
      s'.tables = { s.tables with subsurfaces := s.tables.subsurfaces.destroy p sub.handle } := by
  simp only [subsurfaceHandleDestroy, except_bind_eq_ok] at h
  obtain ⟨sub, hsub, view, hview, h⟩ := h
  cases h
  refine ⟨sub, subsurface_ok hsub, ?_, ?_⟩
  · cases sub.textureRegistered with
    | true => exact registrationCalls_call ..
    | false => exact (List.append_nil _).symm
  · split
    all_goals
      exact tables_eq (Table.ofStore_set_same (view_ok hview) rfl)
        (Table.ofStore_free _ _ _ _ _) rfl

theorem sendPopupMap_registrations (h : s.sendPopupMap p popup surf = .ok s') :
    s'.registrationCalls = s.registrationCalls := by
  rw [sendPopupMap, except_bind_eq_ok] at h
  obtain ⟨-, -, h⟩ := h
  cases h
  rfl

theorem registerPopup_registrations (s : Instance) (p : Ptr) (popup : FwrPopup)
    (registered : Bool) : (s.registerPopup p popup registered).2.registrationCalls =
      s.registrationCalls ++ [.register (popup.handle + 200000).toNat] :=
  registrationCalls_call ..

/-- What leaves a popup with a texture: nothing is done if it has one. -/
def EnsuresTexture (s s' : Instance) (p : Ptr) (popup : FwrPopup) (registered : Bool) : Prop :=
  (popup.textureRegistered = true ∧ s'.registrationCalls = s.registrationCalls ∧
      s'.tables = s.tables) ∨
    (popup.textureRegistered = false ∧
      s'.registrationCalls = s.registrationCalls ++ [.register (popup.handle + 200000).toNat] ∧
      s'.tables = { s.tables with
        popups := s.tables.popups.put p
          ⟨popup.handle, (popup.handle + 200000).toNat, registered⟩ })

theorem popupHandleMap_ensures (hp : s.popupObjects.get p = some popup)
    (h : s.popupHandleMap p surf registered = .ok s') : EnsuresTexture s s' p popup registered := by
  have hread : s.popup p = .ok popup := deref_eq_ok.mpr hp
  rw [popupHandleMap, hread] at h
  replace h : (if popup.textureRegistered then s.sendPopupMap p popup surf else _) = .ok s' := h
  split at h
  next hregistered =>
    exact .inl ⟨hregistered, sendPopupMap_registrations h, sendPopupMap_tables hp h⟩
  next hnew =>
    obtain ⟨-, hp'⟩ := registerPopup_updates hp registered
    exact .inr ⟨Bool.not_eq_true _ ▸ hnew,
      (sendPopupMap_registrations h).trans (registerPopup_registrations ..),
      (sendPopupMap_tables hp' h).trans (registerPopup_tables hp registered)⟩

theorem popupHandleUnmap_registrations (h : s.popupHandleUnmap p = .ok s') :
    ∃ popup, s.popupObjects.get p = some popup ∧
      ((popup.textureRegistered = false ∧ s' = s) ∨
        (popup.textureRegistered = true ∧
          s'.registrationCalls = s.registrationCalls ++ [.unregister popup.textureId] ∧
          s'.tables = { s.tables with
            popups := s.tables.popups.put p { popup.textureRecord with registered := false } })) := by
  rw [popupHandleUnmap, except_bind_eq_ok] at h
  obtain ⟨popup, hpopup, h⟩ := h
  cases h
  refine ⟨popup, popup_ok hpopup, ?_⟩
  split
  next hregistered =>
    refine .inr ⟨hregistered, registrationCalls_call .., ?_⟩
    rw [tables_call]
    exact tables_setPopup (popup_ok hpopup)
  next hnone => exact .inl ⟨Bool.not_eq_true _ ▸ hnone, rfl⟩

theorem popupHandleDestroy_registrations (h : s.popupHandleDestroy p = .ok s') :
    ∃ popup, s.popupObjects.get p = some popup ∧
      s'.registrationCalls = s.registrationCalls ++
        (if popup.textureRegistered then [.unregister popup.textureId] else []) ∧
      s'.tables = { s.tables with popups := s.tables.popups.destroy p popup.handle } := by
  obtain ⟨popup, hpopup, htables⟩ := popupHandleDestroy_tables h
  have hread : s.popup p = .ok popup := deref_eq_ok.mpr hpopup
  rw [popupHandleDestroy, hread] at h
  cases h
  refine ⟨popup, hpopup, ?_, htables⟩
  cases popup.textureRegistered with
  | true => exact registrationCalls_call ..
  | false => exact (List.append_nil _).symm

theorem parentOutput_registrations {parentView : Ptr} {parent : FwrView} {output : Option Ptr}
    (h : s.parentOutput parentView parent layout = .ok (output, s')) :
    s'.registrationCalls = s.registrationCalls := by
  rw [parentOutput] at h
  split at h
  next =>
    cases h
    rfl
  next =>
    rw [except_bind_eq_ok] at h
    obtain ⟨found, -, h⟩ := h
    split at h
    next o =>
      rw [except_bind_eq_ok] at h
      obtain ⟨scale, -, h⟩ := h
      cases h
      rfl
    next =>
      cases h
      rfl

/-- The first commit changes neither calls nor textures. -/
theorem popupFirstCommit_registrations (h : s.popupFirstCommit p popup layout = .ok (popup', s')) :
    s'.registrationCalls = s.registrationCalls ∧ popup'.textureRecord = popup.textureRecord := by
  rw [popupFirstCommit] at h
  split at h
  · cases h
    exact ⟨rfl, rfl⟩
  · rw [popupUnconstrain, except_bind_eq_ok] at h
    obtain ⟨parent, -, h⟩ := h
    rw [except_bind_eq_ok] at h
    obtain ⟨⟨output, s1⟩, houtput, h⟩ := h
    have hcalls := parentOutput_registrations houtput
    dsimp only at h
    split at h
    next o =>
      rw [except_bind_eq_ok] at h
      obtain ⟨scale, -, h⟩ := h
      cases h
      exact ⟨hcalls, rfl⟩
    next =>
      cases h
      exact ⟨hcalls, rfl⟩

theorem popupEnsureTexture_ensures (hp : s.popupObjects.get p = some popup)
    (h : s.popupEnsureTexture p popup surf registered = .ok (popup', s')) :
    EnsuresTexture s s' p popup registered := by
  rw [popupEnsureTexture] at h
  split at h
  next hregistered =>
    cases h
    exact .inl ⟨hregistered, rfl, rfl⟩
  next hnew =>
    have hnew' : popup.textureRegistered = false := Bool.not_eq_true _ ▸ hnew
    dsimp only at h
    split at h
    · rw [except_bind_eq_ok] at h
      obtain ⟨s1, hsend, h⟩ := h
      cases h
      obtain ⟨-, hp'⟩ := registerPopup_updates hp registered
      exact .inr ⟨hnew', (sendPopupMap_registrations hsend).trans (registerPopup_registrations ..),
        (sendPopupMap_tables hp' hsend).trans (registerPopup_tables hp registered)⟩
    · cases h
      exact .inr ⟨hnew', registerPopup_registrations .., registerPopup_tables hp registered⟩

theorem popupFrame_registrations (h : s.popupFrame p popup surf = .ok s') :
    s'.registrationCalls = s.registrationCalls := by
  rw [popupFrame] at h
  split at h
  · rw [except_bind_eq_ok] at h
    obtain ⟨s1, hresize, h⟩ := h
    cases h
    have hframe : (s1.call (.markFrameAvailable popup.textureId)).registrationCalls =
        s1.registrationCalls := registrationCalls_frame s1 true _
    rw [hframe]
    rw [popupResize] at hresize
    split at hresize
    · exact sendPopupMap_registrations hresize
    · cases hresize
      rfl
  · cases h
    rfl

/-- A commit leaves a mapped popup with a texture, and does nothing of this kind otherwise. -/
theorem popupHandleCommit_ensures (h : s.popupHandleCommit p surf layout registered = .ok s') :
    ∃ popup, s.popupObjects.get p = some popup ∧
      (EnsuresTexture s s' p popup registered ∨
        (s'.registrationCalls = s.registrationCalls ∧ s'.tables = s.tables)) := by
  rw [popupHandleCommit, except_bind_eq_ok] at h
  obtain ⟨popup, hpopup, h⟩ := h
  refine ⟨popup, popup_ok hpopup, ?_⟩
  rw [except_bind_eq_ok] at h
  obtain ⟨⟨popup1, s1⟩, hfirst, h⟩ := h
  obtain ⟨htables, hp⟩ := popupFirstCommit_tables (popup_ok hpopup) hfirst
  obtain ⟨hcalls, hrecord⟩ := popupFirstCommit_registrations hfirst
  dsimp only at h
  split at h
  next =>
    rw [except_bind_eq_ok] at h
    obtain ⟨⟨popup2, s2⟩, hensure, h⟩ := h
    have hframeCalls := popupFrame_registrations h
    have hframeTables := popupFrame_tables (popupEnsureTexture_updates hp hensure).2 h
    left
    unfold EnsuresTexture
    rw [hframeCalls, hframeTables, ← hcalls, ← htables]
    have hregistered : popup.textureRegistered = popup1.textureRegistered :=
      (congrArg TextureRecord.registered hrecord).symm
    have hhandle : popup.handle = popup1.handle := (congrArg TextureRecord.handle hrecord).symm
    rw [hregistered, hhandle]
    exact popupEnsureTexture_ensures hp hensure
  next =>
    cases h
    exact .inr ⟨hcalls, htables⟩

theorem popupHandleReposition_registrations (h : s.popupHandleReposition p surf = .ok s') :
    s'.registrationCalls = s.registrationCalls := by
  rw [popupHandleReposition, except_bind_eq_ok] at h
  obtain ⟨popup, -, h⟩ := h
  dsimp only at h
  split at h
  · have hcalls := sendPopupMap_registrations h
    exact hcalls
  · cases h
    rfl

/-- A new popup, if the parent is found; one that is mapped already gets its texture. -/
theorem fwrNewXdgPopup_registrations {parentXdg : Option Nat}
    (h : s.fwrNewXdgPopup parentXdg surf registered = .ok s') :
    s' = s ∨
      (surf.mapped = false ∧ s'.registrationCalls = s.registrationCalls ∧
        s'.tables = { s.tables with popups := s.tables.popups.create }) ∨
      (surf.mapped = true ∧
        s'.registrationCalls =
          s.registrationCalls ++ [.register (s.popups.next + 200000).toNat] ∧
        s'.tables = { s.tables with
          popups := s.tables.popups.create.put s.popupObjects.next
            ⟨s.popups.next, (s.popups.next + 200000).toNat, registered⟩ }) := by
  cases parentXdg with
  | none =>
      cases h
      exact .inl rfl
  | some parentXdg =>
      simp only [fwrNewXdgPopup] at h
      rw [except_bind_eq_ok] at h
      obtain ⟨found, -, h⟩ := h
      split at h
      next =>
        cases h
        exact .inl rfl
      next parentView =>
        rw [except_bind_eq_ok] at h
        obtain ⟨parent, -, h⟩ := h
        rw [except_bind_eq_ok] at h
        obtain ⟨-, -, h⟩ := h
        have hcreated : ∀ popup : FwrPopup, popup.textureRecord = ⟨s.popups.next, 0, false⟩ →
            Instance.tables { s with
              popups := (s.popups.add s.popupObjects.next).2
              popupObjects := s.popupObjects.alloc popup }
            = { s.tables with popups := s.tables.popups.create } := fun popup hrecord =>
          tables_eq rfl rfl (Table.ofStore_alloc hrecord)
        split at h
        next hmapped =>
          rcases popupHandleMap_ensures (Store.get_alloc_next ..) h with
            ⟨hregistered, -, -⟩ | ⟨-, hcalls, htables⟩
          · cases hregistered
          · rw [hcreated _ rfl] at htables
            exact .inr (.inr ⟨hmapped, hcalls, htables⟩)
        next hmapped =>
          cases h
          exact .inr (.inl ⟨Bool.not_eq_true _ ▸ hmapped, rfl, hcreated _ rfl⟩)

end Instance

/-! ## §3. Lives of objects. -/

/-- The object that an event creates, maps, unmaps or destroys, or a popup that commits. -/
def Instance.subject (s : Instance) : Event → Option TextureSource
  | .newToplevel _ => some (.view s.viewObjects.next)
  | .toplevelMap p _ _ _ => some (.view p)
  | .toplevelUnmap p => some (.view p)
  | .toplevelDestroy p => some (.view p)
  | .newSubsurface _ => some (.subsurface s.subsurfaceObjects.next)
  | .subsurfaceMap p _ _ => some (.subsurface p)
  | .subsurfaceUnmap p => some (.subsurface p)
  | .subsurfaceDestroy p => some (.subsurface p)
  | .newPopup _ _ _ => some (.popup s.popupObjects.next)
  | .popupMap p _ _ => some (.popup p)
  | .popupUnmap p => some (.popup p)
  | .popupCommit p _ _ _ => some (.popup p)
  | .popupDestroy p => some (.popup p)
  | _ => none

/-- Whether the object is mapped after the event, if the event has to do with that. -/
def Event.mapped : Event → Option Bool
  | .newToplevel _ => some false
  | .toplevelMap _ _ _ _ => some true
  | .toplevelUnmap _ => some false
  | .toplevelDestroy _ => some false
  | .newSubsurface _ => some false
  | .subsurfaceMap _ _ _ => some true
  | .subsurfaceUnmap _ => some false
  | .subsurfaceDestroy _ => some false
  | .newPopup _ surf _ => some surf.mapped
  | .popupMap _ _ _ => some true
  | .popupUnmap _ => some false
  | .popupDestroy _ => some false
  | _ => none

/-- The event creates its subject. -/
def Event.creates : Event → Bool
  | .newToplevel _ => true
  | .newSubsurface _ => true
  | .newPopup _ _ _ => true
  | _ => false

/-- The results of the registrations of an event. -/
def Event.registers : Event → Bool
  | .toplevelMap _ _ _ registered => registered
  | .subsurfaceMap _ _ registered => registered
  | .newPopup _ _ registered => registered
  | .popupMap _ _ registered => registered
  | .popupCommit _ _ _ registered => registered
  | _ => true

def TextureSource.IsPopup : TextureSource → Prop
  | .popup _ => True
  | _ => False

/-- What an event can do to one object, with the calls it makes for it. -/
inductive Change (x : TextureSource) (e : Event) :
    Option TextureRecord → List TextureCall → Option TextureRecord → Prop where
  | create (handle : UInt32) (hnew : e.creates = true) (hmapped : e.mapped = some false) :
      Change x e none [] (some ⟨handle, 0, false⟩)
  | createMapped (handle : UInt32) (hnew : e.creates = true) :
      Change x e none [.register (x.textureId handle)] (some ⟨handle, x.textureId handle, true⟩)
  | register (r : TextureRecord) (hold : e.creates = false)
      (hpopup : x.IsPopup → r.registered = false) (hother : ¬x.IsPopup → e.mapped = some true) :
      Change x e (some r) [.register (x.textureId r.handle)]
        (some ⟨r.handle, x.textureId r.handle, true⟩)
  | unregister (r : TextureRecord) (hold : e.creates = false) (hmapped : e.mapped = some false)
      (hr : r.registered = true) :
      Change x e (some r) [.unregister r.textureId] (some { r with registered := false })
  | destroy (r : TextureRecord) (hold : e.creates = false) :
      Change x e (some r) (if r.registered then [.unregister r.textureId] else []) none

/-- An event changes its subject or no object at all; a subject that is mapped by it has a texture
    then. -/
inductive Lives (subject : Option TextureSource) (e : Event) (t : Tables) (calls : List TextureCall)
    (t' : Tables) : Prop where
  | keeps (hrecord : t'.record = t.record) (hcalls : calls = [])
      (hmapped : e.mapped = some true → ∀ x ∈ subject, ∀ r ∈ t.record x, r.registered = true)
      (hcreates : e.creates = true → ∀ x ∈ subject, t.record x = none)
  | changes (x : TextureSource) (hsubject : subject = some x) (r' : Option TextureRecord)
      (hchange : Change x e (t.record x) calls r')
      (hrecord : t'.record = Function.update t.record x r')

section Records

variable {t : Tables} {p : Ptr} {table : Table} {r' : Option TextureRecord}

/-- The record of one object changes in a table and in all of them. -/
theorem update_record {source : Ptr → TextureSource} (hinjective : source.Injective) (q : Ptr) :
    Function.update (fun q => t.record (source q)) p r' q =
      Function.update t.record (source p) r' (source q) :=
  (congrFun (Function.update_comp_eq_of_injective t.record hinjective p r') q).symm

theorem record_views (h : table.records = Function.update t.views.records p r') :
    Tables.record { t with views := table } = Function.update t.record (.view p) r' := by
  funext x
  cases x with
  | view q =>
      show table.records q = _
      rw [h]
      exact update_record (fun _ _ => TextureSource.view.inj) q
  | subsurface q => rfl
  | popup q => rfl

theorem record_subsurfaces (h : table.records = Function.update t.subsurfaces.records p r') :
    Tables.record { t with subsurfaces := table } = Function.update t.record (.subsurface p) r' := by
  funext x
  cases x with
  | view q => rfl
  | subsurface q =>
      show table.records q = _
      rw [h]
      exact update_record (fun _ _ => TextureSource.subsurface.inj) q
  | popup q => rfl

theorem record_popups (h : table.records = Function.update t.popups.records p r') :
    Tables.record { t with popups := table } = Function.update t.record (.popup p) r' := by
  funext x
  cases x with
  | view q => rfl
  | subsurface q => rfl
  | popup q =>
      show table.records q = _
      rw [h]
      exact update_record (fun _ _ => TextureSource.popup.inj) q

end Records

namespace Instance

variable {s s' : Instance} {e : Event} {x : TextureSource} {p : Ptr}

theorem records_next {α : Type} (objects : Store α) (record : α → TextureRecord)
    (handles : HandleMap Ptr) : (Table.ofStore objects record handles).records objects.next = none := by
  show (objects.get objects.next).map record = none
  rw [Option.map_eq_none_iff, ← Option.not_isSome_iff_eq_none]
  exact fun h => Store.not_live_next objects (AList.lookup_isSome.mp h)

/-- The event leaves the textures alone. -/
theorem lives_same (hcalls : s'.registrationCalls = s.registrationCalls)
    (htables : s'.tables = s.tables) (hmapped : e.mapped ≠ some true)
    (hold : e.creates ≠ true) :
    ∃ calls, s'.registrationCalls = s.registrationCalls ++ calls ∧
      Lives (s.subject e) e s.tables calls s'.tables := by
  refine ⟨[], hcalls.trans (List.append_nil _).symm, ?_⟩
  rw [htables]
  exact .keeps rfl rfl (fun h => absurd h hmapped) fun h => absurd h hold

/-- The event changes its subject. -/
theorem lives_changes {r r' : Option TextureRecord} {calls : List TextureCall}
    (hcalls : s'.registrationCalls = s.registrationCalls ++ calls)
    (hsubject : s.subject e = some x) (hr : s.tables.record x = r)
    (hchange : Change x e r calls r')
    (hrecord : s'.tables.record = Function.update s.tables.record x r') :
    ∃ calls, s'.registrationCalls = s.registrationCalls ++ calls ∧
      Lives (s.subject e) e s.tables calls s'.tables := by
  subst hr
  exact ⟨calls, hcalls, .changes x hsubject r' hchange hrecord⟩

/-- A popup is left with a texture. -/
theorem lives_ensures {popup : FwrPopup} (hp : s.popupObjects.get p = some popup)
    (hold : e.creates = false) (hsubject : s.subject e = some (.popup p)) (h : EnsuresTexture s s' p popup true) :
    ∃ calls, s'.registrationCalls = s.registrationCalls ++ calls ∧
      Lives (s.subject e) e s.tables calls s'.tables := by
  have hr : s.tables.record (.popup p) = some popup.textureRecord := popups_record hp
  rcases h with ⟨hregistered, hcalls, htables⟩ | ⟨hnew, hcalls, htables⟩
  · refine ⟨[], hcalls.trans (List.append_nil _).symm, ?_⟩
    rw [htables]
    refine .keeps rfl rfl (fun _ x hx r hrx => ?_) fun hnew => absurd hnew (by rw [hold]; nofun)
    rw [hsubject] at hx
    cases hx
    rw [hr] at hrx
    cases hrx
    exact hregistered
  · refine lives_changes hcalls hsubject hr
      (.register popup.textureRecord hold (fun _ => hnew) fun hx => absurd trivial hx) ?_
    rw [htables]
    exact record_popups rfl

/-- **What an event does to textures**: it changes its subject or none at all. -/
theorem handle_lives (h : s.handle e = .ok s') (hregisters : e.registers = true) :
    ∃ calls, s'.registrationCalls = s.registrationCalls ++ calls ∧
      Lives (s.subject e) e s.tables calls s'.tables := by
  cases e with
  | newOutput wlrOutput committed =>
      exact lives_same (outputs_registrations (.inl ⟨_, _, rfl⟩) h) (fwrServerNewOutput_tables h)
        nofun nofun
  | outputDestroy p =>
      exact lives_same (outputs_registrations (.inr (.inl ⟨_, rfl⟩)) h) (outputDestroy_tables h)
        nofun nofun
  | outputCommitState p refresh scale =>
      exact lives_same (outputs_registrations (.inr (.inr (.inl ⟨_, _, _, rfl⟩))) h)
        (outputCommitState_tables h) nofun nofun
  | setVsyncOutput outputId =>
      exact lives_same (outputs_registrations (.inr (.inr (.inr ⟨_, rfl⟩))) h)
        (fwrSetVsyncOutput_tables h) nofun nofun
  | newToplevel xdgSurface =>
      obtain ⟨hcalls, htables⟩ := fwrNewXdgToplevel_registrations h
      refine lives_changes (hcalls.trans (List.append_nil _).symm) rfl (records_next ..)
        (.create s.views.next rfl rfl) ?_
      rw [htables]
      exact record_views rfl
  | toplevelMap p geo layout registered =>
      obtain rfl : registered = true := hregisters
      obtain ⟨view, hview, hcalls, htables⟩ := xdgToplevelMap_registrations h
      refine lives_changes hcalls rfl (views_record hview) (.register _ rfl nofun fun _ => rfl) ?_
      rw [htables]
      exact record_views rfl
  | toplevelUnmap p =>
      exact lives_same (xdgToplevelUnmap_registrations h) (xdgToplevelUnmap_tables h) nofun nofun
  | toplevelCommit p geo =>
      exact lives_same (xdgToplevelCommit_registrations h) (xdgToplevelCommit_tables h) nofun nofun
  | toplevelDestroy p =>
      obtain ⟨view, hview, hcalls, htables⟩ := xdgToplevelDestroy_registrations h
      refine lives_changes hcalls rfl (views_record hview) (.destroy view.textureRecord rfl) ?_
      rw [htables]
      exact record_views rfl
  | setPosition handle x y layout =>
      exact lives_same (fwrHandleSurfaceSetPosition_registrations h)
        (fwrHandleSurfaceSetPosition_tables h) nofun nofun
  | newSubsurface p =>
      obtain ⟨hcalls, htables⟩ := handleNewSubsurface_registrations h
      refine lives_changes (hcalls.trans (List.append_nil _).symm) rfl (records_next ..)
        (.create s.subsurfaces.next rfl rfl) ?_
      rw [htables]
      exact record_subsurfaces rfl
  | subsurfaceMap p box registered =>
      obtain rfl : registered = true := hregisters
      obtain ⟨sub, hsub, hcalls, htables⟩ := subsurfaceHandleMap_registrations h
      refine lives_changes hcalls rfl (subsurfaces_record hsub) (.register _ rfl nofun fun _ => rfl) ?_
      rw [htables]
      exact record_subsurfaces rfl
  | subsurfaceUnmap p =>
      exact lives_same (subsurfaceHandleUnmap_registrations h) (subsurfaceHandleUnmap_tables h) nofun nofun
  | subsurfaceCommit p box =>
      exact lives_same (subsurfaceHandleCommit_registrations h) (subsurfaceHandleCommit_tables h)
        nofun nofun
  | subsurfaceDestroy p =>
      obtain ⟨sub, hsub, hcalls, htables⟩ := subsurfaceHandleDestroy_registrations h
      refine lives_changes hcalls rfl (subsurfaces_record hsub) (.destroy sub.textureRecord rfl) ?_
      rw [htables]
      exact record_subsurfaces rfl
  | newPopup parentXdg surf registered =>
      obtain rfl : registered = true := hregisters
      have hnext : s.tables.record (.popup s.popupObjects.next) = none := records_next ..
      rcases fwrNewXdgPopup_registrations h with rfl | ⟨hunmapped, hcalls, htables⟩ |
        ⟨-, hcalls, htables⟩
      -- a popup without a known parent is not created
      · refine ⟨[], (List.append_nil _).symm, .keeps rfl rfl (fun _ x hx r hr => ?_) ?_⟩
        · cases hx
          rw [hnext] at hr
          cases hr
        · rintro - x ⟨⟩
          exact hnext
      · refine lives_changes (hcalls.trans (List.append_nil _).symm) rfl hnext
          (.create s.popups.next rfl (congrArg some hunmapped)) ?_
        rw [htables]
        exact record_popups rfl
      · refine lives_changes hcalls rfl hnext (.createMapped s.popups.next rfl) ?_
        rw [htables]
        exact record_popups (Function.update_idem ..)
  | popupMap p surf registered =>
      obtain rfl : registered = true := hregisters
      replace h : s.popupHandleMap p surf true = .ok s' := h
      obtain ⟨popup, hpopup, -⟩ := except_bind_eq_ok.mp h
      exact lives_ensures (popup_ok hpopup) rfl rfl (popupHandleMap_ensures (popup_ok hpopup) h)
  | popupUnmap p =>
      obtain ⟨popup, hpopup, ⟨-, rfl⟩ | ⟨hregistered, hcalls, htables⟩⟩ :=
        popupHandleUnmap_registrations h
      · exact lives_same rfl rfl nofun nofun
      · refine lives_changes hcalls rfl (popups_record hpopup)
          (.unregister popup.textureRecord rfl rfl hregistered) ?_
        rw [htables]
        exact record_popups rfl
  | popupCommit p surf layout registered =>
      obtain rfl : registered = true := hregisters
      obtain ⟨popup, hpopup, hensures | ⟨hcalls, htables⟩⟩ := popupHandleCommit_ensures h
      · exact lives_ensures hpopup rfl rfl hensures
      · exact lives_same hcalls htables nofun nofun
  | popupReposition p surf =>
      exact lives_same (popupHandleReposition_registrations h) (popupHandleReposition_tables h) nofun nofun
  | popupDestroy p =>
      obtain ⟨popup, hpopup, hcalls, htables⟩ := popupHandleDestroy_registrations h
      refine lives_changes hcalls rfl (popups_record hpopup) (.destroy popup.textureRecord rfl) ?_
      rw [htables]
      exact record_popups rfl
  | newSurface | surfaceDestroy p | activateSystemCursor xcursorName =>
      cases h
      exact lives_same rfl rfl nofun nofun
  | requestCursor focused surface x y =>
      cases h
      unfold onSeatRequestCursor
      split <;> exact lives_same rfl rfl nofun nofun

end Instance

end FlutterWlroots.Compositor
