/-
  FlutterWlroots.Compositor.Textures — external texture ids (engine_cb_external_texture).

  The texture id of a view is its handle, that of a subsurface its handle plus 100000, and that of a
  popup its handle plus 200000, both sums in `uint32_t`.  The engine asks for a texture by its id;
  the views are looked up first, under the low 32 bits of the id.

  Handles only count up, so in a long session the three ranges run into each other:
  `not_texturesIdentify_longSession` is a session with one window that stays open, one of its
  subsurfaces, and 100000 short-lived windows.  `reach_texturesIdentify` says when an id leads to
  its object: while no handle is given out, and no texture registered, whose id is taken.
-/
import FlutterWlroots.Compositor.TextureEffects

namespace FlutterWlroots.Compositor

open Lib

/-! ## §1. The lookup. -/

/-- The object a texture comes from. -/
inductive TextureSource where
  | view (p : Ptr)
  | subsurface (p : Ptr)
  | popup (p : Ptr)
deriving DecidableEq, Repr

namespace Instance

/-- The object `engine_cb_external_texture` selects for a texture id. -/
def engineCbExternalTexture (s : Instance) (textureId : Int) : Option TextureSource :=
  -- first, try to find a view
  match s.views.get (UInt32.ofInt textureId) with
  | some p => some (.view p)
  | none =>
      match if textureId ≥ 100000 ∧ textureId < 200000 then
          s.subsurfaces.get (UInt32.ofInt (textureId - 100000)) else none with
      | some p => some (.subsurface p)
      | none =>
          match if textureId ≥ 200000 then
              s.popups.get (UInt32.ofInt (textureId - 200000)) else none with
          | some p => some (.popup p)
          | none => none

/-- A live object that has registered the texture id. -/
def Registered (s : Instance) : TextureSource → Int → Prop
  | .view p, textureId => ∃ view, s.viewObjects.get p = some view ∧
      view.textureRegistered = true ∧ view.textureId = textureId
  | .subsurface p, textureId => ∃ sub, s.subsurfaceObjects.get p = some sub ∧
      sub.textureRegistered = true ∧ sub.textureId = textureId
  | .popup p, textureId => ∃ popup, s.popupObjects.get p = some popup ∧
      popup.textureRegistered = true ∧ popup.textureId = textureId

/-- A registered id leads to the object that registered it, and to no other. -/
structure TexturesIdentify (s : Instance) : Prop where
  selects : ∀ x textureId, s.Registered x textureId → s.engineCbExternalTexture textureId = some x
  distinct : ∀ x y textureId, s.Registered x textureId → s.Registered y textureId → x = y

/-! ## §2. Ids that are not taken. -/

/-- The handle is neither in use for a view nor the texture id of anything else. -/
def ViewIdFree (s : Instance) (handle : UInt32) : Prop :=
  handle ∉ s.views.map ∧
    s.subsurfaceObjects.Forall (fun sub => sub.textureRegistered = true →
      sub.textureId ≠ handle.toNat) ∧
    s.popupObjects.Forall (fun popup => popup.textureRegistered = true →
      popup.textureId ≠ handle.toNat)

/-- The texture id of a subsurface is in the range of subsurfaces and not the handle of a view. -/
def SubsurfaceIdFree (s : Instance) (handle : UInt32) : Prop :=
  handle.toNat < 100000 ∧ 100000 + handle ∉ s.views.map

/-- The texture id of a popup does not wrap round and is not the handle of a view. -/
def PopupIdFree (s : Instance) (handle : UInt32) : Prop :=
  handle.toNat + 200000 < 2 ^ 32 ∧ handle + 200000 ∉ s.views.map

/-- The event gives out no handle and registers no texture whose id is taken. -/
def KeepsIdsApart (s : Instance) : Event → Prop
  | .newToplevel _ => s.ViewIdFree s.views.next
  | .newSubsurface _ => s.subsurfaces.next ∉ s.subsurfaces.map
  | .newPopup _ surf registered => s.popups.next ∉ s.popups.map ∧
      (surf.mapped = true → registered = true → s.PopupIdFree s.popups.next)
  | .subsurfaceMap p _ registered => registered = true →
      ∀ sub ∈ s.subsurfaceObjects.get p, s.SubsurfaceIdFree sub.handle
  | .popupMap p _ registered => registered = true →
      ∀ popup ∈ s.popupObjects.get p, s.PopupIdFree popup.handle
  | .popupCommit p surf _ registered => surf.mapped = true → registered = true →
      ∀ popup ∈ s.popupObjects.get p, s.PopupIdFree popup.handle
  | _ => True

instance (s : Instance) (handle : UInt32) : Decidable (s.ViewIdFree handle) :=
  inferInstanceAs (Decidable (_ ∧ _))

instance (s : Instance) (handle : UInt32) : Decidable (s.SubsurfaceIdFree handle) :=
  inferInstanceAs (Decidable (_ ∧ _))

instance (s : Instance) (handle : UInt32) : Decidable (s.PopupIdFree handle) :=
  inferInstanceAs (Decidable (_ ∧ _))

instance (s : Instance) (e : Event) : Decidable (s.KeepsIdsApart e) := by
  cases e <;> unfold KeepsIdsApart <;> infer_instance

end Instance

/-! ## §3. The invariant. -/

namespace Tables

/-- Every handle leads to its object, and registered ids are in their ranges and not handles of
    views. -/
structure Separate (t : Tables) : Prop where
  views : t.views.Indexed
  subsurfaces : t.subsurfaces.Indexed
  popups : t.popups.Indexed
  viewId : ∀ p r, t.views.records p = some r → r.registered = true →
    r.textureId = r.handle.toNat
  subsurfaceId : ∀ p r, t.subsurfaces.records p = some r → r.registered = true →
    r.textureId = (100000 + r.handle).toNat ∧ r.handle.toNat < 100000 ∧
      t.views.handles.get (100000 + r.handle) = none
  popupId : ∀ p r, t.popups.records p = some r → r.registered = true →
    r.textureId = (r.handle + 200000).toNat ∧ r.handle.toNat + 200000 < 2 ^ 32 ∧
      t.views.handles.get (r.handle + 200000) = none

variable {t : Tables}

theorem separate_init : Instance.init.tables.Separate where
  views := Table.indexed_new
  subsurfaces := Table.indexed_new
  popups := Table.indexed_new
  viewId := nofun
  subsurfaceId := nofun
  popupId := nofun

/-- What holds of the registered objects of a table still does when one object is put there for
    which it holds. -/
theorem forall_put {t : Table} {P : TextureRecord → Prop} {p : Ptr} {r : TextureRecord}
    (h : ∀ q r', t.records q = some r' → r'.registered = true → P r')
    (hr : r.registered = true → P r) :
    ∀ q r', (t.put p r).records q = some r' → r'.registered = true → P r' := by
  intro q r' hr' hregistered
  by_cases hq : q = p
  · subst hq
    rw [Table.records_put_self] at hr'
    cases hr'
    exact hr hregistered
  · rw [Table.records_put_of_ne hq] at hr'
    exact h q r' hr' hregistered

theorem forall_create {t : Table} {P : TextureRecord → Prop}
    (h : ∀ q r, t.records q = some r → r.registered = true → P r) :
    ∀ q r, t.create.records q = some r → r.registered = true → P r := by
  intro q r hr hregistered
  by_cases hq : q = t.next
  · subst hq
    rw [Table.records_create_self] at hr
    cases hr
    cases hregistered
  · rw [Table.records_create_of_ne hq] at hr
    exact h q r hr hregistered

theorem forall_destroy {t : Table} {P : TextureRecord → Prop} {p : Ptr} {handle : UInt32}
    (h : ∀ q r, t.records q = some r → r.registered = true → P r) :
    ∀ q r, (t.destroy p handle).records q = some r → r.registered = true → P r := by
  intro q r hr hregistered
  by_cases hq : q = p
  · rw [hq, Table.records_destroy_self] at hr
    cases hr
  · rw [Table.records_destroy_of_ne hq] at hr
    exact h q r hr hregistered

/-- A view may get a handle that is not in use, for a view or as a texture id. -/
theorem Separate.createView (h : t.Separate) (hunused : t.views.handles.next ∉ t.views.handles.map)
    (hsubs : ∀ p r, t.subsurfaces.records p = some r → r.registered = true →
      r.textureId ≠ t.views.handles.next.toNat)
    (hpopups : ∀ p r, t.popups.records p = some r → r.registered = true →
      r.textureId ≠ t.views.handles.next.toNat) :
    Separate { t with views := t.views.create } where
  views := h.views.create hunused
  subsurfaces := h.subsurfaces
  popups := h.popups
  viewId := forall_create h.viewId
  subsurfaceId := fun p r hr hregistered => by
    obtain ⟨hid, hrange, hfree⟩ := h.subsurfaceId p r hr hregistered
    refine ⟨hid, hrange, ?_⟩
    show (t.views.handles.add t.views.next).2.get _ = none
    rw [HandleMap.get_add_eq hunused, Function.update_of_ne, hfree]
    intro heq
    exact hsubs p r hr hregistered (by rw [hid, heq])
  popupId := fun p r hr hregistered => by
    obtain ⟨hid, hrange, hfree⟩ := h.popupId p r hr hregistered
    refine ⟨hid, hrange, ?_⟩
    show (t.views.handles.add t.views.next).2.get _ = none
    rw [HandleMap.get_add_eq hunused, Function.update_of_ne, hfree]
    intro heq
    exact hpopups p r hr hregistered (by rw [hid, heq])

theorem get_remove_none {m : HandleMap Ptr} {handle key : UInt32} (h : m.get handle = none) :
    (m.remove key).2.get handle = none := by
  cases hget : (m.remove key).2.get handle with
  | none => rfl
  | some p =>
      rw [(HandleMap.get_remove hget).2] at h
      cases h

theorem Separate.destroyView {p : Ptr} {r : TextureRecord} (h : t.Separate)
    (hr : t.views.records p = some r) :
    Separate { t with views := t.views.destroy p r.handle } where
  views := h.views.destroy hr
  subsurfaces := h.subsurfaces
  popups := h.popups
  viewId := forall_destroy h.viewId
  subsurfaceId := fun q r' hr' hregistered =>
    (h.subsurfaceId q r' hr' hregistered).imp_right (And.imp_right get_remove_none)
  popupId := fun q r' hr' hregistered =>
    (h.popupId q r' hr' hregistered).imp_right (And.imp_right get_remove_none)

theorem Separate.putView {p : Ptr} {r r' : TextureRecord} (h : t.Separate)
    (hr : t.views.records p = some r) (hhandle : r'.handle = r.handle)
    (hid : r'.registered = true → r'.textureId = r'.handle.toNat) :
    Separate { t with views := t.views.put p r' } where
  views := h.views.put hr hhandle
  subsurfaces := h.subsurfaces
  popups := h.popups
  viewId := forall_put h.viewId hid
  subsurfaceId := h.subsurfaceId
  popupId := h.popupId

/-- The table of subsurfaces may change as long as its registered ids are right. -/
theorem Separate.withSubsurfaces (h : t.Separate) {subs : Table} (hindexed : subs.Indexed)
    (hid : ∀ p r, subs.records p = some r → r.registered = true →
      r.textureId = (100000 + r.handle).toNat ∧ r.handle.toNat < 100000 ∧
        t.views.handles.get (100000 + r.handle) = none) :
    Separate { t with subsurfaces := subs } where
  views := h.views
  subsurfaces := hindexed
  popups := h.popups
  viewId := h.viewId
  subsurfaceId := hid
  popupId := h.popupId

/-- The table of popups may change as long as its registered ids are right. -/
theorem Separate.withPopups (h : t.Separate) {popups : Table} (hindexed : popups.Indexed)
    (hid : ∀ p r, popups.records p = some r → r.registered = true →
      r.textureId = (r.handle + 200000).toNat ∧ r.handle.toNat + 200000 < 2 ^ 32 ∧
        t.views.handles.get (r.handle + 200000) = none) :
    Separate { t with popups := popups } where
  views := h.views
  subsurfaces := h.subsurfaces
  popups := hindexed
  viewId := h.viewId
  subsurfaceId := h.subsurfaceId
  popupId := hid

end Tables

namespace Instance

variable {s s' : Instance}

/-- The texture of a popup whose id is free. -/
theorem popupId_of_free {handle : UInt32} (h : s.PopupIdFree handle) :
    ((handle + 200000).toNat : Int) = (handle + 200000).toNat ∧ handle.toNat + 200000 < 2 ^ 32 ∧
      s.tables.views.handles.get (handle + 200000) = none :=
  ⟨rfl, h.1, HandleMap.get_eq_none_iff.mpr h.2⟩

theorem separate_put_popup {p : Ptr} {r : TextureRecord} {registered : Bool}
    (h : s.tables.Separate) (hr : s.tables.popups.records p = some r)
    (hfree : registered = true → ∀ popup ∈ s.popupObjects.get p, s.PopupIdFree popup.handle) :
    Tables.Separate { s.tables with
      popups := s.tables.popups.put p ⟨r.handle, (r.handle + 200000).toNat, registered⟩ } := by
  obtain ⟨popup, hpopup, rfl⟩ := Table.records_ok hr
  exact h.withPopups (h.popups.put hr rfl)
    (Tables.forall_put h.popupId fun hregistered => popupId_of_free (hfree hregistered popup hpopup))

/-- **One step**: an event that takes no taken id keeps the ids apart. -/
theorem separate_step {e : Event} {t : Tables} (h : s.tables.Separate) (hok : s.KeepsIdsApart e)
    (heffect : Effect s.tables e t) : t.Separate := by
  cases heffect with
  | unchanged => exact h
  | newToplevel =>
      obtain ⟨hunused, hsubs, hpopups⟩ := hok
      refine h.createView hunused (fun p r hr => ?_) (fun p r hr => ?_)
      · obtain ⟨sub, hsub, rfl⟩ := Table.records_ok hr
        exact hsubs p sub hsub
      · obtain ⟨popup, hpopup, rfl⟩ := Table.records_ok hr
        exact hpopups p popup hpopup
  | toplevelMap hr => exact h.putView hr rfl fun _ => rfl
  | toplevelDestroy hr => exact h.destroyView hr
  | newSubsurface =>
      exact h.withSubsurfaces (h.subsurfaces.create hok) (Tables.forall_create h.subsurfaceId)
  | subsurfaceMap hr =>
      refine h.withSubsurfaces (h.subsurfaces.put hr rfl)
        (Tables.forall_put h.subsurfaceId fun hregistered => ?_)
      obtain ⟨sub, hsub, rfl⟩ := Table.records_ok hr
      obtain ⟨hrange, hfree⟩ := hok hregistered sub hsub
      exact ⟨rfl, hrange, HandleMap.get_eq_none_iff.mpr hfree⟩
  | subsurfaceDestroy hr =>
      exact h.withSubsurfaces (h.subsurfaces.destroy hr) (Tables.forall_destroy h.subsurfaceId)
  | newPopup => exact h.withPopups (h.popups.create hok.1) (Tables.forall_create h.popupId)
  | newPopupMapped hmapped =>
      have hindexed := h.popups.create hok.1
      exact h.withPopups (hindexed.put (Table.records_create_self _) rfl)
        (Tables.forall_put (Tables.forall_create h.popupId) fun hregistered =>
          popupId_of_free (hok.2 hmapped hregistered))
  | popupMap hr => exact separate_put_popup h hr hok
  | popupCommit hmapped hr => exact separate_put_popup h hr (hok hmapped)
  | popupUnmap hr =>
      exact h.withPopups (h.popups.put hr rfl) (Tables.forall_put h.popupId nofun)
  | popupDestroy hr =>
      exact h.withPopups (h.popups.destroy hr) (Tables.forall_destroy h.popupId)

/-! ## §4. The lookup under the invariant. -/

theorem ofInt_toNat (handle : UInt32) : UInt32.ofInt (handle.toNat : Int) = handle := by
  apply UInt32.toNat_inj.mp
  have hlt := handle.toNat_lt
  rw [UInt32.ofInt, UInt32.toNat_ofNat']
  omega

theorem textureId_subsurface {handle : UInt32} (h : handle.toNat < 100000) :
    ((100000 + handle).toNat : Int) = 100000 + handle.toNat := by
  have h100000 : (100000 : UInt32).toNat = 100000 := by decide
  rw [UInt32.toNat_add, h100000, Nat.mod_eq_of_lt (by omega), Nat.cast_add, Nat.cast_ofNat]

theorem textureId_popup {handle : UInt32} (h : handle.toNat + 200000 < 2 ^ 32) :
    ((handle + 200000).toNat : Int) = handle.toNat + 200000 := by
  have h200000 : (200000 : UInt32).toNat = 200000 := by decide
  rw [UInt32.toNat_add, h200000, Nat.mod_eq_of_lt h, Nat.cast_add, Nat.cast_ofNat]

theorem selects_view {p : Ptr} {view : FwrView} (hget : s.views.get view.handle = some p)
    (hid : view.textureId = view.handle.toNat) :
    s.engineCbExternalTexture view.textureId = some (.view p) := by
  rw [engineCbExternalTexture, hid, ofInt_toNat, hget]

theorem selects_subsurface {p : Ptr} {textureId : Int} {handle : UInt32}
    (hview : s.views.get (UInt32.ofInt textureId) = none)
    (hget : s.subsurfaces.get handle = some p) (hrange : handle.toNat < 100000)
    (hid : textureId = 100000 + handle.toNat) :
    s.engineCbExternalTexture textureId = some (.subsurface p) := by
  have hsub : UInt32.ofInt (textureId - 100000) = handle := by
    rw [hid, add_sub_cancel_left, ofInt_toNat]
  have hid' : textureId ≥ 100000 ∧ textureId < 200000 := by omega
  rw [engineCbExternalTexture, hview, hsub]
  dsimp only
  rw [if_pos hid', hget]

theorem selects_popup {p : Ptr} {textureId : Int} {handle : UInt32}
    (hview : s.views.get (UInt32.ofInt textureId) = none)
    (hget : s.popups.get handle = some p) (hid : textureId = handle.toNat + 200000) :
    s.engineCbExternalTexture textureId = some (.popup p) := by
  have hpopup : UInt32.ofInt (textureId - 200000) = handle := by
    rw [hid, add_sub_cancel_right, ofInt_toNat]
  have hnot : ¬(textureId ≥ 100000 ∧ textureId < 200000) := by omega
  have hid' : textureId ≥ 200000 := by omega
  rw [engineCbExternalTexture, hview, hpopup]
  dsimp only
  rw [if_neg hnot]
  dsimp only
  rw [if_pos hid', hget]

/-- **Under the invariant a registered id leads to its object.** -/
theorem selects_of_separate (h : s.tables.Separate) {x : TextureSource} {textureId : Int}
    (hx : s.Registered x textureId) : s.engineCbExternalTexture textureId = some x := by
  cases x with
  | view p =>
      obtain ⟨view, hview, hregistered, rfl⟩ := hx
      have hr := views_record hview
      exact selects_view (h.views.get hr) (h.viewId p _ hr hregistered)
  | subsurface p =>
      obtain ⟨sub, hsub, hregistered, rfl⟩ := hx
      have hr := subsurfaces_record hsub
      obtain ⟨hid, hrange, hfree⟩ := h.subsurfaceId p _ hr hregistered
      have hview : s.views.get (UInt32.ofInt sub.textureId) = none := by
        rw [show sub.textureId = _ from hid, ofInt_toNat]
        exact hfree
      exact selects_subsurface hview (h.subsurfaces.get hr) hrange
        (hid.trans (textureId_subsurface hrange))
  | popup p =>
      obtain ⟨popup, hpopup, hregistered, rfl⟩ := hx
      have hr := popups_record hpopup
      obtain ⟨hid, hrange, hfree⟩ := h.popupId p _ hr hregistered
      have hview : s.views.get (UInt32.ofInt popup.textureId) = none := by
        rw [show popup.textureId = _ from hid, ofInt_toNat]
        exact hfree
      exact selects_popup hview (h.popups.get hr) (hid.trans (textureId_popup hrange))

theorem texturesIdentify_of_separate (h : s.tables.Separate) : s.TexturesIdentify where
  selects := fun _ _ hx => selects_of_separate h hx
  distinct := fun _ _ _ hx hy =>
    Option.some.inj ((selects_of_separate h hx).symm.trans (selects_of_separate h hy))

/-- Runs that take no taken id. -/
theorem reach_separate (h : compositor.Reach KeepsIdsApart s) : s.tables.Separate := by
  refine h.invariant (P := fun s => s.tables.Separate) Tables.separate_init fun s e s' hs hok hstep => ?_
  obtain ⟨-, hhandle⟩ := compositor_step.mp hstep
  exact separate_step hs hok (handle_effect hhandle)

/-- **Ids lead to their objects** in every run that takes no taken id. -/
theorem reach_texturesIdentify (h : compositor.Reach KeepsIdsApart s) : s.TexturesIdentify :=
  texturesIdentify_of_separate (reach_separate h)

/-- A window with a subsurface and a popup, all mapped; another window comes and goes. -/
def mappedChildren : List Event :=
  [.newToplevel 7, .toplevelMap 0 ⟨0, 0, 640, 480⟩ (fun _ _ => none) true,
    .newSubsurface 0, .subsurfaceMap 0 ⟨0, 0, 64, 48⟩ true,
    .newToplevel 8, .toplevelDestroy 1,
    .newPopup (some 7) ⟨⟨0, 0, 9, 9⟩, ⟨0, 0, 9, 9⟩, 9, 9, none, true⟩ true]

theorem reach_texturesIdentify_children :
    ∃ s, compositor.execIf KeepsIdsApart .init mappedChildren = some s ∧ s.TexturesIdentify := by
  have hrun : (compositor.execIf KeepsIdsApart .init mappedChildren).isSome = true := by
    decide +kernel
  obtain ⟨s, hs⟩ := Option.isSome_iff_exists.mp hrun
  exact ⟨s, hs, reach_texturesIdentify (Machine.reach_execIf _ .init hs)⟩

/-! ## §5. A long session. -/

/-- Windows that open and close one after the other, the first of them as object `p`. -/
def shortLived : Ptr → Nat → List Event
  | _, 0 => []
  | p, n + 1 => .newToplevel 8 :: .toplevelDestroy p :: shortLived (p + 1) n

/-- One window with a mapped subsurface, then `n` short-lived windows, then another window. -/
def longSession (n : Nat) : List Event :=
  [.newToplevel 7, .newSubsurface 0, .subsurfaceMap 0 ⟨0, 0, 64, 48⟩ true]
    ++ (shortLived 1 n ++ [.newToplevel 8])

/-- During the session: only the first window is open, and the next handle is `next`. -/
structure DuringSession (s : Instance) (p : Ptr) (next : Nat) : Prop where
  nextView : s.viewObjects.next = p
  nextHandle : s.views.next.toNat = next
  views : ∀ handle q, s.views.get handle = some q → handle = 1
  subsurface : ∃ sub, s.subsurfaceObjects.get 0 = some sub ∧ sub.textureRegistered = true ∧
    sub.textureId = 100001

variable {p : Ptr} {n : Nat}

theorem DuringSession.unused (h : s.DuringSession p n) (hn : 1 < n) :
    s.views.next ∉ s.views.map := by
  intro hmem
  obtain ⟨q, hq⟩ := Option.isSome_iff_exists.mp (AList.lookup_isSome.mpr hmem)
  have hnext := h.nextHandle
  rw [h.views _ q hq] at hnext
  exact absurd hnext (Nat.ne_of_lt hn)

theorem step_newToplevel (s : Instance) (xdgSurface : Nat) :
    ∃ v : FwrView, v.handle = s.views.next ∧
      compositor.step s (.newToplevel xdgSurface) = some { s with
        viewsList := s.viewObjects.next :: s.viewsList
        views := (s.views.add s.viewObjects.next).2
        viewObjects := s.viewObjects.alloc v } := by
  have hd : s.Deliverable (.newToplevel xdgSurface) := fun x hx => nomatch hx
  let v : FwrView :=
    { handle := s.views.next, xdgSurface := xdgSurface
      x := 50 + (s.views.next.toNat % 10 : Nat) * 32
      y := 50 + (s.views.next.toNat % 10 : Nat) * 32
      width := 0, height := 0, currentOutput := none, outputScale := 0, geoX := 0, geoY := 0
      textureId := 0, textureRegistered := false, subsurfaces := [] }
  exact ⟨v, rfl, compositor_step.mpr ⟨hd, rfl⟩⟩

theorem step_toplevelDestroy {v : FwrView} (hv : s.viewObjects.get p = some v) :
    ∃ calls, compositor.step s (.toplevelDestroy p) = some { s with
      textureCalls := calls
      views := (s.views.remove v.handle).2
      viewsList := s.viewsList.erase p
      viewObjects := s.viewObjects.free p } := by
  have hd : s.Deliverable (.toplevelDestroy p) := by
    rintro x ⟨⟩
    exact Store.live_of_get hv
  have hview : s.view p = .ok v := deref_eq_ok.mpr hv
  by_cases hregistered : v.textureRegistered = true
  · refine ⟨(s.call (.unregister v.textureId)).textureCalls, compositor_step.mpr ⟨hd, ?_⟩⟩
    show s.xdgToplevelDestroy p = _
    unfold xdgToplevelDestroy
    rw [hview]
    show Except.ok _ = Except.ok _
    rw [if_pos hregistered]
    rfl
  · refine ⟨s.textureCalls, compositor_step.mpr ⟨hd, ?_⟩⟩
    show s.xdgToplevelDestroy p = _
    unfold xdgToplevelDestroy
    rw [hview]
    show Except.ok _ = Except.ok _
    rw [if_neg hregistered]

/-- A window that opens and closes takes a handle. -/
theorem DuringSession.openClose (h : s.DuringSession p n) (hn : 1 < n) (hlt : n + 1 < 2 ^ 32)
    (es : List Event) :
    ∃ s', compositor.exec s (.newToplevel 8 :: .toplevelDestroy p :: es) = compositor.exec s' es ∧
      s'.DuringSession (p + 1) (n + 1) := by
  obtain ⟨v, hhandle, hopen⟩ := step_newToplevel s 8
  obtain rfl := h.nextView
  -- the window that closes is the one that has just opened
  have hv := Store.get_alloc_next s.viewObjects v
  obtain ⟨calls, hclose⟩ := step_toplevelDestroy
    (s := { s with
        viewsList := s.viewObjects.next :: s.viewsList
        views := (s.views.add s.viewObjects.next).2
        viewObjects := s.viewObjects.alloc v }) hv
  refine ⟨_, by rw [Machine.exec, hopen]; dsimp only; rw [Machine.exec, hclose], ?_⟩
  refine ⟨rfl, ?_, fun handle q hq => ?_, h.subsurface⟩
  · show ((s.views.add s.viewObjects.next).2.remove v.handle).2.next.toNat = n + 1
    have hnext := h.nextHandle
    rw [HandleMap.next_remove, HandleMap.toNat_next_add, hnext]
    omega
  · obtain ⟨hne, hq⟩ := HandleMap.get_remove hq
    rw [hhandle] at hne
    rcases HandleMap.get_add hq with ⟨heq, -⟩ | hq
    · exact absurd heq hne
    · exact h.views handle q hq

theorem DuringSession.exec (es : List Event) : ∀ (k : Nat) {s : Instance} {p n : Nat},
    s.DuringSession p n → 1 < n → n + k < 2 ^ 32 →
    ∃ s', compositor.exec s (shortLived p k ++ es) = compositor.exec s' es ∧
      s'.DuringSession (p + k) (n + k)
  | 0, s, p, n, h, _, _ => ⟨s, rfl, h⟩
  | k + 1, s, p, n, h, hn, hlt => by
      obtain ⟨s1, hexec1, h1⟩ := h.openClose hn (by omega) (shortLived (p + 1) k ++ es)
      obtain ⟨s2, hexec2, h2⟩ := h1.exec es k (by omega) (by omega)
      refine ⟨s2, hexec1.trans hexec2, ?_⟩
      rwa [Nat.add_right_comm, Nat.add_right_comm n] at h2

/-- The session begins. -/
theorem duringSession_start (es : List Event) :
    ∃ s, compositor.exec .init
        ([.newToplevel 7, .newSubsurface 0, .subsurfaceMap 0 ⟨0, 0, 64, 48⟩ true] ++ es)
        = compositor.exec s es ∧ s.DuringSession 1 2 := by
  refine ⟨_, rfl, rfl, rfl, fun handle q hq => ?_, _, rfl, rfl, rfl⟩
  rcases HandleMap.get_add hq with ⟨rfl, -⟩ | hq
  · rfl
  · cases (HandleMap.get_new handle).symm.trans hq

/-- **A window whose handle is the texture id of a subsurface**: the engine is given the texture of
    the window for that of the subsurface. -/
theorem not_texturesIdentify_longSession :
    ∃ s, compositor.exec .init (longSession 99999) = some s ∧ ¬ s.TexturesIdentify := by
  obtain ⟨s0, hstart, h0⟩ := duringSession_start (shortLived 1 99999 ++ [.newToplevel 8])
  obtain ⟨s1, hexec, h1⟩ := h0.exec [.newToplevel 8] 99999 (by decide) (by decide)
  obtain ⟨v, -, hopen⟩ := step_newToplevel s1 8
  have hrun := hstart.trans hexec
  rw [Machine.exec, hopen] at hrun
  refine ⟨_, hrun, fun h => ?_⟩
  -- the last window has the handle 100001
  obtain ⟨sub, hsub, hregistered, hid⟩ := h1.subsurface
  have hselect := h.selects (.subsurface 0) 100001 ⟨sub, hsub, hregistered, hid⟩
  have hnext : s1.views.next = 100001 := UInt32.toNat_inj.mp h1.nextHandle
  have hget : (s1.views.add s1.viewObjects.next).2.get (UInt32.ofInt 100001)
      = some s1.viewObjects.next := by
    rw [HandleMap.get_add_eq (h1.unused (by decide)), hnext]
    exact Function.update_self ..
  rw [engineCbExternalTexture] at hselect
  dsimp only at hselect
  rw [hget] at hselect
  cases hselect

end Instance

end FlutterWlroots.Compositor
