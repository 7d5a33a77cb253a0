/-
  FlutterWlroots.Compositor.ButtonKeys — the keys of views and popups in the button table.

  A view has its handle as key.  A popup has its handle plus 200000, in 32 bits, so that the keys of
  the two kinds are apart only as long as few views have been created.

    • `handle_change`      — what an event does to the keys,
    • `keysApart_step_iff` — when they stay apart.
-/
import FlutterWlroots.Compositor.PopupTrees
import FlutterWlroots.Compositor.TextureEffects
import FlutterWlroots.Lib.Naming

namespace FlutterWlroots.Compositor

open Lib

/-- The keys in the tables of the compositor. -/
def Tables.buttonKeys (t : Tables) : Naming (Ptr ⊕ Ptr) UInt32 :=
  Sum.elim (Option.map TextureRecord.handle ∘ t.views.records)
    (Option.map (fun r => r.handle + 200000) ∘ t.popups.records)

namespace Instance

/-! ## §1. Keys. -/

/-- The keys of the views and popups that are there. -/
def buttonKeys (s : Instance) : Naming (Ptr ⊕ Ptr) UInt32 :=
  Sum.elim (s.viewObjects.project fun view => view.handle)
    (s.popupObjects.project fun popup => popup.handle + 200000)

/-- The object that an event creates, with its key. -/
def newKey (s : Instance) : Event → Option ((Ptr ⊕ Ptr) × UInt32)
  | .newToplevel _ => some (.inl s.viewObjects.next, s.views.next)
  | .newPopup (some parentXdg) _ _ =>
      (s.toplevelOn parentXdg).map fun _ => (.inr s.popupObjects.next, s.popups.next + 200000)
  | _ => none

/-- The keys of the objects that are there are different ones. -/
def KeysApart (s : Instance) : Prop := s.buttonKeys.Apart

/-- A new object gets a key that no object has. -/
def NewKeyUnused (s : Instance) (e : Event) : Prop := ∀ x ∈ s.newKey e, s.buttonKeys.Unused x.2

variable {s s' : Instance} {t t' : Tables} {e : Event} {p : Ptr}

theorem buttonKeys_tables (s : Instance) : s.tables.buttonKeys = s.buttonKeys := by
  funext o
  cases o with
  | inl p => exact Option.map_map ..
  | inr p => exact Option.map_map ..

theorem newKey_newPopup (s : Instance) (parentXdg : Nat) (surf : PopupSurface)
    (registered : Bool) :
    s.newKey (.newPopup (some parentXdg) surf registered)
      = (s.toplevelOn parentXdg).map fun _ =>
          (.inr s.popupObjects.next, s.popups.next + 200000) := rfl

/-! ## §2. One event. -/

/-- A view's record changed or gone. -/
theorem buttonKeys_views {views : Table} {r : Option TextureRecord}
    (h : views.records = Function.update t.views.records p r) :
    Tables.buttonKeys { t with views }
      = Function.update t.buttonKeys (.inl p) (r.map TextureRecord.handle) := by
  unfold Tables.buttonKeys
  rw [h, Sum.update_elim_inl, Function.comp_update]

/-- A popup's record new, changed or gone. -/
theorem buttonKeys_popups {popups : Table} {r : Option TextureRecord}
    (h : popups.records = Function.update t.popups.records p r) :
    Tables.buttonKeys { t with popups }
      = Function.update t.buttonKeys (.inr p) (r.map fun r => r.handle + 200000) := by
  unfold Tables.buttonKeys
  rw [h, Sum.update_elim_inr, Function.comp_update]

/-- A view that keeps its handle. -/
theorem change_put_view {r r' : TextureRecord} (hr : t.views.records p = some r)
    (hhandle : r'.handle = r.handle) :
    t.buttonKeys.Change none (Tables.buttonKeys { t with views := t.views.put p r' }) := by
  have hkey : t.buttonKeys (.inl p) = some r'.handle := by
    rw [hhandle]
    exact congrArg (Option.map TextureRecord.handle) hr
  refine .of_eq ((buttonKeys_views (r := some r') rfl).trans ?_) .same
  rw [Option.map_some, ← hkey, Function.update_eq_self]

/-- A popup that keeps its handle. -/
theorem change_put_popup {r r' : TextureRecord} (hr : t.popups.records p = some r)
    (hhandle : r'.handle = r.handle) :
    t.buttonKeys.Change none (Tables.buttonKeys { t with popups := t.popups.put p r' }) := by
  have hkey : t.buttonKeys (.inr p) = some (r'.handle + 200000) := by
    rw [hhandle]
    exact congrArg (Option.map fun r : TextureRecord => r.handle + 200000) hr
  refine .of_eq ((buttonKeys_popups (r := some r') rfl).trans ?_) .same
  rw [Option.map_some, ← hkey, Function.update_eq_self]

/-- Events that create no view and no popup keep the keys or take one away. -/
theorem Effect.change (h : Effect t e t') (hview : e.newToplevelOn = none)
    (hpopup : e.isNewPopup = false) : t.buttonKeys.Change none t'.buttonKeys := by
  cases h with
  | unchanged => exact .same
  | newToplevel => cases hview
  | newPopup | newPopupMapped => cases hpopup
  | newSubsurface | subsurfaceMap | subsurfaceDestroy => exact .same
  | toplevelMap hr => exact change_put_view hr rfl
  | popupMap hr => exact change_put_popup hr rfl
  | popupCommit _ hr => exact change_put_popup hr rfl
  | popupUnmap hr => exact change_put_popup hr rfl
  | toplevelDestroy hr => exact .of_eq (buttonKeys_views (r := none) rfl) (.release _)
  | popupDestroy hr => exact .of_eq (buttonKeys_popups (r := none) rfl) (.release _)

theorem fwrNewXdgToplevel_change {xdgSurface : Nat} (h : s.fwrNewXdgToplevel xdgSurface = .ok s') :
    s.buttonKeys.Change (s.newKey (.newToplevel xdgSurface)) s'.buttonKeys := by
  cases h
  have hnone : s.buttonKeys (.inl s.viewObjects.next) = none := Store.project_next ..
  refine .of_eq ?_ (.assign hnone)
  unfold buttonKeys
  rw [Sum.update_elim_inl]
  exact congrArg (Sum.elim · _) (Store.project_alloc ..)

/-- A popup gets its key if its parent is a toplevel. -/
theorem fwrNewXdgPopup_change {parentXdg : Option Nat} {surf : PopupSurface} {registered : Bool}
    (h : s.fwrNewXdgPopup parentXdg surf registered = .ok s') :
    s.buttonKeys.Change (s.newKey (.newPopup parentXdg surf registered)) s'.buttonKeys := by
  cases parentXdg with
  | none =>
      cases h
      exact .same
  | some parentXdg =>
      have hnone : s.buttonKeys (.inr s.popupObjects.next) = none := Store.project_next ..
      rcases fwrNewXdgPopup_ok h with ⟨hparent, rfl⟩ | ⟨p, popup, hparent, -, hpopup, hhandle, -⟩
      · rw [newKey_newPopup, hparent]
        exact .same
      · rw [newKey_newPopup, hparent]
        -- the popup is there afterwards, under the next handle
        have hkey : s'.buttonKeys (.inr s.popupObjects.next) = some (s.popups.next + 200000) := by
          rw [← hhandle]
          exact Store.project_of_get _ hpopup
        have heffect : Effect s.tables (.newPopup (some parentXdg) surf registered) s'.tables :=
          handle_effect (e := .newPopup (some parentXdg) surf registered) h
        refine .of_eq ?_ (.assign hnone)
        rw [← buttonKeys_tables] at hkey hnone ⊢
        rw [← buttonKeys_tables s]
        rw [show s.popups.next = s.tables.popups.handles.next from rfl] at hkey ⊢
        generalize s'.tables = t' at heffect hkey
        cases heffect with
        | unchanged => cases hnone.symm.trans hkey
        | newPopup =>
            exact buttonKeys_popups (r := some ⟨s.tables.popups.handles.next, 0, false⟩) rfl
        | newPopupMapped =>
            exact buttonKeys_popups
              (r := some ⟨s.tables.popups.handles.next, _, registered⟩) (Function.update_idem ..)

/-- **What an event does to the keys.** -/
theorem handle_change (h : s.handle e = .ok s') :
    s.buttonKeys.Change (s.newKey e) s'.buttonKeys := by
  have hother : e.newToplevelOn = none → e.isNewPopup = false →
      s.buttonKeys.Change none s'.buttonKeys := by
    rw [← buttonKeys_tables s, ← buttonKeys_tables s']
    exact (handle_effect h).change
  cases e with
  | newToplevel xdgSurface => exact fwrNewXdgToplevel_change h
  | newPopup parentXdg surf registered => exact fwrNewXdgPopup_change h
  | _ => exact hother rfl rfl

/-- **When the keys stay apart**: when a new object gets an unused one. -/
theorem keysApart_step_iff (h : s.KeysApart) (hstep : compositor.step s e = some s') :
    s'.KeysApart ↔ s.NewKeyUnused e :=
  (handle_change (compositor_step.mp hstep).2).apart_iff h

theorem keysApart_init : init.KeysApart := by
  intro o o' key ho
  cases o <;> cases ho

end Instance

end FlutterWlroots.Compositor
