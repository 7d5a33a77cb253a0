/-
  FlutterWlroots.Compositor.PopupTrees — popups of popups (`fwr_new_xdg_popup` in surface.c).

  The parent of a popup is a toplevel or another popup, but it is only looked for among the toplevels.
  A run notes for every popup the view at the root of its tree, and what the new popup was registered
  with: a popup of a popup is not registered at all.

    • `fwrNewXdgPopup_ok`         — what one popup leaves,
    • `allRegistered_step_iff`    — when it is the right thing,
    • `along_allRegistered_iff`   — in which runs all popups are registered with their root.
-/
import FlutterWlroots.Compositor.Handles
import FlutterWlroots.Compositor.WindowFrames

namespace FlutterWlroots.Compositor

open Lib Lib.StateRun

namespace Instance

variable {s s' : Instance} {parentXdg : Nat} {surf : PopupSurface} {registered : Bool}

/-! ## §1. One popup. -/

/-- The toplevel on an xdg surface. -/
def toplevelOn (s : Instance) (xdgSurface : Nat) : Option Ptr :=
  s.viewsList.find? fun p => (s.viewObjects.get p).any (·.xdgSurface = xdgSurface)

theorem findView_eq {ps : List Ptr} {found : Option Ptr}
    (h : s.findView parentXdg ps = .ok found) :
    found = ps.find? fun p => (s.viewObjects.get p).any (·.xdgSurface = parentXdg) := by
  induction ps with
  | nil =>
      cases h
      rfl
  | cons p ps ih =>
      rw [findView, except_bind_eq_ok] at h
      obtain ⟨view, hview, h⟩ := h
      have hany : (s.viewObjects.get p).any (·.xdgSurface = parentXdg)
          = decide (view.xdgSurface = parentXdg) := by
        rw [view_ok hview]
        rfl
      split at h
      next heq =>
        cases h
        rw [List.find?_cons_of_pos (by rw [hany]; exact decide_eq_true heq)]
      next hne =>
        rw [List.find?_cons_of_neg (by rw [hany]; exact Bool.not_eq_true _ ▸ decide_eq_false hne)]
        exact ih h

theorem sendPopupMap_popup {p : Ptr} {popup x : FwrPopup} (hp : s.popupObjects.get p = some x)
    (h : s.sendPopupMap p popup surf = .ok s') :
    s'.popups = s.popups ∧ s'.popupObjects.get p = some (popup.place surf.mapBox) := by
  rw [sendPopupMap, except_bind_eq_ok] at h
  obtain ⟨-, -, h⟩ := h
  cases h
  exact ⟨rfl, Store.get_set_self (Store.live_of_get hp)⟩

/-- The popup after its map event, as far as its handle and its parent go. -/
theorem popupHandleMap_popup {p : Ptr} {popup : FwrPopup} (hp : s.popupObjects.get p = some popup)
    (h : s.popupHandleMap p surf registered = .ok s') :
    s'.popups = s.popups ∧ ∃ popup', s'.popupObjects.get p = some popup'
      ∧ popup'.handle = popup.handle ∧ popup'.parentView = popup.parentView := by
  rw [popupHandleMap, except_bind_eq_ok] at h
  obtain ⟨popup0, hpopup, h⟩ := h
  cases hp.symm.trans (popup_ok hpopup)
  split at h
  next =>
    obtain ⟨hpopups, hp'⟩ := sendPopupMap_popup hp h
    exact ⟨hpopups, _, hp', rfl, rfl⟩
  next =>
    obtain ⟨hpopups, hp'⟩ := sendPopupMap_popup (Store.get_set_self (Store.live_of_get hp)) h
    exact ⟨hpopups, _, hp', rfl, rfl⟩

/-- **What a new popup leaves**: nothing without a toplevel, else an `fwr_popup` under the next
    handle. -/
theorem fwrNewXdgPopup_ok
    (h : s.fwrNewXdgPopup (some parentXdg) surf registered = .ok s') :
    (s.toplevelOn parentXdg = none ∧ s' = s) ∨
      ∃ p popup, s.toplevelOn parentXdg = some p ∧ s'.popups = (s.popups.add s.popupObjects.next).2
        ∧ s'.popupObjects.get s.popupObjects.next = some popup
        ∧ popup.handle = s.popups.next ∧ popup.parentView = p := by
  simp only [fwrNewXdgPopup] at h
  rw [except_bind_eq_ok] at h
  obtain ⟨found, hfound, h⟩ := h
  have hfound' : s.toplevelOn parentXdg = found := (findView_eq hfound).symm
  split at h
  next =>
    cases h
    exact .inl ⟨hfound', rfl⟩
  next p =>
    rw [except_bind_eq_ok] at h
    obtain ⟨parent, hparent, h⟩ := h
    rw [except_bind_eq_ok] at h
    obtain ⟨-, -, h⟩ := h
    split at h
    next =>
      obtain ⟨hpopups, popup, hpopup, hhandle, hview⟩ :=
        popupHandleMap_popup (Store.get_alloc_next ..) h
      exact .inr ⟨p, popup, hfound', hpopups, hpopup, hhandle, hview⟩
    next =>
      cases h
      exact .inr ⟨p, _, hfound', rfl, Store.get_alloc_next .., rfl, rfl⟩

/-- What a new popup has been registered with: the parent view under a handle of its own. -/
def registeredWith (s s' : Instance) : Option Ptr :=
  (s'.popupObjects.get s.popupObjects.next).bind fun popup =>
    if s.popups.get popup.handle = none
        ∧ s'.popups.get popup.handle = some s.popupObjects.next then some popup.parentView
    else none

/-- **When a popup is registered with a view**: the view is the toplevel on the parent, and the counter
    of the handles is at an unused one. -/
theorem registeredWith_eq_some_iff {p : Ptr}
    (h : s.fwrNewXdgPopup (some parentXdg) surf registered = .ok s') :
    registeredWith s s' = some p ↔
      s.toplevelOn parentXdg = some p ∧ s.popups.get s.popups.next = none := by
  rcases fwrNewXdgPopup_ok h with ⟨hnone, rfl⟩ | ⟨q, popup, hq, hpopups, hpopup, hhandle, rfl⟩
  · rw [hnone, registeredWith, Store.get_next s'.popupObjects]
    simp
  · rw [registeredWith, hpopup, hq, Option.bind_some, hhandle, hpopups]
    by_cases hunused : s.popups.get s.popups.next = none
    · have hadd : (s.popups.add s.popupObjects.next).2.get s.popups.next
          = some s.popupObjects.next := by
        rw [HandleMap.get_add_eq (HandleMap.get_eq_none_iff.mp hunused), Function.update_self]
      simp [hunused, hadd]
    · simp [hunused]

end Instance

/-! ## §2. Trees. -/

/-- The compositor, with the view at the root of the tree of each popup, and for every popup so far that
    view and the one it has been registered with. -/
structure PopupTrees where
  compositor : Instance
  rootOf : Nat → Option Ptr
  created : List (Ptr × Option Ptr)

/-- An event of the compositor, or a new popup on the xdg surface `xdgSurface`. -/
inductive PopupEvent where
  | compositor (e : Event)
  | newPopup (parentXdg xdgSurface : Nat) (surf : PopupSurface) (registered : Bool)

def Event.isNewPopup : Event → Bool
  | .newPopup .. => true
  | _ => false

/-- The xdg surface that becomes a toplevel. -/
def Event.newToplevelOn : Event → Option Nat
  | .newToplevel xdgSurface => some xdgSurface
  | _ => none

namespace PopupTrees

variable (t : PopupTrees)

def init : PopupTrees := ⟨.init, fun _ => none, []⟩

/-- The view at the root, for a parent that is a popup of a tree or a toplevel. -/
def root (parentXdg : Nat) : Option Ptr :=
  (t.rootOf parentXdg).or (t.compositor.toplevelOn parentXdg)

/-- No toplevel is on the xdg surface. -/
def Vacant (xdgSurface : Nat) : Prop :=
  t.compositor.viewObjects.Forall fun view => view.xdgSurface ≠ xdgSurface

instance (xdgSurface : Nat) : Decidable (t.Vacant xdgSurface) :=
  decidable_of_iff _ Store.forall_iff.symm

/-- The event can come; new popups are events of their own, and an xdg surface has one role. -/
def Deliverable (e : Event) : Prop :=
  t.compositor.Deliverable e ∧ e.isNewPopup = false ∧ ∀ x ∈ e.newToplevelOn, t.rootOf x = none

instance (e : Event) : Decidable (t.Deliverable e) :=
  inferInstanceAs (Decidable (_ ∧ _ ∧ ∀ x ∈ e.newToplevelOn, _))

/-- A popup created below `view`. -/
def create (parentXdg xdgSurface : Nat) (surf : PopupSurface) (registered : Bool) (view : Ptr) :
    Except Fault PopupTrees := do
  let compositor ← t.compositor.fwrNewXdgPopup (some parentXdg) surf registered
  .ok
    { compositor
      rootOf := Function.update t.rootOf xdgSurface (some view)
      created := t.created ++ [(view, t.compositor.registeredWith compositor)] }

/-- An event; a new popup has its own xdg surface, and a parent in a tree. -/
def step : PopupEvent → Option PopupTrees
  | .compositor e =>
      if t.Deliverable e then
        (t.compositor.handle e).toOption.map fun compositor => { t with compositor }
      else none
  | .newPopup parentXdg xdgSurface surf registered =>
      match t.root parentXdg with
      | none => none
      | some view =>
          if t.Vacant xdgSurface then
            (t.create parentXdg xdgSurface surf registered view).toOption
          else none

end PopupTrees

/-- The compositor with its popups. -/
def popupTrees : Machine PopupTrees PopupEvent where
  init := .init
  step := PopupTrees.step

namespace PopupTrees

variable {t t' : PopupTrees}

/-- No toplevel is on the xdg surface of a popup. -/
def RolesApart (t : PopupTrees) : Prop :=
  ∀ p f, t.compositor.windowFrames.frames p = some f → t.rootOf f.xdgSurface = none

/-- Every popup so far was registered, with the view at its root. -/
def AllRegistered (t : PopupTrees) : Prop := ∀ x ∈ t.created, x.2 = some x.1

/-- A new popup is right below a toplevel, and its handle is an unused one. -/
def BelowToplevel (t : PopupTrees) : PopupEvent → Prop
  | .compositor _ => True
  | .newPopup parentXdg .. =>
      t.rootOf parentXdg = none ∧ t.compositor.popups.get t.compositor.popups.next = none

/-! ## §3. Runs. -/

theorem rolesApart_of_reframed {w w' : WindowFrames} {e : Event} {rootOf : Nat → Option Ptr}
    (h : ∀ p f, w.frames p = some f → rootOf f.xdgSurface = none)
    (hnew : ∀ x ∈ e.newToplevelOn, rootOf x = none) (hstep : Instance.Reframed w e w') :
    ∀ p f, w'.frames p = some f → rootOf f.xdgSurface = none := by
  have hput : ∀ {q k k'}, w.frames q = some k → k'.xdgSurface = k.xdgSurface →
      ∀ p f, (w.put q k').frames p = some f → rootOf f.xdgSurface = none := by
    intro q k k' hk hsurface p f hf
    by_cases hp : p = q
    · subst hp
      cases (Function.update_self ..).symm.trans hf
      exact hsurface ▸ h p k hk
    · exact h p f ((Function.update_of_ne hp ..).symm.trans hf)
  cases hstep with
  | unchanged | toplevelUnmap | setPositionGone => exact h
  | newToplevel xdgSurface =>
      intro p f hf
      by_cases hp : p = w.next
      · subst hp
        cases (Function.update_self ..).symm.trans hf
        exact hnew xdgSurface rfl
      · exact h p f ((Function.update_of_ne hp ..).symm.trans hf)
  | toplevelMap hf => exact hput hf rfl
  | toplevelCommit hf => exact hput hf rfl
  | setPosition hq hf => exact hput hf rfl
  | @toplevelDestroy q k hk =>
      intro p f hf
      by_cases hp : p = q
      · subst hp
        cases (Function.update_self ..).symm.trans hf
      · exact h p f ((Function.update_of_ne hp ..).symm.trans hf)

theorem compositor_step {e : Event} (h : t.step (.compositor e) = some t') :
    t.Deliverable e ∧ ∃ compositor, t.compositor.handle e = .ok compositor
      ∧ t' = { t with compositor } := by
  unfold step at h
  dsimp only at h
  split at h
  next hd =>
    obtain ⟨compositor, hcompositor, rfl⟩ := Option.map_eq_some_iff.mp h
    exact ⟨hd, compositor, toOption_eq_some.mp hcompositor, rfl⟩
  next => cases h

theorem newPopup_step {parentXdg xdgSurface : Nat} {surf : PopupSurface} {registered : Bool}
    (h : t.step (.newPopup parentXdg xdgSurface surf registered) = some t') :
    ∃ view compositor, t.root parentXdg = some view ∧ t.Vacant xdgSurface
      ∧ t.compositor.fwrNewXdgPopup (some parentXdg) surf registered = .ok compositor
      ∧ t' =
        { compositor
          rootOf := Function.update t.rootOf xdgSurface (some view)
          created := t.created ++ [(view, t.compositor.registeredWith compositor)] } := by
  unfold step at h
  dsimp only at h
  split at h
  next => cases h
  next view hview =>
    obtain ⟨hvacant, hcreate⟩ := guarded_eq_some.mp h
    rw [create, except_bind_eq_ok] at hcreate
    obtain ⟨compositor, hcompositor, h⟩ := hcreate
    cases h
    exact ⟨view, compositor, hview, hvacant, hcompositor, rfl⟩

theorem rolesApart_step {e : PopupEvent} (h : t.RolesApart) (hstep : t.step e = some t') :
    t'.RolesApart := by
  cases e with
  | compositor e =>
      obtain ⟨hd, compositor, hhandle, rfl⟩ := compositor_step hstep
      exact rolesApart_of_reframed h hd.2.2 (Instance.handle_reframed hhandle)
  | newPopup parentXdg xdgSurface surf registered =>
      obtain ⟨view, compositor, -, hvacant, hpopup, rfl⟩ := newPopup_step hstep
      have hframes : compositor.windowFrames = t.compositor.windowFrames := by
        have hreframed := Instance.handle_reframed (e := .newPopup (some parentXdg) surf registered)
          hpopup
        generalize compositor.windowFrames = w' at hreframed
        cases hreframed
        rfl
      intro p f hf
      rw [show _ = _ from hframes] at hf
      obtain ⟨v, hv, rfl⟩ := Instance.view_of_frame hf
      have hne : v.frame.xdgSurface ≠ xdgSurface := hvacant p v hv
      exact (Function.update_of_ne hne ..).trans (h p v.frame hf)

/-- The parent is a toplevel only if it is no popup. -/
theorem toplevelOn_of_rootOf {xdgSurface : Nat} {view : Ptr} (h : t.RolesApart)
    (hroot : t.rootOf xdgSurface = some view) : t.compositor.toplevelOn xdgSurface = none := by
  refine List.find?_eq_none.mpr fun p _ hany => ?_
  cases hget : t.compositor.viewObjects.get p with
  | none =>
      rw [hget] at hany
      cases hany
  | some v =>
      rw [hget] at hany
      have hnone := h p v.frame (Instance.frame_of_get hget)
      have hsurface : v.frame.xdgSurface = xdgSurface := of_decide_eq_true hany
      rw [hsurface, hroot] at hnone
      cases hnone

/-- **One event.** -/
theorem allRegistered_step_iff {e : PopupEvent} (hroles : t.RolesApart) (h : t.AllRegistered)
    (hstep : t.step e = some t') : t'.AllRegistered ↔ t.BelowToplevel e := by
  cases e with
  | compositor e =>
      obtain ⟨-, compositor, -, rfl⟩ := compositor_step hstep
      exact iff_of_true h trivial
  | newPopup parentXdg xdgSurface surf registered =>
      obtain ⟨view, compositor, hroot, -, hpopup, rfl⟩ := newPopup_step hstep
      have hall : AllRegistered
          { compositor
            rootOf := Function.update t.rootOf xdgSurface (some view)
            created := t.created ++ [(view, t.compositor.registeredWith compositor)] }
          ↔ t.compositor.registeredWith compositor = some view := by
        refine ⟨fun hcreated => hcreated _ List.mem_concat_self, fun hview x hx => ?_⟩
        rcases List.mem_append.mp hx with hx | hx
        · exact h x hx
        · rw [List.mem_singleton.mp hx]
          exact hview
      rw [hall, Instance.registeredWith_eq_some_iff hpopup, BelowToplevel]
      cases hrootOf : t.rootOf parentXdg with
      | none =>
          rw [root, hrootOf, Option.none_or] at hroot
          simp [hroot]
      | some view' => simp [toplevelOn_of_rootOf hroles hrootOf]

theorem rolesApart_init : init.RolesApart := by
  intro p f hf
  cases hf

end PopupTrees

/-- **In which runs all popups are registered with the view at their root**: in those in which each is
    right below a toplevel. -/
theorem along_allRegistered_iff (es : List PopupEvent)
    (h : (popupTrees.exec popupTrees.init es).isSome) :
    popupTrees.Along PopupTrees.AllRegistered popupTrees.init es ↔
      popupTrees.Meets PopupTrees.BelowToplevel popupTrees.init es :=
  Machine.along_iff_meets_of_invariant (I := PopupTrees.RolesApart)
    (fun _ _ _ => PopupTrees.rolesApart_step)
    (fun _ _ _ => PopupTrees.allRegistered_step_iff) PopupTrees.rolesApart_init nofun h

/-- The surface of a menu. -/
def menuSurface : PopupSurface := ⟨⟨0, 0, 90, 60⟩, ⟨10, 10, 90, 60⟩, 90, 60, none, true⟩

/-- A toplevel with two menus. -/
theorem along_allRegistered_iff_menus :
    popupTrees.Along PopupTrees.AllRegistered popupTrees.init
        [.compositor (.newToplevel 7), .newPopup 7 20 menuSurface true,
          .newPopup 7 21 menuSurface true] ↔
      popupTrees.Meets PopupTrees.BelowToplevel popupTrees.init
        [.compositor (.newToplevel 7), .newPopup 7 20 menuSurface true,
          .newPopup 7 21 menuSurface true] :=
  along_allRegistered_iff _ (by decide +kernel)

/-- **A menu of a menu** is not registered. -/
theorem submenu_not_registered : (popupTrees.exec popupTrees.init
    [.compositor (.newToplevel 7), .newPopup 7 20 menuSurface true,
      .newPopup 20 21 menuSurface true]).map PopupTrees.created
    = some [(0, some 0), (0, none)] := by decide +kernel

end FlutterWlroots.Compositor
