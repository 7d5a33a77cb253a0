/-
  FlutterWlroots.Input.ButtonTracking — the buttons a window was told of.

  The pointer messages of Flutter carry button masks; what has changed is found by comparing with the
  mask of the last message for the surface, which `surface_button_states` remembers.  While a window
  is moved or resized the handler returns before it has noted the new mask, so that the table no
  longer says what was last sent (`not_buttonsTracked_grabbed`).

  `reach_buttonsTracked` says when a message is noted: without a grab, or if the mask is the old one.
  The messages before may have come under a grab: such a message notifies nothing and leaves the table
  as it is.  What must not happen before is that a message notifies and finds no slot of the table, or
  that a window or popup gets a key of the table that is in use (`KeepsTrack`).
-/
import FlutterWlroots.Input.Buttons
import FlutterWlroots.Input.PointerEvents

namespace FlutterWlroots.Input

open Lib FlutterWlroots.Compositor FlutterWlroots.Messages
open FlutterWlroots.StandardMessageCodec (DartValue)

/-! ## §1. What a window was told. -/

namespace Record

/-- The view a pointer message is for. -/
def pointedView (r : Record) : Option Ptr :=
  match r.event with
  | .surfacePointer args _ =>
      (decodeSurfacePointerEventMessage args).bind fun message =>
        r.before.compositor.views.get message.surfaceHandle
  | _ => none

/-- The button notifications of a message for the view. -/
def toldTo (p : Ptr) (r : Record) : List (UInt32 × Bool) :=
  if r.pointedView = some p then buttonCalls r.calls else []

end Record

/-- The button notifications made for a view so far: those of its pointer messages. -/
def Session.toldTo (s : Session) (p : Ptr) : List (UInt32 × Bool) :=
  s.history.flatMap (Record.toldTo p)

/-- The message is of type Down or Up. -/
def IsButtonMessage (message : SurfacePointerEventMessage) : Prop :=
  pointerEventType message.eventType = .down ∨ pointerEventType message.eventType = .up

instance (message : SurfacePointerEventMessage) : Decidable (IsButtonMessage message) :=
  inferInstanceAs (Decidable (_ ∨ _))

/-! ## §2. Conditions. -/

/-- There is a slot for the surface, or the known bits of the message are those already noted. -/
def Notable (s : InputInstance) (message : SurfacePointerEventMessage) : Prop :=
  (message.surfaceHandle ∈ s.surfaceButtonStates.keys ∨ none ∈ s.surfaceButtonStates) ∨
    s.getSurfaceButtons message.surfaceHandle &&& knownMask = message.buttons &&& knownMask

instance (s : InputInstance) (message : SurfacePointerEventMessage) :
    Decidable (Notable s message) :=
  inferInstanceAs (Decidable (_ ∨ _))

/-- A button message for a view that is there can be noted, unless a grab takes it. -/
def NotableIfTold (s : InputInstance) : Option SurfacePointerEventMessage → Prop
  | none => True
  | some message => IsButtonMessage message →
      (s.compositor.views.get message.surfaceHandle).isSome → s.input.grab.type = .none →
      Notable s message

instance (s : InputInstance) :
    (message : Option SurfacePointerEventMessage) → Decidable (NotableIfTold s message)
  | none => .isTrue trivial
  | some message => inferInstanceAs (Decidable (IsButtonMessage message → _ → _ → Notable s message))

/-- The handle of a new view is no key in use. -/
def ViewKeyFree (s : Instance) : Prop :=
  s.views.next ∉ s.views.map ∧
    s.popupObjects.Forall fun popup => popup.handle + 200000 ≠ s.views.next

/-- Neither the handle of a new popup nor its key is in use. -/
def PopupKeyFree (s : Instance) : Prop :=
  s.popups.next ∉ s.popups.map ∧ s.popups.next + 200000 ∉ s.views.map

instance (s : Instance) : Decidable (ViewKeyFree s) := inferInstanceAs (Decidable (_ ∧ _))

instance (s : Instance) : Decidable (PopupKeyFree s) := inferInstanceAs (Decidable (_ ∧ _))

/-- The event leaves the table right: what is notified can be noted, new keys are not in use. -/
def KeepsTrack (s : Session) : PointerEvent → Prop
  | .compositor (.newToplevel _) => ViewKeyFree s.now.compositor
  | .compositor (.newPopup _ _ _) => PopupKeyFree s.now.compositor
  | .surfacePointer args _ => NotableIfTold s.now (decodeSurfacePointerEventMessage args)
  | _ => True

instance (s : Session) : (e : PointerEvent) → Decidable (KeepsTrack s e)
  | .compositor (.newToplevel _) => inferInstanceAs (Decidable (ViewKeyFree s.now.compositor))
  | .compositor (.newPopup _ _ _) => inferInstanceAs (Decidable (PopupKeyFree s.now.compositor))
  | .surfacePointer args _ =>
      inferInstanceAs (Decidable (NotableIfTold s.now (decodeSurfacePointerEventMessage args)))
  | .compositor (.newOutput ..) | .compositor (.outputDestroy _)
    | .compositor (.outputCommitState ..) | .compositor (.setVsyncOutput _)
    | .compositor (.toplevelMap ..) | .compositor (.toplevelUnmap _)
    | .compositor (.toplevelCommit ..) | .compositor (.toplevelDestroy _)
    | .compositor (.setPosition ..) | .compositor (.newSubsurface _)
    | .compositor (.subsurfaceMap ..) | .compositor (.subsurfaceUnmap _)
    | .compositor (.subsurfaceCommit ..) | .compositor (.subsurfaceDestroy _)
    | .compositor (.popupMap ..) | .compositor (.popupUnmap _) | .compositor (.popupCommit ..)
    | .compositor (.popupReposition ..) | .compositor (.popupDestroy _) | .compositor .newSurface
    | .compositor (.surfaceDestroy _) | .compositor (.requestCursor ..)
    | .compositor (.activateSystemCursor _) | .cursorMotion .. | .cursorButton _ | .cursorAxis _
    | .popupPointer .. | .beginMove _ | .beginResize _ | .requestMove _ | .requestResize ..
    | .directInput .. | .popupGrab _ => .isTrue trivial

/-! ## §3. The invariant. -/

/-- The buttons noted under a key. -/
def buttonsOf (table : SlotTable UInt32 (BitVec 64)) (key : UInt32) : BitVec 64 :=
  (table.get key).getD 0

/-- Views and popups have keys of their own, all others are free, and what a view was told of is what
    the table says. -/
structure TracksButtons (t : Tables) (table : SlotTable UInt32 (BitVec 64))
    (told : Ptr → List (UInt32 × Bool)) : Prop where
  views : t.views.Indexed
  popups : t.popups.Indexed
  apart : ∀ p r q r', t.views.records p = some r → t.popups.records q = some r' →
    r.handle ≠ r'.handle + 200000
  distinct : table.Distinct
  size : table.length = 32
  owned : ∀ key ∈ table.keys, (∃ p r, t.views.records p = some r ∧ r.handle = key) ∨
    ∃ q r, t.popups.records q = some r ∧ r.handle + 200000 = key
  noted : ∀ p r, t.views.records p = some r →
    replay (told p) = buttonsOf table r.handle &&& knownMask
  fresh : ∀ p, t.views.next ≤ p → told p = []

section Changes

variable {t t' : Tables} {table table' : SlotTable UInt32 (BitVec 64)}
  {told told' : Ptr → List (UInt32 × Bool)} {p : Ptr} {r : TextureRecord} {key : UInt32}
  {buttons : BitVec 64}

/-- The records keep their handles. -/
def SameHandles (v v' : Table) : Prop :=
  v'.Indexed ∧ v'.next = v.next ∧
    ∀ p, (v'.records p).map (·.handle) = (v.records p).map (·.handle)

theorem sameHandles_put {v : Table} {r' : TextureRecord} (h : v.Indexed)
    (hr : v.records p = some r) (hhandle : r'.handle = r.handle) : SameHandles v (v.put p r') := by
  refine ⟨h.put hr hhandle, rfl, fun q => ?_⟩
  by_cases hq : q = p
  · rw [hq, Table.records_put_self, hr, Option.map_some, Option.map_some, hhandle]
  · rw [Table.records_put_of_ne hq]

theorem sameHandles_refl {v : Table} (h : v.Indexed) : SameHandles v v := ⟨h, rfl, fun _ => rfl⟩

theorem SameHandles.record {v v' : Table} (h : SameHandles v v') {r' : TextureRecord}
    (hr : v'.records p = some r') : ∃ r, v.records p = some r ∧ r.handle = r'.handle := by
  have hsame := h.2.2 p
  rw [hr, Option.map_some] at hsame
  obtain ⟨r, hr, heq⟩ := Option.map_eq_some_iff.mp hsame.symm
  exact ⟨r, hr, heq⟩

theorem SameHandles.record' {v v' : Table} (h : SameHandles v v') (hr : v.records p = some r) :
    ∃ r', v'.records p = some r' ∧ r'.handle = r.handle := by
  have hsame := h.2.2 p
  rw [hr, Option.map_some] at hsame
  obtain ⟨r', hr', heq⟩ := Option.map_eq_some_iff.mp hsame
  exact ⟨r', hr', heq⟩

theorem TracksButtons.sameHandles (h : TracksButtons t table told)
    (hviews : SameHandles t.views t'.views) (hpopups : SameHandles t.popups t'.popups) :
    TracksButtons t' table told where
  views := hviews.1
  popups := hpopups.1
  apart := fun p r q r' hr hr' => by
    obtain ⟨v, hv, hveq⟩ := hviews.record hr
    obtain ⟨w, hw, hweq⟩ := hpopups.record hr'
    rw [← hveq, ← hweq]
    exact h.apart p v q w hv hw
  distinct := h.distinct
  size := h.size
  owned := fun key hkey => by
    rcases h.owned key hkey with ⟨p, r, hr, heq⟩ | ⟨q, r, hr, heq⟩
    · obtain ⟨r', hr', heq'⟩ := hviews.record' hr
      exact .inl ⟨p, r', hr', heq'.trans heq⟩
    · obtain ⟨r', hr', heq'⟩ := hpopups.record' hr
      exact .inr ⟨q, r', hr', by rw [heq', heq]⟩
  noted := fun p r hr => by
    obtain ⟨v, hv, hveq⟩ := hviews.record hr
    rw [← hveq]
    exact h.noted p v hv
  fresh := fun p hp => h.fresh p (by rw [← hviews.2.1]; exact hp)

theorem buttonsOf_eq_zero (h : key ∉ table.keys) : buttonsOf table key = 0 := by
  unfold buttonsOf
  rw [SlotTable.get_eq_none_iff.mpr h]
  rfl

/-- A key that is freed, of no view. -/
theorem TracksButtons.erase (h : TracksButtons t table told)
    (hkey : ∀ p r, t.views.records p = some r → r.handle ≠ key) :
    TracksButtons t (table.erase key) told where
  views := h.views
  popups := h.popups
  apart := h.apart
  distinct := h.distinct.erase key
  size := (SlotTable.length_erase table key).trans h.size
  owned := fun k hk => h.owned k ((SlotTable.mem_keys_erase h.distinct).mp hk).2
  noted := fun p r hr => by
    rw [h.noted p r hr]
    unfold buttonsOf
    rw [SlotTable.get_erase h.distinct, Function.update_of_ne (hkey p r hr)]
  fresh := h.fresh

/-- A new view, under a key that is not in use. -/
theorem TracksButtons.newView (h : TracksButtons t table told)
    (hunused : t.views.handles.next ∉ t.views.handles.map)
    (hpopups : ∀ q r, t.popups.records q = some r → r.handle + 200000 ≠ t.views.handles.next) :
    TracksButtons { t with views := t.views.create } table told where
  views := h.views.create hunused
  popups := h.popups
  apart := fun p r q r' hr hr' => by
    by_cases hp : p = t.views.next
    · subst hp
      rw [Table.records_create_self] at hr
      cases hr
      exact (hpopups q r' hr').symm
    · rw [Table.records_create_of_ne hp] at hr
      exact h.apart p r q r' hr hr'
  distinct := h.distinct
  size := h.size
  owned := fun key hkey => by
    rcases h.owned key hkey with ⟨p, r, hr, heq⟩ | hpopup
    · exact .inl ⟨p, r, by rw [Table.records_create_of_ne (h.views.ne_next hr)]; exact hr, heq⟩
    · exact .inr hpopup
  noted := fun p r hr => by
    by_cases hp : p = t.views.next
    · -- nothing was sent to the new view, and its key is not in the table
      subst hp
      rw [Table.records_create_self] at hr
      cases hr
      rw [h.fresh _ (Nat.le_refl _), buttonsOf_eq_zero]
      · decide
      · intro hmem
        rcases h.owned _ hmem with ⟨p, r, hr, heq⟩ | ⟨q, r, hr, heq⟩
        · have hget := h.views.get hr
          rw [heq, HandleMap.get_eq_none_iff.mpr hunused] at hget
          cases hget
        · exact hpopups q r hr heq
    · rw [Table.records_create_of_ne hp] at hr
      exact h.noted p r hr
  fresh := fun p hp => h.fresh p (Nat.le_of_succ_le hp)

/-- A view that is destroyed, with its key. -/
theorem TracksButtons.destroyView (h : TracksButtons t table told)
    (hr : t.views.records p = some r) :
    TracksButtons { t with views := t.views.destroy p r.handle } (table.erase r.handle) told where
  views := h.views.destroy hr
  popups := h.popups
  apart := fun q v q' w hv hw => by
    by_cases hq : q = p
    · rw [hq, Table.records_destroy_self] at hv
      cases hv
    · rw [Table.records_destroy_of_ne hq] at hv
      exact h.apart q v q' w hv hw
  distinct := h.distinct.erase _
  size := (SlotTable.length_erase table _).trans h.size
  owned := fun key hkey => by
    obtain ⟨hne, hkey⟩ := (SlotTable.mem_keys_erase h.distinct).mp hkey
    rcases h.owned key hkey with ⟨q, v, hv, heq⟩ | hpopup
    · have hq : q ≠ p := fun hqp => by
        rw [hqp, hr] at hv
        cases hv
        exact hne heq.symm
      exact .inl ⟨q, v, by rw [Table.records_destroy_of_ne hq]; exact hv, heq⟩
    · exact .inr hpopup
  noted := fun q v hv => by
    by_cases hq : q = p
    · rw [hq, Table.records_destroy_self] at hv
      cases hv
    · rw [Table.records_destroy_of_ne hq] at hv
      have hne : v.handle ≠ r.handle := fun heq => hq (h.views.injective hv hr heq)
      rw [h.noted q v hv]
      unfold buttonsOf
      rw [SlotTable.get_erase h.distinct, Function.update_of_ne hne]
  fresh := h.fresh

/-- A new popup, under a key that is not in use. -/
theorem TracksButtons.newPopup (h : TracksButtons t table told)
    (hunused : t.popups.handles.next ∉ t.popups.handles.map)
    (hkey : t.popups.handles.next + 200000 ∉ t.views.handles.map) :
    TracksButtons { t with popups := t.popups.create } table told where
  views := h.views
  popups := h.popups.create hunused
  apart := fun p r q r' hr hr' => by
    by_cases hq : q = t.popups.next
    · subst hq
      rw [Table.records_create_self] at hr'
      cases hr'
      intro heq
      have hget := h.views.get hr
      rw [heq, HandleMap.get_eq_none_iff.mpr hkey] at hget
      cases hget
    · rw [Table.records_create_of_ne hq] at hr'
      exact h.apart p r q r' hr hr'
  distinct := h.distinct
  size := h.size
  owned := fun key hkey => by
    rcases h.owned key hkey with hview | ⟨q, r, hr, heq⟩
    · exact .inl hview
    · exact .inr ⟨q, r, by rw [Table.records_create_of_ne (h.popups.ne_next hr)]; exact hr, heq⟩
  noted := h.noted
  fresh := h.fresh

/-- A popup that is destroyed, with its key. -/
theorem TracksButtons.destroyPopup (h : TracksButtons t table told)
    (hr : t.popups.records p = some r) :
    TracksButtons { t with popups := t.popups.destroy p r.handle }
      (table.erase (r.handle + 200000)) told where
  views := h.views
  popups := h.popups.destroy hr
  apart := fun q v q' w hv hw => by
    by_cases hq : q' = p
    · rw [hq, Table.records_destroy_self] at hw
      cases hw
    · rw [Table.records_destroy_of_ne hq] at hw
      exact h.apart q v q' w hv hw
  distinct := h.distinct.erase _
  size := (SlotTable.length_erase table _).trans h.size
  owned := fun key hkey => by
    obtain ⟨hne, hkey⟩ := (SlotTable.mem_keys_erase h.distinct).mp hkey
    rcases h.owned key hkey with hview | ⟨q, v, hv, heq⟩
    · exact .inl hview
    · have hq : q ≠ p := fun hqp => by
        rw [hqp, hr] at hv
        cases hv
        exact hne heq.symm
      exact .inr ⟨q, v, by rw [Table.records_destroy_of_ne hq]; exact hv, heq⟩
  noted := (h.erase fun q v hv => h.apart q v p r hv hr).noted
  fresh := h.fresh

/-- A popup's message: the views do not have its key. -/
theorem TracksButtons.tellPopup (h : TracksButtons t table told)
    (hr : t.popups.records p = some r) (hput : table.put (r.handle + 200000) buttons = some table') :
    TracksButtons t table' told where
  views := h.views
  popups := h.popups
  apart := h.apart
  distinct := h.distinct.put hput
  size := (SlotTable.length_put hput).trans h.size
  owned := fun key hkey => by
    rcases (SlotTable.mem_keys_put hput).mp hkey with rfl | hkey
    · exact .inr ⟨p, r, hr, rfl⟩
    · exact h.owned key hkey
  noted := fun q v hv => by
    rw [h.noted q v hv]
    unfold buttonsOf
    rw [SlotTable.get_put hput, Function.update_of_ne (h.apart q v p r hv hr)]
  fresh := h.fresh

/-- A view's message that is noted. -/
theorem TracksButtons.tellView (h : TracksButtons t table told)
    (hr : t.views.records p = some r) (hput : table.put r.handle buttons = some table')
    (hp : told' p = told p ++ changedButtons (buttonsOf table r.handle) buttons)
    (hother : ∀ q, q ≠ p → told' q = told q) : TracksButtons t table' told' where
  views := h.views
  popups := h.popups
  apart := h.apart
  distinct := h.distinct.put hput
  size := (SlotTable.length_put hput).trans h.size
  owned := fun key hkey => by
    rcases (SlotTable.mem_keys_put hput).mp hkey with rfl | hkey
    · exact .inl ⟨p, r, hr, rfl⟩
    · exact h.owned key hkey
  noted := fun q v hv => by
    have hbuttons : ∀ key, buttonsOf table' key
        = if key = r.handle then buttons else buttonsOf table key := by
      intro key
      unfold buttonsOf
      rw [SlotTable.get_put hput]
      by_cases hkey : key = r.handle
      · rw [if_pos hkey, hkey, Function.update_self]
        rfl
      · rw [if_neg hkey, Function.update_of_ne hkey]
    by_cases hq : q = p
    · subst hq
      rw [hr] at hv
      cases hv
      rw [hp, replay_append, h.noted _ _ hr, replayFrom_changedButtons, hbuttons, if_pos rfl]
    · have hne : v.handle ≠ r.handle := fun heq => hq (h.views.injective hv hr heq)
      rw [hother q hq, h.noted q v hv, hbuttons, if_neg hne]
  fresh := fun q hq => by
    have hne : q ≠ p := fun heq => by
      rw [heq] at hq
      rw [h.views.fresh p hq] at hr
      cases hr
    rw [hother q hne]
    exact h.fresh q hq

end Changes

/-! ## §4. Events of the compositor. -/

section Steps

variable {c : Target} {s s' : InputInstance} {told : Ptr → List (UInt32 × Bool)}
  {calls : List Call}

/-- What the invariant says of a state. -/
abbrev Tracks (s : InputInstance) (told : Ptr → List (UInt32 × Bool)) : Prop :=
  TracksButtons s.compositor.tables s.surfaceButtonStates told

theorem Tracks.footprint {f : Footprint} (h : TracksButtons f.tables f.table told)
    (hfoot : s'.footprint = f) : Tracks s' told := by
  subst hfoot
  exact h

theorem Tracks.newToplevel {xdgSurface : Nat} (h : Tracks s told)
    (hok : ViewKeyFree s.compositor) {t' : Tables}
    (heffect : Instance.Effect s.compositor.tables (.newToplevel xdgSurface) t') :
    TracksButtons t' s.surfaceButtonStates told := by
  cases heffect with
  | unchanged => exact h
  | newToplevel =>
      refine h.newView hok.1 fun q r hr => ?_
      obtain ⟨popup, hpopup, rfl⟩ := Table.records_ok hr
      exact hok.2 q popup hpopup

theorem Tracks.newPopup {parentXdg : Option Nat} {surf : PopupSurface} {registered : Bool}
    (h : Tracks s told) (hok : PopupKeyFree s.compositor) {t' : Tables}
    (heffect : Instance.Effect s.compositor.tables (.newPopup parentXdg surf registered) t') :
    TracksButtons t' s.surfaceButtonStates told := by
  cases heffect with
  | unchanged => exact h
  | newPopup => exact TracksButtons.newPopup h hok.1 hok.2
  | newPopupMapped hmapped =>
      have hnew := TracksButtons.newPopup h hok.1 hok.2
      exact hnew.sameHandles (sameHandles_refl hnew.views)
        (sameHandles_put hnew.popups (Table.records_create_self _) rfl)

/-- An event that neither creates nor destroys views or popups. -/
theorem Tracks.others {e : Event} (h : Tracks s told) {t' : Tables}
    (heffect : Instance.Effect s.compositor.tables e t')
    (hkeeps : match e with
      | .newToplevel _ => False
      | .toplevelDestroy _ => False
      | .newPopup _ _ _ => False
      | .popupDestroy _ => False
      | _ => True) : TracksButtons t' s.surfaceButtonStates told := by
  have hviews := sameHandles_refl h.views
  have hpopups := sameHandles_refl h.popups
  cases heffect with
  | unchanged => exact h
  | toplevelMap hr => exact h.sameHandles (sameHandles_put h.views hr rfl) hpopups
  | newSubsurface => exact h.sameHandles hviews hpopups
  | subsurfaceMap hr => exact h.sameHandles hviews hpopups
  | subsurfaceDestroy hr => exact h.sameHandles hviews hpopups
  | popupMap hr => exact h.sameHandles hviews (sameHandles_put h.popups hr rfl)
  | popupCommit hmapped hr => exact h.sameHandles hviews (sameHandles_put h.popups hr rfl)
  | popupUnmap hr => exact h.sameHandles hviews (sameHandles_put h.popups hr rfl)
  | newToplevel | toplevelDestroy | newPopup | newPopupMapped | popupDestroy => exact hkeeps.elim

theorem Tracks.compositorEvent {h0 : List Record} {e : Event} (h : Tracks s told)
    (hok : KeepsTrack ⟨s, h0⟩ (.compositor e)) (hevent : s.compositorEvent e = .ok (s', calls)) :
    Tracks s' told := by
  obtain ⟨hhandle, hfoot, -⟩ := compositorEvent_ok hevent
  refine Tracks.footprint ?_ hfoot
  have heffect := Instance.handle_effect hhandle
  dsimp only
  cases e with
  | newToplevel xdgSurface => exact h.newToplevel hok heffect
  | newPopup parentXdg surf registered => exact h.newPopup hok heffect
  | toplevelDestroy p =>
      obtain ⟨view, hview, htables⟩ := Instance.xdgToplevelDestroy_tables hhandle
      have hkey : s.clearedKey (.toplevelDestroy p) = some view.handle := by
        show (s.compositor.viewObjects.get p).map _ = _
        rw [hview]
        rfl
      rw [hkey, htables]
      exact h.destroyView (Instance.views_record hview)
  | popupDestroy p =>
      obtain ⟨popup, hpopup, htables⟩ := Instance.popupHandleDestroy_tables hhandle
      have hkey : s.clearedKey (.popupDestroy p) = some (popup.handle + 200000) := by
        show (s.compositor.popupObjects.get p).map _ = _
        rw [hpopup]
        rfl
      rw [hkey, htables]
      exact h.destroyPopup (Instance.popups_record hpopup)
  | _ => exact h.others heffect trivial

/-! ## §5. Messages. -/

theorem messageReaction_of_button {key : UInt32} {message : SurfacePointerEventMessage}
    (h : IsButtonMessage message) : messageReaction key message = .tellButtons key message := by
  unfold messageReaction
  rcases h with h | h <;> rw [h]

theorem messageReaction_tellButtons {key key' : UInt32}
    {message message' : SurfacePointerEventMessage}
    (h : messageReaction key message = .tellButtons key' message') :
    IsButtonMessage message ∧ key' = key ∧ message' = message := by
  unfold messageReaction at h
  unfold IsButtonMessage
  cases htype : pointerEventType message.eventType with
  | down | up =>
      rw [htype] at h
      cases h
      exact ⟨by simp, rfl, rfl⟩
  | hover | move | enter | exit | scroll | other =>
      rw [htype] at h
      cases h

/-- A view's message that is passed on. -/
theorem viewReaction_tellButtons {args : DartValue} {key : UInt32}
    {message : SurfacePointerEventMessage} (h : s.viewReaction args = .tellButtons key message) :
    decodeSurfacePointerEventMessage args = some message ∧ key = message.surfaceHandle ∧
      IsButtonMessage message ∧ s.input.grab.type = .none ∧
      ∃ p, s.compositor.views.get message.surfaceHandle = some p := by
  unfold InputInstance.viewReaction at h
  split at h
  next => cases h
  next message' hdecode =>
    split at h
    next => cases h
    next p hlive =>
      split at h
      next => cases h
      next hgrab =>
        obtain ⟨hbutton, rfl, rfl⟩ := messageReaction_tellButtons h
        exact ⟨hdecode, rfl, hbutton, not_not.mp hgrab, p, hlive⟩

/-- A popup's message that is passed on. -/
theorem popupReaction_tellButtons {args : DartValue} {key : UInt32}
    {message : SurfacePointerEventMessage} (h : s.popupReaction args = .tellButtons key message) :
    decodeSurfacePointerEventMessage args = some message ∧ key = message.surfaceHandle + 200000 ∧
      IsButtonMessage message ∧
      ∃ p, s.compositor.popups.get message.surfaceHandle = some p := by
  unfold InputInstance.popupReaction at h
  split at h
  next => cases h
  next message' hdecode =>
    split at h
    next => cases h
    next p hlive =>
      obtain ⟨hbutton, rfl, rfl⟩ := messageReaction_tellButtons h
      exact ⟨hdecode, rfl, hbutton, p, hlive⟩

theorem toldTo_after (s : Session) (now : InputInstance) (r : Record) (p : Ptr) :
    Session.toldTo ⟨now, s.history ++ [r]⟩ p = s.toldTo p ++ r.toldTo p := by
  unfold Session.toldTo
  rw [List.flatMap_append, List.flatMap_singleton]

theorem toldTo_of_noView {r : Record} (h : r.pointedView = none) (p : Ptr) : r.toldTo p = [] := by
  unfold Record.toldTo
  rw [h]
  rfl

theorem toldTo_of_noButtons {r : Record} (h : buttonCalls r.calls = []) (p : Ptr) :
    r.toldTo p = [] := by
  unfold Record.toldTo
  rw [h, ite_self]

/-- A record that tells no view of buttons. -/
theorem Tracks.silent {s : Session} {now : InputInstance} {r : Record} (h : Tracks now s.toldTo)
    (hr : ∀ p, r.toldTo p = []) : Tracks now (Session.toldTo ⟨now, s.history ++ [r]⟩) := by
  have htold : Session.toldTo ⟨now, s.history ++ [r]⟩ = s.toldTo := by
    funext p
    rw [toldTo_after, hr, List.append_nil]
  rw [htold]
  exact h

/-- A message for a view, noted as the condition says. -/
theorem Tracks.viewMessage {s : Session} {now : InputInstance} {r : Record} {p : Ptr}
    {message : SurfacePointerEventMessage} (h : Tracks s.now s.toldTo)
    (hlive : s.now.compositor.views.get message.surfaceHandle = some p)
    (hpointed : r.pointedView = some p) (hnotable : Notable s.now message)
    (heffect : Effect s.now now r.calls (.tellButtons message.surfaceHandle message)) :
    Tracks now (Session.toldTo ⟨now, s.history ++ [r]⟩) := by
  obtain ⟨hfoot, hcalls⟩ := heffect
  have htold : buttonCalls r.calls =
      changedButtons (buttonsOf s.now.surfaceButtonStates message.surfaceHandle) message.buttons :=
    congrArg Summary.buttons hcalls
  obtain ⟨record, hr, hhandle⟩ := (h.views.get_iff message.surfaceHandle p).mp hlive
  refine Tracks.footprint ?_ hfoot
  have hself : Session.toldTo ⟨now, s.history ++ [r]⟩ p = s.toldTo p ++
      changedButtons (buttonsOf s.now.surfaceButtonStates message.surfaceHandle) message.buttons := by
    rw [toldTo_after, Record.toldTo, if_pos hpointed, htold]
  have hother : ∀ q, q ≠ p → Session.toldTo ⟨now, s.history ++ [r]⟩ q = s.toldTo q := by
    intro q hq
    rw [toldTo_after, Record.toldTo, if_neg, List.append_nil]
    rw [hpointed]
    exact fun heq => hq (Option.some.inj heq).symm
  show TracksButtons s.now.compositor.tables
    ((s.now.surfaceButtonStates.put message.surfaceHandle message.buttons).getD _) _
  cases hput : s.now.surfaceButtonStates.put message.surfaceHandle message.buttons with
  | some table =>
      rw [← hhandle] at hput hself
      exact h.tellView hr hput hself hother
  | none =>
      -- no slot: then the known bits are those of before, and there was nothing to tell
      have hsame : buttonsOf s.now.surfaceButtonStates message.surfaceHandle &&& knownMask
          = message.buttons &&& knownMask := by
        rcases hnotable with hroom | hsame
        · obtain ⟨table, htable⟩ := SlotTable.exists_put hroom message.buttons
          rw [htable] at hput
          cases hput
        · exact hsame
      have hall : Session.toldTo ⟨now, s.history ++ [r]⟩ = s.toldTo := by
        funext q
        by_cases hq : q = p
        · rw [hq, hself, changedButtons_eq_nil hsame, List.append_nil]
        · exact hother q hq
      rw [hall]
      exact h

/-- A message for a popup. -/
theorem Tracks.popupMessage {now : InputInstance} {p : Ptr} {message : SurfacePointerEventMessage}
    (h : Tracks s told) (hlive : s.compositor.popups.get message.surfaceHandle = some p)
    (heffect : Effect s now calls (.tellButtons (message.surfaceHandle + 200000) message)) :
    Tracks now told := by
  obtain ⟨hfoot, -⟩ := heffect
  obtain ⟨record, hr, hhandle⟩ := (h.popups.get_iff message.surfaceHandle p).mp hlive
  refine Tracks.footprint ?_ hfoot
  show TracksButtons s.compositor.tables
    ((s.surfaceButtonStates.put (message.surfaceHandle + 200000) message.buttons).getD _) _
  cases hput : s.surfaceButtonStates.put (message.surfaceHandle + 200000) message.buttons with
  | some table =>
      rw [← hhandle] at hput
      exact h.tellPopup hr hput
  | none => exact h

/-- **One step.** -/
theorem Tracks.step {s s' : Session} {e : PointerEvent} (h : Tracks s.now s.toldTo)
    (hok : KeepsTrack s e) (hstep : (pointer c).step s e = some s') : Tracks s'.now s'.toldTo := by
  obtain ⟨-, now, calls, hhandle, rfl⟩ := pointer_step.mp hstep
  have heffect := handle_effect hhandle
  have hfits := InputInstance.reaction_fits s.now e
  cases hr : s.now.reaction e with
  | compositor e' =>
      rw [hr] at heffect hfits
      have he : e = .compositor e' := hfits
      subst he
      exact Tracks.silent (h.compositorEvent hok heffect) (toldTo_of_noView rfl)
  | hardwareButton event =>
      rw [hr] at heffect hfits
      have he : e = .cursorButton event := hfits
      subst he
      exact Tracks.silent (Tracks.footprint h heffect.1) (toldTo_of_noView rfl)
  | hardwareAxis event =>
      rw [hr] at heffect hfits
      have he : e = .cursorAxis event := hfits
      subst he
      refine Tracks.silent ?_ (toldTo_of_noView rfl)
      rw [Effect] at heffect
      split at heffect
      next => exact Tracks.footprint h heffect.1
      next =>
        refine Tracks.footprint ?_ heffect.1
        split
        · exact h
        · exact h
  | tellScroll message =>
      rw [hr] at heffect
      exact Tracks.silent (Tracks.footprint h heffect.1)
        (toldTo_of_noButtons (congrArg Summary.buttons heffect.2))
  | quiet =>
      rw [hr] at heffect
      exact Tracks.silent (Tracks.footprint h heffect.1)
        (toldTo_of_noButtons (congrArg Summary.buttons heffect.2))
  | tellButtons key message =>
      rw [hr] at heffect
      cases e with
      | surfacePointer args surf =>
          obtain ⟨hdecode, rfl, hbutton, hgrab, p, hlive⟩ := viewReaction_tellButtons hr
          have hnotable : NotableIfTold s.now (decodeSurfacePointerEventMessage args) := hok
          rw [hdecode] at hnotable
          have hmessage := hnotable hbutton (Option.isSome_of_eq_some hlive) hgrab
          refine h.viewMessage hlive ?_ hmessage heffect
          show (decodeSurfacePointerEventMessage args).bind _ = some p
          rw [hdecode]
          exact hlive
      | popupPointer args surf =>
          obtain ⟨-, rfl, -, p, hlive⟩ := popupReaction_tellButtons hr
          exact Tracks.silent (h.popupMessage hlive heffect) (toldTo_of_noView rfl)
      | compositor | cursorMotion | cursorButton | cursorAxis | beginMove | beginResize
        | requestMove | requestResize | directInput | popupGrab => cases hr

theorem tracks_init (c : Target) : Tracks (pointer c).init.now (pointer c).init.toldTo where
  views := Table.indexed_new
  popups := Table.indexed_new
  apart := nofun
  distinct := SlotTable.distinct_empty 32
  size := rfl
  owned := nofun
  noted := nofun
  fresh := fun _ _ => rfl

/-! ## §6. The handler returns. -/

/-- The handle map of views leads to views that are there. -/
def ViewsLive (s : InputInstance) : Prop :=
  ∀ handle p, s.compositor.views.get handle = some p → ∃ view, s.compositor.view p = .ok view

theorem Tracks.viewsLive (h : Tracks s told) : ViewsLive s := fun handle p hp => by
  obtain ⟨r, hr, -⟩ := (h.views.get_iff handle p).mp hp
  obtain ⟨view, hview, -⟩ := Table.records_ok hr
  exact ⟨view, Instance.deref_eq_ok.mpr hview⟩

theorem ViewsLive.endGrab (h : ViewsLive s) : ∃ r, s.endGrab = .ok r := by
  unfold InputInstance.endGrab
  split
  next p hp =>
    obtain ⟨view, hview⟩ := h _ p hp
    rw [hview]
    exact ⟨_, rfl⟩
  next => exact ⟨_, rfl⟩

theorem ViewsLive.dragGrab (h : ViewsLive s) (x y : Double) : ∃ r, s.dragGrab c x y = .ok r := by
  unfold InputInstance.dragGrab
  split
  next => exact ⟨_, rfl⟩
  next =>
    unfold InputInstance.moveGrab
    split
    next p hp =>
      obtain ⟨view, hview⟩ := h _ p hp
      rw [hview]
      exact ⟨_, rfl⟩
    next => exact ⟨_, rfl⟩
  next =>
    unfold InputInstance.resizeGrab
    split
    next p hp =>
      obtain ⟨view, hview⟩ := h _ p hp
      rw [hview]
      exact ⟨_, rfl⟩
    next => exact ⟨_, rfl⟩

theorem ViewsLive.grabbedPointerEvent (h : ViewsLive s) (message : SurfacePointerEventMessage) :
    ∃ r, s.grabbedPointerEvent c message = .ok r := by
  unfold InputInstance.grabbedPointerEvent
  split
  next => exact h.endGrab
  next => exact h.dragGrab _ _
  next => exact h.dragGrab _ _
  next => exact ⟨_, rfl⟩

theorem ViewsLive.pointerMessage (h : ViewsLive s) {args : DartValue}
    {message : SurfacePointerEventMessage} {p : Ptr} (surf : SurfaceUnder)
    (hdecode : decodeSurfacePointerEventMessage args = some message)
    (hlive : s.compositor.views.get message.surfaceHandle = some p) :
    ∃ s' calls, s.fwrHandleSurfacePointerEventMessage c args (some surf) = .ok (s', calls) := by
  unfold InputInstance.fwrHandleSurfacePointerEventMessage
  rw [hdecode]
  dsimp only
  rw [hlive]
  obtain ⟨view, hview⟩ := h _ p hlive
  dsimp only
  rw [hview]
  show ∃ s' calls, (if s.input.grab.type ≠ .none then _ else _) = _
  split
  next =>
    have htracked : ViewsLive (s.trackCursor message) := h
    obtain ⟨⟨s1, calls1⟩, hgrabbed⟩ := htracked.grabbedPointerEvent (c := c) message
    rw [hgrabbed]
    exact ⟨_, _, rfl⟩
  next => exact ⟨_, _, rfl⟩

/-! ## §7. Messages are noted. -/

/-- The table has the mask of the message, and what the view was told of comes to its known bits. -/
def UpToDate (s : Session) (p : Ptr) (message : SurfacePointerEventMessage) : Prop :=
  s.now.getSurfaceButtons message.surfaceHandle = message.buttons ∧
    replay (s.toldTo p) = message.buttons &&& knownMask

/-- **A button message leaves the table up to date if there is no grab**, or if it carries the mask
    that is already noted; otherwise it does not. -/
theorem reach_buttonsTracked {s : Session} (h : (pointer c).Reach KeepsTrack s) {args : DartValue}
    {message : SurfacePointerEventMessage} {p : Ptr} (surf : SurfaceUnder)
    (hdecode : decodeSurfacePointerEventMessage args = some message)
    (hbutton : IsButtonMessage message)
    (hlive : s.now.compositor.views.get message.surfaceHandle = some p)
    (hroom : s.now.surfaceButtonStates.keys.length < 32) :
    ∃ s', (pointer c).step s (.surfacePointer args surf) = some s' ∧
      (UpToDate s' p message ↔ s.now.input.grab.type = .none ∨
        s.now.getSurfaceButtons message.surfaceHandle = message.buttons) := by
  have hinv : Tracks s.now s.toldTo := h.invariant (P := fun s => Tracks s.now s.toldTo)
    (tracks_init c) (fun s e s' hs hok hstep => hs.step hok hstep)
  obtain ⟨now, calls, hhandle⟩ := hinv.viewsLive.pointerMessage (c := c) surf hdecode hlive
  have hhandle' : s.now.handle c (.surfacePointer args surf) = .ok (now, calls) := hhandle
  have heffect := handle_effect hhandle'
  have hpointed : Record.pointedView ⟨s.now, .surfacePointer args surf, calls⟩ = some p := by
    show (decodeSurfacePointerEventMessage args).bind _ = some p
    rw [hdecode]
    exact hlive
  obtain ⟨record, hr, hhandleEq⟩ := (hinv.views.get_iff message.surfaceHandle p).mp hlive
  refine ⟨⟨now, s.history ++ [⟨s.now, .surfacePointer args surf, calls⟩]⟩,
    pointer_step.mpr ⟨trivial, now, calls, hhandle', rfl⟩, ?_⟩
  have hreaction : s.now.reaction (.surfacePointer args surf) =
      if s.now.input.grab.type ≠ .none then .quiet
      else .tellButtons message.surfaceHandle message := by
    show s.now.viewReaction args = _
    unfold InputInstance.viewReaction
    rw [hdecode]
    dsimp only
    rw [hlive, messageReaction_of_button hbutton]
  by_cases hgrab : s.now.input.grab.type = .none
  · -- noted: the slot of the surface or a free one gets the mask
    rw [hreaction, if_neg (not_not.mpr hgrab)] at heffect
    have hslot : none ∈ s.now.surfaceButtonStates :=
      SlotTable.none_mem_of_lt (by rw [hinv.size]; exact hroom)
    obtain ⟨table, htable⟩ := SlotTable.exists_put (.inr hslot) message.buttons
    have hnow := hinv.viewMessage hlive hpointed (.inl (.inr hslot)) heffect
    have hget : now.getSurfaceButtons message.surfaceHandle = message.buttons := by
      have hfoot : now.surfaceButtonStates =
          (s.now.surfaceButtonStates.put message.surfaceHandle message.buttons).getD _ :=
        congrArg Footprint.table heffect.1
      unfold InputInstance.getSurfaceButtons
      rw [hfoot, htable, Option.getD_some, SlotTable.get_put htable, Function.update_self]
      rfl
    have htables : now.compositor.tables = s.now.compositor.tables :=
      congrArg Footprint.tables heffect.1
    have hnoted := hnow.noted p record (by rw [htables]; exact hr)
    rw [hhandleEq] at hnoted
    have hbuttons : buttonsOf now.surfaceButtonStates message.surfaceHandle = message.buttons := hget
    rw [hbuttons] at hnoted
    exact ⟨fun _ => .inl hgrab, fun _ => ⟨hget, hnoted⟩⟩
  · -- not noted: the table and what was told stay as they are
    rw [hreaction, if_pos hgrab] at heffect
    have hfoot : now.surfaceButtonStates = s.now.surfaceButtonStates :=
      congrArg Footprint.table heffect.1
    have hget : now.getSurfaceButtons message.surfaceHandle
        = s.now.getSurfaceButtons message.surfaceHandle := by
      unfold InputInstance.getSurfaceButtons
      rw [hfoot]
    constructor
    · intro hup
      exact .inr (hget.symm.trans hup.1)
    · intro hor
      have hsame := hor.resolve_left hgrab
      refine ⟨hget.trans hsame, ?_⟩
      have hsilent : Record.toldTo p ⟨s.now, .surfacePointer args surf, calls⟩ = [] :=
        toldTo_of_noButtons (r := ⟨s.now, .surfacePointer args surf, calls⟩)
          (congrArg Summary.buttons heffect.2) p
      rw [toldTo_after, hsilent, List.append_nil, hinv.noted p record hr, hhandleEq]
      exact congrArg (· &&& knownMask) hsame

end Steps

/-! ## §8. Sessions. -/

/-- The left button pressed in a window. -/
def pressInWindow : List PointerEvent :=
  [.compositor (.newToplevel 7), .cursorButton ⟨1, btnLeft, true⟩,
   .surfacePointer (pointerArgs 1 1 1 0 0) ⟨7, 100, 100, none⟩]

/-- Its release, as Flutter forwards it. -/
def releaseArgs : DartValue := pointerArgs 1 0 2 0 0

theorem reach_buttonsTracked_release : ∃ s p message, (pointer .still).Reach KeepsTrack s ∧
    decodeSurfacePointerEventMessage releaseArgs = some message ∧
    s.now.getSurfaceButtons 1 = 1 ∧
    ∃ s', (pointer .still).step s (.surfacePointer releaseArgs ⟨7, 100, 100, none⟩) = some s' ∧
      UpToDate s' p message := by
  have hrun : ((pointer .still).execIf KeepsTrack (pointer .still).init pressInWindow).map
      (fun s => (s.now.compositor.views.get 1, s.now.surfaceButtonStates.keys.length,
        s.now.input.grab.type, s.now.getSurfaceButtons 1)) = some (some 0, 1, .none, 1) := by
    decide +kernel
  obtain ⟨message, hdecode⟩ : ∃ message,
      decodeSurfacePointerEventMessage releaseArgs = some message := ⟨_, rfl⟩
  have hhandle : message.surfaceHandle = 1 := by
    cases hdecode
    rfl
  have hbutton : IsButtonMessage message := by
    cases hdecode
    decide
  obtain ⟨s, hs, hend⟩ := Option.map_eq_some_iff.mp hrun
  have hreach := Machine.reach_execIf pressInWindow .init hs
  obtain ⟨hlive, hend⟩ := Prod.mk.inj hend
  obtain ⟨hcount, hend⟩ := Prod.mk.inj hend
  obtain ⟨hgrab, hheld⟩ := Prod.mk.inj hend
  obtain ⟨s', hstep, hiff⟩ := reach_buttonsTracked hreach ⟨7, 100, 100, none⟩ hdecode hbutton
    (by rw [hhandle]; exact hlive) (by rw [hcount]; decide)
  exact ⟨s, 0, message, hreach, hdecode, hheld, s', hstep, hiff.mpr (.inl hgrab)⟩

/-- The left button pressed in a window that then asks to be moved. -/
def pressAndMove : List PointerEvent :=
  pressInWindow ++ [.requestMove 0]

/-- **The release that ends a move is not noted.** -/
theorem not_buttonsTracked_grabbed : ¬ ∀ s, (pointer .still).Reachable s →
    ∀ args message p surf, decodeSurfacePointerEventMessage args = some message →
      IsButtonMessage message → s.now.compositor.views.get message.surfaceHandle = some p →
      s.now.surfaceButtonStates.keys.length < 32 →
      ∀ s', (pointer .still).step s (.surfacePointer args surf) = some s' →
        UpToDate s' p message := by
  intro hall
  have hrun : ((pointer .still).exec (pointer .still).init pressAndMove).map
      (fun s => (s.now.compositor.views.get 1, s.now.surfaceButtonStates.keys.length,
        ((pointer .still).step s (.surfacePointer releaseArgs ⟨7, 100, 100, none⟩)).map
          fun s' => s'.now.getSurfaceButtons 1)) = some (some 0, 1, some 1) := by
    decide +kernel
  obtain ⟨message, hdecode⟩ : ∃ message,
      decodeSurfacePointerEventMessage releaseArgs = some message := ⟨_, rfl⟩
  have hmessage : message.surfaceHandle = 1 ∧ message.buttons = 0 ∧ IsButtonMessage message := by
    cases hdecode
    exact ⟨rfl, rfl, by decide⟩
  obtain ⟨hhandle, hbuttons, hbutton⟩ := hmessage
  obtain ⟨s, hs, hend⟩ := Option.map_eq_some_iff.mp hrun
  have hreach := Machine.reach_exec pressAndMove .init hs
  obtain ⟨hlive, hend⟩ := Prod.mk.inj hend
  obtain ⟨hcount, hstep⟩ := Prod.mk.inj hend
  obtain ⟨s', hs', hheld⟩ := Option.map_eq_some_iff.mp hstep
  have hup := hall s hreach releaseArgs message 0 ⟨7, 100, 100, none⟩ hdecode hbutton
    (by rw [hhandle]; exact hlive) (by rw [hcount]; decide) s' hs'
  have hzero := hup.1
  rw [hhandle, hbuttons, hheld] at hzero
  cases hzero

end FlutterWlroots.Input
