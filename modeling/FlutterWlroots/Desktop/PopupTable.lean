/-
  FlutterWlroots.Desktop.PopupTable — Dart's popups mirror those of the compositor.

  Each "popup_map" replaces the popup under its handle.  Once all messages are delivered, Dart has
  the mapped popups in the texture of their handle, each with the box its surface had at its last
  event.  This needs that every commit of a mapped popup that gives it another box also gives its
  content another size, or comes with the texture: other commits are not sent.  A repositioned popup
  is sent at once, still with the old place, and moves with a later commit.  The output is the one
  of the last message: that a window takes its popups to another output is not sent.

    • `PopupSides.Right.sent` … — what each message does,
    • `popups_step`             — one event of the compositor,
    • `boxes_step`              — the box of a mapped popup is that of its surface,
    • `popups_mirrored`         — every run.
-/
import FlutterWlroots.Desktop.ChildSurfaces
import FlutterWlroots.Lib.Mirror

namespace FlutterWlroots.Desktop

open Lib Lib.StateRun FlutterWlroots.Compositor

/-! ## §1. The two sides. -/

/-- What matters of both sides for popups. -/
structure PopupSides where
  frames : Ptr → Option (ChildFrame UInt32)
  popups : UInt32 → Option Popup
  mapped : Ptr → Bool

/-- The texture of a popup. -/
def popupTexture (handle : UInt32) : Int := ((handle + 200000).toNat : Nat)

namespace PopupSides

variable (x : PopupSides)

/-- What Dart is to say of a popup. -/
def Describes (q : Ptr) (e : Popup) : Prop :=
  ∃ f, x.frames q = some f ∧ e.handle = f.handle ∧ e.textureId = popupTexture f.handle
    ∧ e.parentHandle = f.parent ∧ e.box = f.box

def mirror : Mirror Ptr UInt32 Popup where
  keyOf := fun q => (x.frames q).map (·.handle)
  shown := x.mapped
  table := x.popups

/-- The table is right, and a popup that is mapped or has a texture has that of its handle. -/
structure Right : Prop where
  mirror : x.mirror.Faithful x.Describes
  texture : ∀ q f, x.frames q = some f → x.mapped q = true ∨ f.textureRegistered = true →
    f.textureId = popupTexture f.handle

/-! ## §2. What an event does. -/

/-- A popup with another frame under its handle. -/
def putFrame (q : Ptr) (f : ChildFrame UInt32) : PopupSides :=
  { x with frames := Function.update x.frames q (some f) }

/-- A popup sent. -/
def sent (q : Ptr) (f : ChildFrame UInt32) (e : Popup) : PopupSides where
  frames := Function.update x.frames q (some f)
  popups := Function.update x.popups f.handle (some e)
  mapped := Function.update x.mapped q true

def created (q : Ptr) (f : ChildFrame UInt32) : PopupSides :=
  { x with
    frames := Function.update x.frames q (some f), mapped := Function.update x.mapped q false }

def unmapped (q : Ptr) (f : ChildFrame UInt32) : PopupSides where
  frames := Function.update x.frames q (some { f with textureRegistered := false })
  popups := Function.update x.popups f.handle none
  mapped := Function.update x.mapped q false

def noted (q : Ptr) (b : Bool) : PopupSides :=
  { x with mapped := Function.update x.mapped q b }

def removed (q : Ptr) : PopupSides := { x with frames := Function.update x.frames q none }

namespace Right

variable {x} {q : Ptr} {f g : ChildFrame UInt32} (h : x.Right)

omit h in
theorem key_of_frame (hf : x.frames q = some f) : x.mirror.keyOf q = some f.handle := by
  show (x.frames q).map _ = _
  rw [hf]
  rfl

omit h in
/-- A popup keeps its handle. -/
theorem keys_put (hf : x.frames q = some f) (hhandle : g.handle = f.handle) :
    (fun r => (Function.update x.frames q (some g) r).map (·.handle)) = x.mirror.keyOf := by
  funext r
  by_cases hr : r = q
  · rw [hr, Function.update_self, key_of_frame hf, Option.map_some, hhandle]
  · rw [Function.update_of_ne hr]
    rfl

omit h in
theorem describes_of_ne {o : Option (ChildFrame UInt32)} {y : PopupSides} {r : Ptr}
    {e : Popup} (hy : y.frames = Function.update x.frames q o) (hr : r ≠ q)
    (hdescribes : x.Describes r e) : y.Describes r e := by
  obtain ⟨f, hf, he⟩ := hdescribes
  refine ⟨f, ?_, he⟩
  rw [hy, Function.update_of_ne hr]
  exact hf

include h

theorem texture_of_ne {o : Option (ChildFrame UInt32)} {mapped : Ptr → Bool} {r : Ptr}
    (hr : r ≠ q) (hmapped : mapped r = x.mapped r)
    (hg : Function.update x.frames q o r = some g)
    (htexture : mapped r = true ∨ g.textureRegistered = true) :
    g.textureId = popupTexture g.handle := by
  rw [Function.update_of_ne hr] at hg
  rw [hmapped] at htexture
  exact h.texture r g hg htexture

theorem created (hnew : x.frames q = none)
    (hunused : ∀ r g, x.frames r = some g → g.handle ≠ f.handle)
    (hnone : f.textureRegistered = false) : (x.created q f).Right where
  mirror := by
    have hmirror : (x.created q f).mirror = x.mirror.enter q f.handle := by
      show Mirror.mk _ _ _ = Mirror.mk _ _ _
      congr 1
      exact Function.comp_update (Option.map fun f : ChildFrame UInt32 => f.handle) ..
    rw [hmirror]
    refine h.mirror.enter ?_ (fun r hr => ?_) fun r e hr hdescribes => ?_
    · show (x.frames q).map _ = none
      rw [hnew]
      rfl
    · obtain ⟨g, hg, hkey⟩ := Option.map_eq_some_iff.mp hr
      exact hunused r g hg hkey
    · exact describes_of_ne rfl hr hdescribes
  texture := by
    intro r g hg htexture
    by_cases hr : r = q
    · subst hr
      have hg' : Function.update x.frames r (some f) r = some g := hg
      have htexture' : Function.update x.mapped r false r = true ∨ _ := htexture
      rw [Function.update_self] at hg' htexture'
      obtain rfl := Option.some.inj hg'
      rw [hnone] at htexture'
      rcases htexture' with hfalse | hfalse <;> cases hfalse
    · exact h.texture_of_ne hr (Function.update_of_ne hr ..) hg htexture

/-- A popup sent, whether Dart has it already or not. -/
theorem sent {e : Popup} (hf : x.frames q = some f) (hhandle : g.handle = f.handle)
    (htexture : g.textureId = popupTexture g.handle)
    (he : e.handle = g.handle ∧ e.textureId = g.textureId ∧ e.parentHandle = g.parent
      ∧ e.box = g.box) : (x.sent q g e).Right where
  mirror := by
    have hmirror : (x.sent q g e).mirror = x.mirror.publish q g.handle e := by
      show Mirror.mk _ _ _ = Mirror.mk _ _ _
      congr 1
      exact keys_put hf hhandle
    rw [hmirror]
    refine h.mirror.publish ?_ ⟨g, Function.update_self .., he.1, he.2.1.trans htexture,
      he.2.2.1, he.2.2.2⟩ fun r e hr hdescribes => ?_
    · rw [hhandle]
      exact key_of_frame hf
    · exact describes_of_ne rfl hr hdescribes
  texture := by
    intro r g' hg' htexture'
    by_cases hr : r = q
    · subst hr
      have hg'' : Function.update x.frames r (some g) r = some g' := hg'
      rw [Function.update_self] at hg''
      obtain rfl := Option.some.inj hg''
      exact htexture
    · exact h.texture_of_ne hr (Function.update_of_ne hr ..) hg' htexture'

/-- A popup changed in what is not sent, or one that is not mapped. -/
theorem putFrame (hf : x.frames q = some f) (hhandle : g.handle = f.handle)
    (htexture : x.mapped q = true ∨ g.textureRegistered = true →
      g.textureId = popupTexture g.handle)
    (hsame : x.mapped q = true → g.parent = f.parent ∧ g.box = f.box) :
    (x.putFrame q g).Right where
  mirror := by
    have hmirror : (x.putFrame q g).mirror = x.mirror := by
      show Mirror.mk _ _ _ = Mirror.mk _ _ _
      congr 1
      exact keys_put hf hhandle
    rw [hmirror]
    refine h.mirror.mono_shown fun r e hshown hdescribes => ?_
    by_cases hr : r = q
    · subst hr
      obtain ⟨f', hf', he⟩ := hdescribes
      obtain rfl : f' = f := Option.some.inj (hf'.symm.trans hf)
      obtain ⟨hparent, hbox⟩ := hsame hshown
      exact ⟨g, Function.update_self .., by rw [hhandle, hparent, hbox]; exact he⟩
    · exact describes_of_ne rfl hr hdescribes
  texture := by
    intro r g' hg' htexture'
    by_cases hr : r = q
    · subst hr
      have hg'' : Function.update x.frames r (some g) r = some g' := hg'
      rw [Function.update_self] at hg''
      obtain rfl := Option.some.inj hg''
      exact htexture htexture'
    · exact h.texture_of_ne hr rfl hg' htexture'

theorem unmapped (hf : x.frames q = some f) : (x.unmapped q f).Right where
  mirror := by
    have hmirror : (x.unmapped q f).mirror = x.mirror.withdraw q f.handle := by
      show Mirror.mk _ _ _ = Mirror.mk _ _ _
      congr 1
      exact keys_put hf (by rfl)
    rw [hmirror]
    exact h.mirror.withdraw (key_of_frame hf) fun r e hr hdescribes =>
      describes_of_ne rfl hr hdescribes
  texture := by
    intro r g hg htexture
    by_cases hr : r = q
    · subst hr
      have hg' : Function.update x.frames r (some { f with textureRegistered := false }) r
          = some g := hg
      have htexture' : Function.update x.mapped r false r = true ∨ _ := htexture
      rw [Function.update_self] at hg' htexture'
      obtain rfl := Option.some.inj hg'
      rcases htexture' with hfalse | hfalse <;> cases hfalse
    · exact h.texture_of_ne hr (Function.update_of_ne hr ..) hg htexture

theorem removed (hunmapped : x.mapped q = false) : (x.removed q).Right where
  mirror := by
    have hmirror : (x.removed q).mirror = x.mirror.leave q := by
      show Mirror.mk _ _ _ = Mirror.mk _ _ _
      congr 1
      exact Function.comp_update (Option.map fun f : ChildFrame UInt32 => f.handle) ..
    rw [hmirror]
    exact h.mirror.leave hunmapped fun r e hr hdescribes =>
      describes_of_ne rfl hr hdescribes
  texture := by
    intro r g hg htexture
    by_cases hr : r = q
    · subst hr
      have hg' : Function.update x.frames r none r = some g := hg
      rw [Function.update_self] at hg'
      cases hg'
    · exact h.texture_of_ne hr rfl hg htexture

/-- A note about a popup that is not there. -/
theorem noted (hnone : x.frames q = none) (b : Bool) : (x.noted q b).Right := by
  have hne : ∀ r f, x.frames r = some f → r ≠ q := by
    rintro r f hf rfl
    rw [hnone] at hf
    cases hf
  have hmapped : ∀ r f, x.frames r = some f → (x.noted q b).mapped r = x.mapped r :=
    fun r f hf => Function.update_of_ne (hne r f hf) ..
  refine ⟨⟨h.mirror.distinct, fun k e he => ?_, fun r k hr hshown => ?_⟩,
    fun r g hg htexture => ?_⟩
  · obtain ⟨r, hr, hshown, f, hf, hdescribes⟩ := h.mirror.owned k e he
    exact ⟨r, hr, (hmapped r f hf).trans hshown, f, hf, hdescribes⟩
  · obtain ⟨f, hf, -⟩ := Option.map_eq_some_iff.mp hr
    exact h.mirror.present r k hr ((hmapped r f hf).symm.trans hshown)
  · rw [hmapped r g hg] at htexture
    exact h.texture r g hg htexture

end Right

/-! ## §3. Events. -/

/-- The two sides of a link. -/
def of (s : ChildLink) (note : ChildNote) : PopupSides where
  frames := s.compositor.childFrames.popups.frames
  popups := s.settled.popups
  mapped := note.popupMapped

variable {s s' : ChildLink} {note note' : ChildNote} {e : Event} {p : Ptr}
  {t t' : ChildFrames} {f : ChildFrame UInt32} {surf : PopupSurface} {registered : Bool}

theorem popups_other (h : ChildEffect t e t') (hother : isPopupEvent e = false) :
    t'.popups = t.popups := by
  cases h <;> first | rfl | cases hother

theorem withTexture_textureId (h : f.textureRegistered = true →
      f.textureId = popupTexture f.handle) :
    (f.withTexture registered).textureId = popupTexture f.handle := by
  unfold ChildFrame.withTexture
  split
  next hregistered => exact h hregistered
  next => rfl

theorem withTexture_same (f : ChildFrame UInt32) (registered : Bool) :
    (f.withTexture registered).handle = f.handle ∧
    (f.withTexture registered).parent = f.parent ∧ (f.withTexture registered).box = f.box := by
  unfold ChildFrame.withTexture
  split
  · exact ⟨rfl, rfl, rfl⟩
  · exact ⟨rfl, rfl, rfl⟩

/-- The message about a popup is what the popup is after the event. -/
theorem sent_of_message {ms : List ChildMessage} {g : ChildFrame UInt32}
    (hms : s'.compositor.popupMessage p = .ok ms)
    (hsettled : s'.settled = ms.foldl DartCompositor.receive s.settled)
    (hframes : s'.compositor.childFrames.popups.frames
      = Function.update s.compositor.childFrames.popups.frames p (some g)) :
    ∃ e : Popup, (e.handle = g.handle ∧ e.textureId = g.textureId ∧ e.parentHandle = g.parent
        ∧ e.box = g.box)
      ∧ s'.settled.popups = Function.update s.settled.popups g.handle (some e) := by
  obtain ⟨popup, outputId, hp, rfl⟩ := popupMessage_ok hms
  have hframe : popup.childFrame = g := by
    refine Option.some.inj ((Instance.popup_childFrame hp).symm.trans ?_)
    rw [hframes, Function.update_self]
  subst hframe
  refine ⟨⟨popup.handle, popup.textureId, popup.parentViewHandle,
    ⟨popup.x, popup.y, popup.width, popup.height⟩, outputId, popup.outputScale⟩,
    ⟨rfl, rfl, rfl, rfl⟩, ?_⟩
  rw [hsettled]
  rfl

theorem of_eq {x : PopupSides} (hframes : s'.compositor.childFrames.popups.frames = x.frames)
    (hpopups : s'.settled.popups = x.popups) (hmapped : note.popupMapped = x.mapped) :
    of s' note = x := by
  cases x
  exact congr (congr (congrArg PopupSides.mk hframes) hpopups) hmapped

/-- A mapped popup that is sent again. -/
theorem right_resent {ms : List ChildMessage} {g : ChildFrame UInt32} (h : (of s note).Right)
    (hms : s'.compositor.popupMessage p = .ok ms)
    (hsettled : s'.settled = ms.foldl DartCompositor.receive s.settled)
    (hf : (of s note).frames p = some f)
    (hframes : s'.compositor.childFrames.popups.frames
      = Function.update s.compositor.childFrames.popups.frames p (some g))
    (hhandle : g.handle = f.handle) (htexture : g.textureId = popupTexture g.handle)
    (hnote : note'.popupMapped = Function.update note.popupMapped p true) :
    (of s' note').Right := by
  obtain ⟨e, he, hpopups⟩ := sent_of_message hms hsettled hframes
  rw [of_eq (x := (of s note).sent p g e) hframes hpopups hnote]
  exact h.sent hf hhandle htexture he

theorem effect_map (h : ChildEffect t (.popupMap p surf registered) t') :
    ∃ f, t.popups.frames p = some f ∧
      t'.popups = t.popups.put p ((f.withTexture registered).inBox surf.mapBox) := by
  cases h with
  | other hother => cases hother
  | popupMap hf => exact ⟨_, hf, rfl⟩

theorem effect_unmap (h : ChildEffect t (.popupUnmap p) t') :
    ∃ f, t.popups.frames p = some f ∧
      t'.popups = t.popups.put p { f with textureRegistered := false } := by
  cases h with
  | other hother => cases hother
  | popupUnmap hf => exact ⟨_, hf, rfl⟩

theorem effect_commit {layout : OutputLayout}
    (h : ChildEffect t (.popupCommit p surf layout registered) t') :
    ∃ f, t.popups.frames p = some f ∧
      t'.popups = t.popups.put p (f.committed surf registered) := by
  cases h with
  | other hother => cases hother
  | popupCommit hf => exact ⟨_, hf, rfl⟩

theorem effect_reposition (h : ChildEffect t (.popupReposition p surf) t') :
    ∃ f, t.popups.frames p = some f ∧ t'.popups = t.popups.put p
      (f.inBox (if surf.mapped then surf.mapBox else surf.scheduled)) := by
  cases h with
  | other hother => cases hother
  | popupReposition hf => exact ⟨_, hf, rfl⟩

theorem effect_destroy (h : ChildEffect t (.popupDestroy p) t') :
    t'.popups = t.popups.remove p := by
  cases h with
  | other hother => cases hother
  | popupDestroy hf => rfl

/-- A popup that comes may be mapped already. -/
theorem effect_new {parentXdg : Option Nat}
    (h : ChildEffect t (.newPopup parentXdg surf registered) t') :
    t' = t ∨ ∃ parent, let f := ⟨t.popups.nextHandle, parent, 0, false, surf.scheduled⟩
      t'.popups.next = t.popups.next + 1 ∧ t'.popups.frames
        = if surf.mapped
          then Function.update (Function.update t.popups.frames t.popups.next (some f))
            t.popups.next (some ((ChildFrame.withTexture f registered).inBox surf.mapBox))
          else Function.update t.popups.frames t.popups.next (some f) := by
  cases h with
  | other hother => cases hother
  | noPopup => exact .inl rfl
  | newPopup parent hmapped => exact .inr ⟨parent, rfl, by rw [hmapped]; rfl⟩
  | newPopupMapped parent hmapped => exact .inr ⟨parent, rfl, by rw [hmapped]; rfl⟩

theorem popupMapped_ofParent (note : ChildNote) (s : Instance) (p : Ptr)
    (f : List Ptr → List Ptr) : (note.ofParent s p f).popupMapped = note.popupMapped := by
  unfold ChildNote.ofParent
  split <;> rfl

/-- An event of another kind. -/
theorem popups_same {ms : List ChildMessage} (h : (of s note).Right)
    (hsettled : s'.settled = ms.foldl DartCompositor.receive s.settled)
    (hms : ∀ m ∈ ms, m.isPopup = isPopupEvent e)
    (hchild : ChildEffect s.compositor.childFrames e s'.compositor.childFrames)
    (hother : isPopupEvent e = false) (hnote : note'.popupMapped = note.popupMapped) :
    (of s' note').Right := by
  have hpopups : s'.settled.popups = s.settled.popups := by
    rw [hsettled]
    exact popups_receive fun m hm => (hms m hm).trans hother
  have hsides : of s' note' = of s note :=
    of_eq (by rw [popups_other hchild hother]; rfl) hpopups hnote
  rw [hsides]
  exact h

/-- A new popup, if the parent is found. -/
theorem popups_new {parentXdg : Option Nat} {ms : List ChildMessage} (h : (of s note).Right)
    (hok : InTurn s.compositor note (.newPopup parentXdg surf registered))
    (hms : s.compositor.announced s'.compositor s.texts
      (.newPopup parentXdg surf registered) = .ok ms)
    (hsettled : s'.settled = ms.foldl DartCompositor.receive s.settled)
    (hchild : ChildEffect s.compositor.childFrames (.newPopup parentXdg surf registered)
      s'.compositor.childFrames) :
    (of s'
      (ChildNote.remark s (.compositor (.newPopup parentXdg surf registered)) note)).Right := by
  have hnew : (of s note).frames s.compositor.popupObjects.next = none := Store.project_next _ _
  simp only [Instance.announced] at hms
  rcases effect_new hchild with heq | ⟨parent, hnext, hframes⟩
  · have hnone : ¬ (s'.compositor.popupObjects.next ≠ s.compositor.popupObjects.next
        ∧ surf.mapped = true) := fun hboth => hboth.1 (congrArg (·.popups.next) heq)
    rw [if_neg hnone] at hms
    cases hms
    have hsides : of s' (ChildNote.remark s (.compositor (.newPopup parentXdg surf registered))
        note) = (of s note).noted s.compositor.popupObjects.next surf.mapped :=
      of_eq (by rw [heq]; rfl) (by rw [hsettled]; rfl) rfl
    rw [hsides]
    exact h.noted hnew _
  · have hnext' : s'.compositor.popupObjects.next ≠ s.compositor.popupObjects.next := by
      rw [show s'.compositor.popupObjects.next = s.compositor.popupObjects.next + 1 from hnext]
      exact Nat.succ_ne_self _
    have hcreated := h.created (f := ⟨s.compositor.popups.next, parent, 0, false, surf.scheduled⟩)
      hnew (fun r g hg => by
        obtain ⟨popup, hp, rfl⟩ := Store.project_eq_some.mp hg
        exact hok r popup hp) rfl
    split at hms
    next hmapped =>
      -- it is created, and then sent
      rw [if_pos hmapped.2] at hframes
      obtain ⟨e, he, hpopups⟩ := sent_of_message hms hsettled (by
        rw [hframes, Function.update_idem]
        rfl)
      obtain ⟨hhandle, -, -⟩ := withTexture_same
        ⟨s.compositor.popups.next, parent, 0, false, surf.scheduled⟩ registered
      have hsent := hcreated.sent (Function.update_self ..) (g := (ChildFrame.withTexture
        ⟨s.compositor.popups.next, parent, 0, false, surf.scheduled⟩ registered).inBox
          surf.mapBox) hhandle (by
        show (ChildFrame.withTexture _ registered).textureId = popupTexture
          (ChildFrame.withTexture _ registered).handle
        rw [hhandle]
        exact withTexture_textureId fun hfalse => by cases hfalse) he
      have hnote : Function.update note.popupMapped s.compositor.popupObjects.next surf.mapped
          = Function.update (Function.update note.popupMapped s.compositor.popupObjects.next false)
            s.compositor.popupObjects.next true := by
        rw [Function.update_idem, hmapped.2]
      rw [of_eq (x := PopupSides.sent ((of s note).created _ _) _ _ e) hframes hpopups hnote]
      exact hsent
    next hhidden =>
      cases hms
      have hmapped : surf.mapped = false :=
        Bool.eq_false_iff.mpr fun hmapped => hhidden ⟨hnext', hmapped⟩
      rw [if_neg (by rw [hmapped]; decide)] at hframes
      have hnote : Function.update note.popupMapped s.compositor.popupObjects.next surf.mapped
          = Function.update note.popupMapped s.compositor.popupObjects.next false := by
        rw [hmapped]
      rw [of_eq (x := (of s note).created _ _) hframes (by rw [hsettled]; rfl) hnote]
      exact hcreated

/-- A commit of a popup. -/
theorem popups_commit {layout : OutputLayout} {ms : List ChildMessage} (h : (of s note).Right)
    (hok : InTurn s.compositor note (.popupCommit p surf layout registered))
    (hms : (if f.Resent surf registered then s'.compositor.popupMessage p else .ok []) = .ok ms)
    (hsettled : s'.settled = ms.foldl DartCompositor.receive s.settled)
    (hf : (of s note).frames p = some f)
    (hframes : s'.compositor.childFrames.popups.frames = Function.update
      s.compositor.childFrames.popups.frames p (some (f.committed surf registered))) :
    (of s' note).Right := by
  have hmapped : surf.mapped = note.popupMapped p := hok
  have htexture := h.texture p f hf
  obtain ⟨hhandle, hparent, hbox⟩ := withTexture_same f registered
  have hwith : (f.withTexture registered).textureId
      = popupTexture (f.withTexture registered).handle := by
    rw [hhandle]
    exact withTexture_textureId fun hregistered => htexture (.inr hregistered)
  split at hms
  next hresent =>
    have hcommitted : f.committed surf registered
        = (f.withTexture registered).inBox surf.mapBox := by
      unfold ChildFrame.committed
      dsimp only
      rw [if_pos hresent, if_pos hresent.1]
    rw [hcommitted] at hframes
    refine right_resent h hms hsettled hf hframes hhandle hwith ?_
    exact (Function.update_eq_self_iff.mpr (hmapped.symm.trans hresent.1).symm).symm
  next hresent =>
    cases hms
    have hcommitted : f.committed surf registered
        = if surf.mapped then f.withTexture registered else f := by
      unfold ChildFrame.committed
      dsimp only
      rw [if_neg hresent]
    have hsides : of s' note = (of s note).putFrame p (f.committed surf registered) :=
      of_eq hframes (by rw [hsettled]; rfl) rfl
    rw [hsides, hcommitted]
    by_cases hshown : surf.mapped = true
    · rw [if_pos hshown]
      exact h.putFrame hf hhandle (fun _ => hwith) fun _ => ⟨hparent, hbox⟩
    · rw [if_neg hshown]
      exact h.putFrame hf rfl htexture fun _ => ⟨rfl, rfl⟩

/-- **One event of the compositor.** -/
theorem popups_step (h : (of s note).Right) (hok : InTurn s.compositor note e)
    (hstep : s.step (.compositor e) = some s') :
    (of s' (ChildNote.remark s (.compositor e) note)).Right := by
  obtain ⟨hhandle, ms, hms, hsettled⟩ := compositor_facts hstep
  have hchild := Instance.handle_childEffect hhandle
  have hpopups := announced_isPopup hms
  cases e with
  | newPopup parentXdg surf registered => exact popups_new h hok hms hsettled hchild
  | popupMap p surf registered =>
      obtain ⟨f, hf, heq⟩ := effect_map hchild
      have htexture := h.texture p f hf
      obtain ⟨hhandle', -, -⟩ := withTexture_same f registered
      have hframes : s'.compositor.childFrames.popups.frames
          = Function.update s.compositor.childFrames.popups.frames p
            (some ((f.withTexture registered).inBox surf.mapBox)) := by
        rw [heq]
        rfl
      refine right_resent h hms hsettled hf hframes hhandle' ?_ rfl
      show (f.withTexture registered).textureId = popupTexture (f.withTexture registered).handle
      rw [hhandle']
      exact withTexture_textureId fun hregistered => htexture (.inr hregistered)
  | popupUnmap p =>
      obtain ⟨f, hf, heq⟩ := effect_unmap hchild
      simp only [Instance.announced, except_bind_eq_ok] at hms
      obtain ⟨popup, hpopup, hms⟩ := hms
      cases hms
      obtain rfl : f = popup.childFrame := Option.some.inj
        (hf.symm.trans (Instance.popup_childFrame (Instance.popup_ok hpopup)))
      have hsides : of s' (ChildNote.remark s (.compositor (.popupUnmap p)) note)
          = (of s note).unmapped p popup.childFrame :=
        of_eq (by rw [heq]; rfl) (by rw [hsettled]; rfl) rfl
      rw [hsides]
      exact h.unmapped hf
  | popupCommit p surf layout registered =>
      obtain ⟨f, hf, heq⟩ := effect_commit hchild
      simp only [Instance.announced, except_bind_eq_ok] at hms
      obtain ⟨popup, hpopup, hms⟩ := hms
      obtain rfl : f = popup.childFrame := Option.some.inj
        (hf.symm.trans (Instance.popup_childFrame (Instance.popup_ok hpopup)))
      show (of s' note).Right
      exact popups_commit h hok hms hsettled hf (by rw [heq]; rfl)
  | popupReposition p surf =>
      obtain ⟨f, hf, heq⟩ := effect_reposition hchild
      have hmapped : surf.mapped = note.popupMapped p := hok
      have htexture := h.texture p f hf
      simp only [Instance.announced] at hms
      split at hms
      next hshown =>
        rw [if_pos hshown] at heq
        refine right_resent h hms hsettled hf (by rw [heq]; rfl) (by rfl) ?_ ?_
        · exact htexture (.inl (hmapped.symm.trans hshown))
        · exact (Function.update_eq_self_iff.mpr (hmapped.symm.trans hshown).symm).symm
      next hhidden =>
        cases hms
        rw [if_neg hhidden] at heq
        have hsides : of s' note = (of s note).putFrame p (f.inBox surf.scheduled) :=
          of_eq (by rw [heq]; rfl) (by rw [hsettled]; rfl) rfl
        show (of s' note).Right
        rw [hsides]
        exact h.putFrame hf (by rfl) htexture fun hshown =>
          absurd (hmapped.trans hshown) hhidden
  | popupDestroy p =>
      cases hms
      have hsides : of s' (ChildNote.remark s (.compositor (.popupDestroy p)) note)
          = (of s note).removed p :=
        of_eq (by rw [effect_destroy hchild]; rfl) (by rw [hsettled]; rfl) rfl
      rw [hsides]
      exact h.removed hok
  | newToplevel | toplevelMap | toplevelUnmap | toplevelDestroy | newSubsurface | subsurfaceDestroy
    | subsurfaceCommit | newOutput | outputDestroy | outputCommitState | setVsyncOutput
    | toplevelCommit | setPosition | newSurface | surfaceDestroy | requestCursor
    | activateSystemCursor =>
      exact popups_same h hsettled hpopups hchild rfl rfl
  | subsurfaceMap p | subsurfaceUnmap p =>
      refine popups_same h hsettled hpopups hchild rfl ?_
      exact popupMapped_ofParent _ _ _ _

end PopupSides

/-! ## §4. Boxes. -/

/-- The box of a mapped popup is the one noted of its surface. -/
def BoxesNoted (s : Instance) (note : ChildNote) : Prop :=
  ∀ q f, s.childFrames.popups.frames q = some f → note.popupMapped q = true →
    f.box = note.popupBox q

/-- A commit of a mapped popup is sent, or leaves it in its box. -/
def Informed (s : Instance) (note : ChildNote) : Event → Prop
  | .popupCommit p surf _ registered =>
      surf.mapped = true → surf.mapBox = note.popupBox p ∨
        (s.popupObjects.get p).all fun popup => popup.childFrame.Resent surf registered
  | _ => True

instance (s : Instance) (note : ChildNote) : (e : Event) → Decidable (Informed s note e)
  | .popupCommit p surf _ registered =>
      inferInstanceAs (Decidable (surf.mapped = true → surf.mapBox = note.popupBox p ∨
        (s.popupObjects.get p).all fun popup => popup.childFrame.Resent surf registered))
  | .newOutput .. | .outputDestroy .. | .outputCommitState .. | .setVsyncOutput ..
  | .newToplevel .. | .toplevelMap .. | .toplevelUnmap .. | .toplevelDestroy ..
  | .toplevelCommit .. | .setPosition .. | .newSubsurface .. | .subsurfaceMap ..
  | .subsurfaceUnmap .. | .subsurfaceCommit .. | .subsurfaceDestroy .. | .newPopup ..
  | .popupMap .. | .popupUnmap .. | .popupReposition .. | .popupDestroy .. | .newSurface
  | .surfaceDestroy .. | .requestCursor .. | .activateSystemCursor .. =>
      inferInstanceAs (Decidable True)

section Boxes

variable {s s' : ChildLink} {note note' : ChildNote} {e : Event} {p : Ptr}

/-- An event of one popup leaves the others as they are. -/
theorem boxesNoted_of_others (h : BoxesNoted s.compositor note)
    (hframes : ∀ q, q ≠ p → s'.compositor.childFrames.popups.frames q
      = s.compositor.childFrames.popups.frames q)
    (hmapped : ∀ q, q ≠ p → note'.popupMapped q = note.popupMapped q)
    (hbox : ∀ q, q ≠ p → note'.popupBox q = note.popupBox q)
    (hself : ∀ f, s'.compositor.childFrames.popups.frames p = some f →
      note'.popupMapped p = true → f.box = note'.popupBox p) :
    BoxesNoted s'.compositor note' := by
  intro q f hf hq
  by_cases hp : q = p
  · rw [hp] at hf hq ⊢
    exact hself f hf hq
  · rw [hframes q hp] at hf
    rw [hmapped q hp] at hq
    rw [hbox q hp]
    exact h q f hf hq

theorem frame_of_put {t : ChildTable UInt32} {f g : ChildFrame UInt32}
    (h : (t.put p f).frames p = some g) : g = f :=
  (Option.some.inj (ChildTable.frames_put.symm.trans h)).symm

theorem popupBox_ofParent (note : ChildNote) (s : Instance) (p : Ptr) (f : List Ptr → List Ptr) :
    (note.ofParent s p f).popupBox = note.popupBox := by
  unfold ChildNote.ofParent
  split <;> rfl

theorem boxesNoted_same (h : BoxesNoted s.compositor note)
    (hpopups : s'.compositor.childFrames.popups = s.compositor.childFrames.popups)
    (hmapped : note'.popupMapped = note.popupMapped) (hbox : note'.popupBox = note.popupBox) :
    BoxesNoted s'.compositor note' := by
  intro q f hf hq
  rw [hpopups] at hf
  rw [hmapped] at hq
  rw [hbox]
  exact h q f hf hq

section Events

variable {surf : PopupSurface} {registered : Bool}

/-- A popup that is mapped when it comes is sent with the box of its surface. -/
theorem boxes_new {parentXdg : Option Nat} (h : BoxesNoted s.compositor note)
    (hchild : ChildEffect s.compositor.childFrames (.newPopup parentXdg surf registered)
      s'.compositor.childFrames) :
    BoxesNoted s'.compositor
      (ChildNote.remark s (.compositor (.newPopup parentXdg surf registered)) note) := by
  have hnew : s.compositor.childFrames.popups.frames s.compositor.popupObjects.next = none :=
    Store.project_next _ _
  have hmappedOf : (ChildNote.remark s (.compositor (.newPopup parentXdg surf registered))
      note).popupMapped s.compositor.popupObjects.next = surf.mapped := Function.update_self ..
  have hboxOf : (ChildNote.remark s (.compositor (.newPopup parentXdg surf registered))
      note).popupBox s.compositor.popupObjects.next = surf.mapBox := Function.update_self ..
  refine boxesNoted_of_others (p := s.compositor.popupObjects.next) h (fun q hq => ?_)
    (fun q hq => Function.update_of_ne hq ..) (fun q hq => Function.update_of_ne hq ..)
    fun f hf hmapped => ?_
  · rcases PopupSides.effect_new hchild with heq | ⟨parent, -, hframes⟩
    · rw [heq]
    · have hq' : q ≠ s.compositor.childFrames.popups.next := hq
      rw [hframes]
      split
      · rw [Function.update_of_ne hq', Function.update_of_ne hq']
      · rw [Function.update_of_ne hq']
  · have hself : surf.mapped = true := hmappedOf.symm.trans hmapped
    rw [hboxOf]
    rcases PopupSides.effect_new hchild with heq | ⟨parent, -, hframes⟩
    · rw [heq, hnew] at hf
      cases hf
    · have hnext : s.compositor.popupObjects.next = s.compositor.childFrames.popups.next := rfl
      rw [hframes, if_pos hself, hnext, Function.update_self] at hf
      obtain rfl := Option.some.inj hf
      rfl

/-- A popup whose commit is not sent is in its box already. -/
theorem boxes_commit {layout : OutputLayout} (h : BoxesNoted s.compositor note)
    (hturn : surf.mapped = note.popupMapped p)
    (hinformed : Informed s.compositor note (.popupCommit p surf layout registered))
    (hchild : ChildEffect s.compositor.childFrames (.popupCommit p surf layout registered)
      s'.compositor.childFrames) :
    BoxesNoted s'.compositor
      (ChildNote.remark s (.compositor (.popupCommit p surf layout registered)) note) := by
  obtain ⟨f, hf, heq⟩ := PopupSides.effect_commit hchild
  refine boxesNoted_of_others (p := p) h (fun q hq => ?_) (fun q hq => rfl)
    (fun q hq => Function.update_of_ne hq ..) fun g hg hmapped => ?_
  · rw [heq]
    exact Function.update_of_ne hq ..
  · have hshown : surf.mapped = true := hturn.trans hmapped
    show g.box = Function.update note.popupBox p surf.mapBox p
    rw [Function.update_self]
    rw [heq] at hg
    obtain rfl := frame_of_put hg
    unfold ChildFrame.committed
    dsimp only
    split
    next => rfl
    next hsilent =>
      -- it is not sent, so that it is in its box already
      have hstays : surf.mapBox = note.popupBox p := by
        refine (hinformed hshown).resolve_right fun hall => hsilent ?_
        obtain ⟨popup, hp, rfl⟩ := Store.project_eq_some.mp hf
        rw [hp] at hall
        exact of_decide_eq_true hall
      rw [(PopupSides.withTexture_same f registered).2.2, hstays]
      exact h p f hf hmapped

end Events

/-- **One event keeps the boxes**: a popup that is sent gets the box of its surface, and one that is
    not sent had it already. -/
theorem boxes_step (h : BoxesNoted s.compositor note) (hok : InTurn s.compositor note e)
    (hinformed : Informed s.compositor note e) (hstep : s.step (.compositor e) = some s') :
    BoxesNoted s'.compositor (ChildNote.remark s (.compositor e) note) := by
  have hchild := Instance.handle_childEffect (compositor_facts hstep).1
  cases e with
  | newPopup parentXdg surf registered => exact boxes_new h hchild
  | popupCommit p surf layout registered => exact boxes_commit h hok hinformed hchild
  | popupMap p surf registered =>
      obtain ⟨f, hf, heq⟩ := PopupSides.effect_map hchild
      refine boxesNoted_of_others (p := p) h (fun q hq => ?_)
        (fun q hq => Function.update_of_ne hq ..) (fun q hq => Function.update_of_ne hq ..)
        fun g hg hmapped => ?_
      · rw [heq]
        exact Function.update_of_ne hq ..
      · rw [heq] at hg
        obtain rfl := frame_of_put hg
        have hnoted : (ChildNote.remark s (.compositor (.popupMap p surf registered)) note).popupBox
          p = surf.mapBox := Function.update_self ..
        exact hnoted.symm
  | popupUnmap p =>
      obtain ⟨f, hf, heq⟩ := PopupSides.effect_unmap hchild
      refine boxesNoted_of_others (p := p) h (fun q hq => ?_)
        (fun q hq => Function.update_of_ne hq ..) (fun q hq => rfl) fun g hg hmapped => ?_
      · rw [heq]
        exact Function.update_of_ne hq ..
      · exact Bool.noConfusion ((Function.update_self ..).symm.trans hmapped)
  | popupReposition p surf =>
      obtain ⟨f, hf, heq⟩ := PopupSides.effect_reposition hchild
      have hturn : surf.mapped = note.popupMapped p := hok
      refine boxesNoted_of_others (p := p) h (fun q hq => ?_) (fun q hq => rfl)
        (fun q hq => Function.update_of_ne hq ..) fun g hg hmapped => ?_
      · rw [heq]
        exact Function.update_of_ne hq ..
      · rw [heq, if_pos (hturn.trans hmapped)] at hg
        obtain rfl := frame_of_put hg
        have hnoted : (ChildNote.remark s (.compositor (.popupReposition p surf)) note).popupBox p
          = surf.mapBox := Function.update_self ..
        exact hnoted.symm
  | popupDestroy p =>
      refine boxesNoted_of_others (p := p) h (fun q hq => ?_) (fun q hq => rfl) (fun q hq => rfl)
        fun g hg hmapped => ?_
      · rw [PopupSides.effect_destroy hchild]
        exact Function.update_of_ne hq ..
      · rw [PopupSides.effect_destroy hchild] at hg
        have hnone : (s.compositor.childFrames.popups.remove p).frames p = none :=
          Function.update_self ..
        rw [hnone] at hg
        cases hg
  | newToplevel | toplevelMap | toplevelUnmap | toplevelDestroy | newSubsurface | subsurfaceDestroy
    | subsurfaceCommit | newOutput | outputDestroy | outputCommitState | setVsyncOutput
    | toplevelCommit | setPosition | newSurface | surfaceDestroy | requestCursor
    | activateSystemCursor =>
      exact boxesNoted_same h (PopupSides.popups_other hchild rfl) rfl rfl
  | subsurfaceMap p | subsurfaceUnmap p =>
      refine boxesNoted_same h (PopupSides.popups_other hchild rfl) ?_ ?_
      · exact PopupSides.popupMapped_ofParent _ _ _ _
      · exact popupBox_ofParent _ _ _ _

end Boxes

/-! ## §5. Runs. -/

/-- Clients keep to the protocol, and move a mapped popup only where this is sent. -/
def PopupTurn (w : Watched ChildLink ChildNote) (e : ChildEvent) : Prop :=
  ChildTurn w e ∧ match e with
    | .compositor e => Informed w.state.compositor w.note e
    | .setTexts .. => True
    | .deliver => True

instance (w : Watched ChildLink ChildNote) : (e : ChildEvent) → Decidable (PopupTurn w e)
  | .compositor e =>
      inferInstanceAs (Decidable (ChildTurn w (.compositor e) ∧
        Informed w.state.compositor w.note e))
  | .setTexts p texts => inferInstanceAs (Decidable (ChildTurn w (.setTexts p texts) ∧ True))
  | .deliver => inferInstanceAs (Decidable (ChildTurn w .deliver ∧ True))

/-- A popup of Dart is that of the compositor, in the box of its surface. -/
structure Popup.Shows (e : Popup) (popup : FwrPopup) (box : WlrBox) : Prop where
  handle : e.handle = popup.handle
  textureId : e.textureId = popupTexture popup.handle
  parent : e.parentHandle = popup.parentViewHandle
  box : e.box = box

/-- Dart's table is right, and so are the boxes the compositor has. -/
structure PopupsRight (w : Watched ChildLink ChildNote) : Prop where
  sides : (PopupSides.of w.state w.note).Right
  boxes : BoxesNoted w.state.compositor w.note

theorem popupsRight_init : PopupsRight watchedChildren.init where
  sides := ⟨⟨fun p q k hp => (by cases hp), fun k e he => (by cases he),
    fun p k hp => (by cases hp)⟩, fun q f hf => (by cases hf)⟩
  boxes := fun q f hf => by cases hf

/-- Another state with the same compositor, and the same table to come. -/
theorem popupsRight_congr {w : Watched ChildLink ChildNote} {s' : ChildLink} (h : PopupsRight w)
    (hcompositor : s'.compositor = w.state.compositor) (hsettled : s'.settled = w.state.settled) :
    PopupsRight ⟨s', w.note⟩ where
  sides := by
    have hsides : PopupSides.of s' w.note = PopupSides.of w.state w.note := by
      unfold PopupSides.of
      rw [hcompositor, hsettled]
    show (PopupSides.of s' w.note).Right
    rw [hsides]
    exact h.sides
  boxes := by
    show BoxesNoted s'.compositor w.note
    rw [hcompositor]
    exact h.boxes

theorem popupsRight_step {w w' : Watched ChildLink ChildNote} {e : ChildEvent}
    (h : PopupsRight w) (hok : PopupTurn w e) (hstep : watchedChildren.step w e = some w') :
    PopupsRight w' := by
  obtain ⟨hlink, hnote⟩ := Machine.watch_step.mp hstep
  obtain ⟨s', note'⟩ := w'
  dsimp only at hlink hnote
  rw [hnote]
  cases e with
  | compositor e =>
      exact ⟨PopupSides.popups_step h.sides hok.1 hlink, boxes_step h.boxes hok.1 hok.2 hlink⟩
  | setTexts p texts =>
      obtain ⟨hcompositor, hsettled⟩ := setTexts_facts hlink
      exact popupsRight_congr h hcompositor hsettled
  | deliver =>
      obtain ⟨hcompositor, hsettled⟩ := deliver_facts hlink
      exact popupsRight_congr h hcompositor hsettled

/-- **Popups.**  When nothing is under way, the popups in Dart's table are the mapped ones, each in
    the box its surface had at its last event.  A commit that only moves a popup is not sent: the
    runs are those without one. -/
theorem popups_mirrored {w : Watched ChildLink ChildNote} (h : watchedChildren.Reach PopupTurn w)
    (hquiet : w.state.channel.pending = []) :
    (∀ k e, w.state.channel.receiver.popups k = some e →
        ∃ q popup, w.note.popupMapped q = true
          ∧ w.state.compositor.popupObjects.get q = some popup ∧ popup.handle = k
          ∧ e.Shows popup (w.note.popupBox q))
      ∧ ∀ q popup, w.note.popupMapped q = true →
        w.state.compositor.popupObjects.get q = some popup →
        ∃ e, w.state.channel.receiver.popups popup.handle = some e
          ∧ e.Shows popup (w.note.popupBox q) := by
  obtain ⟨hright, hboxes⟩ := h.invariant popupsRight_init fun _ _ _ => popupsRight_step
  have hsettled : w.state.channel.receiver = w.state.settled := settled_quiet hquiet
  rw [hsettled]
  have hshows : ∀ {q : Ptr} {e : Popup} {popup : FwrPopup}, w.note.popupMapped q = true →
      w.state.compositor.popupObjects.get q = some popup →
      (PopupSides.of w.state w.note).Describes q e → e.Shows popup (w.note.popupBox q) := by
    rintro q e popup hmapped hp ⟨f, hf, hhandle, htexture, hparent, hbox⟩
    obtain rfl : f = popup.childFrame :=
      Option.some.inj (hf.symm.trans (Instance.popup_childFrame hp))
    exact ⟨hhandle, htexture, hparent, hbox.trans (hboxes q _ hf hmapped)⟩
  refine ⟨fun k e he => ?_, fun q popup hmapped hp => ?_⟩
  · obtain ⟨q, hq, hmapped, hdescribes⟩ := hright.mirror.owned k e he
    obtain ⟨f, hf, hkey⟩ := Option.map_eq_some_iff.mp hq
    obtain ⟨popup, hp, rfl⟩ := Store.project_eq_some.mp hf
    exact ⟨q, popup, hmapped, hp, hkey, hshows hmapped hp hdescribes⟩
  · have hf : (PopupSides.of w.state w.note).frames q = some popup.childFrame :=
      Instance.popup_childFrame hp
    have hkey : (PopupSides.of w.state w.note).mirror.keyOf q = some popup.handle :=
      PopupSides.Right.key_of_frame hf
    obtain ⟨e, he⟩ := hright.mirror.present q popup.handle hkey hmapped
    exact ⟨e, he, hshows hmapped hp (hright.mirror.relation hkey he)⟩

/-- A popup that is mapped when it comes, gets its texture late, is repositioned and then committed
    in its new place with another size; another one is unmapped. -/
theorem popups_mirrored_late :
    ∃ w, watchedChildren.Reach PopupTurn w ∧ w.state.channel.receiver.popups 2 = none
      ∧ ∃ e, w.state.channel.receiver.popups 1 = some e ∧ e.box = ⟨8, 9, 50, 40⟩ := by
  let surf : PopupSurface := ⟨⟨1, 2, 30, 40⟩, ⟨1, 2, 30, 40⟩, 30, 40, none, true⟩
  let hidden : PopupSurface := { surf with mapped := false }
  let moved : PopupSurface := ⟨⟨8, 9, 50, 40⟩, ⟨8, 9, 50, 40⟩, 50, 40, none, true⟩
  let es : List ChildEvent :=
    [.compositor (.newToplevel 7), .compositor (.newPopup (some 7) surf false),
      .compositor (.newPopup (some 7) hidden true), .compositor (.popupMap 1 surf true),
      .compositor (.popupCommit 0 surf (fun _ _ => none) true), .deliver,
      .compositor (.popupUnmap 1),
      .compositor (.popupReposition 0 { surf with scheduled := ⟨8, 9, 50, 40⟩ }), .deliver,
      .compositor (.popupCommit 0 moved (fun _ _ => none) true), .deliver, .deliver, .deliver,
      .deliver]
  have hrun : (watchedChildren.execIf PopupTurn watchedChildren.init es).map (fun w =>
      ((w.state.compositor.popupObjects.get 0).map (·.handle), w.note.popupBox 0,
        w.state.channel.pending.isEmpty && w.note.popupMapped 0,
        (w.state.channel.receiver.popups 2).isNone))
      = some (some 1, ⟨8, 9, 50, 40⟩, true, true) := by
    decide +kernel
  obtain ⟨w, hw, heq⟩ := Option.map_eq_some_iff.mp hrun
  have hreach := Machine.reach_execIf es .init hw
  simp only [Prod.mk.injEq] at heq
  obtain ⟨hhandle, hbox, hquiet, hnone⟩ := heq
  obtain ⟨hquiet, hmapped⟩ := Bool.and_eq_true_iff.mp hquiet
  obtain ⟨popup, hp, hhandle⟩ := Option.map_eq_some_iff.mp hhandle
  obtain ⟨e, he, hshows⟩ :=
    (popups_mirrored hreach (List.isEmpty_iff.mp hquiet)).2 0 popup hmapped hp
  rw [hhandle] at he
  exact ⟨w, hreach, Option.isNone_iff_eq_none.mp hnone, e, he, hshows.box.trans hbox⟩

end FlutterWlroots.Desktop
