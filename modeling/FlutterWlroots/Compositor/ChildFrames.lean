/-
  FlutterWlroots.Compositor.ChildFrames — what is sent to Dart of subsurfaces and popups.

  Of a subsurface and of a popup Dart is told the handle, the parent, the texture and the box.  Each
  event changes these of one object at most: the output of a window that is moved is handed on to
  its children, but is no part of them.

    • `handle_childEffect` — what an event does to them.
-/
import FlutterWlroots.Compositor.WindowFrames

namespace FlutterWlroots.Compositor

open Lib Lib.StateRun Lib.CInt

/-! ## §1. Frames. -/

/-- What Dart is told of a child; a subsurface has its parent as a pointer, a popup as a handle. -/
structure ChildFrame (Parent : Type) where
  handle : UInt32
  parent : Parent
  textureId : Int
  textureRegistered : Bool
  box : WlrBox
deriving DecidableEq, Repr

def FwrSubsurface.childFrame (sub : FwrSubsurface) : ChildFrame Ptr :=
  ⟨sub.handle, sub.parentView, sub.textureId, sub.textureRegistered,
    ⟨sub.x, sub.y, sub.width, sub.height⟩⟩

def FwrPopup.childFrame (popup : FwrPopup) : ChildFrame UInt32 :=
  ⟨popup.handle, popup.parentViewHandle, popup.textureId, popup.textureRegistered,
    ⟨popup.x, popup.y, popup.width, popup.height⟩⟩

namespace ChildFrame

variable {Parent : Type}

def subsurfaceMapped (f : ChildFrame Parent) (box : WlrBox) (registered : Bool) :
    ChildFrame Parent :=
  { f with
    textureId := ((100000 + f.handle).toNat : Nat), textureRegistered := registered, box := box }

/-- A popup with a texture keeps it. -/
def withTexture (f : ChildFrame Parent) (registered : Bool) : ChildFrame Parent :=
  if f.textureRegistered then f
  else { f with textureId := ((f.handle + 200000).toNat : Nat), textureRegistered := registered }

def inBox (f : ChildFrame Parent) (box : WlrBox) : ChildFrame Parent := { f with box := box }

/-- The content of a popup has got another size. -/
def Resized (f : ChildFrame Parent) (surf : PopupSurface) : Prop :=
  surf.content.1 > 0 ∧ surf.content.2 > 0
    ∧ (surf.content.1 ≠ f.box.width ∨ surf.content.2 ≠ f.box.height)

instance (f : ChildFrame Parent) (surf : PopupSurface) : Decidable (f.Resized surf) :=
  inferInstanceAs (Decidable (_ ∧ _))

/-- A commit of a popup sends it to Dart. -/
def Resent (f : ChildFrame Parent) (surf : PopupSurface) (registered : Bool) : Prop :=
  surf.mapped = true ∧ if f.textureRegistered then f.Resized surf else registered = true

instance (f : ChildFrame Parent) (surf : PopupSurface) (registered : Bool) :
    Decidable (f.Resent surf registered) :=
  inferInstanceAs (Decidable (_ ∧ ite _ _ _))

def committed (f : ChildFrame Parent) (surf : PopupSurface) (registered : Bool) :
    ChildFrame Parent :=
  let g := if surf.mapped then f.withTexture registered else f
  if f.Resent surf registered then g.inBox surf.mapBox else g

end ChildFrame

/-- The children of one kind that are there, and what the next one gets. -/
structure ChildTable (Parent : Type) where
  next : Ptr
  frames : Ptr → Option (ChildFrame Parent)
  nextHandle : UInt32

namespace ChildTable

variable {Parent : Type} (t : ChildTable Parent)

def create (parent : Parent) (box : WlrBox) : ChildTable Parent where
  next := t.next + 1
  frames := Function.update t.frames t.next (some ⟨t.nextHandle, parent, 0, false, box⟩)
  nextHandle := t.nextHandle + 1

def put (p : Ptr) (f : ChildFrame Parent) : ChildTable Parent :=
  { t with frames := Function.update t.frames p (some f) }

def remove (p : Ptr) : ChildTable Parent :=
  { t with frames := Function.update t.frames p none }

variable {t} {p : Ptr} {f : ChildFrame Parent}

theorem put_self (hf : t.frames p = some f) : t.put p f = t := by
  unfold put
  rw [← hf, Function.update_eq_self]

theorem put_put (g : ChildFrame Parent) : (t.put p f).put p g = t.put p g := by
  unfold put
  rw [Function.update_idem]

theorem frames_put : (t.put p f).frames p = some f := Function.update_self ..

end ChildTable

/-- The children of an instance. -/
structure ChildFrames where
  subs : ChildTable Ptr
  popups : ChildTable UInt32

/-- The event is one of a child. -/
def Event.isChild : Event → Bool
  | .newSubsurface .. => true
  | .subsurfaceMap .. => true
  | .subsurfaceUnmap .. => true
  | .subsurfaceCommit .. => true
  | .subsurfaceDestroy .. => true
  | .newPopup .. => true
  | .popupMap .. => true
  | .popupUnmap .. => true
  | .popupCommit .. => true
  | .popupReposition .. => true
  | .popupDestroy .. => true
  | _ => false

/-- What an event does to the children. -/
inductive ChildEffect (t : ChildFrames) : Event → ChildFrames → Prop where
  | other {e : Event} (hother : e.isChild = false) : ChildEffect t e t
  | newSubsurface (parentView : Ptr) :
      ChildEffect t (.newSubsurface parentView)
        { t with subs := t.subs.create parentView ⟨0, 0, 0, 0⟩ }
  | subsurfaceMap {p : Ptr} {box : WlrBox} {registered : Bool} {f : ChildFrame Ptr}
      (hf : t.subs.frames p = some f) :
      ChildEffect t (.subsurfaceMap p box registered)
        { t with subs := t.subs.put p (f.subsurfaceMapped box registered) }
  | subsurfaceUnmap {p : Ptr} {f : ChildFrame Ptr} (hf : t.subs.frames p = some f) :
      ChildEffect t (.subsurfaceUnmap p) t
  | subsurfaceCommit {p : Ptr} {box : WlrBox} {f : ChildFrame Ptr}
      (hf : t.subs.frames p = some f) :
      ChildEffect t (.subsurfaceCommit p box) { t with subs := t.subs.put p (f.inBox box) }
  | subsurfaceDestroy {p : Ptr} {f : ChildFrame Ptr} (hf : t.subs.frames p = some f) :
      ChildEffect t (.subsurfaceDestroy p) { t with subs := t.subs.remove p }
  | noPopup {parentXdg : Option Nat} {surf : PopupSurface} {registered : Bool} :
      ChildEffect t (.newPopup parentXdg surf registered) t
  | newPopup {parentXdg : Option Nat} {surf : PopupSurface} {registered : Bool} (parent : UInt32)
      (hmapped : surf.mapped = false) :
      ChildEffect t (.newPopup parentXdg surf registered)
        { t with popups := t.popups.create parent surf.scheduled }
  | newPopupMapped {parentXdg : Option Nat} {surf : PopupSurface} {registered : Bool}
      (parent : UInt32) (hmapped : surf.mapped = true) :
      ChildEffect t (.newPopup parentXdg surf registered)
        { t with
          popups := (t.popups.create parent surf.scheduled).put t.popups.next
            (ChildFrame.inBox (.withTexture
              ⟨t.popups.nextHandle, parent, 0, false, surf.scheduled⟩ registered) surf.mapBox) }
  | popupMap {p : Ptr} {surf : PopupSurface} {registered : Bool} {f : ChildFrame UInt32}
      (hf : t.popups.frames p = some f) :
      ChildEffect t (.popupMap p surf registered)
        { t with popups := t.popups.put p ((f.withTexture registered).inBox surf.mapBox) }
  | popupUnmap {p : Ptr} {f : ChildFrame UInt32} (hf : t.popups.frames p = some f) :
      ChildEffect t (.popupUnmap p)
        { t with popups := t.popups.put p { f with textureRegistered := false } }
  | popupCommit {p : Ptr} {surf : PopupSurface} {layout : OutputLayout} {registered : Bool}
      {f : ChildFrame UInt32} (hf : t.popups.frames p = some f) :
      ChildEffect t (.popupCommit p surf layout registered)
        { t with popups := t.popups.put p (f.committed surf registered) }
  | popupReposition {p : Ptr} {surf : PopupSurface} {f : ChildFrame UInt32}
      (hf : t.popups.frames p = some f) :
      ChildEffect t (.popupReposition p surf)
        { t with
          popups := t.popups.put p
            (f.inBox (if surf.mapped then surf.mapBox else surf.scheduled)) }
  | popupDestroy {p : Ptr} {f : ChildFrame UInt32} (hf : t.popups.frames p = some f) :
      ChildEffect t (.popupDestroy p) { t with popups := t.popups.remove p }

namespace Instance

variable {s s' : Instance} {p : Ptr} {popup popup' : FwrPopup} {surf : PopupSurface}
  {registered : Bool} {layout : OutputLayout}

/-- The children of an instance. -/
def childFrames (s : Instance) : ChildFrames where
  subs := ⟨s.subsurfaceObjects.next, s.subsurfaceObjects.project FwrSubsurface.childFrame,
    s.subsurfaces.next⟩
  popups := ⟨s.popupObjects.next, s.popupObjects.project FwrPopup.childFrame, s.popups.next⟩

theorem sub_childFrame {sub : FwrSubsurface} (hp : s.subsurfaceObjects.get p = some sub) :
    s.childFrames.subs.frames p = some sub.childFrame := Store.project_of_get _ hp

theorem popup_childFrame (hp : s.popupObjects.get p = some popup) :
    s.childFrames.popups.frames p = some popup.childFrame := Store.project_of_get _ hp

theorem childFrames_setSubsurface {sub sub' : FwrSubsurface}
    (hp : s.subsurfaceObjects.get p = some sub) :
    (s.setSubsurface p sub').childFrames
      = { s.childFrames with subs := s.childFrames.subs.put p sub'.childFrame } := by
  unfold childFrames setSubsurface ChildTable.put
  dsimp only
  rw [Store.project_set _ (Store.live_of_get hp), Store.next_set]

theorem childFrames_setPopup (hp : s.popupObjects.get p = some popup) :
    (s.setPopup p popup').childFrames
      = { s.childFrames with popups := s.childFrames.popups.put p popup'.childFrame } := by
  unfold childFrames setPopup ChildTable.put
  dsimp only
  rw [Store.project_set _ (Store.live_of_get hp), Store.next_set]

/-- A popup changed in what is not sent. -/
theorem childFrames_setPopup_same (hp : s.popupObjects.get p = some popup)
    (hsame : popup'.childFrame = popup.childFrame) :
    (s.setPopup p popup').childFrames = s.childFrames := by
  rw [childFrames_setPopup hp, hsame, ChildTable.put_self (popup_childFrame hp)]

theorem childFrames_if_call (s : Instance) (b : Bool) (c : TextureCall) :
    (if b then s.call c else s).childFrames = s.childFrames := by
  cases b <;> rfl

/-! ## §2. Outputs and toplevels. -/

theorem fwrServerNewOutput_children {wlrOutput : WlrOutput} {committed : Bool}
    (h : s.fwrServerNewOutput wlrOutput committed = .ok s') : s'.childFrames = s.childFrames := by
  rw [fwrServerNewOutput] at h
  dsimp only at h
  split at h
  · obtain ⟨best, -, rfl⟩ := fwrSelectHighestRefreshOutput_ok h
    rfl
  · cases h
    rfl

theorem outputDestroy_children (h : s.outputDestroy p = .ok s') :
    s'.childFrames = s.childFrames := by
  rw [outputDestroy, except_bind_eq_ok] at h
  obtain ⟨output, -, h⟩ := h
  dsimp only at h
  split at h
  · obtain ⟨best, -, rfl⟩ := fwrSelectHighestRefreshOutput_ok h
    rfl
  · cases h
    rfl

theorem outputCommitState_children {refresh : Option Int} {scale : Rat}
    (h : s.outputCommitState p refresh scale = .ok s') : s'.childFrames = s.childFrames := by
  rw [outputCommitState, except_bind_eq_ok] at h
  obtain ⟨output, -, h⟩ := h
  cases h
  rfl

theorem fwrSetVsyncOutput_children {outputId : UInt32}
    (h : s.fwrSetVsyncOutput outputId = .ok s') : s'.childFrames = s.childFrames := by
  obtain ⟨best, -, rfl⟩ := fwrSetVsyncOutput_ok h
  rfl

theorem xdgToplevelMap_children {geo : WlrBox}
    (h : s.xdgToplevelMap p geo layout registered = .ok s') : s'.childFrames = s.childFrames := by
  simp only [xdgToplevelMap, except_bind_eq_ok] at h
  obtain ⟨view, -, output, -, scale, -, h⟩ := h
  cases h
  rfl

theorem xdgToplevelUnmap_children (h : s.xdgToplevelUnmap p = .ok s') :
    s'.childFrames = s.childFrames := by
  rw [xdgToplevelUnmap, except_bind_eq_ok] at h
  obtain ⟨view, -, h⟩ := h
  cases h
  rfl

theorem xdgToplevelCommit_children {geo : WlrBox} (h : s.xdgToplevelCommit p geo = .ok s') :
    s'.childFrames = s.childFrames := by
  rw [xdgToplevelCommit, except_bind_eq_ok] at h
  obtain ⟨view, -, h⟩ := h
  cases h
  rw [childFrames_if_call]
  rfl

theorem xdgToplevelDestroy_children (h : s.xdgToplevelDestroy p = .ok s') :
    s'.childFrames = s.childFrames := by
  rw [xdgToplevelDestroy, except_bind_eq_ok] at h
  obtain ⟨view, -, h⟩ := h
  cases h
  split <;> rfl

/-- The output that the children of a moved window get is no part of their frames. -/
theorem moveToOutput_children {view : FwrView} {newOutput : Option Ptr}
    (h : s.moveToOutput p view newOutput = .ok s') : s'.childFrames = s.childFrames := by
  rw [moveToOutput] at h
  split at h
  · simp only [except_bind_eq_ok] at h
    obtain ⟨scale, -, subs, hsubs, popups, hpopups, h⟩ := h
    cases h
    obtain ⟨hnext, hget⟩ := Store.modifyAll_map (g := FwrSubsurface.childFrame)
      (fun _ => by rfl) (updateAll_ok hsubs)
    obtain ⟨hnext', hget'⟩ := Store.modifyAll_map (g := FwrPopup.childFrame)
      (fun popup => by unfold popupOutput; split <;> rfl) (updateAll_ok hpopups)
    show ChildFrames.mk ⟨subs.next, fun q => (subs.get q).map _, _⟩
      ⟨popups.next, fun q => (popups.get q).map _, _⟩ = _
    rw [hnext, hnext', funext hget, funext hget']
    rfl
  · cases h
    rfl

theorem fwrHandleSurfaceSetPosition_children {surfaceHandle : UInt32} {x y : Int}
    (h : s.fwrHandleSurfaceSetPosition surfaceHandle x y layout = .ok s') :
    s'.childFrames = s.childFrames := by
  rw [fwrHandleSurfaceSetPosition] at h
  split at h
  · cases h
    rfl
  · simp only [except_bind_eq_ok] at h
    obtain ⟨view, -, newOutput, -, h⟩ := h
    exact moveToOutput_children h

/-! ## §3. Subsurfaces. -/

theorem handleNewSubsurface_children (h : s.handleNewSubsurface p = .ok s') :
    s'.childFrames
      = { s.childFrames with subs := s.childFrames.subs.create p ⟨0, 0, 0, 0⟩ } := by
  rw [handleNewSubsurface, except_bind_eq_ok] at h
  obtain ⟨view, -, h⟩ := h
  cases h
  unfold childFrames ChildTable.create
  dsimp only
  rw [Store.project_alloc]
  rfl

theorem subsurfaceHandleMap_children {box : WlrBox}
    (h : s.subsurfaceHandleMap p box registered = .ok s') :
    ∃ f, s.childFrames.subs.frames p = some f ∧
      s'.childFrames = { s.childFrames with
        subs := s.childFrames.subs.put p (f.subsurfaceMapped box registered) } := by
  simp only [subsurfaceHandleMap, except_bind_eq_ok] at h
  obtain ⟨sub, hsub, view, -, h⟩ := h
  cases h
  exact ⟨sub.childFrame, sub_childFrame (subsurface_ok hsub),
    childFrames_setSubsurface (subsurface_ok hsub)⟩

theorem subsurfaceHandleUnmap_children (h : s.subsurfaceHandleUnmap p = .ok s') :
    ∃ f, s.childFrames.subs.frames p = some f ∧ s'.childFrames = s.childFrames := by
  simp only [subsurfaceHandleUnmap, except_bind_eq_ok] at h
  obtain ⟨sub, hsub, view, -, h⟩ := h
  cases h
  exact ⟨sub.childFrame, sub_childFrame (subsurface_ok hsub), rfl⟩

theorem subsurfaceHandleCommit_children {box : WlrBox}
    (h : s.subsurfaceHandleCommit p box = .ok s') :
    ∃ f, s.childFrames.subs.frames p = some f ∧
      s'.childFrames
        = { s.childFrames with subs := s.childFrames.subs.put p (f.inBox box) } := by
  simp only [subsurfaceHandleCommit, except_bind_eq_ok] at h
  obtain ⟨sub, hsub, view, -, h⟩ := h
  cases h
  refine ⟨sub.childFrame, sub_childFrame (subsurface_ok hsub), ?_⟩
  rw [childFrames_if_call]
  exact childFrames_setSubsurface (subsurface_ok hsub)

theorem subsurfaceHandleDestroy_children (h : s.subsurfaceHandleDestroy p = .ok s') :
    ∃ f, s.childFrames.subs.frames p = some f ∧
      s'.childFrames = { s.childFrames with subs := s.childFrames.subs.remove p } := by
  simp only [subsurfaceHandleDestroy, except_bind_eq_ok] at h
  obtain ⟨sub, hsub, view, -, h⟩ := h
  cases h
  refine ⟨sub.childFrame, sub_childFrame (subsurface_ok hsub), ?_⟩
  unfold childFrames ChildTable.remove HandleMap.remove
  split
  all_goals
    dsimp only [setView, call]
    rw [Store.project_free]
    split <;> rfl

/-! ## §4. Popups. -/

theorem sendPopupMap_children (hp : s.popupObjects.get p = some popup)
    (h : s.sendPopupMap p popup surf = .ok s') :
    s'.childFrames = { s.childFrames with
      popups := s.childFrames.popups.put p (popup.childFrame.inBox surf.mapBox) } := by
  rw [sendPopupMap, except_bind_eq_ok] at h
  obtain ⟨-, -, h⟩ := h
  cases h
  exact childFrames_setPopup hp

theorem registerPopup_children (hp : s.popupObjects.get p = some popup)
    (hnone : popup.textureRegistered = false) (registered : Bool) :
    (s.registerPopup p popup registered).1.childFrame = popup.childFrame.withTexture registered ∧
      (s.registerPopup p popup registered).2.childFrames = { s.childFrames with
        popups := s.childFrames.popups.put p (popup.childFrame.withTexture registered) } := by
  have hframe : (s.registerPopup p popup registered).1.childFrame
      = popup.childFrame.withTexture registered := by
    unfold ChildFrame.withTexture
    rw [if_neg (by rw [show popup.childFrame.textureRegistered = false from hnone]; decide)]
    rfl
  refine ⟨hframe, ?_⟩
  rw [← hframe]
  exact childFrames_setPopup hp

theorem withTexture_registered {f : ChildFrame UInt32} (hf : f.textureRegistered = true) :
    f.withTexture registered = f := if_pos hf

theorem popupHandleMap_children (hp : s.popupObjects.get p = some popup)
    (h : s.popupHandleMap p surf registered = .ok s') :
    s'.childFrames = { s.childFrames with
      popups := s.childFrames.popups.put p
        ((popup.childFrame.withTexture registered).inBox surf.mapBox) } := by
  rw [popupHandleMap, except_bind_eq_ok] at h
  obtain ⟨popup', hpopup, h⟩ := h
  obtain rfl : popup' = popup := Option.some.inj ((popup_ok hpopup).symm.trans hp)
  split at h
  next hregistered =>
    rw [sendPopupMap_children hp h, withTexture_registered hregistered]
  next hnone =>
    obtain ⟨hframe, hchildren⟩ :=
      registerPopup_children hp (Bool.eq_false_iff.mpr hnone) registered
    have hp' := (registerPopup_updates hp registered).2
    rw [sendPopupMap_children hp' h, hframe, hchildren]
    dsimp only
    rw [ChildTable.put_put]

theorem popupHandleUnmap_children (h : s.popupHandleUnmap p = .ok s') :
    ∃ f, s.childFrames.popups.frames p = some f ∧
      s'.childFrames = { s.childFrames with
        popups := s.childFrames.popups.put p { f with textureRegistered := false } } := by
  rw [popupHandleUnmap, except_bind_eq_ok] at h
  obtain ⟨popup, hpopup, h⟩ := h
  have hp := popup_ok hpopup
  cases h
  refine ⟨popup.childFrame, popup_childFrame hp, ?_⟩
  split
  next => exact childFrames_setPopup hp
  next hnone =>
    have hsame : { popup.childFrame with textureRegistered := false } = popup.childFrame := by
      rw [show false = popup.childFrame.textureRegistered from (Bool.eq_false_iff.mpr hnone).symm]
    rw [hsame, ChildTable.put_self (popup_childFrame hp)]

theorem popupHandleDestroy_children (h : s.popupHandleDestroy p = .ok s') :
    ∃ f, s.childFrames.popups.frames p = some f ∧
      s'.childFrames = { s.childFrames with popups := s.childFrames.popups.remove p } := by
  rw [popupHandleDestroy, except_bind_eq_ok] at h
  obtain ⟨popup, hpopup, h⟩ := h
  cases h
  refine ⟨popup.childFrame, popup_childFrame (popup_ok hpopup), ?_⟩
  unfold childFrames ChildTable.remove HandleMap.remove
  split
  all_goals
    dsimp only [call]
    rw [Store.project_free]
    split <;> rfl

theorem popupHandleReposition_children (h : s.popupHandleReposition p surf = .ok s') :
    ∃ f, s.childFrames.popups.frames p = some f ∧
      s'.childFrames = { s.childFrames with
        popups := s.childFrames.popups.put p
          (f.inBox (if surf.mapped then surf.mapBox else surf.scheduled)) } := by
  rw [popupHandleReposition, except_bind_eq_ok] at h
  obtain ⟨popup, hpopup, h⟩ := h
  have hp := popup_ok hpopup
  refine ⟨popup.childFrame, popup_childFrame hp, ?_⟩
  have hset : (s.setPopup p (popup.place surf.scheduled)).childFrames = _ := childFrames_setPopup hp
  dsimp only at h
  split at h
  next hmapped =>
    rw [if_pos hmapped, sendPopupMap_children (get_setPopup hp) h, hset]
    dsimp only
    rw [ChildTable.put_put]
    rfl
  next hmapped =>
    cases h
    rw [if_neg hmapped, hset]
    rfl

/-- The output of the parent has nothing to do with the children. -/
theorem parentOutput_children {parentView : Ptr} {parent : FwrView} {output : Option Ptr}
    (h : s.parentOutput parentView parent layout = .ok (output, s')) :
    s'.childFrames = s.childFrames ∧ s'.popupObjects = s.popupObjects := by
  rw [parentOutput] at h
  split at h
  · cases h
    exact ⟨rfl, rfl⟩
  · rw [except_bind_eq_ok] at h
    obtain ⟨found, -, h⟩ := h
    split at h
    · rw [except_bind_eq_ok] at h
      obtain ⟨scale, -, h⟩ := h
      cases h
      exact ⟨rfl, rfl⟩
    · cases h
      exact ⟨rfl, rfl⟩

theorem popupFirstCommit_children (hp : s.popupObjects.get p = some popup)
    (h : s.popupFirstCommit p popup layout = .ok (popup', s')) :
    s'.childFrames = s.childFrames ∧ s'.popupObjects.get p = some popup' ∧
      popup'.childFrame = popup.childFrame := by
  rw [popupFirstCommit] at h
  split at h
  · cases h
    exact ⟨rfl, hp, rfl⟩
  · rw [popupUnconstrain, except_bind_eq_ok] at h
    obtain ⟨parent, -, h⟩ := h
    rw [except_bind_eq_ok] at h
    obtain ⟨⟨output, s₁⟩, houtput, h⟩ := h
    obtain ⟨hsame, hpopups⟩ := parentOutput_children houtput
    have hp₁ : s₁.popupObjects.get p = some popup := by rw [hpopups, hp]
    dsimp only at h
    split at h
    · rw [except_bind_eq_ok] at h
      obtain ⟨scale, -, h⟩ := h
      cases h
      exact ⟨(childFrames_setPopup_same hp₁ (by rfl)).trans hsame, get_setPopup hp₁, rfl⟩
    · cases h
      exact ⟨(childFrames_setPopup_same hp₁ (by rfl)).trans hsame, get_setPopup hp₁, rfl⟩

/-- Of a popup that has just been sent the size is that of the content. -/
theorem not_resized_mapBox (f : ChildFrame UInt32) (surf : PopupSurface) :
    ¬ (f.inBox surf.mapBox).Resized surf := by
  rintro ⟨hwidth, hheight, hne⟩
  have hbox : surf.mapBox.width = surf.content.1 ∧ surf.mapBox.height = surf.content.2 := by
    unfold PopupSurface.mapBox
    dsimp only
    rw [if_neg (by omega)]
    exact ⟨rfl, rfl⟩
  rcases hne with hne | hne
  · exact hne hbox.1.symm
  · exact hne hbox.2.symm

theorem popupFrame_children (hp : s.popupObjects.get p = some popup)
    (h : s.popupFrame p popup surf = .ok s') :
    s'.childFrames = { s.childFrames with
      popups := s.childFrames.popups.put p
        (if popup.textureRegistered = true ∧ popup.childFrame.Resized surf
          then popup.childFrame.inBox surf.mapBox else popup.childFrame) } := by
  rw [popupFrame] at h
  split at h
  next hregistered =>
    rw [except_bind_eq_ok] at h
    obtain ⟨s₁, hresize, h⟩ := h
    cases h
    rw [popupResize] at hresize
    show s₁.childFrames = _
    split at hresize
    next hsize => rw [if_pos ⟨hregistered, hsize⟩, sendPopupMap_children hp hresize]
    next hsize =>
      cases hresize
      rw [if_neg fun h => hsize h.2, ChildTable.put_self (popup_childFrame hp)]
  next hnone =>
    cases h
    rw [if_neg fun h => hnone h.1, ChildTable.put_self (popup_childFrame hp)]

theorem popupHandleCommit_children (h : s.popupHandleCommit p surf layout registered = .ok s') :
    ∃ f, s.childFrames.popups.frames p = some f ∧
      s'.childFrames = { s.childFrames with
        popups := s.childFrames.popups.put p (f.committed surf registered) } := by
  rw [popupHandleCommit, except_bind_eq_ok] at h
  obtain ⟨popup, hpopup, h⟩ := h
  have hp := popup_ok hpopup
  rw [except_bind_eq_ok] at h
  obtain ⟨⟨popup₁, s₁⟩, hfirst, h⟩ := h
  obtain ⟨hsame, hp₁, hframe⟩ := popupFirstCommit_children hp hfirst
  refine ⟨popup.childFrame, popup_childFrame hp, ?_⟩
  have hregistered : popup₁.textureRegistered = popup.childFrame.textureRegistered :=
    congrArg ChildFrame.textureRegistered hframe
  rw [← hsame, ← hframe]
  rw [← hframe] at hregistered
  unfold ChildFrame.committed
  dsimp only at h ⊢
  split at h
  next hmapped =>
    rw [if_pos hmapped]
    rw [except_bind_eq_ok] at h
    obtain ⟨⟨popup₂, s₂⟩, hensure, h⟩ := h
    rw [popupEnsureTexture] at hensure
    split at hensure
    next htexture =>
      -- a popup that has its texture is sent when its content has another size
      cases hensure
      rw [popupFrame_children hp₁ h, withTexture_registered htexture]
      have hresent : popup₁.childFrame.Resent surf registered ↔
          popup₁.textureRegistered = true ∧ popup₁.childFrame.Resized surf := by
        have htexture' : popup₁.childFrame.textureRegistered = true := htexture
        unfold ChildFrame.Resent
        rw [if_pos htexture']
        exact and_congr (iff_of_true hmapped htexture) Iff.rfl
      simp only [hresent]
    next htexture =>
      have hnone : popup₁.textureRegistered = false := Bool.eq_false_iff.mpr htexture
      have hresent : popup₁.childFrame.Resent surf registered ↔ registered = true := by
        have htexture' : ¬ popup₁.childFrame.textureRegistered = true := htexture
        unfold ChildFrame.Resent
        rw [if_neg htexture']
        exact and_iff_right hmapped
      obtain ⟨hframe₂, hchildren⟩ := registerPopup_children hp₁ hnone registered
      have hp₂ := (registerPopup_updates hp₁ registered).2
      dsimp only at hensure
      split at hensure
      next hok =>
        -- a popup that gets it now is sent at once, and not again
        rw [except_bind_eq_ok] at hensure
        obtain ⟨s₃, hsend, hensure⟩ := hensure
        cases hensure
        have hp₃ := (sendPopupMap_updates hp₂ hsend).2
        have hbox : ((s₁.registerPopup p popup₁ registered).1.place surf.mapBox).childFrame
            = (popup₁.childFrame.withTexture registered).inBox surf.mapBox := by
          rw [← hframe₂]
          rfl
        rw [popupFrame_children hp₃ h, hbox, if_neg fun h => not_resized_mapBox _ surf h.2,
          sendPopupMap_children hp₂ hsend, hframe₂, hchildren]
        rw [if_pos (hresent.mpr hok)]
        dsimp only
        rw [ChildTable.put_put, ChildTable.put_put]
      next hfailed =>
        cases hensure
        have hno : registered = false := Bool.eq_false_iff.mpr hfailed
        have hunregistered : (s₁.registerPopup p popup₁ registered).1.textureRegistered = false :=
          hno
        rw [popupFrame_children hp₂ h, hframe₂, hchildren, if_neg (by rw [hunregistered]; simp)]
        rw [if_neg fun h => hfailed (hresent.mp h)]
        dsimp only
        rw [ChildTable.put_put]
  next hmapped =>
    cases h
    rw [if_neg hmapped, if_neg fun h => hmapped h.1,
      ChildTable.put_self (popup_childFrame hp₁)]

theorem fwrNewXdgPopup_children {parentXdg : Option Nat}
    (h : s.fwrNewXdgPopup parentXdg surf registered = .ok s') :
    ChildEffect s.childFrames (.newPopup parentXdg surf registered) s'.childFrames := by
  cases parentXdg with
  | none =>
      cases h
      exact .noPopup
  | some parentXdg =>
      simp only [fwrNewXdgPopup] at h
      rw [except_bind_eq_ok] at h
      obtain ⟨found, -, h⟩ := h
      split at h
      next =>
        cases h
        exact .noPopup
      next parentView =>
        rw [except_bind_eq_ok] at h
        obtain ⟨parent, -, h⟩ := h
        rw [except_bind_eq_ok] at h
        obtain ⟨-, -, h⟩ := h
        generalize hcreated : (Instance.mk ..) = created at h
        have hchildren : created.childFrames = { s.childFrames with
            popups := s.childFrames.popups.create parent.handle surf.scheduled } := by
          rw [← hcreated]
          unfold childFrames ChildTable.create
          dsimp only
          rw [Store.project_alloc]
          rfl
        split at h
        next hmapped =>
          obtain ⟨popup, hp, hframe⟩ : ∃ popup,
              created.popupObjects.get s.popupObjects.next = some popup ∧
                popup.childFrame = ⟨s.popups.next, parent.handle, 0, false, surf.scheduled⟩ := by
            rw [← hcreated]
            exact ⟨_, Store.get_alloc_next _ _, rfl⟩
          rw [popupHandleMap_children hp h, hchildren, hframe]
          exact .newPopupMapped parent.handle hmapped
        next hmapped =>
          cases h
          rw [hchildren]
          exact .newPopup parent.handle (Bool.eq_false_iff.mpr hmapped)

/-! ## §5. All events. -/

theorem childEffect_of_eq {e : Event} {t : ChildFrames} (heq : s'.childFrames = t)
    (h : ChildEffect s.childFrames e t) : ChildEffect s.childFrames e s'.childFrames := by
  rw [heq]
  exact h

theorem childEffect_same {e : Event} (heq : s'.childFrames = s.childFrames)
    (hother : e.isChild = false) : ChildEffect s.childFrames e s'.childFrames :=
  childEffect_of_eq heq (.other hother)

/-- **What a handler does to the children.** -/
theorem handle_childEffect {e : Event} (h : s.handle e = .ok s') :
    ChildEffect s.childFrames e s'.childFrames := by
  cases e with
  | newOutput wlrOutput committed => exact childEffect_same (fwrServerNewOutput_children h) rfl
  | outputDestroy p => exact childEffect_same (outputDestroy_children h) rfl
  | outputCommitState p refresh scale =>
      exact childEffect_same (outputCommitState_children h) rfl
  | setVsyncOutput outputId => exact childEffect_same (fwrSetVsyncOutput_children h) rfl
  | newToplevel xdgSurface =>
      cases h
      exact childEffect_same rfl rfl
  | toplevelMap p geo layout registered => exact childEffect_same (xdgToplevelMap_children h) rfl
  | toplevelUnmap p => exact childEffect_same (xdgToplevelUnmap_children h) rfl
  | toplevelCommit p geo => exact childEffect_same (xdgToplevelCommit_children h) rfl
  | toplevelDestroy p => exact childEffect_same (xdgToplevelDestroy_children h) rfl
  | setPosition handle x y layout =>
      exact childEffect_same (fwrHandleSurfaceSetPosition_children h) rfl
  | newSubsurface p => exact childEffect_of_eq (handleNewSubsurface_children h) (.newSubsurface p)
  | subsurfaceMap p box registered =>
      obtain ⟨f, hf, heq⟩ := subsurfaceHandleMap_children h
      exact childEffect_of_eq heq (.subsurfaceMap hf)
  | subsurfaceUnmap p =>
      obtain ⟨f, hf, heq⟩ := subsurfaceHandleUnmap_children h
      exact childEffect_of_eq heq (.subsurfaceUnmap hf)
  | subsurfaceCommit p box =>
      obtain ⟨f, hf, heq⟩ := subsurfaceHandleCommit_children h
      exact childEffect_of_eq heq (.subsurfaceCommit hf)
  | subsurfaceDestroy p =>
      obtain ⟨f, hf, heq⟩ := subsurfaceHandleDestroy_children h
      exact childEffect_of_eq heq (.subsurfaceDestroy hf)
  | newPopup parentXdg surf registered => exact fwrNewXdgPopup_children h
  | popupMap p surf registered =>
      have hpopup : ∃ popup, s.popupObjects.get p = some popup := by
        have h' := h
        rw [handle, popupHandleMap, except_bind_eq_ok] at h'
        obtain ⟨popup, hpopup, -⟩ := h'
        exact ⟨popup, popup_ok hpopup⟩
      obtain ⟨popup, hp⟩ := hpopup
      exact childEffect_of_eq (popupHandleMap_children hp h) (.popupMap (popup_childFrame hp))
  | popupUnmap p =>
      obtain ⟨f, hf, heq⟩ := popupHandleUnmap_children h
      exact childEffect_of_eq heq (.popupUnmap hf)
  | popupCommit p surf layout registered =>
      obtain ⟨f, hf, heq⟩ := popupHandleCommit_children h
      exact childEffect_of_eq heq (.popupCommit hf)
  | popupReposition p surf =>
      obtain ⟨f, hf, heq⟩ := popupHandleReposition_children h
      exact childEffect_of_eq heq (.popupReposition hf)
  | popupDestroy p =>
      obtain ⟨f, hf, heq⟩ := popupHandleDestroy_children h
      exact childEffect_of_eq heq (.popupDestroy hf)
  | newSurface | surfaceDestroy p | activateSystemCursor xcursorName =>
      cases h
      exact childEffect_same rfl rfl
  | requestCursor focused surface x y =>
      cases h
      refine childEffect_same ?_ rfl
      unfold onSeatRequestCursor
      split <;> rfl

end Instance

end FlutterWlroots.Compositor
