/-
  FlutterWlroots.Desktop.ChildSurfaces — subsurfaces and popups on both sides of the channel
  (surface.c, compositor_dart.dart).

  The compositor sends a message when a subsurface or a popup is mapped or unmapped, or has another
  box.  Dart keeps a table of subsurfaces and one of popups, and in each `Surface` a list of its
  subsurfaces, which are the objects of the table.  A subsurface goes to the list of its parent if
  the parent has a surface when it is mapped; a parent whose map could not be decoded has none.

    • `DartCompositor.receive` — the handlers of Dart,
    • `Instance.announced`     — the messages of an event,
    • `childLink`              — both sides with the FIFO channel between them,
    • `watchedChildren`        — its runs, watched; `ChildTurn` says that clients keep to the protocol.
-/
import FlutterWlroots.Compositor.ChildFrames
import FlutterWlroots.Desktop.Shell
import FlutterWlroots.Lib.Watch

namespace FlutterWlroots.Desktop

open Lib Lib.StateRun FlutterWlroots.Compositor

/-! ## §1. The Dart side. -/

/-- `Subsurface`; the box has its `x`, `y`, `width` and `height`. -/
structure Subsurface where
  handle : UInt32
  textureId : Int
  parentHandle : UInt32
  box : WlrBox
deriving DecidableEq, Repr

/-- `Popup`. -/
structure Popup where
  handle : UInt32
  textureId : Int
  parentHandle : UInt32
  box : WlrBox
  outputId : UInt32
  outputScale : Rat
deriving DecidableEq, Repr

/-- The texts that are sent of a toplevel. -/
structure ToplevelTexts where
  title : String
  appId : String
deriving DecidableEq, Repr

/-- Without texts, empty ones are sent. -/
def ToplevelTexts.none : ToplevelTexts := ⟨"", ""⟩

/-- The message they are in can be decoded. -/
def ToplevelTexts.fit (texts : ToplevelTexts) : Bool :=
  fitsMessage texts.title && fitsMessage texts.appId

/-- A message on the channel "wlroots".  Of the surfaces of toplevels only the handles matter, and
    whether the message can be decoded. -/
inductive ChildMessage where
  | surfaceMap (handle : UInt32) (texts : ToplevelTexts)
  | surfaceUnmap (handle : UInt32)
  | subsurfaceMap (subsurface : Subsurface)
  | subsurfaceUnmap (handle : UInt32)
  | subsurfacePosition (handle : UInt32) (box : WlrBox)
  | popupMap (popup : Popup)
  | popupUnmap (handle : UInt32)
deriving DecidableEq, Repr

/-- `Compositor`: its `Subsurface` objects, its tables of them and of popups, and the list
    `subsurfaces` of each of its surfaces. -/
structure DartCompositor where
  objects : Store Subsurface
  subsurfaces : UInt32 → Option Nat
  popups : UInt32 → Option Popup
  surfaces : UInt32 → Option (List Nat)

namespace DartCompositor

def new : DartCompositor := ⟨.empty, fun _ => none, fun _ => none, fun _ => none⟩

variable (d : DartCompositor)

/-- The object under a handle. -/
def subsurface (handle : UInt32) : Option Subsurface := (d.subsurfaces handle).bind d.objects.get

/-- The list of a surface changed, if there is the surface. -/
def modifyList (handle : UInt32) (f : List Nat → List Nat) : DartCompositor :=
  { d with surfaces := Function.update d.surfaces handle ((d.surfaces handle).map f) }

/-- The handler of "subsurface_map". -/
def mapSubsurface (subsurface : Subsurface) : DartCompositor :=
  let added := { d with
    objects := d.objects.alloc subsurface
    subsurfaces := Function.update d.subsurfaces subsurface.handle (some d.objects.next) }
  added.modifyList subsurface.parentHandle (· ++ [d.objects.next])

/-- The objects of a list that are not under the handle. -/
def without (handle : UInt32) (ids : List Nat) : List Nat :=
  ids.filter fun id => (d.objects.get id).all fun subsurface => subsurface.handle ≠ handle

/-- The handler of "subsurface_unmap". -/
def unmapSubsurface (handle : UInt32) : DartCompositor :=
  match d.subsurface handle with
  | none => d
  | some subsurface =>
      let removed := { d with subsurfaces := Function.update d.subsurfaces handle none }
      removed.modifyList subsurface.parentHandle (d.without handle)

/-- The handler of "subsurface_position". -/
def positionSubsurface (handle : UInt32) (box : WlrBox) : DartCompositor :=
  match d.subsurfaces handle with
  | none => d
  | some id =>
      match d.objects.get id with
      | none => d
      | some subsurface => { d with objects := d.objects.set id { subsurface with box := box } }

/-- The handlers of `Compositor()`. -/
def receive (d : DartCompositor) : ChildMessage → DartCompositor
  | .surfaceMap handle texts =>
      if texts.fit then { d with surfaces := Function.update d.surfaces handle (some []) } else d
  | .surfaceUnmap handle => { d with surfaces := Function.update d.surfaces handle none }
  | .subsurfaceMap subsurface => d.mapSubsurface subsurface
  | .subsurfaceUnmap handle => d.unmapSubsurface handle
  | .subsurfacePosition handle box => d.positionSubsurface handle box
  | .popupMap popup => { d with popups := Function.update d.popups popup.handle (some popup) }
  | .popupUnmap handle => { d with popups := Function.update d.popups handle none }

end DartCompositor

end FlutterWlroots.Desktop

/-! ## §2. The messages. -/

namespace FlutterWlroots.Compositor.Instance

open Lib FlutterWlroots.Desktop

variable (s : Instance)

/-- `send_subsurface_map`. -/
def sendSubsurfaceMap (p : Ptr) : Except Fault (List ChildMessage) := do
  let sub ← s.subsurface p
  let view ← s.view sub.parentView
  .ok [.subsurfaceMap
    ⟨sub.handle, sub.textureId, view.handle, ⟨sub.x, sub.y, sub.width, sub.height⟩⟩]

/-- `send_subsurface_unmap`. -/
def sendSubsurfaceUnmap (p : Ptr) : Except Fault (List ChildMessage) := do
  let sub ← s.subsurface p
  let _ ← s.view sub.parentView
  .ok [.subsurfaceUnmap sub.handle]

/-- `send_subsurface_position`. -/
def sendSubsurfacePosition (p : Ptr) : Except Fault (List ChildMessage) := do
  let sub ← s.subsurface p
  let _ ← s.view sub.parentView
  .ok [.subsurfacePosition sub.handle ⟨sub.x, sub.y, sub.width, sub.height⟩]

/-- The id of an output that is sent, 0 if there is none. -/
def outputIdOf : Option Ptr → Except Fault UInt32
  | none => .ok 0
  | some p => do
      let output ← s.output p
      .ok output.id

/-- The message of `send_popup_map`. -/
def popupMessage (p : Ptr) : Except Fault (List ChildMessage) := do
  let popup ← s.popup p
  let outputId ← s.outputIdOf popup.currentOutput
  .ok [.popupMap
    { handle := popup.handle, textureId := popup.textureId, parentHandle := popup.parentViewHandle
      box := ⟨popup.x, popup.y, popup.width, popup.height⟩, outputId := outputId
      outputScale := popup.outputScale }]

/-- What the handler of an event sends, which has taken the instance from `s` to `s'`. -/
def announced (s' : Instance) (texts : Ptr → ToplevelTexts) :
    Event → Except Fault (List ChildMessage)
  | .toplevelMap p .. => do
      let view ← s'.view p
      .ok [.surfaceMap view.handle (texts p)]
  | .toplevelUnmap p => do
      let view ← s'.view p
      .ok [.surfaceUnmap view.handle]
  | .subsurfaceMap p .. => s'.sendSubsurfaceMap p
  | .subsurfaceUnmap p => s'.sendSubsurfaceUnmap p
  | .subsurfaceCommit p box => do
      let sub ← s.subsurface p
      if sub.childFrame.box ≠ box then s'.sendSubsurfacePosition p else .ok []
  | .newPopup _ surf _ =>
      if s'.popupObjects.next ≠ s.popupObjects.next ∧ surf.mapped then
        s'.popupMessage s.popupObjects.next
      else .ok []
  | .popupMap p .. => s'.popupMessage p
  | .popupUnmap p => do
      let popup ← s.popup p
      .ok [.popupUnmap popup.handle]
  | .popupCommit p surf _ registered => do
      let popup ← s.popup p
      if popup.childFrame.Resent surf registered then s'.popupMessage p else .ok []
  | .popupReposition p surf => if surf.mapped then s'.popupMessage p else .ok []
  | _ => .ok []

end FlutterWlroots.Compositor.Instance

/-! ## §3. Both sides. -/

namespace FlutterWlroots.Desktop

open Lib Lib.StateRun FlutterWlroots.Compositor

structure ChildLink where
  compositor : Instance
  texts : Ptr → ToplevelTexts
  channel : Channel ChildMessage DartCompositor

inductive ChildEvent where
  | compositor (e : Event)
  /-- A client sets the title or the app id of a toplevel. -/
  | setTexts (view : Ptr) (texts : ToplevelTexts)
  /-- The oldest message reaches Dart. -/
  | deliver

namespace ChildLink

def init : ChildLink := ⟨.init, fun _ => .none, ⟨[], .new⟩⟩

/-- Messages sent. -/
def sendAll (ch : Channel ChildMessage DartCompositor) (ms : List ChildMessage) :
    Channel ChildMessage DartCompositor := ms.foldl Channel.send ch

variable (s : ChildLink)

/-- What Dart will have when all messages are delivered. -/
def settled : DartCompositor := s.channel.settled DartCompositor.receive

/-- A compositor event with its messages. -/
def handle (e : Event) : Except Fault ChildLink := do
  let compositor ← s.compositor.handle e
  let ms ← s.compositor.announced compositor s.texts e
  .ok ⟨compositor, s.texts, sendAll s.channel ms⟩

def step (s : ChildLink) : ChildEvent → Option ChildLink
  | .compositor e => if s.compositor.Deliverable e then (s.handle e).toOption else none
  | .setTexts p texts =>
      if s.compositor.viewObjects.Live p then
        some { s with texts := Function.update s.texts p texts }
      else none
  | .deliver => (s.channel.deliver DartCompositor.receive).map fun ch => { s with channel := ch }

end ChildLink

def childLink : Machine ChildLink ChildEvent where
  init := .init
  step := ChildLink.step

/-- What clients have mapped.  The `children` of a view are the subsurfaces that were mapped since
    the view was mapped last and still are, the oldest first.  The box of a popup is that of its
    surface at its last event. -/
structure ChildNote where
  shown : Ptr → Bool
  mapped : Ptr → Bool
  popupMapped : Ptr → Bool
  popupBox : Ptr → WlrBox
  children : Ptr → List Ptr

namespace ChildNote

def start : ChildNote where
  shown := fun _ => false
  mapped := fun _ => false
  popupMapped := fun _ => false
  popupBox := fun _ => ⟨0, 0, 0, 0⟩
  children := fun _ => []

/-- A change of the children of the parent of a subsurface. -/
def ofParent (note : ChildNote) (s : Instance) (p : Ptr) (f : List Ptr → List Ptr) : ChildNote :=
  match s.subsurfaceObjects.get p with
  | some sub =>
      { note with
        children :=
          Function.update note.children sub.parentView (f (note.children sub.parentView)) }
  | none => note

def remark (s : ChildLink) (e : ChildEvent) (note : ChildNote) : ChildNote :=
  match e with
  | .compositor (.newToplevel _) =>
      { note with shown := Function.update note.shown s.compositor.viewObjects.next false }
  | .compositor (.toplevelMap p ..) =>
      { note with
        shown := Function.update note.shown p true
        children := Function.update note.children p [] }
  | .compositor (.toplevelUnmap p) => { note with shown := Function.update note.shown p false }
  | .compositor (.newSubsurface _) =>
      { note with mapped := Function.update note.mapped s.compositor.subsurfaceObjects.next false }
  | .compositor (.subsurfaceMap p ..) =>
      { note with mapped := Function.update note.mapped p true }.ofParent s.compositor p (· ++ [p])
  | .compositor (.subsurfaceUnmap p) =>
      { note with mapped := Function.update note.mapped p false }.ofParent s.compositor p
        (·.filter (· ≠ p))
  | .compositor (.newPopup _ surf _) =>
      { note with
        popupMapped := Function.update note.popupMapped s.compositor.popupObjects.next surf.mapped
        popupBox := Function.update note.popupBox s.compositor.popupObjects.next surf.mapBox }
  | .compositor (.popupMap p surf _) =>
      { note with
        popupMapped := Function.update note.popupMapped p true
        popupBox := Function.update note.popupBox p surf.mapBox }
  | .compositor (.popupCommit p surf ..) =>
      { note with popupBox := Function.update note.popupBox p surf.mapBox }
  | .compositor (.popupReposition p surf) =>
      { note with popupBox := Function.update note.popupBox p surf.mapBox }
  | .compositor (.popupUnmap p) =>
      { note with popupMapped := Function.update note.popupMapped p false }
  | _ => note

end ChildNote

/-! ## §4. Contracts. -/

/-- Maps and unmaps alternate and nothing is destroyed while it is mapped; a toplevel is destroyed
    after the unmaps of its subsurfaces; a popup says of itself whether it is mapped.  And a handle
    that is given again has been free for `2^32` others. -/
def InTurn (s : Instance) (note : ChildNote) : Event → Prop
  | .newToplevel _ => s.viewObjects.Forall fun view => view.handle ≠ s.views.next
  | .toplevelMap p .. => note.shown p = false
  | .toplevelUnmap p => note.shown p = true
  | .toplevelDestroy p => note.shown p = false ∧
      s.subsurfaceObjects.ForallAt fun q sub => sub.parentView = p → note.mapped q = false
  | .newSubsurface _ => s.subsurfaceObjects.Forall fun sub => sub.handle ≠ s.subsurfaces.next
  | .subsurfaceMap p .. => note.mapped p = false
  | .subsurfaceUnmap p => note.mapped p = true
  | .subsurfaceDestroy p => note.mapped p = false
  | .newPopup .. => s.popupObjects.Forall fun popup => popup.handle ≠ s.popups.next
  | .popupMap p .. => note.popupMapped p = false
  | .popupUnmap p => note.popupMapped p = true
  | .popupCommit p surf .. => surf.mapped = note.popupMapped p
  | .popupReposition p surf => surf.mapped = note.popupMapped p
  | .popupDestroy p => note.popupMapped p = false
  | _ => True

instance (s : Instance) (note : ChildNote) : (e : Event) → Decidable (InTurn s note e)
  | .newToplevel .. | .newSubsurface .. | .newPopup .. => decidable_of_iff _ Store.forall_iff.symm
  | .toplevelDestroy p =>
      have : Decidable (s.subsurfaceObjects.ForallAt fun q sub =>
        sub.parentView = p → note.mapped q = false) := decidable_of_iff _ Store.forallAt_iff.symm
      inferInstanceAs (Decidable (_ ∧ _))
  | .toplevelMap .. | .toplevelUnmap .. | .subsurfaceMap .. | .subsurfaceUnmap ..
  | .subsurfaceDestroy .. | .popupMap .. | .popupUnmap .. | .popupCommit .. | .popupReposition ..
  | .popupDestroy .. => inferInstanceAs (Decidable (_ = _))
  | .newOutput .. | .outputDestroy .. | .outputCommitState .. | .setVsyncOutput ..
  | .toplevelCommit .. | .setPosition .. | .subsurfaceCommit .. | .newSurface
  | .surfaceDestroy .. | .requestCursor .. | .activateSystemCursor .. =>
      inferInstanceAs (Decidable True)

/-- The event keeps to the protocol. -/
def ChildTurn (w : Watched ChildLink ChildNote) : ChildEvent → Prop
  | .compositor e => InTurn w.state.compositor w.note e
  | .setTexts .. => True
  | .deliver => True

instance (w : Watched ChildLink ChildNote) : (e : ChildEvent) → Decidable (ChildTurn w e)
  | .compositor e => inferInstanceAs (Decidable (InTurn w.state.compositor w.note e))
  | .setTexts .. => inferInstanceAs (Decidable True)
  | .deliver => inferInstanceAs (Decidable True)

/-- The runs, with what a client has made of its surfaces noted. -/
def watchedChildren : Machine (Watched ChildLink ChildNote) ChildEvent :=
  childLink.watch .start ChildNote.remark

/-! ## §5. Steps. -/

section Steps

variable {s s' : ChildLink} {e : Event} {note note' : ChildNote}

/-- The messages act on what Dart will have. -/
theorem settled_sendAll (ch : Channel ChildMessage DartCompositor) (ms : List ChildMessage) :
    (ChildLink.sendAll ch ms).settled DartCompositor.receive
      = ms.foldl DartCompositor.receive (ch.settled DartCompositor.receive) := by
  induction ms generalizing ch with
  | nil => rfl
  | cons m ms ih =>
      show (ChildLink.sendAll (ch.send m) ms).settled _ = _
      rw [ih, Channel.settled_send]
      rfl

/-- **One event of the compositor**: its handler has run, and its messages are sent. -/
theorem compositor_facts (h : s.step (.compositor e) = some s') :
    s.compositor.handle e = .ok s'.compositor ∧
      ∃ ms, s.compositor.announced s'.compositor s.texts e = .ok ms ∧
        s'.settled = ms.foldl DartCompositor.receive s.settled := by
  obtain ⟨-, h⟩ := guarded_eq_some.mp h
  simp only [ChildLink.handle, except_bind_eq_ok] at h
  obtain ⟨compositor, hhandle, ms, hms, h⟩ := h
  cases h
  exact ⟨hhandle, ms, hms, settled_sendAll _ _⟩

theorem setTexts_facts {p : Ptr} {texts : ToplevelTexts}
    (h : s.step (.setTexts p texts) = some s') :
    s'.compositor = s.compositor ∧ s'.settled = s.settled := by
  rw [ChildLink.step] at h
  split at h
  next =>
    cases h
    exact ⟨rfl, rfl⟩
  next => cases h

theorem deliver_facts (h : s.step .deliver = some s') :
    s'.compositor = s.compositor ∧ s'.settled = s.settled := by
  obtain ⟨ch, hdeliver, rfl⟩ := Option.map_eq_some_iff.mp h
  exact ⟨rfl, Channel.settled_deliver hdeliver⟩

/-- The message is about a popup. -/
def ChildMessage.isPopup : ChildMessage → Bool
  | .popupMap _ => true
  | .popupUnmap _ => true
  | _ => false

/-- Messages about popups change the table of popups, the others what is left. -/
theorem receive_popups {d : DartCompositor} {ms : List ChildMessage}
    (h : ∀ m ∈ ms, m.isPopup = true) :
    ∃ popups, ms.foldl DartCompositor.receive d = { d with popups := popups } := by
  induction ms generalizing d with
  | nil => exact ⟨d.popups, rfl⟩
  | cons m ms ih =>
      obtain ⟨popups, hpopups⟩ := ih (d := d.receive m) fun m hm => h m (List.mem_cons_of_mem _ hm)
      refine ⟨popups, ?_⟩
      show ms.foldl DartCompositor.receive (d.receive m) = _
      rw [hpopups]
      have hm := h m List.mem_cons_self
      cases m with
      | popupMap | popupUnmap => rfl
      | surfaceMap | surfaceUnmap | subsurfaceMap | subsurfaceUnmap | subsurfacePosition => cases hm

theorem popups_receive {d : DartCompositor} {ms : List ChildMessage}
    (h : ∀ m ∈ ms, m.isPopup = false) : (ms.foldl DartCompositor.receive d).popups = d.popups := by
  induction ms generalizing d with
  | nil => rfl
  | cons m ms ih =>
      refine (ih (d := d.receive m) fun m hm => h m (List.mem_cons_of_mem _ hm)).trans ?_
      have hm := h m List.mem_cons_self
      cases m with
      | popupMap | popupUnmap => cases hm
      | surfaceUnmap | subsurfaceMap => rfl
      | surfaceMap handle texts =>
          show (if texts.fit then _ else d).popups = _
          split <;> rfl
      | subsurfaceUnmap handle =>
          show (d.unmapSubsurface handle).popups = _
          unfold DartCompositor.unmapSubsurface
          split <;> rfl
      | subsurfacePosition handle box =>
          show (d.positionSubsurface handle box).popups = _
          unfold DartCompositor.positionSubsurface
          split
          · rfl
          · split <;> rfl

/-- The event is one of a popup. -/
def isPopupEvent : Event → Bool
  | .newPopup .. | .popupMap .. | .popupUnmap .. | .popupCommit .. | .popupReposition ..
  | .popupDestroy .. => true
  | _ => false

theorem popupMessage_ok {s : Instance} {p : Ptr} {ms : List ChildMessage}
    (h : s.popupMessage p = .ok ms) :
    ∃ popup outputId, s.popupObjects.get p = some popup ∧
      ms = [.popupMap ⟨popup.handle, popup.textureId, popup.parentViewHandle,
        ⟨popup.x, popup.y, popup.width, popup.height⟩, outputId, popup.outputScale⟩] := by
  simp only [Instance.popupMessage, except_bind_eq_ok] at h
  obtain ⟨popup, hpopup, outputId, -, h⟩ := h
  cases h
  exact ⟨popup, outputId, Instance.popup_ok hpopup, rfl⟩

theorem isPopup_popupMessage {s : Instance} {p : Ptr} {ms : List ChildMessage}
    (h : s.popupMessage p = .ok ms) : ∀ m ∈ ms, m.isPopup = true := by
  obtain ⟨popup, outputId, -, rfl⟩ := popupMessage_ok h
  intro m hm
  rw [List.mem_singleton.mp hm]
  rfl

/-- The events of popups send messages about popups, the others do not. -/
theorem announced_isPopup {s s' : Instance} {texts : Ptr → ToplevelTexts} {e : Event}
    {ms : List ChildMessage} (h : s.announced s' texts e = .ok ms) :
    ∀ m ∈ ms, m.isPopup = isPopupEvent e := by
  have hnil : ∀ {b : Bool} {ms : List ChildMessage},
      (Except.ok [] : Except Fault (List ChildMessage)) = .ok ms → ∀ m ∈ ms, m.isPopup = b := by
    rintro b ms ⟨⟩ m hm
    cases hm
  cases e with
  | toplevelMap | toplevelUnmap =>
      simp only [Instance.announced, except_bind_eq_ok] at h
      obtain ⟨view, -, h⟩ := h
      cases h
      intro m hm
      rw [List.mem_singleton.mp hm]
      rfl
  | subsurfaceMap =>
      simp only [Instance.announced, Instance.sendSubsurfaceMap, except_bind_eq_ok] at h
      obtain ⟨sub, -, view, -, h⟩ := h
      cases h
      intro m hm
      rw [List.mem_singleton.mp hm]
      rfl
  | subsurfaceUnmap =>
      simp only [Instance.announced, Instance.sendSubsurfaceUnmap, except_bind_eq_ok] at h
      obtain ⟨sub, -, view, -, h⟩ := h
      cases h
      intro m hm
      rw [List.mem_singleton.mp hm]
      rfl
  | subsurfaceCommit =>
      simp only [Instance.announced, except_bind_eq_ok] at h
      obtain ⟨sub, -, h⟩ := h
      split at h
      · simp only [Instance.sendSubsurfacePosition, except_bind_eq_ok] at h
        obtain ⟨sub, -, view, -, h⟩ := h
        cases h
        intro m hm
        rw [List.mem_singleton.mp hm]
        rfl
      · exact hnil h
  | newPopup | popupReposition =>
      simp only [Instance.announced] at h
      split at h
      · exact isPopup_popupMessage h
      · exact hnil h
  | popupMap => exact isPopup_popupMessage h
  | popupUnmap =>
      simp only [Instance.announced, except_bind_eq_ok] at h
      obtain ⟨popup, -, h⟩ := h
      cases h
      intro m hm
      rw [List.mem_singleton.mp hm]
      rfl
  | popupCommit =>
      simp only [Instance.announced, except_bind_eq_ok] at h
      obtain ⟨popup, -, h⟩ := h
      split at h
      · exact isPopup_popupMessage h
      · exact hnil h
  | _ => exact hnil h

/-- With nothing under way, Dart has what it will have. -/
theorem settled_quiet (h : s.channel.pending = []) : s.channel.receiver = s.settled :=
  Channel.receiver_eq h

end Steps

end FlutterWlroots.Desktop
