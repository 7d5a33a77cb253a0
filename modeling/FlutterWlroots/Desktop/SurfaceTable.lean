/-
  FlutterWlroots.Desktop.SurfaceTable — Dart's table of surfaces mirrors the mapped views.

  Dart gets a surface with the map of a toplevel, loses it with the unmap, and is told of changes by
  handle.  Once all messages are delivered its table has a surface for each mapped view whose map it
  could decode, and for no other, with the decorations of that view and with the geometry that was
  last sent for it, as long as no toplevel gets the handle of another view.

    • `handle_mirrored` — one event,
    • `reach_mirrored`  — every run.
-/
import FlutterWlroots.Lib.Mirror
import FlutterWlroots.Lib.Watch
import FlutterWlroots.Desktop.ShellSteps

namespace FlutterWlroots.Desktop

open Lib Lib.CInt Lib.StateRun FlutterWlroots.Compositor FlutterWlroots.Input

/-- What is noted of the views: the geometry that was last sent to Dart, the one that the client has
    last committed while the view was mapped, and whether the texts of its last map did not fit. -/
structure GeometryNote where
  sent : Ptr → Option Geometry
  committed : Ptr → Option Geometry
  lost : Ptr → Bool

namespace Shell

/-! ## §1. Notes. -/

section Notes

variable (s : Shell)

/-- The geometry and the buffer size that a client commits. -/
def committedGeometry (p : Ptr) (geo : WlrBox) : Option Geometry :=
  (s.frames.frames p).map fun f => .of geo (s.sizes f.xdgSurface)

/-- A commit that Dart is told of. -/
def tells (p : Ptr) (geo : WlrBox) : Bool := (s.frames.frames p).any fun f => geoChanged f geo

def noteGeometry (e : ShellEvent) (note : GeometryNote) : GeometryNote :=
  match e with
  | .pointer (.compositor (.toplevelMap p geo ..)) =>
      { sent := Function.update note.sent p (s.committedGeometry p geo)
        committed := Function.update note.committed p none
        lost := Function.update note.lost p !(s.windows p).textsFit }
  | .pointer (.compositor (.toplevelCommit p geo)) =>
      { sent := if s.tells p geo then Function.update note.sent p (s.committedGeometry p geo)
          else note.sent
        committed := Function.update note.committed p
          (if (s.windows p).mapped then s.committedGeometry p geo else none)
        lost := note.lost }
  | _ => note

/-- The event creates a view. -/
def createsView : ShellEvent → Bool
  | .pointer (.compositor (.newToplevel ..)) => true
  | _ => false

/-- A toplevel gets a handle that no other view has. -/
def KeepsHandlesApart (e : ShellEvent) : Prop :=
  createsView e = true → s.mouse.compositor.viewObjects.Forall fun view =>
    view.handle ≠ s.mouse.compositor.views.next

instance (e : ShellEvent) : Decidable (s.KeepsHandlesApart e) :=
  have : Decidable (s.mouse.compositor.viewObjects.Forall fun view =>
    view.handle ≠ s.mouse.compositor.views.next) := decidable_of_iff _ Store.forall_iff.symm
  inferInstanceAs (Decidable (_ → _))

/-! ## §2. The invariant. -/

/-- The views with their handles, and what Dart's table will be. -/
def mirror (lost : Ptr → Bool) : Mirror Ptr UInt32 Surface where
  keyOf := fun p => (s.frames.frames p).map (·.handle)
  shown := fun p => (s.windows p).mapped && !lost p
  table := s.settled

/-- What a surface of Dart says of its view. -/
def Says (note : GeometryNote) (p : Ptr) (surface : Surface) : Prop :=
  surface.usesCsd = !(s.windows p).usesSsd ∧ note.sent p = some surface.geometry

/-- Dart's table is right. -/
def Mirrored (note : GeometryNote) : Prop := (s.mirror note.lost).Faithful (s.Says note)

end Notes

variable {c : Target} {s s' : Shell} {p q : Ptr} {f : ViewFrame} {mouse : InputInstance}
  {note note' : GeometryNote} {lost lost' : Ptr → Bool}

theorem keyOf_of_frame (hf : s.frames.frames p = some f) :
    (s.mirror lost).keyOf p = some f.handle := by
  show (s.frames.frames p).map _ = _
  rw [hf]
  rfl

/-- With nothing under way, Dart's table is what it will be. -/
theorem receiver_eq (h : s.channel.pending = []) : s.channel.receiver = s.settled :=
  Channel.receiver_eq h

theorem mirror_congr
    (hkeys : ∀ q, (s'.frames.frames q).map (·.handle) = (s.frames.frames q).map (·.handle))
    (hshown : ∀ q, (s'.windows q).mapped = (s.windows q).mapped)
    (htable : s'.settled = s.settled) : s'.mirror lost = s.mirror lost := by
  unfold mirror
  rw [funext hkeys, htable]
  simp only [hshown]

/-- Who is shown, when one window changes. -/
theorem shown_setWindow (s : Shell) (w : Window) (hlost : ∀ q, q ≠ p → lost' q = lost q) :
    (fun q => ((s.setWindow p w).windows q).mapped && !lost' q) =
      Function.update (fun q => (s.windows q).mapped && !lost q) p (w.mapped && !lost' p) := by
  refine funext fun q => ?_
  by_cases hq : q = p
  · rw [hq, Function.update_self, windows_setWindow_self]
  · rw [Function.update_of_ne hq, windows_setWindow_of_ne hq, hlost q hq]

theorem keys_of_frames {frames : WindowFrames} (hframes : frames = s.frames) (q : Ptr) :
    (frames.frames q).map (·.handle) = (s.frames.frames q).map (·.handle) := by
  rw [hframes]

/-- A view keeps its handle, whatever its frame is. -/
theorem keys_of_put {frames : WindowFrames} {g : ViewFrame} (hf : s.frames.frames p = some f)
    (hg : g.handle = f.handle) (hframes : frames = s.frames.put p g) (q : Ptr) :
    (frames.frames q).map (·.handle) = (s.frames.frames q).map (·.handle) := by
  rw [hframes]
  exact congrFun (framePart_put hf hg) q

/-- Nothing that Dart's table says has changed. -/
theorem Mirrored.same (h : s.Mirrored note)
    (hmirror : s'.mirror note'.lost = s.mirror note.lost)
    (hssd : ∀ q, (s'.windows q).usesSsd = (s.windows q).usesSsd) (hsent : note'.sent = note.sent) :
    s'.Mirrored note' := by
  unfold Mirrored
  rw [hmirror]
  refine Mirror.Faithful.mono h fun q surface hright => ?_
  unfold Says
  rw [hssd, hsent]
  exact hright

theorem Mirrored.refocus (h : s.Mirrored note) (hfocus : s.fwrFocusView p = .ok s') :
    s'.Mirrored note := by
  have hsame := fwrFocusView_refocused hfocus
  exact h.same (mirror_congr (keys_of_frames hsame.frames_eq) hsame.mapped_eq hsame.settled_eq)
    hsame.usesSsd_eq rfl

theorem Mirrored.rearrange (h : s.Mirrored note) (hsame : Rearranged s s') : s'.Mirrored note :=
  h.same (mirror_congr (keys_of_frames hsame.frames_eq) hsame.mapped_eq hsame.settled_eq)
    hsame.usesSsd_eq rfl

/-- A window that is decorated and mapped as before. -/
theorem Mirrored.setWindow {w : Window} (h : s.Mirrored note)
    (hmapped : w.mapped = (s.windows p).mapped) (hssd : w.usesSsd = (s.windows p).usesSsd) :
    (s.setWindow p w).Mirrored note := by
  have hwindow : ∀ {α : Type} (field : Window → α), field w = field (s.windows p) →
      ∀ q, field ((s.setWindow p w).windows q) = field (s.windows q) := by
    intro α field hfield q
    have hfields := windowField_setWindow field s p w
    rw [hfield, Function.update_eq_self] at hfields
    exact congrFun hfields q
  exact h.same (mirror_congr (fun _ => rfl) (hwindow (·.mapped) hmapped) rfl)
    (hwindow (·.usesSsd) hssd) rfl

theorem Mirrored.withMouse (h : s.Mirrored note)
    (hkeys : ∀ q, (mouse.frames.frames q).map (·.handle) = (s.frames.frames q).map (·.handle)) :
    (s.withMouse mouse).Mirrored note :=
  h.same (mirror_congr hkeys (fun _ => rfl) rfl) (fun _ => rfl) rfl

/-- What the table says of other views is not touched by a change of one window. -/
theorem says_of_ne (s' : Shell) {surface : Surface} (hne : q ≠ p)
    (hwindow : ∀ q, q ≠ p → s'.windows q = s.windows q)
    (hsent : ∀ q, q ≠ p → note'.sent q = note.sent q) (hright : s.Says note q surface) :
    s'.Says note' q surface := by
  unfold Says
  rw [hwindow q hne, hsent q hne]
  exact hright

/-! ## §3. Toplevels. -/

theorem noteGeometry_other {e : PointerEvent} (hother : isToplevel e = false) :
    s.noteGeometry (.pointer e) note = note := by
  cases e with
  | compositor e => cases e <;> first | rfl | cases hother
  | cursorMotion | cursorButton | cursorAxis | surfacePointer | popupPointer | beginMove
    | beginResize | requestMove | requestResize | directInput | popupGrab => rfl

theorem tells_of_frame {geo : WlrBox} (hf : s.frames.frames p = some f) :
    s.tells p geo = geoChanged f geo := by
  unfold tells
  rw [hf]
  rfl

theorem committedGeometry_of_frame {geo : WlrBox} (hf : s.frames.frames p = some f) :
    s.committedGeometry p geo = some (.of geo (s.sizes f.xdgSurface)) := by
  unfold committedGeometry
  rw [hf]
  rfl

theorem mapWindow_usesSsd (w : Window) (f : ViewFrame) : (mapWindow w f).usesSsd = w.usesSsd := by
  unfold mapWindow Window.viewCreateScene
  split <;> rfl

theorem mirrored_newToplevel {xdgSurface : Nat} (h : s.Mirrored note)
    (hunused : s.KeepsHandlesApart (.pointer (.compositor (.newToplevel xdgSurface))))
    (hframes : mouse.frames = s.frames.create xdgSurface) :
    (s.fwrNewXdgToplevel mouse xdgSurface).Mirrored note := by
  have hwindow : ∀ q, q ≠ s.frames.next →
      (s.fwrNewXdgToplevel mouse xdgSurface).windows q = s.windows q :=
    fun q hq => windows_setWindow_of_ne hq ..
  have hmirror : (s.fwrNewXdgToplevel mouse xdgSurface).mirror note.lost =
      (s.mirror note.lost).enter s.frames.next s.frames.views.next := by
    show Mirror.mk _ _ _ = Mirror.mk _ _ _
    congr 1
    · show (fun q => (mouse.frames.frames q).map (·.handle)) = _
      rw [hframes, framePart_create]
      rfl
    · exact shown_setWindow (s.withMouse mouse) .fresh fun _ _ => rfl
  unfold Mirrored
  rw [hmirror]
  refine Mirror.Faithful.enter h ?_ (fun q hq => ?_) fun q surface hne hright =>
    says_of_ne _ hne hwindow (fun _ _ => rfl) hright
  · show (s.frames.frames s.frames.next).map _ = none
    rw [show s.frames.frames s.frames.next = none from Instance.frame_next _]
    rfl
  · obtain ⟨g, hg, hhandle⟩ := Option.map_eq_some_iff.mp hq
    obtain ⟨view, hview, rfl⟩ := Instance.view_of_frame hg
    exact hunused rfl q view hview hhandle

/-- The table after the map of a toplevel that Dart can decode. -/
theorem mirrored_toplevelMap {geo : WlrBox} {layout : OutputLayout} {registered : Bool}
    {surface : Surface} (h : s.Mirrored note) (hf : s.frames.frames p = some f)
    (hframes : mouse.frames = s.frames.put p (f.withGeometry geo))
    (hhandle : surface.handle = f.handle)
    (hgeometry : surface.geometry = .of geo (s.sizes f.xdgSurface))
    (hcsd : surface.usesCsd = !(s.windows p).usesSsd)
    (hreadable : (Message.surfaceMap surface).readable = true)
    (hfit : (s.windows p).textsFit = true) :
    (((s.withMouse mouse).setWindow p (mapWindow (s.windows p) f)).send
      (.surfaceMap surface)).Mirrored
      (s.noteGeometry (.pointer (.compositor (.toplevelMap p geo layout registered))) note) := by
  have hwindow : ∀ q, q ≠ p →
      ((s.withMouse mouse).setWindow p (mapWindow (s.windows p) f)).windows q = s.windows q :=
    fun q hq => windows_setWindow_of_ne hq ..
  have hmirror : (((s.withMouse mouse).setWindow p (mapWindow (s.windows p) f)).send
      (.surfaceMap surface)).mirror (Function.update note.lost p !(s.windows p).textsFit) =
      (s.mirror note.lost).publish p f.handle surface := by
    show Mirror.mk _ _ _ = Mirror.mk _ _ _
    congr 1
    · exact funext (keys_of_put hf (by rfl) hframes)
    · refine (shown_setWindow (s.withMouse mouse) (mapWindow (s.windows p) f)
        fun q hq => Function.update_of_ne hq ..).trans ?_
      rw [Function.update_self, hfit]
      rfl
    · rw [settled_send, ← hhandle]
      exact if_pos hreadable
  unfold Mirrored
  rw [show (s.noteGeometry (.pointer (.compositor (.toplevelMap p geo layout registered)))
    note).lost = Function.update note.lost p !(s.windows p).textsFit from rfl, hmirror]
  refine Mirror.Faithful.publish h (keyOf_of_frame hf) ⟨?_, ?_⟩ fun q surface hne hright =>
    says_of_ne ((s.withMouse mouse).setWindow p (mapWindow (s.windows p) f)) hne hwindow
      (fun q hq => Function.update_of_ne hq ..) hright
  · rw [windows_send, windows_setWindow_self, mapWindow_usesSsd, hcsd]
  · rw [hgeometry, ← committedGeometry_of_frame hf]
    exact Function.update_self ..

/-- The table after a map that Dart cannot decode: the view is not shown there. -/
theorem mirrored_toplevelMap_lost {geo : WlrBox} {layout : OutputLayout} {registered : Bool}
    {surface : Surface} (h : s.Mirrored note) (hunmapped : (s.windows p).mapped = false)
    (hf : s.frames.frames p = some f)
    (hframes : mouse.frames = s.frames.put p (f.withGeometry geo))
    (hreadable : (Message.surfaceMap surface).readable = false)
    (hfit : (s.windows p).textsFit = false) :
    (((s.withMouse mouse).setWindow p (mapWindow (s.windows p) f)).send
      (.surfaceMap surface)).Mirrored
      (s.noteGeometry (.pointer (.compositor (.toplevelMap p geo layout registered))) note) := by
  have hwindow : ∀ q, q ≠ p →
      ((s.withMouse mouse).setWindow p (mapWindow (s.windows p) f)).windows q = s.windows q :=
    fun q hq => windows_setWindow_of_ne hq ..
  have hmirror : (((s.withMouse mouse).setWindow p (mapWindow (s.windows p) f)).send
      (.surfaceMap surface)).mirror (Function.update note.lost p !(s.windows p).textsFit) =
      s.mirror note.lost := by
    show Mirror.mk _ _ _ = Mirror.mk _ _ _
    congr 1
    · exact funext (keys_of_put hf (by rfl) hframes)
    · refine (shown_setWindow (s.withMouse mouse) (mapWindow (s.windows p) f)
        fun q hq => Function.update_of_ne hq ..).trans ?_
      have hhidden : ((s.windows p).mapped && !note.lost p) = false := by
        rw [hunmapped]
        rfl
      rw [Function.update_self, hfit, Bool.not_false, Bool.not_true, Bool.and_false, ← hhidden]
      exact Function.update_eq_self ..
    · rw [settled_send]
      exact if_neg (by rw [hreadable]; exact Bool.false_ne_true)
  unfold Mirrored
  rw [show (s.noteGeometry (.pointer (.compositor (.toplevelMap p geo layout registered)))
    note).lost = Function.update note.lost p !(s.windows p).textsFit from rfl, hmirror]
  refine Mirror.Faithful.mono_shown h fun q surface hshown hright => ?_
  have hne : q ≠ p := by
    rintro rfl
    have hboth : ((s.windows q).mapped && !note.lost q) = true := hshown
    rw [hunmapped] at hboth
    cases hboth
  exact says_of_ne ((s.withMouse mouse).setWindow p (mapWindow (s.windows p) f)) hne hwindow
    (fun q hq => Function.update_of_ne hq ..) hright

theorem mirrored_toplevelUnmap (h : s.Mirrored note) (hf : s.frames.frames p = some f)
    (hframes : mouse.frames = s.frames) :
    (((s.withMouse mouse).setWindow p (unmapWindow (s.windows p))).send
      (.surfaceUnmap f.handle)).Mirrored
      (s.noteGeometry (.pointer (.compositor (.toplevelUnmap p))) note) := by
  have hwindow : ∀ q, q ≠ p →
      ((s.withMouse mouse).setWindow p (unmapWindow (s.windows p))).windows q = s.windows q :=
    fun q hq => windows_setWindow_of_ne hq ..
  have hmirror : (((s.withMouse mouse).setWindow p (unmapWindow (s.windows p))).send
      (.surfaceUnmap f.handle)).mirror note.lost =
      (s.mirror note.lost).withdraw p f.handle := by
    show Mirror.mk _ _ _ = Mirror.mk _ _ _
    congr 1
    · exact funext (keys_of_frames hframes)
    · exact shown_setWindow (s.withMouse mouse) (unmapWindow (s.windows p)) fun _ _ => rfl
    · rw [settled_send]
      rfl
  unfold Mirrored
  rw [show (s.noteGeometry (.pointer (.compositor (.toplevelUnmap p))) note).lost = note.lost
    from rfl, hmirror]
  exact Mirror.Faithful.withdraw h (keyOf_of_frame hf) fun q surface hne hright =>
    says_of_ne ((s.withMouse mouse).setWindow p (unmapWindow (s.windows p))) hne hwindow
      (fun _ _ => rfl) hright

theorem mirrored_toplevelCommit {geo : WlrBox} (h : s.Mirrored note)
    (hf : s.frames.frames p = some f)
    (hframes : mouse.frames = s.frames.put p (f.withGeometry geo))
    (hsame : geoChanged f geo = false) :
    (s.withMouse mouse).Mirrored
      (s.noteGeometry (.pointer (.compositor (.toplevelCommit p geo))) note) := by
  have hkeys := keys_of_put hf (by rfl) hframes
  refine h.same (mirror_congr hkeys (fun _ => rfl) rfl) (fun _ => rfl) ?_
  show (if s.tells p geo then _ else note.sent) = note.sent
  rw [tells_of_frame hf, hsame]
  rfl

theorem mirrored_toplevelResized {geo : WlrBox} (h : s.Mirrored note)
    (hf : s.frames.frames p = some f)
    (hframes : mouse.frames = s.frames.put p (f.withGeometry geo))
    (hchanged : geoChanged f geo = true) :
    ((s.withMouse mouse).send (.surfaceGeometry f.handle geo.width geo.height
      (s.sizes f.xdgSurface).1 (s.sizes f.xdgSurface).2 geo.x geo.y)).Mirrored
      (s.noteGeometry (.pointer (.compositor (.toplevelCommit p geo))) note) := by
  have hmirror : ((s.withMouse mouse).send (.surfaceGeometry f.handle geo.width geo.height
      (s.sizes f.xdgSurface).1 (s.sizes f.xdgSurface).2 geo.x geo.y)).mirror note.lost =
      (s.mirror note.lost).revise f.handle fun surface => { surface with
        width := geo.width
        height := geo.height
        bufferWidth := (s.sizes f.xdgSurface).1
        bufferHeight := (s.sizes f.xdgSurface).2
        geoX := geo.x
        geoY := geo.y } := by
    show Mirror.mk _ _ _ = Mirror.mk _ _ _
    congr 1
    · exact funext (keys_of_put hf (by rfl) hframes)
    · rw [settled_send]
      rfl
  have hsent : (s.noteGeometry (.pointer (.compositor (.toplevelCommit p geo))) note).sent =
      Function.update note.sent p (some (.of geo (s.sizes f.xdgSurface))) := by
    show (if s.tells p geo then Function.update note.sent p (s.committedGeometry p geo) else _) = _
    rw [tells_of_frame hf, hchanged, committedGeometry_of_frame hf]
    rfl
  unfold Mirrored
  rw [show (s.noteGeometry (.pointer (.compositor (.toplevelCommit p geo))) note).lost = note.lost
    from rfl, hmirror]
  refine Mirror.Faithful.revise h (keyOf_of_frame hf) (fun surface hright => ⟨hright.1, ?_⟩)
    fun q surface hne hright => says_of_ne _ hne (fun _ _ => rfl) (fun q hq => ?_) hright
  · rw [hsent, Function.update_self]
    rfl
  · rw [hsent, Function.update_of_ne hq]

theorem mirrored_toplevelDestroy (h : s.Mirrored note) (hunmapped : (s.windows p).mapped = false)
    (hframes : mouse.frames = s.frames.destroy p f.handle) :
    (s.xdgToplevelDestroy mouse p).Mirrored note := by
  have hwindow : ∀ q, q ≠ p → (s.xdgToplevelDestroy mouse p).windows q = s.windows q :=
    fun q hq => windows_setWindow_of_ne hq ..
  have hmirror : (s.xdgToplevelDestroy mouse p).mirror note.lost =
      (s.mirror note.lost).leave p := by
    show Mirror.mk _ _ _ = Mirror.mk _ _ _
    congr 1
    · show (fun q => (mouse.frames.frames q).map (·.handle)) = _
      rw [hframes, framePart_destroy]
      rfl
    · exact (shown_setWindow (s.withMouse mouse) { s.windows p with sceneTree := none }
        fun _ _ => rfl).trans (Function.update_eq_self ..)
  have hhidden : (s.mirror note.lost).shown p = false := by
    show ((s.windows p).mapped && !note.lost p) = false
    rw [hunmapped]
    rfl
  unfold Mirrored
  rw [hmirror]
  exact Mirror.Faithful.leave h hhidden fun q surface hne hright =>
    says_of_ne _ hne hwindow (fun _ _ => rfl) hright

/-! ## §4. One event. -/

theorem mirrored_pointer {e : PointerEvent} (h : s.Mirrored note)
    (hok : s.KeepsHandlesApart (.pointer e)) (hd : s.Deliverable (.pointer e))
    (hstep : PointerStep s e s') : s'.Mirrored (s.noteGeometry (.pointer e) note) := by
  cases hstep with
  | quiet hother hframes =>
      rw [noteGeometry_other hother]
      exact h.withMouse (keys_of_frames hframes)
  | @focus _ mouse p _ htarget hframes hfocus =>
      rw [noteGeometry_other (not_isToplevel_of_target htarget)]
      have hsame := h.withMouse (keys_of_frames hframes)
      exact hsame.refocus hfocus
  | @drag _ mouse p f box hdragged hf hframes =>
      rw [noteGeometry_other (not_isToplevel_of_dragged hdragged)]
      have hput := h.withMouse (keys_of_put hf (by rfl) hframes)
      exact hput.rearrange (setNode_rearranged _ _ _ _)
  | newToplevel hframes => exact mirrored_newToplevel h hok hframes
  | @toplevelMap p geo layout registered mouse f surface _ hf hframes hhandle hgeometry hcsd
      hreadable hfocus =>
      cases hfit : (s.windows p).textsFit with
      | true =>
          have hread := hreadable.trans hfit
          exact (mirrored_toplevelMap h hf hframes hhandle hgeometry hcsd hread hfit).refocus hfocus
      | false =>
          have hunread := hreadable.trans hfit
          exact (mirrored_toplevelMap_lost h hd.2 hf hframes hunread hfit).refocus hfocus
  | toplevelUnmap hf hframes => exact mirrored_toplevelUnmap h hf hframes
  | toplevelCommit hf hframes hsame => exact mirrored_toplevelCommit h hf hframes hsame
  | toplevelResized hf hframes hchanged => exact mirrored_toplevelResized h hf hframes hchanged
  | toplevelDestroy hf hframes => exact mirrored_toplevelDestroy h hd.2 hframes
  | @setPosition _ _ _ _ mouse p f hf hframes =>
      have hput := h.withMouse (keys_of_put hf (by rfl) hframes)
      exact hput.rearrange (setNode_rearranged _ _ _ _)

theorem mirrored_key {event : KeyEvent} (h : s.Mirrored note) (hstep : KeyStep s event s') :
    s'.Mirrored note := by
  cases hstep with
  | quiet => exact h
  | raise hraised hfocus hf => exact (h.refocus hfocus).rearrange (setNode_rearranged _ _ _ _)
  | @tile p view maximized box htiled hview =>
      have hframes : (s.tile p view maximized box).frames =
          s.frames.put p (view.frame.inBox box) := frames_tile hview
      have hkeys := keys_of_put (frame_of_view hview) (by rfl) hframes
      have hwindow : ∀ {α : Type} (field : Window → α),
          field ({ s.windows p with maximized }.setPosition box.x box.y) = field (s.windows p) →
          ∀ q, field ((s.tile p view maximized box).windows q) = field (s.windows q) := by
        intro α field hfield q
        by_cases hq : q = p
        · rw [hq, windows_tile_self, hfield]
        · rw [windows_tile_of_ne hq]
      exact h.same (mirror_congr hkeys (hwindow (·.mapped) rfl) rfl) (hwindow (·.usesSsd) rfl) rfl

/-- A view that draws no decorations from now on, and Dart is told. -/
theorem mirrored_decoration {surface : Nat} (h : s.Mirrored note)
    (hstep : DecorationStep s surface s') : s'.Mirrored note := by
  cases hstep with
  | quiet => exact h
  | @enforce p f decoration hp hf =>
      have hwindow : ∀ q, q ≠ p →
          (s.setWindow p (ssdWindow (s.windows p) decoration)).windows q = s.windows q :=
        fun q hq => windows_setWindow_of_ne hq ..
      have hmirror : ((s.setWindow p (ssdWindow (s.windows p) decoration)).send
          (.surfaceDecoration f.handle false)).mirror note.lost =
          (s.mirror note.lost).revise f.handle fun surface => { surface with usesCsd := false } := by
        show Mirror.mk _ _ _ = Mirror.mk _ _ _
        congr 1
        · exact (shown_setWindow s (ssdWindow (s.windows p) decoration) fun _ _ => rfl).trans
            (Function.update_eq_self ..)
        · rw [settled_send]
          rfl
      unfold Mirrored
      rw [hmirror]
      refine Mirror.Faithful.revise h (keyOf_of_frame hf) (fun surface hright => ⟨?_, hright.2⟩)
        fun q surface hne hright =>
          says_of_ne (s.setWindow p (ssdWindow (s.windows p) decoration)) hne hwindow
            (fun _ _ => rfl) hright
      rw [windows_send, windows_setWindow_self]
      rfl

/-- A window with other texts, and Dart is told if they fit. -/
theorem mirrored_retitled (h : s.Mirrored note) (hstep : Retitled s p s') : s'.Mirrored note := by
  obtain ⟨title, appId, f, hf, rfl⟩ := hstep
  have hset : (s.setWindow p { s.windows p with title, appId }).Mirrored note :=
    h.setWindow rfl rfl
  have hkey : ((s.setWindow p { s.windows p with title, appId }).mirror note.lost).keyOf p
    = some f.handle := keyOf_of_frame hf
  generalize s.setWindow p { s.windows p with title, appId } = s1 at hset hkey ⊢
  have htold : (s1.send (.surfaceTitle f.handle (title.getD "") (appId.getD ""))).settled =
      if (Message.surfaceTitle f.handle (title.getD "") (appId.getD "")).readable then
        s1.settled.modify f.handle fun surface =>
          { surface with title := title.getD "", appId := appId.getD "" }
      else s1.settled := settled_send ..
  split at htold
  next =>
    have hmirror : (s1.send (.surfaceTitle f.handle (title.getD "") (appId.getD ""))).mirror
        note.lost = (s1.mirror note.lost).revise f.handle fun surface =>
          { surface with title := title.getD "", appId := appId.getD "" } := by
      show Mirror.mk _ _ _ = Mirror.mk _ _ _
      rw [htold]
      rfl
    unfold Mirrored
    rw [hmirror]
    -- the entry says the same of decorations and geometry
    exact Mirror.Faithful.revise hset hkey (fun surface hright => hright)
      fun q surface _ hright => hright
  next => exact hset.same (mirror_congr (fun _ => rfl) (fun _ => rfl) htold) (fun _ => rfl) rfl

theorem mirrored_focusHandle {surfaceHandle : Option UInt32} (h : s.Mirrored note)
    (hstep : s.focusHandle surfaceHandle = .ok s') : s'.Mirrored note := by
  rcases focusHandle_ok hstep with ⟨-, rfl⟩ | ⟨p, -, hfocus⟩
  · exact h
  · exact h.refocus hfocus

/-- **One event keeps Dart's table right.** -/
theorem handle_mirrored {e : ShellEvent} (h : s.Mirrored note) (hok : s.KeepsHandlesApart e)
    (hd : s.Deliverable e) (hstep : s.handle c e = .ok s') :
    s'.Mirrored (s.noteGeometry e note) := by
  cases e with
  | pointer e => exact mirrored_pointer h hok hd (pointerEvent_step hstep)
  | setTitle p title => exact mirrored_retitled h (xdgToplevelSetTitle_ok hstep)
  | setAppId p appId => exact mirrored_retitled h (xdgToplevelSetAppId_ok hstep)
  | key event => exact mirrored_key h (keyboardHandleKey_step hstep)
  | surfaceFocus args => exact mirrored_focusHandle h hstep
  | surfaceKeyboardKey args => exact mirrored_focusHandle h hstep
  | toplevelSetMaximized args =>
      cases hstep
      unfold fwrHandleSurfaceToplevelSetMaximized
      split
      · exact h
      · split
        · exact h
        · exact h.setWindow rfl rfl
  | newToplevelDecoration xdgSurface decoration =>
      exact mirrored_decoration h (handleNewToplevelDecoration_step hstep)
  | newServerDecoration surface =>
      exact mirrored_decoration h (handleNewServerDecoration_step hstep)
  | decorationDestroy p =>
      cases hstep
      exact h.setWindow rfl rfl
  | outputFrame => exact h.rearrange (updateScenePositions_rearranged _ hstep)
  | deliver =>
      cases hstep
      -- what has been delivered is what will have been delivered
      have hsettled : ((s.channel.deliver Surfaces.receive).getD s.channel).settled
          Surfaces.receive = s.settled := by
        cases hdeliver : s.channel.deliver Surfaces.receive with
        | none => rfl
        | some channel => exact Channel.settled_deliver hdeliver
      exact h.same (mirror_congr (fun _ => rfl) (fun _ => rfl) hsettled) (fun _ => rfl) rfl
  | surfaceSize | surfaceClearFocus | xdgSurfaceDestroy | surfaceDestroy =>
      cases hstep
      exact h

/-! ## §5. Runs. -/

/-- The desktop with the geometries that were sent and committed. -/
abbrev geometryShell (c : Target) : Machine (Watched Shell GeometryNote) ShellEvent :=
  (shell c).watch ⟨fun _ => none, fun _ => none, fun _ => false⟩ noteGeometry

theorem mirrored_init (note : GeometryNote) : init.Mirrored note where
  distinct p q k hp := by cases hp
  owned k e he := by cases he
  present p k hp := by cases hp

/-- **Dart's table is right in every state**, as long as handles are kept apart. -/
theorem reach_mirrored {ok : Watched Shell GeometryNote → ShellEvent → Prop}
    {w : Watched Shell GeometryNote} (hok : ∀ w e, ok w e → w.state.KeepsHandlesApart e)
    (h : (geometryShell c).Reach ok w) : w.state.Mirrored w.note := by
  refine h.invariant (P := fun w => w.state.Mirrored w.note) (mirrored_init _) ?_
  intro w e w' hw hkeeps hstep
  obtain ⟨hshell, hnote⟩ := Machine.watch_step.mp hstep
  obtain ⟨hd, hhandle⟩ := shell_step.mp hshell
  rw [hnote]
  exact handle_mirrored hw (hok w e hkeeps) hd hhandle

end Shell

end FlutterWlroots.Desktop
