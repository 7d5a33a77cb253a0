/-
  FlutterWlroots.Desktop.Placement — where the nodes of the windows are.

  What is under the pointer is looked up in the scene graph, while the window is drawn where the view
  is, below a titlebar of 38 pixels if it does not draw its own.  `surface_set_position` and the frame
  of an output put the node of a view there.  The first map, both grabs and the keyboard forget the
  titlebar, and the decoration handlers add one and leave the node where it is; such a view is
  displaced until it is put right again.

    • `reach_viewInPlace`   — in every run, a view that is not displaced has its node in place,
    • `not_inPlace_mapped`  — a window with a titlebar mapped.
-/
import FlutterWlroots.Lib.Watch
import FlutterWlroots.Desktop.ShellSteps

namespace FlutterWlroots.Desktop

open Lib Lib.CInt Lib.StateRun FlutterWlroots.Compositor FlutterWlroots.Input

/-! ## §1. Windows. -/

namespace Window

variable {w : Window} {f : ViewFrame}

/-- The node is where the window is drawn. -/
def InPlace (w : Window) (f : ViewFrame) : Prop :=
  ∀ node ∈ w.sceneTree, node.x = f.x ∧ node.y = f.y + w.titlebarOffset

/-- Nothing is above the node: there is none, or no titlebar. -/
def Bare (w : Window) : Prop := w.sceneTree = none ∨ w.usesSsd = false

instance (w : Window) : Decidable w.Bare := inferInstanceAs (Decidable (_ ∨ _))

/-- What depends on the node and the titlebar alone. -/
theorem InPlace.congr {w' : Window} {f' : ViewFrame} (h : w.InPlace f)
    (htree : w'.sceneTree = w.sceneTree) (hssd : w'.usesSsd = w.usesSsd) (hx : f'.x = f.x)
    (hy : f'.y = f.y) : w'.InPlace f' := by
  unfold InPlace titlebarOffset at h ⊢
  rw [htree, hssd, hx, hy]
  exact h

theorem inPlace_of_none (h : w.sceneTree = none) : w.InPlace f := by
  intro node hnode
  rw [h] at hnode
  cases hnode

/-- A node moved to where the window is drawn. -/
theorem setPosition_inPlace {x y : Int} (hx : x = f.x) (hy : y = f.y + w.titlebarOffset) :
    (w.setPosition x y).InPlace f := by
  intro node hnode
  obtain ⟨old, -, rfl⟩ := Option.map_eq_some_iff.mp hnode
  exact ⟨hx, hy⟩

/-- A node moved to the position of the view, with nothing above. -/
theorem Bare.setPosition_inPlace {x y : Int} (h : w.Bare) (hx : x = f.x) (hy : y = f.y) :
    (w.setPosition x y).InPlace f := by
  rcases h with hnone | hssd
  · refine inPlace_of_none ?_
    unfold setPosition
    rw [hnone]
    rfl
  · refine Window.setPosition_inPlace hx ?_
    unfold titlebarOffset
    rw [hssd, hy]
    exact (Int.add_zero _).symm

theorem setEnabled_inPlace (h : w.InPlace f) (enabled : Bool) :
    (w.setEnabled enabled).InPlace f := by
  intro node hnode
  obtain ⟨old, hold, rfl⟩ := Option.map_eq_some_iff.mp hnode
  exact h old hold

/-- The first map forgets the titlebar. -/
theorem viewCreateScene_inPlace (h : w.InPlace f) (hbare : w.sceneTree = none → w.usesSsd = false) :
    (w.viewCreateScene f.x f.y).InPlace f := by
  unfold viewCreateScene
  cases hscene : w.sceneTree with
  | some node => exact h
  | none =>
      intro node hnode
      cases hnode
      refine ⟨rfl, ?_⟩
      unfold titlebarOffset
      rw [hbare hscene]
      exact (Int.add_zero _).symm

/-- A titlebar that is new does not move the node. -/
theorem ssdWindow_inPlace {decoration : Option Nat} (h : w.InPlace f)
    (hold : w.sceneTree = none ∨ w.usesSsd = true) : (Shell.ssdWindow w decoration).InPlace f := by
  rcases hold with hnone | hssd
  · exact inPlace_of_none hnone
  · exact h.congr rfl hssd.symm rfl rfl

end Window

namespace Shell

/-! ## §2. The property. -/

/-- The node of a view is in place. -/
def ViewInPlace (s : Shell) (q : Ptr) : Prop :=
  ∀ f, s.frames.frames q = some f → (s.windows q).InPlace f

/-- The nodes of all views are in place. -/
def InPlace (s : Shell) : Prop := ∀ q, s.ViewInPlace q

/-- The view that an event maps. -/
def mappedView : ShellEvent → Option Ptr
  | .pointer (.compositor (.toplevelMap p ..)) => some p
  | _ => none

/-- The view that an event puts at a position without looking at the titlebar. -/
def movedView (s : Shell) : ShellEvent → Ptr → Prop
  | .pointer e, q => s.mouse.draggedView e = some q
  | .key event, q => s.raisedView event = some q ∨ s.tiledView event = some q
  | _, _ => False

instance (s : Shell) : (e : ShellEvent) → (q : Ptr) → Decidable (s.movedView e q)
  | .pointer e, q => inferInstanceAs (Decidable (s.mouse.draggedView e = some q))
  | .key event, q =>
      inferInstanceAs (Decidable (s.raisedView event = some q ∨ s.tiledView event = some q))
  | .surfaceSize .., _ | .setTitle .., _ | .setAppId .., _ | .surfaceFocus .., _
  | .surfaceKeyboardKey .., _ | .surfaceClearFocus, _
  | .toplevelSetMaximized .., _ | .newToplevelDecoration .., _ | .decorationDestroy .., _
  | .newServerDecoration .., _ | .outputFrame, _ | .xdgSurfaceDestroy .., _
  | .surfaceDestroy .., _ | .deliver, _ => instDecidableFalse

/-- The view that an event gives a titlebar. -/
def decoratedView (s : Shell) : ShellEvent → Option Ptr
  | .newToplevelDecoration xdgSurface _ => s.viewOn xdgSurface
  | .newServerDecoration surface => s.viewOn surface
  | _ => none

/-- An event after which a node is not in place. -/
def Displaces (s : Shell) (e : ShellEvent) (q : Ptr) : Prop :=
  mappedView e = some q ∧ (s.windows q).sceneTree = none ∧ (s.windows q).usesSsd = true ∨
    s.movedView e q ∧ ¬(s.windows q).Bare ∨
    s.decoratedView e = some q ∧ (s.windows q).sceneTree ≠ none ∧ (s.windows q).usesSsd = false

instance (s : Shell) (e : ShellEvent) (q : Ptr) : Decidable (s.Displaces e q) :=
  inferInstanceAs (Decidable (_ ∧ _ ∨ _ ∧ _ ∨ _ ∧ _))

/-- An event that puts the node of a view in place. -/
def restores (s : Shell) : ShellEvent → Ptr → Bool
  | .pointer (.compositor (.setPosition surfaceHandle ..)), q =>
      s.frames.views.get surfaceHandle = some q
  | .outputFrame, q => q ∈ s.frames.viewsList
  | _, _ => false

/-- Which views are displaced after an event. -/
def noteDisplaced (s : Shell) (e : ShellEvent) (displaced : Ptr → Bool) (q : Ptr) : Bool :=
  if s.Displaces e q then true else displaced q && !s.restores e q

/-! ## §3. What a step leaves in place. -/

variable {c : Target} {s s' : Shell} {p q : Ptr} {f : ViewFrame} {mouse : InputInstance}

theorem ViewInPlace.congr (h : s.ViewInPlace q)
    (hframes : s'.frames.frames q = s.frames.frames q)
    (htree : (s'.windows q).sceneTree = (s.windows q).sceneTree)
    (hssd : (s'.windows q).usesSsd = (s.windows q).usesSsd) : s'.ViewInPlace q := by
  intro f hf
  rw [hframes] at hf
  exact (h f hf).congr htree hssd rfl rfl

theorem viewInPlace_of_frame (hf : s.frames.frames q = some f) (h : (s.windows q).InPlace f) :
    s.ViewInPlace q := by
  intro g hg
  obtain rfl : f = g := Option.some.inj (hf.symm.trans hg)
  exact h

theorem ViewInPlace.refocus (h : s.ViewInPlace q) (hfocus : s.fwrFocusView p = .ok s') :
    s'.ViewInPlace q := by
  have hsame := fwrFocusView_refocused hfocus
  refine h.congr ?_ (hsame.sceneTree_eq q) (hsame.usesSsd_eq q)
  rw [hsame.frames_eq]

/-- A step that changes one view. -/
theorem ViewInPlace.change (h : s.ViewInPlace q)
    (hframes : ∀ r, r ≠ p → s'.frames.frames r = s.frames.frames r)
    (hwindows : ∀ r, r ≠ p → s'.windows r = s.windows r) (hself : q = p → s'.ViewInPlace p) :
    s'.ViewInPlace q := by
  by_cases hq : q = p
  · subst hq
    exact hself rfl
  · have hwindow := hwindows q hq
    exact h.congr (hframes q hq) (by rw [hwindow]) (by rw [hwindow])

/-- A node moved, with the frame of its view. -/
theorem ViewInPlace.place {x y : Int} (h : s.ViewInPlace q)
    (hframes : mouse.frames = s.frames.put p f)
    (hself : q = p → ((s.windows p).setPosition x y).InPlace f) :
    ((s.withMouse mouse).setNode p x y).ViewInPlace q := by
  refine h.change (fun r hr => ?_) (fun r hr => windows_setWindow_of_ne hr ..) fun hq => ?_
  · rw [frames_setNode, frames_withMouse, hframes, frames_put_of_ne hr]
  · refine viewInPlace_of_frame (f := f) ?_ ?_
    · rw [frames_setNode, frames_withMouse, hframes, frames_put_self]
    · unfold setNode
      rw [windows_setWindow_self]
      exact hself hq

/-- A window changed. -/
theorem ViewInPlace.setWindow {w : Window} (h : s.ViewInPlace q)
    (hself : q = p → ∀ f, s.frames.frames p = some f → w.InPlace f) :
    (s.setWindow p w).ViewInPlace q := by
  refine h.change (fun _ _ => rfl) (fun r hr => windows_setWindow_of_ne hr ..) fun hq f hf => ?_
  rw [windows_setWindow_self]
  exact hself hq f hf

/-- A view whose window stays the same, with a new geometry. -/
theorem ViewInPlace.withGeometry {geo : WlrBox} (h : s.ViewInPlace q)
    (hf : s.frames.frames p = some f) (hframes : mouse.frames = s.frames.put p (f.withGeometry geo)) :
    (s.withMouse mouse).ViewInPlace q := by
  refine h.change (p := p) (fun r hr => ?_) (fun _ _ => rfl) fun hq => ?_
  · rw [frames_withMouse, hframes, frames_put_of_ne hr]
  · refine viewInPlace_of_frame (f := f.withGeometry geo) ?_ ?_
    · rw [frames_withMouse, hframes, frames_put_self]
    · exact (h f (hq ▸ hf)).congr (by rw [hq]; rfl) (by rw [hq]; rfl) rfl rfl

theorem bare_of_moved {e : ShellEvent} (hkeep : ¬s.Displaces e q) (hmoved : s.movedView e q) :
    (s.windows q).Bare := by
  by_contra hbare
  exact hkeep (.inr (.inl ⟨hmoved, hbare⟩))

/-- An event of the compositor or the mouse. -/
theorem pointer_viewInPlace {e : PointerEvent} (h : s.ViewInPlace q)
    (hkeep : ¬s.Displaces (.pointer e) q) (hstep : PointerStep s e s') : s'.ViewInPlace q := by
  cases hstep with
  | quiet hother hframes =>
      refine h.congr ?_ rfl rfl
      rw [frames_withMouse, hframes]
  | @focus _ mouse p _ htarget hframes hfocus =>
      have hsame : (s.withMouse mouse).ViewInPlace q := by
        refine h.congr ?_ rfl rfl
        rw [frames_withMouse, hframes]
      exact hsame.refocus hfocus
  | drag box hdragged hf hframes =>
      refine h.place hframes fun hq => ?_
      subst hq
      exact (bare_of_moved hkeep hdragged).setPosition_inPlace rfl rfl
  | @newToplevel xdgSurface mouse hframes =>
      refine h.change (p := s.frames.next) (fun r hr => ?_)
        (fun r hr => windows_setWindow_of_ne hr ..) fun _ g _ => ?_
      · show mouse.frames.frames r = _
        rw [hframes]
        exact Function.update_of_ne hr ..
      · have hfresh : ((s.fwrNewXdgToplevel mouse xdgSurface).windows s.frames.next) = .fresh :=
          windows_setWindow_self ..
        rw [hfresh]
        exact Window.inPlace_of_none rfl
  | @toplevelMap p geo _ _ mouse f surface _ hf hframes hhandle hgeometry hcsd hreadable hfocus =>
      have hgeo := h.withGeometry hf hframes
      refine ViewInPlace.refocus ?_ hfocus
      refine ViewInPlace.setWindow (s := s.withMouse mouse) hgeo fun hq g hg => ?_
      subst hq
      rw [frames_withMouse, hframes, frames_put_self] at hg
      cases hg
      have hbare : (s.windows q).sceneTree = none → (s.windows q).usesSsd = false := by
        intro hnone
        by_contra hssd
        exact hkeep (.inl ⟨rfl, hnone, Bool.not_eq_false _ ▸ hssd⟩)
      have hmapped := Window.setEnabled_inPlace (Window.viewCreateScene_inPlace (h f hf) hbare) true
      exact hmapped.congr rfl rfl rfl rfl
  | @toplevelUnmap p mouse f hf hframes =>
      have hsame : (s.withMouse mouse).ViewInPlace q := by
        refine h.congr ?_ rfl rfl
        rw [frames_withMouse, hframes]
      refine ViewInPlace.setWindow (s := s.withMouse mouse) hsame fun hq g hg => ?_
      subst hq
      have hhidden := Window.setEnabled_inPlace (hsame g hg) false
      exact hhidden.congr rfl rfl rfl rfl
  | toplevelCommit hf hframes => exact h.withGeometry hf hframes
  | toplevelResized hf hframes => exact h.withGeometry hf hframes
  | @toplevelDestroy p mouse f hf hframes =>
      refine h.change (p := p) (fun r hr => ?_) (fun r hr => windows_setWindow_of_ne hr ..)
        fun _ g _ => ?_
      · show mouse.frames.frames r = _
        rw [hframes]
        exact Function.update_of_ne hr ..
      · have hgone : ((s.xdgToplevelDestroy mouse p).windows p).sceneTree = none := by
          unfold xdgToplevelDestroy
          rw [windows_setWindow_self]
        exact Window.inPlace_of_none hgone
  | setPosition hf hframes =>
      exact h.place hframes fun _ => Window.setPosition_inPlace rfl rfl

/-- A key. -/
theorem key_viewInPlace {event : KeyEvent} (h : s.ViewInPlace q)
    (hkeep : ¬s.Displaces (.key event) q) (hstep : KeyStep s event s') : s'.ViewInPlace q := by
  cases hstep with
  | quiet => exact h
  | @raise p f s1 hraised hfocus hf =>
      have hsame := fwrFocusView_refocused hfocus
      refine ViewInPlace.setWindow (h.refocus hfocus) fun hq g hg => ?_
      subst hq
      rw [hsame.frames_eq, hf] at hg
      cases hg
      have hbare : (s1.windows q).Bare := by
        have hold := bare_of_moved hkeep (.inl hraised)
        unfold Window.Bare at hold ⊢
        rw [hsame.sceneTree_eq, hsame.usesSsd_eq]
        exact hold
      exact hbare.setPosition_inPlace rfl rfl
  | @tile p view maximized box htiled hview =>
      refine h.change (p := p) (fun r hr => ?_) (fun r hr => windows_tile_of_ne hr ..) fun hq => ?_
      · rw [frames_tile hview, frames_put_of_ne hr]
      · subst hq
        refine viewInPlace_of_frame (f := view.frame.inBox box) ?_ ?_
        · rw [frames_tile hview, frames_put_self]
        · rw [windows_tile_self]
          have hbare : Window.Bare { s.windows q with maximized } :=
            bare_of_moved hkeep (.inr htiled)
          exact hbare.setPosition_inPlace rfl rfl

/-- A decoration. -/
theorem decoration_viewInPlace {e : ShellEvent} {surface : Nat} (h : s.ViewInPlace q)
    (hkeep : ¬s.Displaces e q) (hview : s.decoratedView e = s.viewOn surface)
    (hstep : DecorationStep s surface s') : s'.ViewInPlace q := by
  cases hstep with
  | quiet => exact h
  | enforce decoration hp hf =>
      refine ViewInPlace.setWindow h fun hq g hg => ?_
      subst hq
      refine Window.ssdWindow_inPlace (h g hg) ?_
      by_cases hnone : (s.windows q).sceneTree = none
      · exact .inl hnone
      · right
        by_contra hssd
        exact hkeep (.inr (.inr ⟨hview.trans hp, hnone, Bool.not_eq_true _ ▸ hssd⟩))

/-! ## §4. What puts a node in place. -/

/-- Every view of the list has its node in place afterwards, and no view loses its place. -/
theorem updateScenePositions_inPlace (ps : List Ptr) : ∀ {s s' : Shell},
    s.updateScenePositions ps = .ok s' → q ∈ ps ∨ s.ViewInPlace q → s'.ViewInPlace q := by
  induction ps with
  | nil =>
      intro s s' h hq
      cases h
      exact hq.resolve_left List.not_mem_nil
  | cons p ps ih =>
      intro s s' h hq
      rw [updateScenePositions, except_bind_eq_ok] at h
      obtain ⟨view, hview, h⟩ := h
      refine ih h ?_
      -- the first of the list is in place now, the others as before
      have hfirst : (s.setNode p view.x (view.y + (s.windows p).titlebarOffset)).ViewInPlace p := by
        refine viewInPlace_of_frame (frame_of_view hview) ?_
        unfold setNode
        rw [windows_setWindow_self]
        exact Window.setPosition_inPlace rfl rfl
      by_cases hqp : q = p
      · right
        rw [hqp]
        exact hfirst
      · rcases hq with hmem | hplace
        · exact .inl ((List.mem_cons.mp hmem).resolve_left hqp)
        · exact .inr (hplace.setWindow fun heq => absurd heq hqp)

theorem setPosition_viewInPlace {surfaceHandle : UInt32} {x y : Int} {layout : OutputLayout}
    (hget : s.frames.views.get surfaceHandle = some q)
    (h : s.pointerEvent c (.compositor (.setPosition surfaceHandle x y layout)) = .ok s') :
    s'.ViewInPlace q := by
  rw [pointerEvent, except_bind_eq_ok] at h
  obtain ⟨⟨mouse, calls⟩, hmouse, h⟩ := h
  obtain ⟨hreframed, rfl⟩ := compositorEvent_reframed hmouse
  rw [except_bind_eq_ok] at h
  obtain ⟨s1, hwindow, h⟩ := h
  cases h
  generalize hframes : mouse.frames = w at hreframed
  cases hreframed with
  | unchanged hother => cases hother
  | setPositionGone hgone => cases hgone.symm.trans hget
  | @setPosition _ _ _ _ p f hget' hf =>
      obtain rfl : p = q := Option.some.inj (hget'.symm.trans hget)
      have hviews : mouse.compositor.views = s.frames.views := congrArg WindowFrames.views hframes
      rw [windowEvent, fwrHandleSurfaceSetPosition, hviews, hget] at hwindow
      obtain ⟨view, hview, hwindow⟩ := except_bind_eq_ok.mp hwindow
      cases hwindow
      have hplaced : (s.withMouse mouse).frames.frames p = some view.frame := frame_of_view hview
      refine viewInPlace_of_frame hplaced ?_
      unfold setNode
      rw [windows_setWindow_self]
      exact Window.setPosition_inPlace rfl rfl

/-- **An event that restores a view puts its node in place**, from wherever it was. -/
theorem handle_restores {e : ShellEvent} (hrestores : s.restores e q = true)
    (h : s.handle c e = .ok s') : s'.ViewInPlace q := by
  unfold restores at hrestores
  split at hrestores
  next => exact setPosition_viewInPlace (of_decide_eq_true hrestores) h
  next => exact updateScenePositions_inPlace _ h (.inl (of_decide_eq_true hrestores))
  next => cases hrestores

/-! ## §5. Runs. -/

theorem retitled_viewInPlace (h : s.ViewInPlace q) (hstep : Retitled s p s') :
    s'.ViewInPlace q := by
  obtain ⟨title, appId, f, -, rfl⟩ := hstep
  have hset : (s.setWindow p { s.windows p with title, appId }).ViewInPlace q := by
    refine h.setWindow fun hq g hg => ?_
    subst hq
    exact (h g hg).congr rfl rfl rfl rfl
  exact hset.congr rfl rfl rfl

/-- **A view in place stays so** with every event that does not displace it. -/
theorem handle_viewInPlace {e : ShellEvent} (h : s.ViewInPlace q) (hkeep : ¬s.Displaces e q)
    (hstep : s.handle c e = .ok s') : s'.ViewInPlace q := by
  cases e with
  | pointer e => exact pointer_viewInPlace h hkeep (pointerEvent_step hstep)
  | setTitle p title => exact retitled_viewInPlace h (xdgToplevelSetTitle_ok hstep)
  | setAppId p appId => exact retitled_viewInPlace h (xdgToplevelSetAppId_ok hstep)
  | key event => exact key_viewInPlace h hkeep (keyboardHandleKey_step hstep)
  | surfaceFocus args =>
      rcases focusHandle_ok hstep with ⟨-, rfl⟩ | ⟨p, -, hfocus⟩
      · exact h
      · exact h.refocus hfocus
  | surfaceKeyboardKey args =>
      rcases focusHandle_ok hstep with ⟨-, rfl⟩ | ⟨p, -, hfocus⟩
      · exact h
      · exact h.refocus hfocus
  | toplevelSetMaximized args =>
      cases hstep
      unfold fwrHandleSurfaceToplevelSetMaximized
      split
      · exact h
      · split
        · exact h
        · refine ViewInPlace.setWindow h fun hq g hg => ?_
          subst hq
          exact (h g hg).congr rfl rfl rfl rfl
  | newToplevelDecoration xdgSurface decoration =>
      exact decoration_viewInPlace h hkeep rfl (handleNewToplevelDecoration_step hstep)
  | newServerDecoration surface =>
      exact decoration_viewInPlace h hkeep rfl (handleNewServerDecoration_step hstep)
  | decorationDestroy p =>
      cases hstep
      refine ViewInPlace.setWindow h fun hq g hg => ?_
      subst hq
      exact (h g hg).congr rfl rfl rfl rfl
  | outputFrame => exact updateScenePositions_inPlace _ hstep (.inr h)
  | surfaceSize | surfaceClearFocus | xdgSurfaceDestroy | surfaceDestroy | deliver =>
      cases hstep
      exact h

/-- The desktop with the views that are displaced. -/
abbrev displacedShell (c : Target) : Machine (Watched Shell (Ptr → Bool)) ShellEvent :=
  (shell c).watch (fun _ => false) noteDisplaced

/-- **The node of a view is where the window is drawn** in every state of every run in which the view
    is not displaced: no event has forgotten its titlebar, or added one below the node, since the
    last one that put the node in place. -/
theorem reach_viewInPlace {w : Watched Shell (Ptr → Bool)} (h : (displacedShell c).Reachable w)
    (hq : w.note q = false) : w.state.ViewInPlace q := by
  have hinv : ∀ q, w.note q = false → w.state.ViewInPlace q := by
    refine h.invariant (P := fun w => ∀ q, w.note q = false → w.state.ViewInPlace q) ?_ ?_
    · intro q _ f hf
      cases hf
    · intro w e w' hw _ hstep q hq
      obtain ⟨hshell, hnote⟩ := Machine.watch_step.mp hstep
      obtain ⟨-, hhandle⟩ := shell_step.mp hshell
      have hcases : ¬w.state.Displaces e q ∧
          (w.note q && !w.state.restores e q) = false := by
        rw [hnote, noteDisplaced] at hq
        split at hq
        next => cases hq
        next hkeep => exact ⟨hkeep, hq⟩
      cases hrestores : w.state.restores e q with
      | true => exact handle_restores hrestores hhandle
      | false =>
          rw [hrestores, Bool.not_false, Bool.and_true] at hcases
          exact handle_viewInPlace (hw q hcases.2) hcases.1 hhandle
  exact hinv q hq

/-- A window gets a titlebar while it is shown, is moved by Dart, and is drawn in a frame. -/
theorem reach_viewInPlace_decorated : ∃ w, (displacedShell .still).Reachable w ∧
    w.state.ViewInPlace 0 ∧ w.note 0 = false ∧ (w.state.windows 0).usesSsd = true ∧
    (w.state.windows 0).sceneTree = some ⟨100, 238, true⟩ := by
  have hrun : (((displacedShell .still).exec ⟨init, fun _ => false⟩
      (newWindow 0 7 ++ [.newServerDecoration 7,
        .pointer (.compositor (.setPosition 1 100 200 (fun _ _ => none))), .outputFrame])).map
      fun w => (w.note 0, (w.state.windows 0).usesSsd, (w.state.windows 0).sceneTree)) =
      some (false, true, some ⟨100, 238, true⟩) := by decide +kernel
  obtain ⟨w, hw, hend⟩ := Option.map_eq_some_iff.mp hrun
  have hreach : (displacedShell .still).Reachable w := Machine.reach_exec _ .init hw
  simp only [Prod.mk.injEq] at hend
  exact ⟨w, hreach, reach_viewInPlace hreach hend.1, hend⟩

/-- **A window with a titlebar mapped**: its node is 38 pixels too high. -/
theorem not_inPlace_mapped : ¬∀ s, (shell .still).Reachable s → s.InPlace := by
  intro h
  have hrun : (((shell .still).exec init
      [.pointer (.compositor (.newToplevel 7)), .newServerDecoration 7,
        .pointer (.compositor (.toplevelMap 0 ⟨0, 0, 640, 480⟩ (fun _ _ => none) true))]).map
      fun s => ((s.frames.frames 0).map fun f => (f.x, f.y), (s.windows 0).usesSsd,
        (s.windows 0).sceneTree)) =
      some (some (82, 82), true, some ⟨82, 82, true⟩) := by decide +kernel
  obtain ⟨s, hs, hend⟩ := Option.map_eq_some_iff.mp hrun
  simp only [Prod.mk.injEq] at hend
  obtain ⟨hframe, hssd, htree⟩ := hend
  obtain ⟨f, hf, hplace⟩ := Option.map_eq_some_iff.mp hframe
  have hnode := (h s (Machine.reach_exec _ .init hs) 0 f hf ⟨82, 82, true⟩ htree).2
  have hy : f.y = 82 := congrArg Prod.snd hplace
  rw [Window.titlebarOffset, hssd, if_pos rfl, hy] at hnode
  cases hnode

end Shell

end FlutterWlroots.Desktop
