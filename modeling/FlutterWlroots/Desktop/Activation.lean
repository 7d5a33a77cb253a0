/-
  FlutterWlroots.Desktop.Activation — which window is activated.

  `fwr_focus_view` deactivates the window on the surface that has the keyboard focus, and activates
  the one that gets it.  That keeps at most one window activated as long as the focus is not taken
  away in between: `surface_clear_focus` clears the focus of the seat but not the flag, and the next
  window to get the focus is then activated beside the old one.

    • `reach_oneActivated`     — at most one window is activated while no window gets the focus from
                                 nobody beside another that is still activated,
    • `not_oneActivated_cleared` — focus cleared and given to another window.
-/
import FlutterWlroots.Desktop.ShellSteps
import FlutterWlroots.Lib.FocusHandover

namespace FlutterWlroots.Desktop

open Lib Lib.CInt Lib.StateRun FlutterWlroots.Compositor FlutterWlroots.Input
open FlutterWlroots.Messages
open FlutterWlroots.StandardMessageCodec (DartValue)

namespace Shell

/-! ## §1. The property. -/

/-- At most one view is activated, and if a toplevel has the keyboard focus of the seat, only that
    one may be. -/
def OneActivated (s : Shell) : Prop :=
  ∀ p f, s.frames.frames p = some f → (s.windows p).activated = true →
    ∀ q g, s.frames.frames q = some g →
      ((s.windows q).activated = true ∨ s.focusedSurface = some g.xdgSurface) → q = p

/-- The view that an event gives the focus to. -/
def focusTarget (s : Shell) : ShellEvent → Option Ptr
  | .pointer (.compositor (.toplevelMap p ..)) => some p
  | .pointer e => s.mouse.focusTarget e
  | .key event => s.raisedView event
  | .surfaceFocus args =>
      (decodeSurfaceToplevelCloseMessage args).bind s.mouse.compositor.views.get
  | .surfaceKeyboardKey args =>
      ((decodeSurfaceKeyboardKeyMessage args).map (·.surfaceHandle)).bind
        s.mouse.compositor.views.get
  | _ => none

/-- A window that gets the focus from nobody is the only one that may be activated. -/
def KeepsOne (s : Shell) (e : ShellEvent) : Prop :=
  s.focusedSurface = none → ∀ p ∈ s.focusTarget e,
    s.mouse.compositor.viewObjects.ForallAt fun q _ => (s.windows q).activated = true → q = p

instance (s : Shell) (e : ShellEvent) : Decidable (s.KeepsOne e) :=
  inferInstanceAs (Decidable (_ → ∀ p ∈ s.focusTarget e, _))

/-! ## §2. The focus of the desktop. -/

/-- The views on their surfaces, with the focus of the seat. -/
def focus (s : Shell) : FocusState Ptr Nat where
  placeOf p := (s.frames.frames p).map (·.xdgSurface)
  active p := (s.windows p).activated
  memberOn := s.viewOf
  focused := s.focusedSurface

variable {c : Target} {s s' s1 : Shell} {p : Ptr} {f : ViewFrame} {mouse : InputInstance}

theorem placeOf_of_frame (h : s.frames.frames p = some f) :
    s.focus.placeOf p = some f.xdgSurface := by
  show (s.frames.frames p).map _ = _
  rw [h]
  rfl

theorem frame_of_placeOf {x : Nat} (h : s.focus.placeOf p = some x) :
    ∃ f, s.frames.frames p = some f ∧ f.xdgSurface = x := Option.map_eq_some_iff.mp h

theorem oneActivated_of_exclusive (h : s.focus.Exclusive) : s.OneActivated := by
  intro p f hf hactive q g hg hq
  rcases hq with hactive' | hfocus
  · exact h.unique q p _ _ (placeOf_of_frame hg) (placeOf_of_frame hf) hactive' hactive
  · exact h.eq_of_focused (placeOf_of_frame hf) hactive hfocus (placeOf_of_frame hg)

theorem focus_congr
    (hplaces : ∀ q, (s'.frames.frames q).map (·.xdgSurface) =
      (s.frames.frames q).map (·.xdgSurface))
    (hactive : ∀ q, (s'.windows q).activated = (s.windows q).activated)
    (hviewOf : s'.viewOf = s.viewOf) (hfocused : s'.focusedSurface = s.focusedSurface) :
    s'.focus = s.focus := by
  unfold focus
  rw [funext hplaces, funext hactive, hviewOf, hfocused]

theorem focus_same (hframes : mouse.frames = s.frames) : (s.withMouse mouse).focus = s.focus :=
  focus_congr (fun _ => by rw [frames_withMouse, hframes]) (fun _ => rfl) rfl rfl

/-- A view keeps its surface, whatever its frame is. -/
theorem focus_put {g : ViewFrame} (hf : s.frames.frames p = some f)
    (hsurface : g.xdgSurface = f.xdgSurface) (hframes : s'.frames = s.frames.put p g)
    (hactive : ∀ q, (s'.windows q).activated = (s.windows q).activated)
    (hviewOf : s'.viewOf = s.viewOf) (hfocused : s'.focusedSurface = s.focusedSurface) :
    s'.focus = s.focus := by
  refine focus_congr (fun q => ?_) hactive hviewOf hfocused
  rw [hframes]
  exact congrFun (framePart_put hf hsurface) q

theorem focus_withMouse {g : ViewFrame} (hf : s.frames.frames p = some f)
    (hsurface : g.xdgSurface = f.xdgSurface) (hframes : mouse.frames = s.frames.put p g) :
    (s.withMouse mouse).focus = s.focus :=
  focus_put hf hsurface hframes (fun _ => rfl) rfl rfl

theorem focus_setWindow {w : Window} (hactive : w.activated = (s.windows p).activated) :
    (s.setWindow p w).focus = s.focus := by
  have hfields := windowField_setWindow (·.activated) s p w
  rw [hactive, Function.update_eq_self] at hfields
  exact focus_congr (fun _ => rfl) (congrFun hfields) rfl rfl

theorem focus_rearranged (h : Rearranged s s') : s'.focus = s.focus :=
  focus_congr (fun q => by rw [h.frames_eq]) h.activated_eq h.viewOf h.focusedSurface

theorem focus_send (s : Shell) (m : Message) : (s.send m).focus = s.focus := rfl

theorem mapWindow_activated (w : Window) (f : ViewFrame) :
    (mapWindow w f).activated = w.activated := by
  unfold mapWindow Window.viewCreateScene
  split <;> rfl

/-- The focus handed over in the sense of the library. -/
theorem fwrFocusView_focus (h : s.fwrFocusView p = .ok s') :
    s'.focus = s.focus ∨ ∃ x, s.focus.placeOf p = some x ∧ s'.focus = s.focus.give p x := by
  obtain ⟨f, hf, ⟨-, rfl⟩ | ⟨-, -, rfl⟩⟩ := fwrFocusView_ok h
  · exact .inl rfl
  · refine .inr ⟨f.xdgSurface, placeOf_of_frame hf, ?_⟩
    have hreleased : ∀ q, (s.unfocused q).activated = s.focus.released q := by
      intro q
      unfold unfocused
      cases hprevious : s.previous with
      | none =>
          rw [FocusState.released_of_holder_none (show s.focus.holder = none from hprevious)]
          rfl
      | some r =>
          rw [FocusState.released_of_holder (show s.focus.holder = some r from hprevious)]
          show (Function.update s.windows r _ q).activated = _
          by_cases hq : q = r
          · rw [hq, Function.update_self, Function.update_self]
          · rw [Function.update_of_ne hq, Function.update_of_ne hq]
            rfl
    unfold FocusState.give
    show FocusState.mk _ _ _ _ = FocusState.mk _ _ _ _
    congr 1
    funext q
    show (s.focusedOn p q).activated = Function.update s.focus.released p true q
    unfold focusedOn
    by_cases hq : q = p
    · rw [hq, Function.update_self, Function.update_self]
    · rw [Function.update_of_ne hq, Function.update_of_ne hq]
      exact hreleased q

/-! ## §3. One event. -/

/-- Nobody else is activated where the focus comes from nobody. -/
theorem exclusive_fwrFocusView (h : s.focus.Exclusive)
    (hsafe : s.focusedSurface = none → ∀ q g, s.frames.frames q = some g →
      (s.windows q).activated = true → q = p) (hstep : s.fwrFocusView p = .ok s') :
    s'.focus.Exclusive := by
  rcases fwrFocusView_focus hstep with hsame | ⟨x, hx, hgive⟩
  · rw [hsame]
    exact h
  · rw [hgive]
    refine h.give hx fun hnone q y hq hactive => ?_
    obtain ⟨g, hg, -⟩ := frame_of_placeOf hq
    exact hsafe hnone q g hg hactive

theorem safe_of_keepsOne {e : ShellEvent} (hok : s.KeepsOne e) (htarget : s.focusTarget e = some p)
    (hnone : s.focusedSurface = none) (q : Ptr) (g : ViewFrame)
    (hg : s.frames.frames q = some g) (hactive : (s.windows q).activated = true) : q = p := by
  obtain ⟨view, hview, -⟩ := Instance.view_of_frame hg
  exact hok hnone p htarget q view hview hactive

/-- The focus given by an event that leaves places and flags alone before. -/
theorem exclusive_give {e : ShellEvent} (h : s.focus.Exclusive) (hok : s.KeepsOne e)
    (htarget : s.focusTarget e = some p) (hsame : s1.focus = s.focus)
    (hstep : s1.fwrFocusView p = .ok s') : s'.focus.Exclusive := by
  have hsafe := fun hnone q g hg hactive => safe_of_keepsOne hok htarget hnone q g hg hactive
  refine exclusive_fwrFocusView (hsame ▸ h) (fun hnone q g hg hactive => ?_) hstep
  have hfocused : s1.focusedSurface = s.focusedSurface := congrArg FocusState.focused hsame
  have hflag : (s1.windows q).activated = (s.windows q).activated :=
    congrFun (congrArg FocusState.active hsame) q
  have hplace : s1.focus.placeOf q = s.focus.placeOf q :=
    congrFun (congrArg FocusState.placeOf hsame) q
  rw [placeOf_of_frame hg] at hplace
  obtain ⟨g', hg', -⟩ := frame_of_placeOf hplace.symm
  exact hsafe (hfocused ▸ hnone) q g' hg' (hflag ▸ hactive)

theorem placeOf_ne_of_vacant {x : Nat} (h : s.Vacant x) (q : Ptr) :
    s.focus.placeOf q ≠ some x := by
  intro hq
  obtain ⟨g, hg, hx⟩ := frame_of_placeOf hq
  obtain ⟨view, hview, rfl⟩ := Instance.view_of_frame hg
  exact h q view hview hx

/-- A new toplevel enters on its surface. -/
theorem focus_newToplevel {xdgSurface : Nat}
    (hframes : mouse.frames = s.frames.create xdgSurface) :
    (s.fwrNewXdgToplevel mouse xdgSurface).focus = s.focus.enter s.frames.next xdgSurface := by
  unfold FocusState.enter
  show FocusState.mk _ _ _ _ = FocusState.mk _ _ _ _
  congr 1
  · show (fun q => (mouse.frames.frames q).map (·.xdgSurface)) = _
    rw [hframes, framePart_create]
    rfl
  · exact windowField_setWindow (·.activated) (s.withMouse mouse) s.frames.next .fresh

/-- A toplevel that is destroyed leaves. -/
theorem focus_toplevelDestroy (hframes : mouse.frames = s.frames.destroy p f.handle) :
    (s.xdgToplevelDestroy mouse p).focus = s.focus.leave p := by
  have hwindow : (s.xdgToplevelDestroy mouse p).focus = (s.withMouse mouse).focus :=
    focus_setWindow rfl
  rw [hwindow]
  unfold FocusState.leave
  show FocusState.mk _ _ _ _ = FocusState.mk _ _ _ _
  congr 1
  show (fun q => (mouse.frames.frames q).map (·.xdgSurface)) = _
  rw [hframes, framePart_destroy]
  rfl

theorem exclusive_pointer {e : PointerEvent} (h : s.focus.Exclusive)
    (hok : s.KeepsOne (.pointer e)) (hd : s.Deliverable (.pointer e)) (hstep : PointerStep s e s') :
    s'.focus.Exclusive := by
  cases hstep with
  | quiet hother hframes =>
      rw [focus_same hframes]
      exact h
  | @focus _ mouse p _ htarget hframes hfocus =>
      have htarget' : s.focusTarget (.pointer e) = some p := by
        cases e with
        | compositor e => cases htarget
        | cursorMotion | cursorButton | cursorAxis | surfacePointer | popupPointer | beginMove
          | beginResize | requestMove | requestResize | directInput | popupGrab => exact htarget
      exact exclusive_give h hok htarget' (focus_same hframes) hfocus
  | drag box hdragged hf hframes =>
      rw [focus_rearranged (setNode_rearranged _ _ _ _), focus_withMouse hf (by rfl) hframes]
      exact h
  | @newToplevel xdgSurface mouse hframes =>
      rw [focus_newToplevel hframes]
      exact h.enter (placeOf_ne_of_vacant hd.2)
  | @toplevelMap p _ _ _ mouse f _ _ hf hframes hhandle hgeometry hcsd hreadable hfocus =>
      refine exclusive_give h hok rfl ?_ hfocus
      have hwindow : ((s.withMouse mouse).setWindow p (mapWindow (s.windows p) f)).focus =
          (s.withMouse mouse).focus := focus_setWindow (mapWindow_activated _ _)
      rw [focus_send, hwindow, focus_withMouse hf (by rfl) hframes]
  | @toplevelUnmap p mouse f hf hframes =>
      have hwindow : ((s.withMouse mouse).setWindow p (unmapWindow (s.windows p))).focus =
          (s.withMouse mouse).focus := focus_setWindow rfl
      rw [focus_send, hwindow, focus_same hframes]
      exact h
  | toplevelCommit hf hframes =>
      rw [focus_withMouse hf (by rfl) hframes]
      exact h
  | toplevelResized hf hframes =>
      rw [focus_send, focus_withMouse hf (by rfl) hframes]
      exact h
  | toplevelDestroy hf hframes =>
      rw [focus_toplevelDestroy hframes]
      exact h.leave _
  | setPosition hf hframes =>
      rw [focus_rearranged (setNode_rearranged _ _ _ _), focus_withMouse hf (by rfl) hframes]
      exact h

theorem exclusive_key {event : KeyEvent} (h : s.focus.Exclusive) (hok : s.KeepsOne (.key event))
    (hstep : KeyStep s event s') : s'.focus.Exclusive := by
  cases hstep with
  | quiet => exact h
  | raise hraised hfocus hf =>
      rw [focus_rearranged (setNode_rearranged _ _ _ _)]
      exact exclusive_give h hok hraised rfl hfocus
  | @tile p view maximized box htiled hview =>
      have hsame : (s.tile p view maximized box).focus = s.focus := by
        refine focus_put (frame_of_view hview) (by rfl) (frames_tile hview) (fun q => ?_) rfl rfl
        by_cases hq : q = p
        · rw [hq, windows_tile_self]
          rfl
        · rw [windows_tile_of_ne hq]
      rw [hsame]
      exact h

theorem exclusive_decoration {surface : Nat} (h : s.focus.Exclusive)
    (hstep : DecorationStep s surface s') : s'.focus.Exclusive := by
  cases hstep with
  | quiet => exact h
  | enforce decoration hp hf =>
      rw [focus_send, focus_setWindow (by rfl)]
      exact h

theorem exclusive_retitled (h : s.focus.Exclusive) (hstep : Retitled s p s') :
    s'.focus.Exclusive := by
  obtain ⟨title, appId, f, -, rfl⟩ := hstep
  rw [focus_send, focus_setWindow (by rfl)]
  exact h

theorem exclusive_focusHandle {e : ShellEvent} {surfaceHandle : Option UInt32}
    (h : s.focus.Exclusive) (hok : s.KeepsOne e)
    (htarget : s.focusTarget e = surfaceHandle.bind s.mouse.compositor.views.get)
    (hstep : s.focusHandle surfaceHandle = .ok s') : s'.focus.Exclusive := by
  rcases focusHandle_ok hstep with ⟨-, rfl⟩ | ⟨p, hp, hfocus⟩
  · exact h
  · exact exclusive_give h hok (htarget.trans hp) rfl hfocus

/-- A surface that goes takes the focus with it. -/
theorem exclusive_surfaceGone {x : Nat} {focused : Option Nat} (h : s.focus.Exclusive)
    (hx : s.Vacant x) (hfocused : focused = s.focusedSurface ∨ focused = none) :
    (focus { s with
      viewOf := Function.update s.viewOf x none, focusedSurface := focused }).Exclusive := by
  have hforget := h.forget (placeOf_ne_of_vacant hx)
  rcases hfocused with rfl | rfl
  · exact hforget
  · exact hforget.withdraw

/-- **One event keeps at most one window activated.** -/
theorem handle_exclusive {e : ShellEvent} (h : s.focus.Exclusive) (hok : s.KeepsOne e)
    (hd : s.Deliverable e) (hstep : s.handle c e = .ok s') : s'.focus.Exclusive := by
  cases e with
  | pointer e => exact exclusive_pointer h hok hd (pointerEvent_step hstep)
  | surfaceSize surface width height =>
      cases hstep
      exact h
  | setTitle p title => exact exclusive_retitled h (xdgToplevelSetTitle_ok hstep)
  | setAppId p appId => exact exclusive_retitled h (xdgToplevelSetAppId_ok hstep)
  | key event => exact exclusive_key h hok (keyboardHandleKey_step hstep)
  | surfaceFocus args => exact exclusive_focusHandle h hok rfl hstep
  | surfaceKeyboardKey args => exact exclusive_focusHandle h hok rfl hstep
  | surfaceClearFocus =>
      cases hstep
      exact h.withdraw
  | toplevelSetMaximized args =>
      cases hstep
      unfold fwrHandleSurfaceToplevelSetMaximized
      split
      next => exact h
      next =>
        split
        next => exact h
        next =>
          rw [focus_setWindow (by rfl)]
          exact h
  | newToplevelDecoration xdgSurface decoration =>
      exact exclusive_decoration h (handleNewToplevelDecoration_step hstep)
  | decorationDestroy p =>
      cases hstep
      unfold handleDecorationDestroy
      rw [focus_setWindow (by rfl)]
      exact h
  | newServerDecoration surface =>
      exact exclusive_decoration h (handleNewServerDecoration_step hstep)
  | outputFrame =>
      rw [focus_rearranged (updateScenePositions_rearranged _ hstep)]
      exact h
  | xdgSurfaceDestroy surface =>
      cases hstep
      exact exclusive_surfaceGone h hd (.inl rfl)
  | surfaceDestroy surface =>
      cases hstep
      refine exclusive_surfaceGone h hd ?_
      cases hfocused : s.focusedSurface with
      | none => exact .inr rfl
      | some y =>
          by_cases hy : y = surface
          · exact .inr (by simp [hy])
          · exact .inl (by simp [hy])
  | deliver =>
      cases hstep
      exact h

/-! ## §4. Runs. -/

theorem exclusive_init : (init.focus).Exclusive := by
  have hempty : init.focus = FocusState.empty := by
    unfold focus FocusState.empty
    congr 1
  rw [hempty]
  exact FocusState.exclusive_empty

/-- **At most one activated window** in every run in which the focus is handed over: no window gets
    it from nobody while another is activated. -/
theorem reach_oneActivated (h : (shell c).Reach KeepsOne s) : s.OneActivated := by
  refine oneActivated_of_exclusive ?_
  refine h.invariant (P := fun s => s.focus.Exclusive) exclusive_init fun s e s' hs hok hstep => ?_
  obtain ⟨hd, hhandle⟩ := shell_step.mp hstep
  exact handle_exclusive hs hok hd hhandle

/-- Two windows; Alt+Tab goes back to the first, which gets the focus again after it was cleared. -/
theorem reach_oneActivated_again : ∃ s, (shell .still).Reach KeepsOne s ∧ s.OneActivated ∧
    (s.windows 0).activated = true ∧ (s.windows 1).activated = false ∧
    s.focusedSurface = some 7 := by
  have hrun : (((shell .still).execIf KeepsOne init
      (newWindow 0 7 ++ newWindow 1 9 ++
        [.key ⟨true, true, false, false, .tab, 0, 0⟩, .surfaceClearFocus,
          .surfaceFocus (.dvList 1 [.dvInteger 1])])).map fun s =>
      ((s.windows 0).activated, (s.windows 1).activated, s.focusedSurface)) =
      some (true, false, some 7) := by decide +kernel
  obtain ⟨s, hs, hend⟩ := Option.map_eq_some_iff.mp hrun
  have hreach := Machine.reach_execIf _ .init hs
  simp only [Prod.mk.injEq] at hend
  exact ⟨s, hreach, reach_oneActivated hreach, hend⟩

/-- **The focus cleared and given to another window**, which leaves two windows activated. -/
theorem not_oneActivated_cleared : ¬∀ s, (shell .still).Reachable s → s.OneActivated := by
  intro h
  have hrun : (((shell .still).exec init
      (newWindow 0 7 ++ [.surfaceClearFocus] ++ newWindow 1 9)).map fun s =>
      ((s.windows 0).activated, (s.windows 1).activated, s.frames.frames 0 |>.isSome,
        s.frames.frames 1 |>.isSome)) = some (true, true, true, true) := by decide +kernel
  obtain ⟨s, hs, hend⟩ := Option.map_eq_some_iff.mp hrun
  simp only [Prod.mk.injEq] at hend
  obtain ⟨hactive, hactive', hlive, hlive'⟩ := hend
  obtain ⟨f, hf⟩ := Option.isSome_iff_exists.mp hlive
  obtain ⟨g, hg⟩ := Option.isSome_iff_exists.mp hlive'
  have heq := h s (Machine.reach_exec _ .init hs) 0 f hf hactive 1 g hg (.inl hactive')
  cases heq

end Shell

end FlutterWlroots.Desktop
