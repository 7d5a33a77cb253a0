/-
  FlutterWlroots.Desktop.AltTab — what Alt+Tab finds.

  With a focused view the search goes around the whole list (WindowCycle).  Without one, that is when
  nothing was ever focused or the focused view is gone, only the head of the list is looked at, which
  is the newest window, mapped or not.

    • `reach_listed` — every view that has a handle is in the list,
    • `altTab_iff`   — when Alt+Tab comes to a window.
-/
import FlutterWlroots.Desktop.WindowCycle

namespace FlutterWlroots.Desktop

open Lib Lib.StateRun FlutterWlroots.Compositor FlutterWlroots.Input

/-! ## §1. The list of the views. -/

/-- The list has all views that a handle leads to, and only views that are there. -/
structure Listed (w : WindowFrames) : Prop where
  nodup : w.viewsList.Nodup
  live : ∀ p ∈ w.viewsList, ∃ f, w.frames p = some f
  mapped : ∀ handle p, w.views.get handle = some p →
    p ∈ w.viewsList ∧ ∃ f, w.frames p = some f ∧ f.handle = handle

namespace Listed

variable {w : WindowFrames} {p : Ptr} {f g : ViewFrame}

theorem create (h : Listed w) (hnext : w.frames w.next = none) (xdgSurface : Nat) :
    Listed (w.create xdgSurface) := by
  have hne : ∀ q f, w.frames q = some f → q ≠ w.next := by
    rintro q f hf rfl
    rw [hnext] at hf
    cases hf
  refine ⟨List.nodup_cons.mpr ⟨fun hmem => ?_, h.nodup⟩, fun q hq => ?_, fun handle q hq => ?_⟩
  · obtain ⟨f, hf⟩ := h.live _ hmem
    exact hne _ f hf rfl
  · rcases List.mem_cons.mp hq with rfl | hq
    · exact ⟨_, Function.update_self ..⟩
    · obtain ⟨f, hf⟩ := h.live q hq
      exact ⟨f, (Function.update_of_ne (hne q f hf) ..).trans hf⟩
  · rcases HandleMap.get_add hq with ⟨rfl, rfl⟩ | hq
    · exact ⟨List.mem_cons_self .., _, Function.update_self .., rfl⟩
    · obtain ⟨hmem, f, hf, hhandle⟩ := h.mapped handle q hq
      exact ⟨List.mem_cons_of_mem _ hmem, f, (Function.update_of_ne (hne q f hf) ..).trans hf,
        hhandle⟩

theorem put (h : Listed w) (hf : w.frames p = some f) (hhandle : g.handle = f.handle) :
    Listed (w.put p g) := by
  have hput : ∀ q k, w.frames q = some k → ∃ k', (w.put p g).frames q = some k' ∧
      k'.handle = k.handle := by
    intro q k hk
    by_cases hq : q = p
    · subst hq
      rw [hf] at hk
      cases hk
      exact ⟨g, Function.update_self .., hhandle⟩
    · exact ⟨k, (Function.update_of_ne hq ..).trans hk, rfl⟩
  refine ⟨h.nodup, fun q hq => ?_, fun handle q hq => ?_⟩
  · obtain ⟨k, hk⟩ := h.live q hq
    obtain ⟨k', hk', -⟩ := hput q k hk
    exact ⟨k', hk'⟩
  · obtain ⟨hmem, k, hk, rfl⟩ := h.mapped handle q hq
    exact ⟨hmem, hput q k hk⟩

theorem destroy (h : Listed w) (hf : w.frames p = some f) : Listed (w.destroy p f.handle) := by
  have hkept : ∀ q, q ≠ p → (w.destroy p f.handle).frames q = w.frames q :=
    fun q hq => Function.update_of_ne hq ..
  refine ⟨h.nodup.erase p, fun q hq => ?_, fun handle q hq => ?_⟩
  · obtain ⟨hne, hmem⟩ := (List.Nodup.mem_erase_iff h.nodup).mp hq
    rw [hkept q hne]
    exact h.live q hmem
  · obtain ⟨hne, hq⟩ := HandleMap.get_remove hq
    obtain ⟨hmem, k, hk, rfl⟩ := h.mapped handle q hq
    -- another handle leads to another view, since the views know their handles
    have hother : q ≠ p := by
      rintro rfl
      rw [hf] at hk
      cases hk
      exact hne rfl
    exact ⟨(List.Nodup.mem_erase_iff h.nodup).mpr ⟨hother, hmem⟩, k, (hkept q hother).trans hk, rfl⟩

theorem init : Listed Shell.init.frames :=
  ⟨.nil, nofun, fun _ _ h => nomatch (HandleMap.get_new _).symm.trans h⟩

end Listed

namespace Shell

variable {c : Target} {s s' : Shell}

theorem frames_next (s : Shell) : s.frames.frames s.frames.next = none := Instance.frame_next _

/-- The frames are those of the mouse. -/
theorem listed_of_mouse {w : WindowFrames} {mouse : InputInstance} (hmouse : s'.mouse = mouse)
    (hframes : mouse.frames = w) (h : Listed w) : Listed s'.frames := by
  subst hmouse hframes
  exact h

theorem listed_pointer {e : PointerEvent} (h : Listed s.frames) (hstep : PointerStep s e s') :
    Listed s'.frames := by
  cases hstep with
  | quiet hother hframes => exact listed_of_mouse rfl hframes h
  | focus htarget hframes hfocus =>
      rw [(fwrFocusView_refocused hfocus).frames_eq]
      exact listed_of_mouse rfl hframes h
  | drag box hdragged hf hframes => exact listed_of_mouse rfl hframes (h.put hf rfl)
  | newToplevel hframes => exact listed_of_mouse rfl hframes (h.create s.frames_next _)
  | toplevelMap hf hframes hhandle hgeometry hcsd hreadable hfocus =>
      rw [(fwrFocusView_refocused hfocus).frames_eq]
      exact listed_of_mouse rfl hframes (h.put hf rfl)
  | toplevelUnmap hf hframes => exact listed_of_mouse rfl hframes h
  | toplevelCommit hf hframes hsame => exact listed_of_mouse rfl hframes (h.put hf rfl)
  | toplevelResized hf hframes hchanged => exact listed_of_mouse rfl hframes (h.put hf rfl)
  | toplevelDestroy hf hframes => exact listed_of_mouse rfl hframes (h.destroy hf)
  | setPosition hf hframes => exact listed_of_mouse rfl hframes (h.put hf rfl)

theorem listed_key {event : KeyEvent} (h : Listed s.frames) (hstep : KeyStep s event s') :
    Listed s'.frames := by
  cases hstep with
  | quiet => exact h
  | raise hraised hfocus hf => exact (fwrFocusView_refocused hfocus).frames_eq ▸ h
  | tile maximized box htiled hview =>
      rw [frames_tile hview]
      exact h.put (frame_of_view hview) rfl

theorem listed_decoration {surface : Nat} (h : Listed s.frames)
    (hstep : DecorationStep s surface s') : Listed s'.frames := by
  cases hstep with
  | quiet => exact h
  | enforce decoration hp hf => exact h

theorem listed_retitled {p : Ptr} (h : Listed s.frames) (hstep : Retitled s p s') :
    Listed s'.frames := by
  obtain ⟨title, appId, f, -, rfl⟩ := hstep
  exact h

theorem listed_focusHandle {surfaceHandle : Option UInt32} (h : Listed s.frames)
    (hstep : s.focusHandle surfaceHandle = .ok s') : Listed s'.frames := by
  rcases focusHandle_ok hstep with ⟨-, rfl⟩ | ⟨p, -, hfocus⟩
  · exact h
  · exact (fwrFocusView_refocused hfocus).frames_eq ▸ h

/-- **One event.** -/
theorem listed_handle {e : ShellEvent} (h : Listed s.frames) (hstep : s.handle c e = .ok s') :
    Listed s'.frames := by
  cases e with
  | pointer e => exact listed_pointer h (pointerEvent_step hstep)
  | setTitle p title => exact listed_retitled h (xdgToplevelSetTitle_ok hstep)
  | setAppId p appId => exact listed_retitled h (xdgToplevelSetAppId_ok hstep)
  | key event => exact listed_key h (keyboardHandleKey_step hstep)
  | surfaceFocus args => exact listed_focusHandle h hstep
  | surfaceKeyboardKey args => exact listed_focusHandle h hstep
  | toplevelSetMaximized args =>
      cases hstep
      unfold fwrHandleSurfaceToplevelSetMaximized
      split
      next => exact h
      next =>
        split
        next => exact h
        next => exact h
  | newToplevelDecoration xdgSurface decoration =>
      exact listed_decoration h (handleNewToplevelDecoration_step hstep)
  | newServerDecoration surface =>
      exact listed_decoration h (handleNewServerDecoration_step hstep)
  | outputFrame => exact (updateScenePositions_rearranged _ hstep).frames_eq ▸ h
  | surfaceSize | surfaceClearFocus | decorationDestroy | xdgSurfaceDestroy | surfaceDestroy
    | deliver =>
      cases hstep
      exact h

theorem reach_listed (h : (shell c).Reachable s) : Listed s.frames :=
  h.invariant (P := fun s => Listed s.frames) .init fun _ _ _ hs _ hstep =>
    listed_handle hs (shell_step.mp hstep).2

/-! ## §2. Alt+Tab. -/

/-- A window is shown. -/
def SomeShown (s : Shell) : Prop := ∃ p ∈ s.frames.viewsList, (s.windows p).isShown = true

/-- Alt+Tab focuses a window that is shown. -/
def FindsWindow (s : Shell) (event : KeyEvent) : Prop :=
  ∃ p, s.nextWindow event.shift = some p ∧ (s.windows p).isShown = true
    ∧ s.keyboardHandleKey event = s.focusViewAndRaise p

/-- The search of the desktop is the one over the links. -/
theorem getNextMappedView_links {viewsList : CircularList Ptr} {fuel : Nat} {start : Ptr}
    (h : viewsList.Holds s.frames.viewsList) (hstart : start ∈ s.frames.viewsList)
    (hfuel : s.frames.viewsList.length ≤ fuel) (reverse : Bool) :
    FlutterWlroots.Desktop.getNextMappedView viewsList s.windows fuel start reverse
      = some (s.getNextMappedView start reverse) :=
  getNextMappedView_around h hstart hfuel reverse

/-- From a view in the list, a window is found if there is one. -/
theorem getNextMappedView_of_shown {start : Ptr} (h : Listed s.frames)
    (hstart : start ∈ s.frames.viewsList) (hshown : s.SomeShown) (reverse : Bool) :
    ∃ p, s.getNextMappedView start reverse = some p ∧ (s.windows p).isShown = true := by
  have hnodup : (directed s.frames.viewsList reverse).Nodup :=
    directed_nodup (CircularList.holds_ofList h.nodup) reverse
  cases hfound : s.getNextMappedView start reverse with
  | none =>
      obtain ⟨p, hp, hshown⟩ := hshown
      have hhidden := (CircularList.nextAround_eq_none_iff hnodup (mem_directed.mpr hstart)).mp hfound
        p (mem_directed.mpr hp)
      rw [hshown] at hhidden
      cases hhidden
  | some p =>
      have hp := List.find?_some hfound
      exact ⟨p, rfl, hp⟩

/-- The head of the list is shown. -/
def HeadShown (s : Shell) : Prop :=
  ∃ p, s.frames.viewsList.head? = some p ∧ (s.windows p).isShown = true

theorem nextWindow_of_focused {focused : Ptr} (h : s.getFocusedView = some focused) (shift : Bool) :
    s.nextWindow shift = s.getNextMappedView focused shift := by
  rw [nextWindow, h]

theorem nextWindow_of_not_focused (h : s.getFocusedView = none) (shift : Bool) :
    s.nextWindow shift = s.frames.viewsList.head?.filter fun p => (s.windows p).isShown := by
  rw [nextWindow, h]

theorem mem_of_focused {focused : Ptr} (h : Listed s.frames)
    (hfocused : s.getFocusedView = some focused) : focused ∈ s.frames.viewsList := by
  unfold getFocusedView at hfocused
  split at hfocused
  next => cases hfocused
  next => exact (h.mapped _ _ hfocused).1

/-- **When Alt+Tab comes to a window that is shown**: if there is a focused view, or the newest window is
    shown itself, or none is. -/
theorem altTab_iff (c : Target) (s : Shell) (event : KeyEvent) (hs : (shell c).Reachable s)
    (hevent : event.pressed ∧ event.alt ∧ event.sym = .tab) :
    (s.SomeShown → s.FindsWindow event) ↔
      s.getFocusedView.isSome ∨ s.HeadShown ∨ ¬ s.SomeShown := by
  have hlisted := reach_listed hs
  have hkey : ∀ p, s.nextWindow event.shift = some p →
      s.keyboardHandleKey event = s.focusViewAndRaise p := by
    intro p hp
    rw [keyboardHandleKey, if_pos hevent, hp]
  cases hfocused : s.getFocusedView with
  | some focused =>
      refine iff_of_true (fun hshown => ?_) (.inl rfl)
      obtain ⟨p, hp, hpshown⟩ := getNextMappedView_of_shown hlisted (mem_of_focused hlisted hfocused)
        hshown event.shift
      have hnext := (nextWindow_of_focused hfocused event.shift).trans hp
      exact ⟨p, hnext, hpshown, hkey p hnext⟩
  | none =>
      have hnext := nextWindow_of_not_focused hfocused event.shift
      constructor
      · intro hfinds
        by_cases hshown : s.SomeShown
        · obtain ⟨p, hp, hpshown, -⟩ := hfinds hshown
          obtain ⟨hhead, -⟩ := Option.filter_eq_some_iff.mp (hnext.symm.trans hp)
          exact .inr (.inl ⟨p, hhead, hpshown⟩)
        · exact .inr (.inr hshown)
      · rintro (hsome | ⟨p, hhead, hpshown⟩ | hnone) hshown
        · cases hsome
        · have hp := hnext.trans (Option.filter_eq_some_iff.mpr ⟨hhead, hpshown⟩)
          exact ⟨p, hp, hpshown, hkey p hp⟩
        · exact absurd hshown hnone

/-- Alt and Tab pressed, with Shift or without. -/
def altTab (shift : Bool) : KeyEvent := ⟨true, true, shift, false, .tab, 0, 0⟩

/-- Two windows, with the focus on the second. -/
theorem altTab_iff_two : ∃ s, (shell .still).Reachable s ∧ s.SomeShown ∧ s.getFocusedView = some 1 ∧
    ((s.SomeShown → s.FindsWindow (altTab true)) ↔
      s.getFocusedView.isSome ∨ s.HeadShown ∨ ¬ s.SomeShown) := by
  have hrun : (((shell .still).exec init (newWindow 0 7 ++ newWindow 1 9)).map fun s =>
      (s.frames.viewsList, (s.windows 0).isShown, s.getFocusedView)) = some ([1, 0], true, some 1) := by
    decide +kernel
  obtain ⟨s, hs, hend⟩ := Option.map_eq_some_iff.mp hrun
  simp only [Prod.mk.injEq] at hend
  obtain ⟨hlist, hshown, hfocused⟩ := hend
  have hreach := Machine.reach_exec _ .init hs
  exact ⟨s, hreach, ⟨0, by rw [hlist]; decide, hshown⟩, hfocused,
    altTab_iff .still s (altTab true) hreach ⟨rfl, rfl, rfl⟩⟩

/-- **The focused window is closed and a new one is not mapped yet**: Alt+Tab does not come to the
    window that is there. -/
theorem altTab_misses : ∃ s, (shell .still).Reachable s ∧ s.SomeShown ∧
    ∀ shift, ¬ s.FindsWindow (altTab shift) := by
  have hrun : (((shell .still).exec init (newWindow 0 7 ++ newWindow 1 9 ++
      [.pointer (.compositor (.toplevelUnmap 1)), .pointer (.compositor (.toplevelDestroy 1)),
        .pointer (.compositor (.newToplevel 11))])).map fun s =>
      (s.frames.viewsList, (s.windows 0).isShown, s.nextWindow false, s.nextWindow true)) =
      some ([2, 0], true, none, none) := by decide +kernel
  obtain ⟨s, hs, hend⟩ := Option.map_eq_some_iff.mp hrun
  simp only [Prod.mk.injEq] at hend
  obtain ⟨hlist, hshown, hforwards, hbackwards⟩ := hend
  refine ⟨s, Machine.reach_exec _ .init hs, ⟨0, by rw [hlist]; decide, hshown⟩, ?_⟩
  rintro shift ⟨p, hp, -⟩
  cases shift with
  | false => cases hforwards.symm.trans hp
  | true => cases hbackwards.symm.trans hp

end Shell

end FlutterWlroots.Desktop
