/-
  FlutterWlroots.Compositor.OutputFollowing — children follow their window to its output.

  A window hands its output on when a message from Dart moves it to another one, and a popup takes
  it over when it is created.  Nothing is handed on when the window is mapped, when the popup of a
  window without an output finds one for it, or when an output goes or changes its scale; and a
  subsurface is created without an output.  `KeepsInStep` says what is needed of an event for the
  copies to stay in step.

    • `Listed`         — the list of a window has all its subsurfaces, and no others,
    • `InStep.step`    — what one event does,
    • `reach_inStep`   — the runs in which children are in step with their window.
-/
import FlutterWlroots.Compositor.OutputLinks

namespace FlutterWlroots.Compositor

open Lib Lib.CInt Lib.StateRun

/-! ## §1. In step. -/

namespace OutputLinks

/-- The scale is that of the output, 1 without one. -/
def ScaleRight (scales : Ptr → Option Rat) (c : Cached) : Prop :=
  match c.output with
  | none => c.scale = 1
  | some o => scales o = some c.scale

/-- A window and its children are on one output, and its scale is right. -/
structure Follow (l : OutputLinks) (p : Ptr) (c : Cached) : Prop where
  scale : ScaleRight l.scales c
  subsurfaces : ∀ q child, l.subsurfaces q = some child → child.parent = p → child.cached = c
  popups : ∀ q child, l.popups q = some child → child.parent = p → child.cached = c

/-- The list of a view has exactly its subsurfaces. -/
structure Listed (l : OutputLinks) : Prop where
  nodup : ∀ p qs, l.lists p = some qs → qs.Nodup
  mem_iff : ∀ p qs, l.lists p = some qs → ∀ q,
    q ∈ qs ↔ ∃ child, l.subsurfaces q = some child ∧ child.parent = p
  parent : ∀ q child, l.subsurfaces q = some child → child.parent < l.nextView

variable {l l' : OutputLinks} {p q : Ptr} {c : Cached}

/-- Fewer children, on outputs with the same scales. -/
theorem Follow.mono (h : l.Follow p c)
    (hscales : ∀ o, c.output = some o → l'.scales o = l.scales o)
    (hsubs : ∀ q child, l'.subsurfaces q = some child → child.parent = p →
      l.subsurfaces q = some child)
    (hpopups : ∀ q child, l'.popups q = some child → child.parent = p →
      l.popups q = some child) : l'.Follow p c where
  scale := by
    have hscale := h.scale
    unfold ScaleRight at hscale ⊢
    split
    next hnone =>
      rw [hnone] at hscale
      exact hscale
    next o ho =>
      rw [ho] at hscale
      exact (hscales o ho).trans hscale
  subsurfaces := fun q child hq hp => h.subsurfaces q child (hsubs q child hq hp) hp
  popups := fun q child hq hp => h.popups q child (hpopups q child hq hp) hp

theorem ScaleRight.eq_some {scales : Ptr → Option Rat} (h : ScaleRight scales c) {o : Ptr}
    (ho : c.output = some o) : scales o = some c.scale := by
  unfold ScaleRight at h
  rw [ho] at h
  exact h

theorem Listed.congr (h : l.Listed) (hlists : l'.lists = l.lists)
    (hsubs : l'.subsurfaces = l.subsurfaces) (hnext : l'.nextView = l.nextView) : l'.Listed := by
  refine ⟨?_, ?_, ?_⟩
  · rw [hlists]
    exact h.nodup
  · rw [hlists, hsubs]
    exact h.mem_iff
  · rw [hsubs, hnext]
    exact h.parent

/-- A view more, without subsurfaces. -/
theorem Listed.newView (h : l.Listed) (hlists : l'.lists = Function.update l.lists l.nextView (some []))
    (hsubs : l'.subsurfaces = l.subsurfaces) (hnext : l'.nextView = l.nextView + 1) :
    l'.Listed := by
  refine ⟨fun p qs hp => ?_, fun p qs hp q => ?_, fun q child hq => ?_⟩
  · rw [hlists] at hp
    obtain ⟨hne, heq⟩ | ⟨hne, hp⟩ := of_update hp
    · cases heq
      exact .nil
    · exact h.nodup p qs hp
  · rw [hlists] at hp
    rw [hsubs]
    by_cases hne : p = l.nextView
    · -- older subsurfaces have older parents
      rw [hne, Function.update_self] at hp
      cases hp
      refine iff_of_false List.not_mem_nil ?_
      rintro ⟨child, hq, hparent⟩
      have hlt := h.parent q child hq
      rw [hparent, hne] at hlt
      exact Nat.lt_irrefl _ hlt
    · rw [Function.update_of_ne hne] at hp
      exact h.mem_iff p qs hp q
  · rw [hsubs] at hq
    rw [hnext]
    exact Nat.lt_succ_of_lt (h.parent q child hq)

/-- A view less. -/
theorem Listed.viewGone (h : l.Listed) (hlists : l'.lists = Function.update l.lists p none)
    (hsubs : l'.subsurfaces = l.subsurfaces) (hnext : l'.nextView = l.nextView) : l'.Listed := by
  have hold : ∀ r qs, l'.lists r = some qs → l.lists r = some qs := by
    intro r qs hr
    rw [hlists] at hr
    exact (of_update_none hr).2
  refine ⟨fun r qs hr => h.nodup r qs (hold r qs hr), fun r qs hr => ?_, ?_⟩
  · rw [hsubs]
    exact h.mem_iff r qs (hold r qs hr)
  · rw [hsubs, hnext]
    exact h.parent

/-- A subsurface more, at the front of the list of its parent. -/
theorem Listed.newSubsurface (h : l.Listed) {qs : List Ptr} (child : Child)
    (hqs : l.lists child.parent = some qs) (hfresh : l.subsurfaces q = none)
    (hparent : child.parent < l.nextView)
    (hlists : l'.lists = Function.update l.lists child.parent (some (q :: qs)))
    (hsubs : l'.subsurfaces = Function.update l.subsurfaces q (some child))
    (hnext : l'.nextView = l.nextView) : l'.Listed := by
  have hnew : q ∉ qs := by
    intro hmem
    obtain ⟨old, hold, -⟩ := (h.mem_iff _ qs hqs q).mp hmem
    rw [hfresh] at hold
    cases hold
  refine ⟨fun r rs hr => ?_, fun r rs hr u => ?_, fun u old hu => ?_⟩
  · rw [hlists] at hr
    obtain ⟨hne, heq⟩ | ⟨hne, hr⟩ := of_update hr
    · cases heq
      exact List.nodup_cons.mpr ⟨hnew, h.nodup _ qs hqs⟩
    · exact h.nodup r rs hr
  · rw [hlists] at hr
    rw [hsubs]
    by_cases hu : u = q
    · -- the new one is in the list of its parent only
      rw [hu, Function.update_self]
      obtain ⟨hne, heq⟩ | ⟨hne, hr⟩ := of_update hr
      · cases heq
        exact iff_of_true List.mem_cons_self ⟨child, rfl, hne.symm⟩
      · refine iff_of_false (fun hmem => ?_) ?_
        · obtain ⟨old, hold, -⟩ := (h.mem_iff r rs hr q).mp hmem
          rw [hfresh] at hold
          cases hold
        · rintro ⟨_, ⟨⟩, heq⟩
          exact hne heq.symm
    · rw [Function.update_of_ne hu]
      obtain ⟨hne, heq⟩ | ⟨hne, hr⟩ := of_update hr
      · cases heq
        rw [List.mem_cons, hne]
        simp only [hu, false_or]
        exact h.mem_iff _ qs hqs u
      · exact h.mem_iff r rs hr u
  · rw [hsubs] at hu
    rw [hnext]
    obtain ⟨hq, heq⟩ | ⟨hq, hu⟩ := of_update hu
    · cases heq
      exact hparent
    · exact h.parent u old hu

/-- A subsurface less. -/
theorem Listed.subsurfaceGone (h : l.Listed) {qs : List Ptr} (child : Child)
    (hqs : l.lists child.parent = some qs) (hchild : l.subsurfaces q = some child)
    (hlists : l'.lists = Function.update l.lists child.parent (some (qs.erase q)))
    (hsubs : l'.subsurfaces = Function.update l.subsurfaces q none)
    (hnext : l'.nextView = l.nextView) : l'.Listed := by
  refine ⟨fun r rs hr => ?_, fun r rs hr u => ?_, fun u old hu => ?_⟩
  · rw [hlists] at hr
    obtain ⟨hne, heq⟩ | ⟨hne, hr⟩ := of_update hr
    · cases heq
      exact (h.nodup _ qs hqs).erase q
    · exact h.nodup r rs hr
  · rw [hlists] at hr
    rw [hsubs]
    by_cases hu : u = q
    · rw [hu, Function.update_self]
      refine iff_of_false (fun hmem => ?_) (fun ⟨_, hnone, _⟩ => nomatch hnone)
      obtain ⟨hne, heq⟩ | ⟨hne, hr⟩ := of_update hr
      · cases heq
        exact (h.nodup _ qs hqs).not_mem_erase hmem
      · obtain ⟨old, hold, hparent⟩ := (h.mem_iff r rs hr q).mp hmem
        rw [hchild] at hold
        cases hold
        exact hne hparent.symm
    · rw [Function.update_of_ne hu]
      obtain ⟨hne, heq⟩ | ⟨hne, hr⟩ := of_update hr
      · cases heq
        rw [List.mem_erase_of_ne hu, hne]
        exact h.mem_iff _ qs hqs u
      · exact h.mem_iff r rs hr u
  · rw [hsubs] at hu
    rw [hnext]
    obtain ⟨hq, hu⟩ := of_update_none hu
    exact h.parent u old hu

/-- A moved window: its subsurfaces stay its own. -/
theorem Listed.handedOn (h : l.Listed) (p : Ptr) (subsurfaces popups : List Ptr) (c : Cached) :
    (l.handedOn p subsurfaces popups c).Listed := by
  have hsubs : ∀ q child, (l.handedOn p subsurfaces popups c).subsurfaces q = some child →
      ∃ old, l.subsurfaces q = some old ∧ old.parent = child.parent := by
    intro q child hq
    unfold OutputLinks.handedOn at hq
    dsimp only at hq
    split at hq
    · obtain ⟨old, hold, rfl⟩ := Option.map_eq_some_iff.mp hq
      exact ⟨old, hold, rfl⟩
    · exact ⟨child, hq, rfl⟩
  have hsubs' : ∀ q old, l.subsurfaces q = some old →
      ∃ child, (l.handedOn p subsurfaces popups c).subsurfaces q = some child ∧
        child.parent = old.parent := by
    intro q old hq
    unfold OutputLinks.handedOn
    dsimp only
    split
    · rw [hq]
      exact ⟨old.handed c, rfl, rfl⟩
    · exact ⟨old, hq, rfl⟩
  refine ⟨h.nodup, fun r rs hr u => (h.mem_iff r rs hr u).trans ⟨?_, ?_⟩, fun u child hu => ?_⟩
  · rintro ⟨old, hold, hparent⟩
    obtain ⟨child, hchild, heq⟩ := hsubs' u old hold
    exact ⟨child, hchild, heq.trans hparent⟩
  · rintro ⟨child, hchild, hparent⟩
    obtain ⟨old, hold, heq⟩ := hsubs u child hchild
    exact ⟨old, hold, heq.trans hparent⟩
  · obtain ⟨old, hold, heq⟩ := hsubs u child hu
    rw [← heq]
    exact h.parent u old hold

end OutputLinks

/-! ## §2. Windows. -/

/-- The compositor, with the views that are mapped. -/
structure WindowState where
  now : Instance
  mapped : Ptr → Bool

/-- The toplevel that the event maps or unmaps, and whether it is mapped before. -/
def Event.toplevelTurn : Event → Option (Ptr × Bool)
  | .toplevelMap p _ _ _ => some (p, false)
  | .toplevelUnmap p => some (p, true)
  | _ => none

namespace WindowState

/-- Map and unmap events of a toplevel alternate. -/
def InTurn (s : WindowState) (e : Event) : Prop := ∀ t ∈ e.toplevelTurn, s.mapped t.1 = t.2

instance (s : WindowState) (e : Event) : Decidable (s.InTurn e) :=
  Option.decidableForallMem e.toplevelTurn

/-- The views that are mapped after an event. -/
def mappedAfter (s : WindowState) : Event → Ptr → Bool
  | .newToplevel _ => Function.update s.mapped s.now.viewObjects.next false
  | .toplevelMap p _ _ _ => Function.update s.mapped p true
  | .toplevelUnmap p => Function.update s.mapped p false
  | .toplevelDestroy p => Function.update s.mapped p false
  | _ => s.mapped

/-- An event in its turn. -/
def step (s : WindowState) (e : Event) : Option WindowState :=
  if s.now.Deliverable e ∧ s.InTurn e then
    (s.now.handle e).toOption.map fun now => ⟨now, s.mappedAfter e⟩
  else none

/-- The compositor with its windows. -/
def windows : Machine WindowState Event where
  init := ⟨.init, fun _ => false⟩
  step := step

/-- Every child of a mapped window is on its output, and the scale is that of the output. -/
def InStep (s : WindowState) : Prop :=
  ∀ p view, s.mapped p = true → s.now.viewObjects.get p = some view →
    s.now.outputLinks.Follow p view.cached

/-- The views that are mapped have the property. -/
def ForMapped (s : WindowState) (P : FwrView → Prop) : Prop :=
  s.now.viewObjects.ForallAt fun p view => s.mapped p = true → P view

instance (s : WindowState) (P : FwrView → Prop) [DecidablePred P] : Decidable (s.ForMapped P) :=
  inferInstanceAs (Decidable (Store.ForallAt _ _))

/-- The children of the view cache this. -/
def ChildrenCache (s : Instance) (p : Ptr) (c : Cached) : Prop :=
  s.subsurfaceObjects.Forall (fun sub => sub.parentView = p → sub.child.cached = c) ∧
    s.popupObjects.Forall fun popup => popup.parentView = p → popup.child.cached = c

instance (s : Instance) (p : Ptr) (c : Cached) : Decidable (ChildrenCache s p c) :=
  inferInstanceAs (Decidable (_ ∧ _))

/-- The popup is the only child of its parent. -/
def OnlyChild (s : Instance) (p parentView : Ptr) : Prop :=
  s.subsurfaceObjects.Forall (fun sub => sub.parentView ≠ parentView) ∧
    s.popupObjects.ForallAt fun q popup => popup.parentView = parentView → q = p

instance (s : Instance) (p parentView : Ptr) : Decidable (OnlyChild s p parentView) :=
  inferInstanceAs (Decidable (_ ∧ _))

/-- A window is mapped when its children are already on the output its box is on. -/
def MapsInStep (s : Instance) (p : Ptr) (geo : WlrBox) (layout : OutputLayout) : Prop :=
  ∀ view ∈ s.viewObjects.get p,
    ∀ c ∈ (s.cachedForBox layout view.x view.y geo.width geo.height).toOption, ChildrenCache s p c

/-- If a mapped window moves to another output, its popups are in the handle map, where they are as
    long as handles are not given out twice. -/
def MovesInStep (s : WindowState) (surfaceHandle : UInt32) (x y : Int) (layout : OutputLayout) :
    Prop :=
  ∀ p ∈ s.now.views.get surfaceHandle, s.mapped p = true → ∀ view ∈ s.now.viewObjects.get p,
    ∀ c ∈ (s.now.cachedForBox layout (toInt32 x) (toInt32 y) view.width view.height).toOption,
      view.currentOutput ≠ c.output →
        s.now.popupObjects.ForallAt fun q popup =>
          popup.parentView = p → q ∈ s.now.popups.values

/-- A popup whose first commit finds an output for a mapped window is the only child of it. -/
def AdoptsInStep (s : WindowState) (p : Ptr) (layout : OutputLayout) : Prop :=
  ∀ popup ∈ s.now.popupObjects.get p, popup.unconstrained = false →
    s.mapped popup.parentView = true → ∀ parent ∈ s.now.viewObjects.get popup.parentView,
      parent.currentOutput = none →
        ∀ c ∈ (s.now.cachedForBox layout parent.x parent.y parent.width parent.height).toOption,
          c.output ≠ none → OnlyChild s.now p popup.parentView

/-- What is needed of an event: no output goes, or changes its scale, while a mapped window is on
    it; a mapped window gets no new subsurface; and its children are in step, as above, when a window
    is mapped, moved, or found an output by a popup. -/
def KeepsInStep (s : WindowState) : Event → Prop
  | .outputDestroy o => s.ForMapped fun view => view.currentOutput ≠ some o
  | .outputCommitState o _ scale =>
      s.now.outputObjects.ForallAt fun q output =>
        q = o → output.wlrOutput.scale = scale ∨
          s.ForMapped fun view => view.currentOutput ≠ some o
  | .toplevelMap p geo layout _ => MapsInStep s.now p geo layout
  | .setPosition surfaceHandle x y layout => s.MovesInStep surfaceHandle x y layout
  | .newSubsurface p => s.mapped p = false
  | .popupCommit p _ layout _ => s.AdoptsInStep p layout
  | _ => True

instance (s : Instance) (p : Ptr) (geo : WlrBox) (layout : OutputLayout) :
    Decidable (MapsInStep s p geo layout) :=
  inferInstanceAs (Decidable (∀ view ∈ s.viewObjects.get p, ∀ c ∈ Except.toOption _, _))

instance (s : WindowState) (surfaceHandle : UInt32) (x y : Int) (layout : OutputLayout) :
    Decidable (s.MovesInStep surfaceHandle x y layout) :=
  inferInstanceAs (Decidable (∀ p ∈ s.now.views.get surfaceHandle, _ →
    ∀ view ∈ s.now.viewObjects.get p, ∀ c ∈ Except.toOption _, _))

instance (s : WindowState) (p : Ptr) (layout : OutputLayout) :
    Decidable (s.AdoptsInStep p layout) :=
  inferInstanceAs (Decidable (∀ popup ∈ s.now.popupObjects.get p, _ → _ →
    ∀ parent ∈ s.now.viewObjects.get popup.parentView, _ → ∀ c ∈ Except.toOption _, _))

instance (s : WindowState) : (e : Event) → Decidable (s.KeepsInStep e)
  | .outputDestroy o =>
      inferInstanceAs (Decidable (s.ForMapped fun view => view.currentOutput ≠ some o))
  | .outputCommitState o _ scale =>
      inferInstanceAs (Decidable (s.now.outputObjects.ForallAt fun q output =>
        q = o → output.wlrOutput.scale = scale ∨
          s.ForMapped fun view => view.currentOutput ≠ some o))
  | .toplevelMap p geo layout _ => inferInstanceAs (Decidable (MapsInStep s.now p geo layout))
  | .setPosition surfaceHandle x y layout =>
      inferInstanceAs (Decidable (s.MovesInStep surfaceHandle x y layout))
  | .newSubsurface p => inferInstanceAs (Decidable (s.mapped p = false))
  | .popupCommit p _ layout _ => inferInstanceAs (Decidable (s.AdoptsInStep p layout))
  | .newOutput .. | .setVsyncOutput .. | .newToplevel .. | .toplevelUnmap .. | .toplevelCommit ..
  | .toplevelDestroy .. | .subsurfaceMap .. | .subsurfaceUnmap .. | .subsurfaceCommit ..
  | .subsurfaceDestroy .. | .newPopup .. | .popupMap .. | .popupUnmap .. | .popupReposition ..
  | .popupDestroy .. | .newSurface | .surfaceDestroy .. | .requestCursor ..
  | .activateSystemCursor .. => instDecidableTrue

/-! ## §3. One event. -/

section Steps

variable {s s' : WindowState} {now : Instance} {e : Event} {l : OutputLinks} {c : Cached}

/-- The list of a view stays complete. -/
theorem listed_relinked (h : now.outputLinks.Listed) (hr : now.Relinked e l) : l.Listed := by
  cases hr with
  | unchanged _ hquiet => exact h
  | newOutput scales hscales => exact h.congr rfl rfl rfl
  | outputDestroy o => exact h.congr rfl rfl rfl
  | outputCommitState o refresh scale => exact h.congr rfl rfl rfl
  | newToplevel => exact h.newView rfl rfl rfl
  | toplevelMap hview hbox => exact h.congr rfl rfl rfl
  | toplevelDestroy p => exact h.viewGone rfl rfl rfl
  | setPosition hq hview hbox hne => exact h.handedOn _ _ _ _
  | @newSubsurface p view hview =>
      exact h.newSubsurface ⟨p, none, 0⟩ (Store.project_of_get _ hview)
        (Store.project_next _ _) (now.viewObjects.fresh p (Store.live_of_get hview)) rfl rfl rfl
  | @subsurfaceDestroy p sub view hsub hview =>
      exact h.subsurfaceGone sub.child (Store.project_of_get _ hview)
        (Store.project_of_get _ hsub) rfl rfl rfl
  | newPopup hparent => exact h.congr rfl rfl rfl
  | popupCommit hp hfirst hadopts =>
      cases hadopts with
      | parent hparent ho hscale => exact h.congr rfl rfl rfl
      | box hparent hnone hbox => exact h.congr rfl rfl rfl
      | none => exact h
  | popupDestroy p => exact h.congr rfl rfl rfl

theorem scaleRight_of_scaleOf {output : Option Ptr} {scale : Rat}
    (h : now.scaleOf output = .ok scale) :
    OutputLinks.ScaleRight now.outputLinks.scales ⟨output, scale⟩ := by
  cases output with
  | none =>
      cases h
      rfl
  | some o => exact Instance.scaleOf_some h

theorem cachedForBox_scaleRight {layout : OutputLayout} {x y width height : Int}
    (h : now.cachedForBox layout x y width height = .ok c) :
    OutputLinks.ScaleRight now.outputLinks.scales c := by
  simp only [Instance.cachedForBox, StateRun.except_bind_eq_ok] at h
  obtain ⟨output, -, scale, hscale, h⟩ := h
  cases h
  exact scaleRight_of_scaleOf hscale

/-- Mapped windows are in step with their outputs and children. -/
def FollowMapped (l : OutputLinks) (mapped : Ptr → Bool) : Prop :=
  ∀ p c, mapped p = true → l.views p = some c → l.Follow p c

/-- The views that are mapped after an event that maps none have been mapped before. -/
theorem mappedAfter_quiet (hquiet : Instance.mapsToplevel e = none) {p : Ptr}
    (hp : s.mappedAfter e p = true) : s.mapped p = true := by
  have hupdate : ∀ {q : Ptr}, Function.update s.mapped q false p = true → s.mapped p = true := by
    intro q hq
    exact (of_update_ne Bool.false_ne_true hq).2
  cases e with
  | newToplevel xdgSurface => exact hupdate hp
  | toplevelMap p geo layout registered => cases hquiet
  | toplevelUnmap p => exact hupdate hp
  | toplevelDestroy p => exact hupdate hp
  | newOutput | outputDestroy | outputCommitState | setVsyncOutput | toplevelCommit | setPosition
  | newSubsurface | subsurfaceMap | subsurfaceUnmap | subsurfaceCommit | subsurfaceDestroy
  | newPopup | popupMap | popupUnmap | popupCommit | popupReposition | popupDestroy | newSurface
  | surfaceDestroy | requestCursor | activateSystemCursor => exact hp

/-- A window that is handed another output, and hands it on. -/
theorem follow_handedOn (hlisted : now.outputLinks.Listed) {q : Ptr} {view : FwrView}
    (hview : now.viewObjects.get q = some view)
    (hscale : OutputLinks.ScaleRight now.outputLinks.scales c)
    (hpopups : now.popupObjects.ForallAt fun r popup =>
      popup.parentView = q → r ∈ now.popups.values) :
    (now.outputLinks.handedOn q view.subsurfaces now.popups.values c).Follow q c := by
  have hmem := hlisted.mem_iff q view.subsurfaces (Store.project_of_get _ hview)
  unfold OutputLinks.handedOn
  refine ⟨hscale, fun r child hr hparent => ?_, fun r child hr hparent => ?_⟩
  · dsimp only at hr
    split at hr
    next =>
      obtain ⟨old, -, rfl⟩ := Option.map_eq_some_iff.mp hr
      rfl
    next hnot => exact absurd ((hmem r).mpr ⟨child, hr, hparent⟩) hnot
  · dsimp only at hr
    split at hr
    next =>
      obtain ⟨old, -, rfl⟩ := Option.map_eq_some_iff.mp hr
      split at hparent
      next hold =>
        rw [if_pos hold]
        rfl
      next hold => exact absurd hparent hold
    next hnot =>
      obtain ⟨popup, hpopup, rfl⟩ := Store.project_eq_some.mp hr
      exact absurd (hpopups r popup hpopup hparent) hnot

/-- The other windows, when one hands its output on. -/
theorem follow_handedOn_other (hlisted : now.outputLinks.Listed) {p q : Ptr} {view : FwrView}
    {c' : Cached} (hview : now.viewObjects.get q = some view) (hpq : p ≠ q)
    (h : now.outputLinks.Follow p c) :
    (now.outputLinks.handedOn q view.subsurfaces now.popups.values c').Follow p c := by
  have hmem := hlisted.mem_iff q view.subsurfaces (Store.project_of_get _ hview)
  unfold OutputLinks.handedOn
  refine h.mono (fun _ _ => rfl) (fun r child hr hparent => ?_) (fun r child hr hparent => ?_)
  · dsimp only at hr
    split at hr
    next hin =>
      -- a subsurface of the list is a child of the window that moves
      obtain ⟨old, hold, rfl⟩ := Option.map_eq_some_iff.mp hr
      obtain ⟨old', hold', hq⟩ := (hmem r).mp hin
      cases hold.symm.trans hold'
      exact absurd (hparent.symm.trans hq) hpq
    next => exact hr
  · dsimp only at hr
    split at hr
    next =>
      obtain ⟨old, hold, rfl⟩ := Option.map_eq_some_iff.mp hr
      split at hparent
      next hq => exact absurd (hparent.symm.trans hq) hpq
      next hq =>
        rw [if_neg hq]
        exact hold
    next => exact hr

theorem follow_same (h : FollowMapped now.outputLinks s.mapped)
    (hquiet : Instance.mapsToplevel e = none) :
    FollowMapped now.outputLinks (s.mappedAfter e) :=
  fun p c hp hc => h p c (mappedAfter_quiet hquiet hp) hc

/-- The output of a mapped window that the event leaves alone. -/
theorem ForMapped.output_ne {o : Ptr} (h : s.ForMapped fun view => view.currentOutput ≠ some o)
    {p : Ptr} (hp : s.mapped p = true) (hc : s.now.outputLinks.views p = some c) {o' : Ptr}
    (ho' : c.output = some o') : o' ≠ o := by
  obtain ⟨view, hview, rfl⟩ := Store.project_eq_some.mp hc
  rintro rfl
  exact h p view hview hp ho'

/-- A popup that takes over the output of its parent, or finds one for it. -/
theorem follow_adopts {p : Ptr} {popup : FwrPopup} {layout : OutputLayout}
    (h : FollowMapped s.now.outputLinks s.mapped) (hok : s.AdoptsInStep p layout)
    (hp : s.now.popupObjects.get p = some popup) (hfirst : popup.unconstrained = false)
    (hadopts : s.now.Adopts p popup layout l) : FollowMapped l s.mapped := by
  cases hadopts with
  | @parent parent o scale hparent ho hscale =>
      intro q c hq hc
      have hfollow := h q c hq hc
      refine ⟨hfollow.scale, hfollow.subsurfaces, fun r child hr hchild => ?_⟩
      dsimp only at hr
      obtain ⟨hrp, heq⟩ | ⟨hrp, hr⟩ := of_update hr
      · cases heq
        -- the scale of the parent is that of its output already
        obtain rfl : popup.parentView = q := hchild
        have hcached : c = parent.cached :=
          Option.some.inj (hc.symm.trans (Store.project_of_get _ hparent))
        have houtput : c.output = some o := by rw [hcached]; exact ho
        have hread := (hfollow.scale.eq_some houtput).symm.trans (Instance.scaleOf_some hscale)
        show (⟨some o, scale⟩ : Cached) = c
        rw [← houtput, ← Option.some.inj hread]
      · exact hfollow.popups r child hr hchild
  | @box parent o scale hparent hnone hbox =>
      intro q c hq hc
      dsimp only at hc
      obtain ⟨hqp, heq⟩ | ⟨hqp, hc⟩ := of_update hc
      · cases heq
        rw [hqp] at hq ⊢
        obtain ⟨hsubs, hpopups⟩ := hok popup hp hfirst hq parent hparent hnone _
          (toOption_eq_some.mpr hbox) nofun
        refine ⟨cachedForBox_scaleRight hbox, fun r child hr hchild => ?_,
          fun r child hr hchild => ?_⟩
        · obtain ⟨sub, hsub, rfl⟩ := Store.project_eq_some.mp hr
          exact absurd hchild (hsubs r sub hsub)
        · dsimp only at hr
          obtain ⟨hrp, heq⟩ | ⟨hrp, hr⟩ := of_update hr
          · cases heq
            rfl
          · obtain ⟨other, hother, rfl⟩ := Store.project_eq_some.mp hr
            exact absurd (hpopups r other hother hchild) hrp
      · refine (h q c hq hc).mono (fun _ _ => rfl) (fun _ _ hr _ => hr) fun r child hr hchild => ?_
        dsimp only at hr
        obtain ⟨hrp, heq⟩ | ⟨hrp, hr⟩ := of_update hr
        · cases heq
          exact absurd hchild.symm hqp
        · exact hr
  | none => exact h

/-- **One event**: windows stay in step if it keeps them so. -/
theorem follow_relinked (hlisted : s.now.outputLinks.Listed)
    (h : FollowMapped s.now.outputLinks s.mapped) (hok : s.KeepsInStep e)
    (hr : s.now.Relinked e l) : FollowMapped l (s.mappedAfter e) := by
  cases hr with
  | unchanged _ hquiet => exact follow_same h hquiet
  | newOutput scales hscales =>
      intro p c hp hc
      have hfollow := h p c hp hc
      refine hfollow.mono (fun o ho => hscales o ?_) (fun _ _ hq _ => hq) fun _ _ hq _ => hq
      rw [hfollow.scale.eq_some ho]
      nofun
  | outputDestroy o =>
      intro p c hp hc
      refine (h p c hp hc).mono (fun o' ho' => ?_) (fun _ _ hq _ => hq) fun _ _ hq _ => hq
      exact Function.update_of_ne (hok.output_ne hp hc ho') _ _
  | outputCommitState o refresh scale =>
      intro p c hp hc
      have hfollow := h p c hp hc
      refine hfollow.mono (fun o' ho' => ?_) (fun _ _ hq _ => hq) fun _ _ hq _ => hq
      dsimp only
      by_cases hne : o' = o
      · rw [hne, Function.update_self]
        have hread : s.now.outputLinks.scales o = some c.scale :=
          hne ▸ hfollow.scale.eq_some ho'
        obtain ⟨output, houtput, hscale⟩ := Store.project_eq_some.mp hread
        rcases hok o output houtput rfl with hsame | hnone
        · rw [hread, ← hscale]
          exact congrArg some hsame.symm
        · exact absurd hne (hnone.output_ne hp hc ho')
      · exact Function.update_of_ne hne _ _
  | @newToplevel xdgSurface =>
      intro p c hp hc
      have hp' : Function.update s.mapped s.now.viewObjects.next false p = true := hp
      obtain ⟨hne, hp'⟩ := of_update_ne Bool.false_ne_true hp'
      dsimp only at hc
      rw [Function.update_of_ne hne] at hc
      exact (h p c hp' hc).mono (fun _ _ => rfl) (fun _ _ hq _ => hq) fun _ _ hq _ => hq
  | @toplevelMap p geo layout registered view c' hview hbox =>
      intro q c hq hc
      dsimp only at hc
      obtain ⟨hqp, heq⟩ | ⟨hqp, hc⟩ := of_update hc
      · cases heq
        obtain ⟨hsubs, hpopups⟩ := hok view hview c' (toOption_eq_some.mpr hbox)
        rw [hqp]
        refine ⟨cachedForBox_scaleRight hbox, fun r child hr hchild => ?_,
          fun r child hr hchild => ?_⟩
        · obtain ⟨sub, hsub, rfl⟩ := Store.project_eq_some.mp hr
          exact hsubs r sub hsub hchild
        · obtain ⟨popup, hpopup, rfl⟩ := Store.project_eq_some.mp hr
          exact hpopups r popup hpopup hchild
      · have hq' : Function.update s.mapped p true q = true := hq
        rw [Function.update_of_ne hqp] at hq'
        exact (h q c hq' hc).mono (fun _ _ => rfl) (fun _ _ hr _ => hr) fun _ _ hr _ => hr
  | toplevelDestroy p =>
      intro q c hq hc
      dsimp only at hc
      obtain ⟨hqp, hc⟩ := of_update_none hc
      have hq' : Function.update s.mapped p false q = true := hq
      rw [Function.update_of_ne hqp] at hq'
      exact (h q c hq' hc).mono (fun _ _ => rfl) (fun _ _ hr _ => hr) fun _ _ hr _ => hr
  | @setPosition surfaceHandle x y layout p view c' hfound hview hbox hne =>
      intro q c hq hc
      have hq' : s.mapped q = true := hq
      unfold OutputLinks.handedOn at hc
      dsimp only at hc
      obtain ⟨hqp, heq⟩ | ⟨hqp, hc⟩ := of_update hc
      · cases heq
        rw [hqp] at hq' ⊢
        exact follow_handedOn hlisted hview (cachedForBox_scaleRight hbox)
          (hok p hfound hq' view hview c' (toOption_eq_some.mpr hbox) hne)
      · exact follow_handedOn_other hlisted hview hqp (h q c hq' hc)
  | @newSubsurface p view hview =>
      intro q c hq hc
      have hq' : s.mapped q = true := hq
      refine (h q c hq' hc).mono (fun _ _ => rfl) (fun r child hr hchild => ?_) fun _ _ hr _ => hr
      dsimp only at hr
      obtain ⟨hrp, heq⟩ | ⟨hrp, hr⟩ := of_update hr
      · cases heq
        -- the window with the new subsurface is not mapped
        have hnot : s.mapped p = false := hok
        rw [show p = q from hchild, hq'] at hnot
        cases hnot
      · exact hr
  | @subsurfaceDestroy p sub view hsub hview =>
      intro q c hq hc
      refine (h q c hq hc).mono (fun _ _ => rfl) (fun r child hr hchild => ?_) fun _ _ hr _ => hr
      dsimp only at hr
      exact (of_update_none hr).2
  | @newPopup parentXdg surf registered parentView parent hparent =>
      intro q c hq hc
      have hfollow := h q c hq hc
      refine ⟨hfollow.scale, hfollow.subsurfaces, fun r child hr hchild => ?_⟩
      dsimp only at hr
      obtain ⟨hrp, heq⟩ | ⟨hrp, hr⟩ := of_update hr
      · cases heq
        obtain rfl : parentView = q := hchild
        exact Option.some.inj ((Store.project_of_get FwrView.cached hparent).symm.trans hc)
      · exact hfollow.popups r child hr hchild
  | popupCommit hp hfirst hadopts => exact follow_adopts h hok hp hfirst hadopts
  | popupDestroy p =>
      intro q c hq hc
      refine (h q c hq hc).mono (fun _ _ => rfl) (fun _ _ hr _ => hr) fun r child hr hchild => ?_
      dsimp only at hr
      exact (of_update_none hr).2

end Steps

/-! ## §4. Runs. -/

section Runs

variable {s s' : WindowState} {e : Event}

theorem step_ok (h : s.step e = some s') :
    s.now.handle e = .ok s'.now ∧ s'.mapped = s.mappedAfter e := by
  unfold step at h
  split at h
  next =>
    obtain ⟨now, hnow, rfl⟩ := Option.map_eq_some_iff.mp h
    exact ⟨toOption_eq_some.mp hnow, rfl⟩
  next => cases h

theorem inStep_iff : s.InStep ↔ FollowMapped s.now.outputLinks s.mapped := by
  constructor
  · intro h p c hp hc
    obtain ⟨view, hview, rfl⟩ := Store.project_eq_some.mp hc
    exact h p view hp hview
  · intro h p view hp hview
    exact h p view.cached hp (Store.project_of_get _ hview)

theorem listed_init : windows.init.now.outputLinks.Listed := by
  have hlists : ∀ p qs, windows.init.now.outputLinks.lists p ≠ some qs := by
    intro p qs hp
    have hnone : Store.empty.project FwrView.subsurfaces p = some qs := hp
    obtain ⟨view, hview, -⟩ := Store.project_eq_some.mp hnone
    cases (Store.get_empty p).symm.trans hview
  have hsubs : ∀ q child, windows.init.now.outputLinks.subsurfaces q ≠ some child := by
    intro q child hq
    have hnone : Store.empty.project FwrSubsurface.child q = some child := hq
    obtain ⟨sub, hsub, -⟩ := Store.project_eq_some.mp hnone
    cases (Store.get_empty q).symm.trans hsub
  exact ⟨fun p qs hp => absurd hp (hlists p qs), fun p qs hp => absurd hp (hlists p qs),
    fun q child hq => absurd hq (hsubs q child)⟩

theorem follow_init : FollowMapped windows.init.now.outputLinks windows.init.mapped :=
  fun _ _ hp _ => Bool.noConfusion hp

/-- **Children follow their window** in every run whose events keep them in step. -/
theorem reach_inStep (h : windows.Reach KeepsInStep s) : s.InStep := by
  have hboth : s.now.outputLinks.Listed ∧ FollowMapped s.now.outputLinks s.mapped := by
    refine h.invariant
      (P := fun s => s.now.outputLinks.Listed ∧ FollowMapped s.now.outputLinks s.mapped)
      ⟨listed_init, follow_init⟩ fun s e s' hs hok hstep => ?_
    obtain ⟨hhandle, hmapped⟩ := step_ok hstep
    have hr := Instance.handle_relinked hhandle
    rw [hmapped]
    exact ⟨listed_relinked hs.1 hr, follow_relinked hs.1 hs.2 hok hr⟩
  exact inStep_iff.mpr hboth.2

/-- A window with a subsurface and a popup is handed to the second output, where it is mapped; then
    the popup commits, and the window moves back. -/
theorem reach_inStep_moved : ∃ s, windows.Reach KeepsInStep s ∧ s.InStep ∧
    s.mapped 0 = true ∧ s.now.outputLinks.views 0 = some ⟨some 0, 1⟩ ∧
    s.now.outputLinks.subsurfaces 0 = some ⟨0, some 0, 1⟩ ∧
    s.now.outputLinks.popups 0 = some ⟨0, some 0, 1⟩ := by
  have hrun : ((windows.execIf KeepsInStep windows.init
      [.newOutput ⟨10, some 60000, 1⟩ true, .newOutput ⟨11, some 60000, 2⟩ true,
        .newToplevel 7, .newSubsurface 0, .setPosition 1 2000 0 fun _ _ => some 11,
        .toplevelMap 0 ⟨0, 0, 640, 480⟩ (fun _ _ => some 11) true,
        .newPopup (some 7) ⟨⟨0, 0, 9, 9⟩, ⟨0, 0, 9, 9⟩, 9, 9, none, false⟩ true,
        .popupCommit 0 ⟨⟨0, 0, 9, 9⟩, ⟨0, 0, 9, 9⟩, 9, 9, none, true⟩ (fun _ _ => some 11) true,
        .setPosition 1 0 0 fun _ _ => some 10]).map fun s =>
      (s.mapped 0, s.now.outputLinks.views 0, s.now.outputLinks.subsurfaces 0,
        s.now.outputLinks.popups 0)) =
      some (true, some ⟨some 0, 1⟩, some ⟨0, some 0, 1⟩, some ⟨0, some 0, 1⟩) := by
    decide +kernel
  obtain ⟨s, hs, hend⟩ := Option.map_eq_some_iff.mp hrun
  have hreach := Machine.reach_execIf _ .init hs
  simp only [Prod.mk.injEq] at hend
  exact ⟨s, hreach, reach_inStep hreach, hend⟩

/-- **A subsurface of a mapped window** is created without an output. -/
theorem not_inStep_newSubsurface : ¬∀ s, windows.Reachable s → s.InStep := by
  intro h
  have hrun : ((windows.exec windows.init
      [.newOutput ⟨10, some 60000, 1⟩ true, .newToplevel 7,
        .toplevelMap 0 ⟨0, 0, 640, 480⟩ (fun _ _ => some 10) true, .newSubsurface 0]).map
      fun s => (s.mapped 0, s.now.viewObjects.get 0 |>.map FwrView.cached,
        s.now.outputLinks.subsurfaces 0)) =
      some (true, some ⟨some 0, 1⟩, some ⟨0, none, 0⟩) := by decide +kernel
  obtain ⟨s, hs, hend⟩ := Option.map_eq_some_iff.mp hrun
  simp only [Prod.mk.injEq] at hend
  obtain ⟨hmapped, hview, hsub⟩ := hend
  obtain ⟨view, hget, hcached⟩ := Option.map_eq_some_iff.mp hview
  have hfollow := h s (Machine.reach_exec _ .init hs) 0 view hmapped hget
  have hsame := hfollow.subsurfaces 0 _ hsub rfl
  rw [hcached] at hsame
  cases hsame

end Runs

end WindowState

end FlutterWlroots.Compositor
