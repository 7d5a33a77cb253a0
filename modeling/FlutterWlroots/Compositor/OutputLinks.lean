/-
  FlutterWlroots.Compositor.OutputLinks — the outputs that views and their children cache.

  A view, a subsurface and a popup each keep the output they are on, with its scale.  Few handlers
  touch these copies, and of the other fields only the parents and the lists of subsurfaces matter
  to them; the lemmas say what each handler does to this part of the instance.
-/
import FlutterWlroots.Compositor.TextureEffects

namespace FlutterWlroots.Compositor

open Lib Lib.CInt Lib.StateRun

/-! ## §1. The copies. -/

/-- An output and its scale, as an object caches them. -/
structure Cached where
  output : Option Ptr
  scale : Rat
deriving DecidableEq, Repr

/-- A child with what it caches. -/
structure Child where
  parent : Ptr
  cached : Cached
deriving DecidableEq, Repr

def FwrView.cached (view : FwrView) : Cached := ⟨view.currentOutput, view.outputScale⟩

def FwrSubsurface.child (sub : FwrSubsurface) : Child :=
  ⟨sub.parentView, sub.currentOutput, sub.outputScale⟩

def FwrPopup.child (popup : FwrPopup) : Child :=
  ⟨popup.parentView, popup.currentOutput, popup.outputScale⟩

/-- The part of the instance that has to do with cached outputs. -/
structure OutputLinks where
  scales : Ptr → Option Rat
  views : Ptr → Option Cached
  lists : Ptr → Option (List Ptr)
  nextView : Ptr
  subsurfaces : Ptr → Option Child
  popups : Ptr → Option Child

/-- A child that is handed the output of its view. -/
def Child.handed (c : Cached) (child : Child) : Child := { child with cached := c }

/-- The children after a window has moved to another output: the subsurfaces of its list, and the
    popups that name it as their parent and have an entry in the handle map. -/
def OutputLinks.handedOn (l : OutputLinks) (p : Ptr) (subsurfaces popups : List Ptr) (c : Cached) :
    OutputLinks :=
  { l with
    views := Function.update l.views p (some c)
    subsurfaces := fun q =>
      if q ∈ subsurfaces then (l.subsurfaces q).map (·.handed c) else l.subsurfaces q
    popups := fun q =>
      if q ∈ popups then
        (l.popups q).map fun child => if child.parent = p then child.handed c else child
      else l.popups q }

namespace Instance

variable {s s' : Instance} {p : Ptr} {popup popup' : FwrPopup} {surf : PopupSurface}
  {registered : Bool} {layout : OutputLayout}

def outputLinks (s : Instance) : OutputLinks where
  scales := s.outputObjects.project (·.wlrOutput.scale)
  views := s.viewObjects.project FwrView.cached
  lists := s.viewObjects.project FwrView.subsurfaces
  nextView := s.viewObjects.next
  subsurfaces := s.subsurfaceObjects.project FwrSubsurface.child
  popups := s.popupObjects.project FwrPopup.child

/-- The output a box is on, with its scale. -/
def cachedForBox (s : Instance) (layout : OutputLayout) (x y width height : Int) :
    Except Fault Cached := do
  let output ← s.fwrOutputForBox layout x y width height
  let scale ← s.scaleOf output
  .ok ⟨output, scale⟩

theorem outputLinks_eq {scales : Ptr → Option Rat} {views : Ptr → Option Cached}
    {lists : Ptr → Option (List Ptr)} {subsurfaces popups : Ptr → Option Child}
    (hscales : s.outputObjects.project (·.wlrOutput.scale) = scales)
    (hviews : s.viewObjects.project FwrView.cached = views)
    (hlists : s.viewObjects.project FwrView.subsurfaces = lists)
    (hsubs : s.subsurfaceObjects.project FwrSubsurface.child = subsurfaces)
    (hpopups : s.popupObjects.project FwrPopup.child = popups) :
    s.outputLinks = ⟨scales, views, lists, s.viewObjects.next, subsurfaces, popups⟩ := by
  unfold outputLinks
  rw [hscales, hviews, hlists, hsubs, hpopups]

theorem outputLinks_setView {v v' : FwrView} (hv : s.viewObjects.get p = some v)
    (hlist : v'.subsurfaces = v.subsurfaces) :
    (s.setView p v').outputLinks =
      { s.outputLinks with views := Function.update s.outputLinks.views p (some v'.cached) } := by
  have hlive := Store.live_of_get hv
  rw [outputLinks_eq (s := s.setView p v') rfl (Store.project_set _ hlive v')
    (Store.project_set_same hv hlist) rfl rfl]
  unfold setView
  rw [Store.next_set]
  rfl

theorem outputLinks_setView_same {v v' : FwrView} (hv : s.viewObjects.get p = some v)
    (hcached : v'.cached = v.cached) (hlist : v'.subsurfaces = v.subsurfaces) :
    (s.setView p v').outputLinks = s.outputLinks := by
  rw [outputLinks_setView hv hlist, hcached]
  unfold outputLinks
  rw [← Store.project_of_get FwrView.cached hv, Function.update_eq_self]

theorem outputLinks_setSubsurface_same {r r' : FwrSubsurface}
    (hr : s.subsurfaceObjects.get p = some r) (hchild : r'.child = r.child) :
    (s.setSubsurface p r').outputLinks = s.outputLinks := by
  unfold outputLinks setSubsurface
  dsimp only
  rw [Store.project_set_same hr hchild]

theorem outputLinks_setPopup (hp : s.popupObjects.get p = some popup) :
    (s.setPopup p popup').outputLinks =
      { s.outputLinks with
        popups := Function.update s.outputLinks.popups p (some popup'.child) } := by
  unfold outputLinks setPopup
  dsimp only
  rw [Store.project_set _ (Store.live_of_get hp)]

theorem outputLinks_setPopup_same (hp : s.popupObjects.get p = some popup)
    (hchild : popup'.child = popup.child) : (s.setPopup p popup').outputLinks = s.outputLinks := by
  unfold outputLinks setPopup
  dsimp only
  rw [Store.project_set_same hp hchild]

theorem outputLinks_call (s : Instance) (c : TextureCall) :
    (s.call c).outputLinks = s.outputLinks := rfl

theorem outputLinks_if_call (s : Instance) (b : Bool) (c : TextureCall) :
    (if b then s.call c else s).outputLinks = s.outputLinks := by
  cases b <;> rfl

/-- The scale of an output that is read. -/
theorem scaleOf_some {o : Ptr} {scale : Rat} (h : s.scaleOf (some o) = .ok scale) :
    s.outputLinks.scales o = some scale := by
  rw [scaleOf, except_bind_eq_ok] at h
  obtain ⟨output, houtput, h⟩ := h
  cases h
  exact Store.project_of_get _ (deref_eq_ok.mp houtput)

/-! ## §2. Outputs. -/

/-- A new output, connected or not, leaves the scales of the others alone. -/
theorem fwrServerNewOutput_links {wlrOutput : WlrOutput} {committed : Bool}
    (h : s.fwrServerNewOutput wlrOutput committed = .ok s') :
    ∃ scales, s'.outputLinks = { s.outputLinks with scales := scales } ∧
      ∀ o, s.outputLinks.scales o ≠ none → scales o = s.outputLinks.scales o := by
  refine ⟨s'.outputLinks.scales, ?_, fun o ho => ?_⟩
  · rw [fwrServerNewOutput] at h
    dsimp only at h
    split at h
    · obtain ⟨best, -, rfl⟩ := fwrSelectHighestRefreshOutput_ok h
      rfl
    · cases h
      rfl
  · have hne : o ≠ s.outputObjects.next := by
      rintro rfl
      exact ho (Store.project_next _ _)
    rw [fwrServerNewOutput] at h
    dsimp only at h
    split at h
    · obtain ⟨best, -, rfl⟩ := fwrSelectHighestRefreshOutput_ok h
      unfold outputLinks
      dsimp only
      rw [Store.project_alloc, Function.update_of_ne hne]
    · cases h
      unfold outputLinks
      dsimp only
      rw [Store.project_free, Function.update_of_ne hne, Store.project_alloc,
        Function.update_of_ne hne]

theorem outputDestroy_links (h : s.outputDestroy p = .ok s') :
    s'.outputLinks =
      { s.outputLinks with scales := Function.update s.outputLinks.scales p none } := by
  rw [outputDestroy, except_bind_eq_ok] at h
  obtain ⟨output, -, h⟩ := h
  dsimp only at h
  split at h
  · obtain ⟨best, -, rfl⟩ := fwrSelectHighestRefreshOutput_ok h
    exact outputLinks_eq (Store.project_free _ _ _) rfl rfl rfl rfl
  · cases h
    exact outputLinks_eq (Store.project_free _ _ _) rfl rfl rfl rfl

theorem outputCommitState_links {refresh : Option Int} {scale : Rat}
    (h : s.outputCommitState p refresh scale = .ok s') :
    s'.outputLinks =
      { s.outputLinks with scales := Function.update s.outputLinks.scales p (some scale) } := by
  rw [outputCommitState, except_bind_eq_ok] at h
  obtain ⟨output, houtput, h⟩ := h
  cases h
  have hlive := Store.live_of_get (deref_eq_ok.mp houtput)
  exact outputLinks_eq (Store.project_set _ hlive _) rfl rfl rfl rfl

theorem fwrSetVsyncOutput_links {outputId : UInt32} (h : s.fwrSetVsyncOutput outputId = .ok s') :
    s'.outputLinks = s.outputLinks := by
  obtain ⟨best, -, rfl⟩ := fwrSetVsyncOutput_ok h
  rfl

/-! ## §3. Toplevels. -/

theorem fwrNewXdgToplevel_links {xdgSurface : Nat}
    (h : s.fwrNewXdgToplevel xdgSurface = .ok s') :
    s'.outputLinks =
      { s.outputLinks with
        views := Function.update s.outputLinks.views s.viewObjects.next (some ⟨none, 0⟩)
        lists := Function.update s.outputLinks.lists s.viewObjects.next (some [])
        nextView := s.viewObjects.next + 1 } := by
  cases h
  exact outputLinks_eq rfl (Store.project_alloc _ _ _) (Store.project_alloc _ _ _) rfl rfl

theorem xdgToplevelMap_links {geo : WlrBox}
    (h : s.xdgToplevelMap p geo layout registered = .ok s') :
    ∃ view c, s.viewObjects.get p = some view ∧
      s.cachedForBox layout view.x view.y geo.width geo.height = .ok c ∧
      s'.outputLinks =
        { s.outputLinks with views := Function.update s.outputLinks.views p (some c) } := by
  simp only [xdgToplevelMap, except_bind_eq_ok] at h
  obtain ⟨view, hview, output, houtput, scale, hscale, h⟩ := h
  cases h
  refine ⟨view, ⟨output, scale⟩, view_ok hview, ?_, ?_⟩
  · simp only [cachedForBox, except_bind_eq_ok]
    exact ⟨output, houtput, scale, hscale, rfl⟩
  · rw [outputLinks_call]
    exact outputLinks_setView (view_ok hview) (by rfl)

theorem xdgToplevelUnmap_links (h : s.xdgToplevelUnmap p = .ok s') :
    s'.outputLinks = s.outputLinks := by
  rw [xdgToplevelUnmap, except_bind_eq_ok] at h
  obtain ⟨view, -, h⟩ := h
  cases h
  rfl

theorem xdgToplevelCommit_links {geo : WlrBox} (h : s.xdgToplevelCommit p geo = .ok s') :
    s'.outputLinks = s.outputLinks := by
  rw [xdgToplevelCommit, except_bind_eq_ok] at h
  obtain ⟨view, hview, h⟩ := h
  cases h
  rw [outputLinks_if_call]
  exact outputLinks_setView_same (view_ok hview) (by rfl) (by rfl)

theorem xdgToplevelDestroy_links (h : s.xdgToplevelDestroy p = .ok s') :
    s'.outputLinks =
      { s.outputLinks with
        views := Function.update s.outputLinks.views p none
        lists := Function.update s.outputLinks.lists p none } := by
  rw [xdgToplevelDestroy, except_bind_eq_ok] at h
  obtain ⟨view, -, h⟩ := h
  cases h
  split
  all_goals
    exact outputLinks_eq rfl (Store.project_free _ _ _) (Store.project_free _ _ _) rfl rfl

theorem popupOutput_idem (view : Ptr) (output : Option Ptr) (scale : Rat) (popup : FwrPopup) :
    popupOutput view output scale (popupOutput view output scale popup) =
      popupOutput view output scale popup := by
  by_cases hparent : popup.parentView = view
  · have honce : popupOutput view output scale popup =
        { popup with currentOutput := output, outputScale := scale } := if_pos hparent
    rw [honce]
    exact if_pos hparent
  · have honce : popupOutput view output scale popup = popup := if_neg hparent
    rw [honce, honce]

theorem popupOutput_child (view : Ptr) (output : Option Ptr) (scale : Rat) (popup : FwrPopup) :
    (popupOutput view output scale popup).child =
      if popup.child.parent = view then popup.child.handed ⟨output, scale⟩ else popup.child := by
  unfold popupOutput
  show _ = if popup.parentView = view then _ else _
  split <;> rfl

/-- A moved window hands its output on, unless it stays on the same output. -/
theorem moveToOutput_links {view v : FwrView} {newOutput : Option Ptr}
    (hv : s.viewObjects.get p = some v) (hcached : view.cached = v.cached)
    (hlist : view.subsurfaces = v.subsurfaces) (h : s.moveToOutput p view newOutput = .ok s') :
    (v.currentOutput = newOutput ∧ s'.outputLinks = s.outputLinks) ∨
      ∃ scale, v.currentOutput ≠ newOutput ∧ s.scaleOf newOutput = .ok scale ∧
        s'.outputLinks =
          s.outputLinks.handedOn p v.subsurfaces s.popups.values ⟨newOutput, scale⟩ := by
  have hcurrent : view.currentOutput = v.currentOutput := congrArg Cached.output hcached
  rw [moveToOutput, hcurrent] at h
  split at h
  case isTrue hne =>
    simp only [except_bind_eq_ok] at h
    obtain ⟨scale, hscale, subs, hsubs, popups, hpopups, h⟩ := h
    cases h
    refine .inr ⟨scale, hne, hscale, ?_⟩
    have hlive := Store.live_of_get hv
    have hlists : (s.viewObjects.set p
        { view with currentOutput := newOutput, outputScale := scale }).project
          FwrView.subsurfaces = s.viewObjects.project FwrView.subsurfaces :=
      Store.project_set_same hv hlist
    unfold outputLinks OutputLinks.handedOn setView
    dsimp only
    rw [Store.project_set _ hlive, hlists, Store.next_set]
    congr 1
    -- the subsurfaces of the list, and the popups of the handle map
    · funext q
      rw [← hlist]
      have hidem : ∀ r, subsurfaceOutput newOutput scale (subsurfaceOutput newOutput scale r) =
          subsurfaceOutput newOutput scale r := fun _ => rfl
      have hchild : ∀ r, (subsurfaceOutput newOutput scale r).child =
          r.child.handed ⟨newOutput, scale⟩ := fun _ => rfl
      exact Store.project_modifyAll hidem hchild (updateAll_ok hsubs) q
    · funext q
      exact Store.project_modifyAll (popupOutput_idem p newOutput scale)
        (popupOutput_child p newOutput scale) (updateAll_ok hpopups) q
  case isFalse heq =>
    cases h
    exact .inl ⟨not_not.mp heq, outputLinks_setView_same hv hcached hlist⟩

/-- The new place of a window, if there is one under the handle. -/
theorem fwrHandleSurfaceSetPosition_links {surfaceHandle : UInt32} {x y : Int}
    (h : s.fwrHandleSurfaceSetPosition surfaceHandle x y layout = .ok s') :
    s'.outputLinks = s.outputLinks ∨
      ∃ q view c, s.views.get surfaceHandle = some q ∧ s.viewObjects.get q = some view ∧
        s.cachedForBox layout (toInt32 x) (toInt32 y) view.width view.height = .ok c ∧
        view.currentOutput ≠ c.output ∧
        s'.outputLinks = s.outputLinks.handedOn q view.subsurfaces s.popups.values c := by
  rw [fwrHandleSurfaceSetPosition] at h
  split at h
  next =>
    cases h
    exact .inl rfl
  next q hq =>
    simp only [except_bind_eq_ok] at h
    obtain ⟨view, hview, newOutput, hbox, h⟩ := h
    rcases moveToOutput_links (view_ok hview) (by rfl) (by rfl) h with
      ⟨-, hsame⟩ | ⟨scale, hne, hscale, hmoved⟩
    · exact .inl hsame
    · refine .inr ⟨q, view, ⟨newOutput, scale⟩, hq, view_ok hview, ?_, hne, hmoved⟩
      simp only [cachedForBox, except_bind_eq_ok]
      exact ⟨newOutput, hbox, scale, hscale, rfl⟩

/-! ## §4. Subsurfaces. -/

/-- A new subsurface caches nothing. -/
theorem handleNewSubsurface_links (h : s.handleNewSubsurface p = .ok s') :
    ∃ view, s.viewObjects.get p = some view ∧
      s'.outputLinks =
        { s.outputLinks with
          lists := Function.update s.outputLinks.lists p
            (some (s.subsurfaceObjects.next :: view.subsurfaces))
          subsurfaces := Function.update s.outputLinks.subsurfaces s.subsurfaceObjects.next
            (some ⟨p, none, 0⟩) } := by
  rw [handleNewSubsurface, except_bind_eq_ok] at h
  obtain ⟨view, hview, h⟩ := h
  cases h
  refine ⟨view, view_ok hview, ?_⟩
  have hlive := Store.live_of_get (view_ok hview)
  have hcached : (s.viewObjects.set p
      { view with subsurfaces := s.subsurfaceObjects.next :: view.subsurfaces }).project
        FwrView.cached = s.viewObjects.project FwrView.cached :=
    Store.project_set_same (view_ok hview) (by rfl)
  unfold outputLinks setView
  dsimp only
  rw [hcached, Store.project_set _ hlive, Store.next_set, Store.project_alloc]
  rfl

theorem subsurfaceHandleMap_links {box : WlrBox}
    (h : s.subsurfaceHandleMap p box registered = .ok s') : s'.outputLinks = s.outputLinks := by
  simp only [subsurfaceHandleMap, except_bind_eq_ok] at h
  obtain ⟨sub, hsub, view, -, h⟩ := h
  cases h
  rw [outputLinks_call]
  exact outputLinks_setSubsurface_same (subsurface_ok hsub) (by rfl)

theorem subsurfaceHandleUnmap_links (h : s.subsurfaceHandleUnmap p = .ok s') :
    s'.outputLinks = s.outputLinks := by
  simp only [subsurfaceHandleUnmap, except_bind_eq_ok] at h
  obtain ⟨sub, -, view, -, h⟩ := h
  cases h
  rfl

theorem subsurfaceHandleCommit_links {box : WlrBox}
    (h : s.subsurfaceHandleCommit p box = .ok s') : s'.outputLinks = s.outputLinks := by
  simp only [subsurfaceHandleCommit, except_bind_eq_ok] at h
  obtain ⟨sub, hsub, view, -, h⟩ := h
  cases h
  rw [outputLinks_if_call]
  exact outputLinks_setSubsurface_same (subsurface_ok hsub) (by rfl)

theorem subsurfaceHandleDestroy_links (h : s.subsurfaceHandleDestroy p = .ok s') :
    ∃ sub view, s.subsurfaceObjects.get p = some sub ∧
      s.viewObjects.get sub.parentView = some view ∧
      s'.outputLinks =
        { s.outputLinks with
          lists := Function.update s.outputLinks.lists sub.parentView
            (some (view.subsurfaces.erase p))
          subsurfaces := Function.update s.outputLinks.subsurfaces p none } := by
  simp only [subsurfaceHandleDestroy, except_bind_eq_ok] at h
  obtain ⟨sub, hsub, view, hview, h⟩ := h
  cases h
  refine ⟨sub, view, subsurface_ok hsub, view_ok hview, ?_⟩
  have hlive := Store.live_of_get (view_ok hview)
  have hcached : (s.viewObjects.set sub.parentView
      { view with subsurfaces := view.subsurfaces.erase p }).project FwrView.cached =
        s.viewObjects.project FwrView.cached := Store.project_set_same (view_ok hview) (by rfl)
  split
  all_goals
    unfold outputLinks setView
    dsimp only [call]
    rw [hcached, Store.project_set _ hlive, Store.next_set, Store.project_free]

/-! ## §5. Popups. -/

theorem sendPopupMap_links (hp : s.popupObjects.get p = some popup)
    (h : s.sendPopupMap p popup surf = .ok s') : s'.outputLinks = s.outputLinks := by
  rw [sendPopupMap, except_bind_eq_ok] at h
  obtain ⟨-, -, h⟩ := h
  cases h
  exact outputLinks_setPopup_same hp rfl

theorem registerPopup_links (hp : s.popupObjects.get p = some popup) (registered : Bool) :
    (s.registerPopup p popup registered).2.outputLinks = s.outputLinks :=
  outputLinks_setPopup_same hp rfl

theorem popupHandleMap_links (h : s.popupHandleMap p surf registered = .ok s') :
    s'.outputLinks = s.outputLinks := by
  rw [popupHandleMap, except_bind_eq_ok] at h
  obtain ⟨popup, hpopup, h⟩ := h
  have hp := popup_ok hpopup
  split at h
  · exact sendPopupMap_links hp h
  · obtain ⟨-, hp'⟩ := registerPopup_updates hp registered
    exact (sendPopupMap_links hp' h).trans (registerPopup_links hp registered)

theorem popupHandleUnmap_links (h : s.popupHandleUnmap p = .ok s') :
    s'.outputLinks = s.outputLinks := by
  rw [popupHandleUnmap, except_bind_eq_ok] at h
  obtain ⟨popup, hpopup, h⟩ := h
  cases h
  split
  · rw [outputLinks_call]
    exact outputLinks_setPopup_same (popup_ok hpopup) (by rfl)
  · rfl

theorem popupHandleDestroy_links (h : s.popupHandleDestroy p = .ok s') :
    s'.outputLinks =
      { s.outputLinks with popups := Function.update s.outputLinks.popups p none } := by
  rw [popupHandleDestroy, except_bind_eq_ok] at h
  obtain ⟨popup, hpopup, h⟩ := h
  cases h
  split
  all_goals exact outputLinks_eq rfl rfl rfl rfl (Store.project_free _ _ _)

theorem popupHandleReposition_links (h : s.popupHandleReposition p surf = .ok s') :
    s'.outputLinks = s.outputLinks := by
  rw [popupHandleReposition, except_bind_eq_ok] at h
  obtain ⟨popup, hpopup, h⟩ := h
  have hp := popup_ok hpopup
  have hplaced : (s.setPopup p (popup.place surf.scheduled)).outputLinks = s.outputLinks :=
    outputLinks_setPopup_same hp rfl
  dsimp only at h
  split at h
  · exact (sendPopupMap_links (get_setPopup hp) h).trans hplaced
  · cases h
    exact hplaced

/-- What the first commit of a popup does: the popup adopts the output of its parent, and a parent
    without one gets the output its box is on. -/
inductive Adopts (s : Instance) (p : Ptr) (popup : FwrPopup) (layout : OutputLayout) :
    OutputLinks → Prop where
  | parent {parent : FwrView} {o : Ptr} {scale : Rat}
      (hparent : s.viewObjects.get popup.parentView = some parent)
      (ho : parent.currentOutput = some o) (hscale : s.scaleOf (some o) = .ok scale) :
      Adopts s p popup layout
        { s.outputLinks with
          popups := Function.update s.outputLinks.popups p
            (some ⟨popup.parentView, some o, scale⟩) }
  | box {parent : FwrView} {o : Ptr} {scale : Rat}
      (hparent : s.viewObjects.get popup.parentView = some parent)
      (hnone : parent.currentOutput = none)
      (hbox : s.cachedForBox layout parent.x parent.y parent.width parent.height =
        .ok ⟨some o, scale⟩) :
      Adopts s p popup layout
        { s.outputLinks with
          views := Function.update s.outputLinks.views popup.parentView (some ⟨some o, scale⟩)
          popups := Function.update s.outputLinks.popups p
            (some ⟨popup.parentView, some o, scale⟩) }
  | none : Adopts s p popup layout s.outputLinks

/-- Only without outputs is a box on none. -/
theorem fwrOutputForBox_none {x y width height : Int}
    (h : s.fwrOutputForBox layout x y width height = .ok none) : s.fwrGetFirstOutput = none := by
  rw [fwrOutputForBox] at h
  split at h
  · exact Except.ok.inj h
  · rw [except_bind_eq_ok] at h
    obtain ⟨found, -, h⟩ := h
    split at h
    · cases h
    · exact Except.ok.inj h

theorem popupUnconstrain_links (hp : s.popupObjects.get p = some popup)
    (h : s.popupUnconstrain p popup layout = .ok (popup', s')) :
    Adopts s p popup layout s'.outputLinks := by
  rw [popupUnconstrain, except_bind_eq_ok] at h
  obtain ⟨parent, hparent, h⟩ := h
  rw [except_bind_eq_ok] at h
  obtain ⟨⟨output, s1⟩, houtput, h⟩ := h
  rw [parentOutput] at houtput
  split at houtput
  next o ho =>
    cases houtput
    dsimp only at h
    rw [except_bind_eq_ok] at h
    obtain ⟨scale, hscale, h⟩ := h
    cases h
    rw [outputLinks_setPopup hp]
    exact .parent (view_ok hparent) ho hscale
  next hnone =>
    rw [except_bind_eq_ok] at houtput
    obtain ⟨found, hfound, houtput⟩ := houtput
    split at houtput
    next o =>
      rw [except_bind_eq_ok] at houtput
      obtain ⟨scale, hscale, houtput⟩ := houtput
      cases houtput
      dsimp only at h
      rw [except_bind_eq_ok] at h
      obtain ⟨scale', hscale', h⟩ := h
      cases h
      obtain rfl : scale' = scale := by
        have hsame : s.scaleOf (some o) = .ok scale' := hscale'
        rw [hscale] at hsame
        cases hsame
        rfl
      have hbox : s.cachedForBox layout parent.x parent.y parent.width parent.height =
          .ok ⟨some o, scale'⟩ := by
        simp only [cachedForBox, except_bind_eq_ok]
        exact ⟨some o, hfound, scale', hscale, rfl⟩
      have hmoved : (s.setView popup.parentView { parent with
          currentOutput := some o, outputScale := scale' }).outputLinks =
          { s.outputLinks with
            views := Function.update s.outputLinks.views popup.parentView
              (some ⟨some o, scale'⟩) } := outputLinks_setView (view_ok hparent) (by rfl)
      rw [outputLinks_setPopup (by exact hp), hmoved]
      exact .box (view_ok hparent) hnone hbox
    next =>
      -- there is no output at all
      rw [fwrOutputForBox_none hfound] at houtput
      cases houtput
      cases h
      have hsame : (s.setPopup p { popup with unconstrained := true }).outputLinks =
          s.outputLinks := outputLinks_setPopup_same hp rfl
      rw [hsame]
      exact .none

theorem popupFirstCommit_links (hp : s.popupObjects.get p = some popup)
    (h : s.popupFirstCommit p popup layout = .ok (popup', s')) :
    (popup.unconstrained = true ∧ s'.outputLinks = s.outputLinks) ∨
      (popup.unconstrained = false ∧ Adopts s p popup layout s'.outputLinks) := by
  rw [popupFirstCommit] at h
  split at h
  next hdone =>
    cases h
    exact .inl ⟨hdone, rfl⟩
  next hfirst => exact .inr ⟨Bool.not_eq_true _ ▸ hfirst, popupUnconstrain_links hp h⟩

theorem popupEnsureTexture_links (hp : s.popupObjects.get p = some popup)
    (h : s.popupEnsureTexture p popup surf registered = .ok (popup', s')) :
    s'.outputLinks = s.outputLinks := by
  rw [popupEnsureTexture] at h
  split at h
  · cases h
    rfl
  · dsimp only at h
    split at h
    · rw [except_bind_eq_ok] at h
      obtain ⟨s1, hsend, h⟩ := h
      cases h
      obtain ⟨-, hp'⟩ := registerPopup_updates hp registered
      exact (sendPopupMap_links hp' hsend).trans (registerPopup_links hp registered)
    · cases h
      exact registerPopup_links hp registered

theorem popupFrame_links (hp : s.popupObjects.get p = some popup)
    (h : s.popupFrame p popup surf = .ok s') : s'.outputLinks = s.outputLinks := by
  rw [popupFrame] at h
  split at h
  · rw [except_bind_eq_ok] at h
    obtain ⟨s1, hresize, h⟩ := h
    cases h
    rw [outputLinks_call]
    rw [popupResize] at hresize
    split at hresize
    · exact sendPopupMap_links hp hresize
    · cases hresize
      rfl
  · cases h
    rfl

theorem popupHandleCommit_links (h : s.popupHandleCommit p surf layout registered = .ok s') :
    ∃ popup, s.popupObjects.get p = some popup ∧
      ((popup.unconstrained = true ∧ s'.outputLinks = s.outputLinks) ∨
        (popup.unconstrained = false ∧ Adopts s p popup layout s'.outputLinks)) := by
  rw [popupHandleCommit, except_bind_eq_ok] at h
  obtain ⟨popup, hpopup, h⟩ := h
  refine ⟨popup, popup_ok hpopup, ?_⟩
  rw [except_bind_eq_ok] at h
  obtain ⟨⟨popup1, s1⟩, hfirst, h⟩ := h
  obtain ⟨-, hp⟩ := popupFirstCommit_tables (popup_ok hpopup) hfirst
  have hlinks := popupFirstCommit_links (popup_ok hpopup) hfirst
  dsimp only at h
  split at h
  · rw [except_bind_eq_ok] at h
    obtain ⟨⟨popup2, s2⟩, hensure, h⟩ := h
    rw [popupFrame_links (popupEnsureTexture_updates hp hensure).2 h,
      popupEnsureTexture_links hp hensure]
    exact hlinks
  · cases h
    exact hlinks

/-- A new popup caches what its parent does. -/
theorem fwrNewXdgPopup_links {parentXdg : Option Nat}
    (h : s.fwrNewXdgPopup parentXdg surf registered = .ok s') :
    s'.outputLinks = s.outputLinks ∨
      ∃ parentView parent, s.viewObjects.get parentView = some parent ∧
        s'.outputLinks =
          { s.outputLinks with
            popups := Function.update s.outputLinks.popups s.popupObjects.next
              (some ⟨parentView, parent.cached⟩) } := by
  cases parentXdg with
  | none =>
      cases h
      exact .inl rfl
  | some parentXdg =>
      simp only [fwrNewXdgPopup] at h
      rw [except_bind_eq_ok] at h
      obtain ⟨found, -, h⟩ := h
      split at h
      next =>
        cases h
        exact .inl rfl
      next parentView =>
        rw [except_bind_eq_ok] at h
        obtain ⟨parent, hparent, h⟩ := h
        rw [except_bind_eq_ok] at h
        obtain ⟨-, -, h⟩ := h
        refine .inr ⟨parentView, parent, view_ok hparent, ?_⟩
        split at h
        · rw [popupHandleMap_links h]
          exact outputLinks_eq rfl rfl rfl rfl (Store.project_alloc _ _ _)
        · cases h
          exact outputLinks_eq rfl rfl rfl rfl (Store.project_alloc _ _ _)

/-! ## §6. All events. -/

/-- The toplevel that an event maps. -/
def mapsToplevel : Event → Option Ptr
  | .toplevelMap p _ _ _ => some p
  | _ => none

/-- The cached outputs after an event. -/
inductive Relinked (s : Instance) : Event → OutputLinks → Prop where
  | unchanged (e : Event) (hquiet : mapsToplevel e = none) : Relinked s e s.outputLinks
  | newOutput {wlrOutput : WlrOutput} {committed : Bool} (scales : Ptr → Option Rat)
      (hscales : ∀ o, s.outputLinks.scales o ≠ none → scales o = s.outputLinks.scales o) :
      Relinked s (.newOutput wlrOutput committed) { s.outputLinks with scales := scales }
  | outputDestroy (o : Ptr) :
      Relinked s (.outputDestroy o)
        { s.outputLinks with scales := Function.update s.outputLinks.scales o none }
  | outputCommitState (o : Ptr) (refresh : Option Int) (scale : Rat) :
      Relinked s (.outputCommitState o refresh scale)
        { s.outputLinks with scales := Function.update s.outputLinks.scales o (some scale) }
  | newToplevel {xdgSurface : Nat} :
      Relinked s (.newToplevel xdgSurface)
        { s.outputLinks with
          views := Function.update s.outputLinks.views s.viewObjects.next (some ⟨none, 0⟩)
          lists := Function.update s.outputLinks.lists s.viewObjects.next (some [])
          nextView := s.viewObjects.next + 1 }
  | toplevelMap {p : Ptr} {geo : WlrBox} {layout : OutputLayout} {registered : Bool}
      {view : FwrView} {c : Cached} (hview : s.viewObjects.get p = some view)
      (hbox : s.cachedForBox layout view.x view.y geo.width geo.height = .ok c) :
      Relinked s (.toplevelMap p geo layout registered)
        { s.outputLinks with views := Function.update s.outputLinks.views p (some c) }
  | toplevelDestroy (p : Ptr) :
      Relinked s (.toplevelDestroy p)
        { s.outputLinks with
          views := Function.update s.outputLinks.views p none
          lists := Function.update s.outputLinks.lists p none }
  | setPosition {surfaceHandle : UInt32} {x y : Int} {layout : OutputLayout} {q : Ptr}
      {view : FwrView} {c : Cached} (hq : s.views.get surfaceHandle = some q)
      (hview : s.viewObjects.get q = some view)
      (hbox : s.cachedForBox layout (toInt32 x) (toInt32 y) view.width view.height = .ok c)
      (hne : view.currentOutput ≠ c.output) :
      Relinked s (.setPosition surfaceHandle x y layout)
        (s.outputLinks.handedOn q view.subsurfaces s.popups.values c)
  | newSubsurface {p : Ptr} {view : FwrView} (hview : s.viewObjects.get p = some view) :
      Relinked s (.newSubsurface p)
        { s.outputLinks with
          lists := Function.update s.outputLinks.lists p
            (some (s.subsurfaceObjects.next :: view.subsurfaces))
          subsurfaces := Function.update s.outputLinks.subsurfaces s.subsurfaceObjects.next
            (some ⟨p, none, 0⟩) }
  | subsurfaceDestroy {p : Ptr} {sub : FwrSubsurface} {view : FwrView}
      (hsub : s.subsurfaceObjects.get p = some sub)
      (hview : s.viewObjects.get sub.parentView = some view) :
      Relinked s (.subsurfaceDestroy p)
        { s.outputLinks with
          lists := Function.update s.outputLinks.lists sub.parentView
            (some (view.subsurfaces.erase p))
          subsurfaces := Function.update s.outputLinks.subsurfaces p none }
  | newPopup {parentXdg : Option Nat} {surf : PopupSurface} {registered : Bool}
      {parentView : Ptr} {parent : FwrView} (hparent : s.viewObjects.get parentView = some parent) :
      Relinked s (.newPopup parentXdg surf registered)
        { s.outputLinks with
          popups := Function.update s.outputLinks.popups s.popupObjects.next
            (some ⟨parentView, parent.cached⟩) }
  | popupCommit {p : Ptr} {surf : PopupSurface} {layout : OutputLayout} {registered : Bool}
      {popup : FwrPopup} {l : OutputLinks} (hp : s.popupObjects.get p = some popup)
      (hfirst : popup.unconstrained = false) (hadopts : Adopts s p popup layout l) :
      Relinked s (.popupCommit p surf layout registered) l
  | popupDestroy (p : Ptr) :
      Relinked s (.popupDestroy p)
        { s.outputLinks with popups := Function.update s.outputLinks.popups p none }

theorem relinked_of_eq {e : Event} {l : OutputLinks} (heq : s'.outputLinks = l)
    (h : Relinked s e l) : Relinked s e s'.outputLinks := by
  rw [heq]
  exact h

theorem relinked_same {e : Event} (heq : s'.outputLinks = s.outputLinks)
    (hquiet : mapsToplevel e = none) : Relinked s e s'.outputLinks :=
  relinked_of_eq heq (.unchanged e hquiet)

/-- **What a handler does to cached outputs.** -/
theorem handle_relinked {e : Event} (h : s.handle e = .ok s') : Relinked s e s'.outputLinks := by
  cases e with
  | newOutput wlrOutput committed =>
      obtain ⟨scales, hlinks, hscales⟩ := fwrServerNewOutput_links h
      exact relinked_of_eq hlinks (.newOutput scales hscales)
  | outputDestroy p => exact relinked_of_eq (outputDestroy_links h) (.outputDestroy p)
  | outputCommitState p refresh scale =>
      exact relinked_of_eq (outputCommitState_links h) (.outputCommitState p refresh scale)
  | setVsyncOutput outputId => exact relinked_same (fwrSetVsyncOutput_links h) rfl
  | newToplevel xdgSurface => exact relinked_of_eq (fwrNewXdgToplevel_links h) .newToplevel
  | toplevelMap p geo layout registered =>
      obtain ⟨view, c, hview, hbox, hlinks⟩ := xdgToplevelMap_links h
      exact relinked_of_eq hlinks (.toplevelMap hview hbox)
  | toplevelUnmap p => exact relinked_same (xdgToplevelUnmap_links h) rfl
  | toplevelCommit p geo => exact relinked_same (xdgToplevelCommit_links h) rfl
  | toplevelDestroy p => exact relinked_of_eq (xdgToplevelDestroy_links h) (.toplevelDestroy p)
  | setPosition handle x y layout =>
      rcases fwrHandleSurfaceSetPosition_links h with
        hsame | ⟨q, view, c, hq, hview, hbox, hne, hlinks⟩
      · exact relinked_same hsame rfl
      · exact relinked_of_eq hlinks (.setPosition hq hview hbox hne)
  | newSubsurface p =>
      obtain ⟨view, hview, hlinks⟩ := handleNewSubsurface_links h
      exact relinked_of_eq hlinks (.newSubsurface hview)
  | subsurfaceMap p box registered => exact relinked_same (subsurfaceHandleMap_links h) rfl
  | subsurfaceUnmap p => exact relinked_same (subsurfaceHandleUnmap_links h) rfl
  | subsurfaceCommit p box => exact relinked_same (subsurfaceHandleCommit_links h) rfl
  | subsurfaceDestroy p =>
      obtain ⟨sub, view, hsub, hview, hlinks⟩ := subsurfaceHandleDestroy_links h
      exact relinked_of_eq hlinks (.subsurfaceDestroy hsub hview)
  | newPopup parentXdg surf registered =>
      rcases fwrNewXdgPopup_links h with hsame | ⟨parentView, parent, hparent, hlinks⟩
      · exact relinked_same hsame rfl
      · exact relinked_of_eq hlinks (.newPopup hparent)
  | popupMap p surf registered => exact relinked_same (popupHandleMap_links h) rfl
  | popupUnmap p => exact relinked_same (popupHandleUnmap_links h) rfl
  | popupCommit p surf layout registered =>
      obtain ⟨popup, hp, ⟨-, hsame⟩ | ⟨hfirst, hadopts⟩⟩ := popupHandleCommit_links h
      · exact relinked_same hsame rfl
      · exact .popupCommit hp hfirst hadopts
  | popupReposition p surf => exact relinked_same (popupHandleReposition_links h) rfl
  | popupDestroy p => exact relinked_of_eq (popupHandleDestroy_links h) (.popupDestroy p)
  | newSurface | surfaceDestroy p | activateSystemCursor xcursorName =>
      cases h
      exact relinked_same rfl rfl
  | requestCursor focused surface x y =>
      cases h
      refine relinked_same ?_ rfl
      unfold onSeatRequestCursor
      split <;> rfl

end Instance

end FlutterWlroots.Compositor
