/-
  FlutterWlroots.Platform.FwrInstance — what platform messages act on.

  Besides the mouse and the compositor, messages reach the configuration of the outputs (output.c),
  the sizes that windows are asked to have (surface.c) and the keyboard focus.  wlroots keeps the
  mode and the place of an output, what a client will be told of its window next, and the surface
  with the focus; `Answers` is what wlroots answers while a message is handled.

    • `fwrSetOutputMode`, `fwrSetOutputPosition`, `fwrSetOutputScale` — the outputs,
    • `requestResize`, `endResize`, …                                — the windows,
    • `fwrFocusView_cases`                                           — when the focus can be given,
    • `bestMode_eq`, `highestRefresh_eq`                             — what the two loops choose.
-/
import FlutterWlroots.Input.PointerEvents
import FlutterWlroots.Codec.PlatchEncode

namespace FlutterWlroots.Platform

open Lib Lib.StateRun FlutterWlroots.Compositor FlutterWlroots.Codec
open FlutterWlroots.Input (InputInstance Call SurfaceUnder Double)

/-! ## §1. State. -/

/-- `struct wlr_xdg_toplevel_configure`: what the client is told next. -/
structure ToplevelConfigure where
  maximized : Bool
  resizing : Bool
  width : Int
  height : Int
  deriving DecidableEq, Repr

/-- What a `struct fwr_view` and its `wlr_xdg_toplevel` keep of sizes asked for and of the focus. -/
structure Toplevel where
  /-- `xdg_surface->role == WLR_XDG_SURFACE_ROLE_TOPLEVEL`. -/
  isToplevel : Bool
  maximized : Bool
  activated : Bool
  resizeInProgress : Bool
  pendingWidth : Int
  pendingHeight : Int
  resizeRequestId : BitVec 64
  scheduled : ToplevelConfigure
  deriving DecidableEq, Repr

/-- `struct wlr_output_mode`. -/
structure WlrOutputMode where
  width : Int
  height : Int
  refresh : Int
  deriving DecidableEq, Repr

/-- The modes of a `wlr_output`, its size, and where the layout was told to put it.  Its refresh
    rate and its scale are in `WlrOutput`. -/
structure OutputConfig where
  modes : List WlrOutputMode
  width : Int
  height : Int
  position : Option (Int × Int)
  deriving DecidableEq, Repr

/-- The keyboard state of the seat: the surface with the focus, and the data of the xdg surface of
    each `wlr_surface` that has the role of a toplevel, which is there after the toplevel too. -/
structure SeatFocus where
  focusedSurface : Option Nat
  viewOf : Nat → Option Ptr

/-- `struct fwr_instance`, with what hangs on its views and outputs. -/
structure FwrInstance where
  input : InputInstance
  toplevels : Ptr → Toplevel
  outputConfigs : Ptr → OutputConfig
  vsyncRateLimit : Int
  wlSocket : CString
  seat : SeatFocus
  currentFocusedView : UInt32

/-- Arithmetic, and the scale (a `float`) that a `double` is stored as. -/
structure Target extends Input.Target where
  scale : Double → Rat

/-- What wlroots answers during a message. -/
structure Answers where
  layout : OutputLayout
  surf : Option SurfaceUnder
  /-- The result of `wlr_output_commit_state`. -/
  committed : Bool

namespace FwrInstance

variable (s : FwrInstance)

/-- The instance once the socket is there. -/
def init (wlSocket : CString) : FwrInstance where
  input := .init
  toplevels := fun _ => ⟨true, false, false, false, 0, 0, 0, ⟨false, false, 0, 0⟩⟩
  outputConfigs := fun _ => ⟨[], 0, 0, none⟩
  vsyncRateLimit := 0
  wlSocket := wlSocket
  seat := ⟨none, fun _ => none⟩
  currentFocusedView := 0

abbrev compositor : Instance := s.input.compositor

def setCompositor (compositor : Instance) : FwrInstance :=
  { s with input := { s.input with compositor } }

def setToplevel (p : Ptr) (toplevel : Toplevel) : FwrInstance :=
  { s with toplevels := Function.update s.toplevels p toplevel }

def setOutputConfig (p : Ptr) (config : OutputConfig) : FwrInstance :=
  { s with outputConfigs := Function.update s.outputConfigs p config }

variable {s} {p : Ptr}

theorem setCompositor_eq_iff {compositor : Instance} :
    s.setCompositor compositor = s ↔ compositor = s.compositor := by
  constructor
  · intro h
    exact congrArg FwrInstance.compositor h
  · rintro rfl
    rfl

theorem setToplevel_eq_iff {toplevel : Toplevel} :
    s.setToplevel p toplevel = s ↔ toplevel = s.toplevels p := by
  constructor
  · intro h
    exact Function.update_eq_self_iff.mp (congrArg FwrInstance.toplevels h)
  · rintro rfl
    unfold setToplevel
    rw [Function.update_eq_self]

theorem setOutputConfig_eq_iff {config : OutputConfig} :
    s.setOutputConfig p config = s ↔ config = s.outputConfigs p := by
  constructor
  · intro h
    exact Function.update_eq_self_iff.mp (congrArg FwrInstance.outputConfigs h)
  · rintro rfl
    unfold setOutputConfig
    rw [Function.update_eq_self]

end FwrInstance

/-! ## §2. Windows. -/

namespace Toplevel

variable (toplevel : Toplevel)

/-- `wlr_xdg_toplevel_set_size`. -/
def setSize (width height : Int) : Toplevel :=
  { toplevel with scheduled := { toplevel.scheduled with width, height } }

/-- `wlr_xdg_toplevel_set_resizing`, if the surface has the role of a toplevel. -/
def setResizing (resizing : Bool) : Toplevel :=
  if toplevel.isToplevel then
    { toplevel with scheduled := { toplevel.scheduled with resizing } }
  else toplevel

/-- `fwr_handle_surface_toplevel_set_size`, once the view is found. -/
def requestSize (width height : Int) : Toplevel :=
  if toplevel.isToplevel then toplevel.setSize width height else toplevel

/-- `fwr_handle_surface_toplevel_set_maximized`, once the view is found. -/
def setMaximized (maximized : Bool) : Toplevel :=
  if toplevel.isToplevel then
    { toplevel with maximized, scheduled := { toplevel.scheduled with maximized } }
  else toplevel

/-- `fwr_handle_surface_request_resize`, once the view is found. -/
def requestResize (width height : Int) (requestId : BitVec 64) : Toplevel :=
  let pending :=
    { toplevel with
      resizeInProgress := true
      pendingWidth := width
      pendingHeight := height
      resizeRequestId := requestId }
  (pending.setResizing true).setSize width height

/-- `fwr_handle_surface_end_resize`, once the view is found. -/
def endResize : Toplevel :=
  let cleared :=
    { toplevel with
      resizeInProgress := false
      pendingWidth := 0
      pendingHeight := 0
      resizeRequestId := 0 }
  cleared.setResizing false

/-- `activated`, if the surface has the role of a toplevel. -/
def activate (activated : Bool) : Toplevel :=
  if toplevel.isToplevel then { toplevel with activated } else toplevel

end Toplevel

/-! ## §3. Focus. -/

namespace FwrInstance

variable (s : FwrInstance)

/-- The toplevel that loses the focus is deactivated. -/
def deactivateFocused : Except Fault FwrInstance :=
  match s.seat.focusedSurface.bind s.seat.viewOf with
  | none => .ok s
  | some previous => do
      let _ ← s.compositor.view previous
      .ok (s.setToplevel previous { s.toplevels previous with activated := false })

/-- `fwr_focus_view`. -/
def fwrFocusView (p : Ptr) : Except Fault FwrInstance := do
  let view ← s.compositor.view p
  if s.seat.focusedSurface = some view.xdgSurface then .ok s
  else do
    let s ← s.deactivateFocused
    .ok { s.setToplevel p ((s.toplevels p).activate true) with
      seat := { s.seat with focusedSurface := some view.xdgSurface }
      currentFocusedView := view.handle }

/-- A view that is there can get the focus: it has it, or the toplevel that loses it is not
    destroyed. -/
def CanFocus (p : Ptr) : Prop :=
  ∀ view, s.compositor.viewObjects.get p = some view →
    s.seat.focusedSurface = some view.xdgSurface ∨
      ∀ q, s.seat.focusedSurface.bind s.seat.viewOf = some q → s.compositor.viewObjects.Live q

variable {s} {p : Ptr}

/-- **The focus**: a toplevel that has been destroyed is followed if it loses the focus. -/
theorem fwrFocusView_cases {view : FwrView} (hp : s.compositor.viewObjects.get p = some view) :
    (s.CanFocus p ∧ ∃ s', s.fwrFocusView p = .ok s' ∧ s'.input = s.input
        ∧ s'.wlSocket = s.wlSocket)
      ∨ (¬ s.CanFocus p ∧ ∃ f, s.fwrFocusView p = .error f) := by
  have hcan : s.CanFocus p ↔ s.seat.focusedSurface = some view.xdgSurface ∨
      ∀ q, s.seat.focusedSurface.bind s.seat.viewOf = some q →
        s.compositor.viewObjects.Live q := by
    constructor
    · intro h
      exact h view hp
    · intro h view' hp'
      obtain rfl := Option.some.inj (hp'.symm.trans hp)
      exact h
  have hread : s.compositor.view p = .ok view := Instance.deref_eq_ok.mpr hp
  rw [hcan]
  unfold fwrFocusView
  rw [hread]
  show (_ ∧ ∃ s', (if s.seat.focusedSurface = some view.xdgSurface then _ else _) = _ ∧ _) ∨
    (_ ∧ ∃ f, (if s.seat.focusedSurface = some view.xdgSurface then _ else _) = _)
  by_cases hfocused : s.seat.focusedSurface = some view.xdgSurface
  · rw [if_pos hfocused]
    exact .inl ⟨.inl hfocused, s, rfl, rfl, rfl⟩
  · rw [if_neg hfocused]
    unfold deactivateFocused
    cases hprevious : s.seat.focusedSurface.bind s.seat.viewOf with
    | none => exact .inl ⟨.inr fun q hq => (by cases hq), _, rfl, rfl, rfl⟩
    | some previous =>
        cases hlive : s.compositor.viewObjects.get previous with
        | some view' =>
            have hread' : s.compositor.view previous = .ok view' :=
              Instance.deref_eq_ok.mpr hlive
            dsimp only
            rw [hread']
            refine .inl ⟨.inr fun q hq => ?_, _, rfl, rfl, rfl⟩
            cases hq
            exact Store.live_of_get hlive
        | none =>
            have hread' : s.compositor.view previous = .error .freedView := by
              rw [Instance.view, Instance.deref, hlive]
            dsimp only
            rw [hread']
            refine .inr ⟨fun h => ?_, .freedView, rfl⟩
            rcases h with h | h
            · exact hfocused h
            · obtain ⟨view', hview'⟩ := Store.live_iff.mp (h previous rfl)
              rw [hlive] at hview'
              cases hview'

end FwrInstance

/-! ## §4. Outputs. -/

/-- The loop of `fwr_set_output_mode`: the first mode of this size and rate, or the last one of this
    size if the rate is 0. -/
def bestMode (width height refresh : Int) :
    List WlrOutputMode → Option WlrOutputMode → Option WlrOutputMode
  | [], best => best
  | mode :: modes, best =>
      if mode.width = width ∧ mode.height = height ∧ (refresh = 0 ∨ mode.refresh = refresh) then
        if refresh ≠ 0 then some mode else bestMode width height refresh modes (some mode)
      else bestMode width height refresh modes best

/-- `find_output_by_id`. -/
def findOutputById (s : Instance) (outputId : UInt32) : Except Fault (Option Ptr) :=
  s.findOutput (fun output => output.id == outputId) s.outputs

namespace FwrInstance

variable (s : FwrInstance) (a : Answers)

/-- `fwr_set_output_mode`. -/
def fwrSetOutputMode (outputId : UInt32) (width height refresh : Int) :
    Except Fault (FwrInstance × Bool) := do
  match ← findOutputById s.compositor outputId with
  | none => return (s, false)
  | some p =>
      let config := s.outputConfigs p
      match bestMode width height refresh config.modes none with
      | none => return (s, false)
      | some mode => do
          if a.committed then
            let output ← s.compositor.output p
            let compositor ←
              s.compositor.outputCommitState p (some mode.refresh) output.wlrOutput.scale
            return ((s.setCompositor compositor).setOutputConfig p
              { config with width := mode.width, height := mode.height }, true)
          else return (s, false)

/-- `fwr_set_output_position`. -/
def fwrSetOutputPosition (outputId : UInt32) (x y : Int) : Except Fault (FwrInstance × Bool) := do
  match ← findOutputById s.compositor outputId with
  | none => return (s, false)
  | some p => return (s.setOutputConfig p { s.outputConfigs p with position := some (x, y) }, true)

/-- `fwr_set_output_scale`. -/
def fwrSetOutputScale (outputId : UInt32) (scale : Rat) : Except Fault (FwrInstance × Bool) := do
  match ← findOutputById s.compositor outputId with
  | none => return (s, false)
  | some p => do
      if a.committed then
        let output ← s.compositor.output p
        let compositor ← s.compositor.outputCommitState p output.wlrOutput.refresh scale
        return (s.setCompositor compositor, true)
      else return (s, false)

/-- `fwr_set_vsync_rate_limit`. -/
def fwrSetVsyncRateLimit (maxHz : Int) : FwrInstance := { s with vsyncRateLimit := maxHz }

end FwrInstance

/-! ## §5. What the loops choose. -/

/-- A mode of this size and rate; rate 0 stands for any. -/
def WlrOutputMode.Fits (width height refresh : Int) (mode : WlrOutputMode) : Prop :=
  mode.width = width ∧ mode.height = height ∧ (refresh = 0 ∨ mode.refresh = refresh)

instance (width height refresh : Int) (mode : WlrOutputMode) :
    Decidable (mode.Fits width height refresh) :=
  inferInstanceAs (Decidable (_ ∧ _))

/-- **The mode that is set** is the first that fits, or the last one if any rate does. -/
theorem bestMode_eq (width height refresh : Int) (modes : List WlrOutputMode) :
    ∀ best, bestMode width height refresh modes best =
      if refresh = 0 then (modes.reverse.find? (·.Fits width height refresh)).or best
      else (modes.find? (·.Fits width height refresh)).or best := by
  induction modes with
  | nil =>
      intro best
      simp [bestMode]
  | cons mode modes ih =>
      intro best
      show (if mode.Fits width height refresh then _ else _) = _
      rw [ih, ih, List.reverse_cons, List.find?_append]
      by_cases hfits : mode.Fits width height refresh
      · have hhead : ∀ l, (mode :: l).find? (·.Fits width height refresh) = some mode :=
          fun l => List.find?_cons_of_pos (by simp [hfits])
        rw [if_pos hfits, hhead, hhead]
        by_cases hrate : refresh = 0
        · simp [hrate]
        · simp [hrate]
      · have hskip : ∀ l, (mode :: l).find? (·.Fits width height refresh)
            = l.find? (·.Fits width height refresh) :=
          fun l => List.find?_cons_of_neg (by simp [hfits])
        rw [if_neg hfits, hskip, hskip, List.find?_nil, Option.or_none]

/-- The refresh rate of an output. -/
def refreshOf (s : Instance) (p : Ptr) : Int :=
  match s.outputObjects.get p with
  | some output => getOutputRefresh output.wlrOutput
  | none => 0

/-- The first of the outputs with the highest refresh rate. -/
def firstHighest (s : Instance) : List Ptr → Option Ptr
  | [] => none
  | p :: ps =>
      match firstHighest s ps with
      | none => some p
      | some q => if refreshOf s p < refreshOf s q then some q else some p

/-- The output that is chosen automatically: none if no refresh rate is positive. -/
def highestRefreshOutput (s : Instance) : Option Ptr :=
  (firstHighest s s.outputs).filter fun p => 0 < refreshOf s p

/-- The loop of `fwr_select_highest_refresh_output`. -/
theorem highestRefresh_eq {s : Instance} {ps : List Ptr}
    (hlive : ∀ p ∈ ps, s.outputObjects.Live p) :
    ∀ best bestRefresh, s.highestRefresh ps best bestRefresh =
      .ok (match firstHighest s ps with
        | none => best
        | some p => if bestRefresh < refreshOf s p then some p else best) := by
  induction ps with
  | nil => exact fun _ _ => rfl
  | cons q ps ih =>
      intro best bestRefresh
      have ih := ih fun p hp => hlive p (List.mem_cons_of_mem q hp)
      obtain ⟨output, houtput⟩ := Store.live_iff.mp (hlive q List.mem_cons_self)
      have hrefresh : refreshOf s q = getOutputRefresh output.wlrOutput := by
        unfold refreshOf
        rw [houtput]
      have hread : s.output q = .ok output := Instance.deref_eq_ok.mpr houtput
      rw [Instance.highestRefresh, hread, firstHighest]
      show (if bestRefresh < getOutputRefresh output.wlrOutput then _ else _) = _
      rw [← hrefresh, ih, ih]
      cases firstHighest s ps with
      | none =>
          dsimp only
          split
          · rfl
          · rfl
      | some p => grind

/-- **The automatic choice.** -/
theorem fwrSelectHighestRefreshOutput_eq {s : Instance}
    (hlive : ∀ p ∈ s.outputs, s.outputObjects.Live p) :
    s.fwrSelectHighestRefreshOutput = .ok { s with vsyncOutput := highestRefreshOutput s } := by
  unfold Instance.fwrSelectHighestRefreshOutput highestRefreshOutput
  rw [highestRefresh_eq hlive]
  cases firstHighest s s.outputs with
  | none => rfl
  | some p => simp [Option.filter, bind, Except.bind]

end FlutterWlroots.Platform
