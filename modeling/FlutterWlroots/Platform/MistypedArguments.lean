/-
  FlutterWlroots.Platform.MistypedArguments — what becomes of arguments of the wrong type.

  The decoders of messages.c refuse a message with an argument that is missing or of another type
  (`typed_of_decode…`), and the instance stays as it is.  Eight methods do not use them: they only ask
  for a list that is long enough and put a default in the place of an element of another type, so
  that such a message changes the instance unless the defaults happen to be what is there
  (`DefaultsHarmless`, `handleMethod_mistyped`).
-/
import FlutterWlroots.Input.Replies
import FlutterWlroots.Platform.Methods
import Mathlib.Tactic.IntervalCases

namespace FlutterWlroots.Platform

open Lib Lib.CInt Lib.StateRun FlutterWlroots.Compositor FlutterWlroots.Codec
open FlutterWlroots.Messages FlutterWlroots.PlatformChannel
open FlutterWlroots.Input (InputInstance Call SurfaceUnder Double PointerEvent)
open FlutterWlroots.StandardMessageCodec (DartValue)

/-! ## §1. Arguments and their types. -/

/-- The types that handlers expect. -/
inductive ArgType where
  | integer
  | bool
  | float64
  /-- A double or an integer. -/
  | number
  deriving DecidableEq, Repr

/-- The value is of the type. -/
def ArgType.Accepts : ArgType → DartValue → Prop
  | .integer, .dvInteger _ => True
  | .bool, .dvBool _ => True
  | .float64, .dvFloat64 _ => True
  | .number, .dvInteger _ => True
  | .number, .dvFloat64 _ => True
  | _, _ => False

/-- The first arguments, all of them integers. -/
def integers (count : Nat) : List (Nat × ArgType) := (List.range count).map (·, .integer)

/-- The arguments of a pointer event that are used. -/
def pointerArguments : List (Nat × ArgType) :=
  [(0, .integer), (1, .integer), (7, .integer), (8, .integer), (11, .float64), (12, .float64),
   (15, .integer), (16, .integer), (17, .float64), (18, .float64), (25, .integer), (26, .integer),
   (27, .float64), (28, .float64), (29, .float64), (30, .float64)]

/-- The arguments that the handler of a method uses, by their index. -/
def Method.arguments : Method → List (Nat × ArgType)
  | .surfaceToplevelSetSize => integers 3
  | .surfaceToplevelSetMaximized => integers 2
  | .surfaceToplevelClose => integers 1
  | .surfaceFocus => integers 1
  | .surfaceBeginMove => integers 1
  | .surfaceBeginResize => integers 2
  | .surfaceSetPosition => integers 3
  | .surfaceRequestResize => integers 4
  | .surfaceEndResize => integers 1
  | .surfacePointerEvent => pointerArguments
  | .popupPointerEvent => pointerArguments
  | .surfaceKeyboardKey => integers 4
  | .surfaceClearFocus => []
  | .setDirectInputMode => [(0, .bool), (1, .integer)]
  | .isCompositor => []
  | .compositorReady => []
  | .getSocketPaths => []
  | .setVsyncOutput => integers 1
  | .setVsyncRateLimit => integers 1
  | .setOutputMode => integers 4
  | .setOutputPosition => integers 3
  | .setOutputScale => [(0, .integer), (1, .number)]
  | .setPrimaryOutput => []

/-- An argument of a message, if there are as many. -/
def argument (args : DartValue) (i : Nat) : Option DartValue :=
  match args with
  | .dvList n values => if i < n then values[i]? else none
  | _ => none

/-- Every argument that is used is there and of its type. -/
def Typed (m : Method) (args : DartValue) : Prop :=
  ∀ a ∈ m.arguments, ∃ value, argument args a.1 = some value ∧ a.2.Accepts value

/-- Some argument that is used is missing or of another type. -/
def Mistyped (m : Method) (args : DartValue) : Prop :=
  ∃ a ∈ m.arguments, ∀ value, argument args a.1 = some value → ¬ a.2.Accepts value

theorem Mistyped.not_typed {m : Method} {args : DartValue} (h : Mistyped m args) :
    ¬ Typed m args := by
  intro htyped
  obtain ⟨a, ha, hmissing⟩ := h
  obtain ⟨value, hvalue, haccepts⟩ := htyped a ha
  exact hmissing value hvalue haccepts

/-! ## §2. What the decoders accept is of its type. -/

section Decoders

variable {args : DartValue} {values : List DartValue} {length i : Nat}

theorem argument_of_decodeList (hlist : decodeList length args = some values) (hi : i < length) :
    argument args i = values[i]? := by
  unfold decodeList at hlist
  split at hlist
  next n values' =>
    split at hlist
    next heq =>
      cases hlist
      rw [heq]
      exact if_pos hi
    next => cases hlist
  next => cases hlist

theorem accepts_integerAt {n : Int} (hlist : decodeList length args = some values)
    (h : integerAt values i = some n) (hi : i < length) :
    ∃ value, argument args i = some value ∧ ArgType.integer.Accepts value := by
  obtain ⟨value, hvalue, hdecode⟩ := Option.bind_eq_some_iff.mp h
  refine ⟨value, (argument_of_decodeList hlist hi).trans hvalue, ?_⟩
  cases value with
  | dvInteger integer => trivial
  | _ => cases hdecode

theorem accepts_float64At {x : BitVec 64} (hlist : decodeList length args = some values)
    (h : float64At values i = some x) (hi : i < length) :
    ∃ value, argument args i = some value ∧ ArgType.float64.Accepts value := by
  obtain ⟨value, hvalue, hdecode⟩ := Option.bind_eq_some_iff.mp h
  refine ⟨value, (argument_of_decodeList hlist hi).trans hvalue, ?_⟩
  cases value with
  | dvFloat64 f64 => trivial
  | _ => cases hdecode

/-- A list of integers that have been decoded. -/
theorem typed_integers (hlist : decodeList length args = some values)
    (h : ∀ i < length, ∃ n, integerAt values i = some n) :
    ∀ a ∈ integers length, ∃ value, argument args a.1 = some value ∧ a.2.Accepts value := by
  intro a ha
  obtain ⟨i, hi, rfl⟩ := List.mem_map.mp ha
  have hlt : i < length := List.mem_range.mp hi
  obtain ⟨n, hn⟩ := h i hlt
  exact accepts_integerAt hlist hn hlt

theorem typed_of_decodeClose {handle : UInt32}
    (h : decodeSurfaceToplevelCloseMessage args = some handle) {m : Method}
    (hm : m.arguments = integers 1) : Typed m args := by
  simp only [decodeSurfaceToplevelCloseMessage, Option.bind_eq_bind, Option.bind_eq_some_iff] at h
  obtain ⟨values, hlist, n0, h0, -⟩ := h
  unfold Typed
  rw [hm]
  refine typed_integers hlist fun i hi => ?_
  interval_cases i
  exact ⟨n0, h0⟩

theorem typed_of_decodeBeginMove {handle : UInt32}
    (h : decodeSurfaceBeginMoveMessage args = some handle) : Typed .surfaceBeginMove args :=
  typed_of_decodeClose h rfl

theorem typed_of_decodeSetMaximized {message : SurfaceToplevelSetMaximizedMessage}
    (h : decodeSurfaceToplevelSetMaximizedMessage args = some message) :
    Typed .surfaceToplevelSetMaximized args := by
  simp only [decodeSurfaceToplevelSetMaximizedMessage, Option.bind_eq_bind,
    Option.bind_eq_some_iff] at h
  obtain ⟨values, hlist, n0, h0, n1, h1, -⟩ := h
  refine typed_integers hlist fun i hi => ?_
  interval_cases i
  · exact ⟨n0, h0⟩
  · exact ⟨n1, h1⟩

theorem typed_of_decodeBeginResize {message : SurfaceBeginResizeMessage}
    (h : decodeSurfaceBeginResizeMessage args = some message) : Typed .surfaceBeginResize args := by
  simp only [decodeSurfaceBeginResizeMessage, Option.bind_eq_bind, Option.bind_eq_some_iff] at h
  obtain ⟨values, hlist, n0, h0, n1, h1, -⟩ := h
  refine typed_integers hlist fun i hi => ?_
  interval_cases i
  · exact ⟨n0, h0⟩
  · exact ⟨n1, h1⟩

theorem typed_of_decodeSetSize {message : SurfaceToplevelSetSizeMessage}
    (h : decodeSurfaceToplevelSetSizeMessage args = some message) :
    Typed .surfaceToplevelSetSize args := by
  simp only [decodeSurfaceToplevelSetSizeMessage, Option.bind_eq_bind, Option.bind_eq_some_iff] at h
  obtain ⟨values, hlist, n0, h0, n1, h1, n2, h2, -⟩ := h
  refine typed_integers hlist fun i hi => ?_
  interval_cases i
  · exact ⟨n0, h0⟩
  · exact ⟨n1, h1⟩
  · exact ⟨n2, h2⟩

theorem typed_of_decodeSetPosition {message : SurfaceSetPositionMessage}
    (h : decodeSurfaceSetPositionMessage args = some message) : Typed .surfaceSetPosition args := by
  simp only [decodeSurfaceSetPositionMessage, Option.bind_eq_bind, Option.bind_eq_some_iff] at h
  obtain ⟨values, hlist, n0, h0, n1, h1, n2, h2, -⟩ := h
  refine typed_integers hlist fun i hi => ?_
  interval_cases i
  · exact ⟨n0, h0⟩
  · exact ⟨n1, h1⟩
  · exact ⟨n2, h2⟩

theorem typed_of_decodeKeyboardKey {message : SurfaceKeyboardKeyMessage}
    (h : decodeSurfaceKeyboardKeyMessage args = some message) : Typed .surfaceKeyboardKey args := by
  simp only [decodeSurfaceKeyboardKeyMessage, Option.bind_eq_bind, Option.bind_eq_some_iff] at h
  obtain ⟨values, hlist, n0, h0, n1, h1, n2, h2, n3, h3, -⟩ := h
  refine typed_integers hlist fun i hi => ?_
  interval_cases i
  · exact ⟨n0, h0⟩
  · exact ⟨n1, h1⟩
  · exact ⟨n2, h2⟩
  · exact ⟨n3, h3⟩

theorem typed_of_decodePointerEvent {message : SurfacePointerEventMessage}
    (h : decodeSurfacePointerEventMessage args = some message) {m : Method}
    (hm : m.arguments = pointerArguments) : Typed m args := by
  obtain ⟨values, hlist, h⟩ := Option.bind_eq_some_iff.mp h
  obtain ⟨n0, h0, h⟩ := Option.bind_eq_some_iff.mp h
  obtain ⟨n1, h1, h⟩ := Option.bind_eq_some_iff.mp h
  obtain ⟨n7, h7, h⟩ := Option.bind_eq_some_iff.mp h
  obtain ⟨n8, h8, h⟩ := Option.bind_eq_some_iff.mp h
  obtain ⟨x11, h11, h⟩ := Option.bind_eq_some_iff.mp h
  obtain ⟨x12, h12, h⟩ := Option.bind_eq_some_iff.mp h
  obtain ⟨n15, h15, h⟩ := Option.bind_eq_some_iff.mp h
  obtain ⟨n16, h16, h⟩ := Option.bind_eq_some_iff.mp h
  obtain ⟨x17, h17, h⟩ := Option.bind_eq_some_iff.mp h
  obtain ⟨x18, h18, h⟩ := Option.bind_eq_some_iff.mp h
  obtain ⟨n25, h25, h⟩ := Option.bind_eq_some_iff.mp h
  obtain ⟨n26, h26, h⟩ := Option.bind_eq_some_iff.mp h
  obtain ⟨x27, h27, h⟩ := Option.bind_eq_some_iff.mp h
  obtain ⟨x28, h28, h⟩ := Option.bind_eq_some_iff.mp h
  obtain ⟨x29, h29, h⟩ := Option.bind_eq_some_iff.mp h
  obtain ⟨x30, h30, -⟩ := Option.bind_eq_some_iff.mp h
  unfold Typed
  rw [hm]
  simp only [pointerArguments, List.forall_mem_cons]
  exact ⟨accepts_integerAt hlist h0 (by decide), accepts_integerAt hlist h1 (by decide),
    accepts_integerAt hlist h7 (by decide), accepts_integerAt hlist h8 (by decide),
    accepts_float64At hlist h11 (by decide), accepts_float64At hlist h12 (by decide),
    accepts_integerAt hlist h15 (by decide), accepts_integerAt hlist h16 (by decide),
    accepts_float64At hlist h17 (by decide), accepts_float64At hlist h18 (by decide),
    accepts_integerAt hlist h25 (by decide), accepts_integerAt hlist h26 (by decide),
    accepts_float64At hlist h27 (by decide), accepts_float64At hlist h28 (by decide),
    accepts_float64At hlist h29 (by decide), accepts_float64At hlist h30 (by decide), nofun⟩

end Decoders

/-! ## §3. Instances that are the same. -/

/-- The maps and lists lead to objects that are there. -/
structure Sound (s : Instance) : Prop where
  views : ∀ handle p, s.views.get handle = some p → s.viewObjects.Live p
  outputs : ∀ p ∈ s.outputs, s.outputObjects.Live p

/-- An instance with other outputs. -/
def FwrInstance.withOutputs (s : FwrInstance) (outputObjects : Store FwrOutput) : FwrInstance :=
  s.setCompositor { s.compositor with outputObjects }

/-- Nothing has changed; only the order in which the outputs are stored may be another. -/
structure Same (s s' : FwrInstance) : Prop where
  outputs : s'.compositor.outputObjects.get = s.compositor.outputObjects.get
  next : s'.compositor.outputObjects.next = s.compositor.outputObjects.next
  rest : s'.withOutputs s.compositor.outputObjects = s

section Changes

variable {s s' : FwrInstance} {p : Ptr}

theorem same_iff_eq (h : s'.compositor.outputObjects = s.compositor.outputObjects) :
    Same s s' ↔ s' = s := by
  have hself : s'.withOutputs s.compositor.outputObjects = s' := by
    rw [← h]
    rfl
  constructor
  · intro hsame
    exact hself.symm.trans hsame.rest
  · rintro rfl
    exact ⟨rfl, rfl, rfl⟩

theorem same_refl (s : FwrInstance) : Same s s := (same_iff_eq rfl).mpr rfl

theorem same_setToplevel {toplevel : Toplevel} :
    Same s (s.setToplevel p toplevel) ↔ toplevel = s.toplevels p := by
  have houtputs : (s.setToplevel p toplevel).compositor.outputObjects
    = s.compositor.outputObjects := rfl
  exact (same_iff_eq houtputs).trans FwrInstance.setToplevel_eq_iff

theorem same_setOutputConfig {config : OutputConfig} :
    Same s (s.setOutputConfig p config) ↔ config = s.outputConfigs p := by
  have houtputs : (s.setOutputConfig p config).compositor.outputObjects
    = s.compositor.outputObjects := rfl
  exact (same_iff_eq houtputs).trans FwrInstance.setOutputConfig_eq_iff

/-- A commit that has been accepted. -/
theorem same_commit {output : FwrOutput} {refresh : Option Int} {scale : Rat} {compositor : Instance}
    {config : OutputConfig} (hp : s.compositor.outputObjects.get p = some output)
    (h : s.compositor.outputCommitState p refresh scale = .ok compositor) :
    Same s ((s.setCompositor compositor).setOutputConfig p config) ↔
      refresh = output.wlrOutput.refresh ∧ scale = output.wlrOutput.scale ∧
        config = s.outputConfigs p := by
  have hread : s.compositor.output p = .ok output := Instance.deref_eq_ok.mpr hp
  unfold Instance.outputCommitState at h
  rw [hread] at h
  cases h
  have hget : (s.compositor.outputObjects.set p
      { output with wlrOutput := { output.wlrOutput with refresh, scale } }).get =
        s.compositor.outputObjects.get ↔
      refresh = output.wlrOutput.refresh ∧ scale = output.wlrOutput.scale := by
    rw [Store.get_set_eq (Store.live_of_get hp), Function.update_eq_self_iff, hp, Option.some.injEq]
    constructor
    · intro heq
      exact ⟨congrArg (·.wlrOutput.refresh) heq, congrArg (·.wlrOutput.scale) heq⟩
    · rintro ⟨rfl, rfl⟩
      rfl
  constructor
  · intro hsame
    have hrest : s.setOutputConfig p config = s := hsame.rest
    obtain ⟨hrefresh, hscale⟩ := hget.mp hsame.outputs
    exact ⟨hrefresh, hscale, FwrInstance.setOutputConfig_eq_iff.mp hrest⟩
  · rintro ⟨hrefresh, hscale, hconfig⟩
    have hrest : s.setOutputConfig p config = s := FwrInstance.setOutputConfig_eq_iff.mpr hconfig
    exact ⟨hget.mpr ⟨hrefresh, hscale⟩, Store.next_set .., hrest⟩

end Changes

/-! ## §4. Defaults. -/

/-- The mode is the one in use. -/
def ModeInUse (s : FwrInstance) (p : Ptr) (mode : WlrOutputMode) : Prop :=
  (∃ output, s.compositor.outputObjects.get p = some output ∧
      output.wlrOutput.refresh = some mode.refresh) ∧
    (s.outputConfigs p).width = mode.width ∧ (s.outputConfigs p).height = mode.height

/-- The scale is the one in use. -/
def ScaleInUse (s : FwrInstance) (p : Ptr) (scale : Rat) : Prop :=
  ∃ output, s.compositor.outputObjects.get p = some output ∧ output.wlrOutput.scale = scale

/-- This resize has been requested and is not over. -/
def ResizeRequested (toplevel : Toplevel) (width height : Int) (requestId : BitVec 64) : Prop :=
  toplevel.resizeInProgress = true ∧ toplevel.pendingWidth = width ∧
    toplevel.pendingHeight = height ∧ toplevel.resizeRequestId = requestId ∧
    toplevel.scheduled.width = width ∧ toplevel.scheduled.height = height ∧
    (toplevel.isToplevel = true → toplevel.scheduled.resizing = true)

/-- No resize is under way. -/
def ResizeOver (toplevel : Toplevel) : Prop :=
  toplevel.resizeInProgress = false ∧ toplevel.pendingWidth = 0 ∧ toplevel.pendingHeight = 0 ∧
    toplevel.resizeRequestId = 0 ∧
    (toplevel.isToplevel = true → toplevel.scheduled.resizing = false)

/-- **What the defaults ask for is what is there.** -/
def DefaultsHarmless (c : Target) (a : Answers) (s : FwrInstance) (args : DartValue) :
    Method → Prop
  | .setDirectInputMode => ∀ values ∈ argumentList 2 args,
      s.input.directInputMode = isTrueAt values 0 ∧
        s.input.directInputSurface = handleOrZero values 1
  | .setVsyncOutput => (argumentList 1 args).isSome →
      s.compositor.vsyncOutput = highestRefreshOutput s.compositor
  | .setVsyncRateLimit => (argumentList 1 args).isSome → s.vsyncRateLimit = 0
  | .setOutputMode => ∀ values ∈ argumentList 4 args, ∀ p,
      findOutputById s.compositor (handleOrZero values 0) = .ok (some p) → a.committed →
      ∀ mode ∈ bestMode (intOrZero values 1) (intOrZero values 2) (intOrZero values 3)
        (s.outputConfigs p).modes none, ModeInUse s p mode
  | .setOutputPosition => ∀ values ∈ argumentList 3 args, ∀ p,
      findOutputById s.compositor (handleOrZero values 0) = .ok (some p) →
      (s.outputConfigs p).position = some (intOrZero values 1, intOrZero values 2)
  | .setOutputScale => ∀ values ∈ argumentList 2 args, ∀ p,
      findOutputById s.compositor (handleOrZero values 0) = .ok (some p) → a.committed →
      ScaleInUse s p (c.scale (scaleAt c values 1))
  | .surfaceRequestResize => ∀ values ∈ argumentList 4 args, ∀ p,
      s.compositor.views.get (handleOrZero values 0) = some p →
      ResizeRequested (s.toplevels p) (intOrZero values 1) (intOrZero values 2)
        (.ofInt 64 (integerOrZero values 3))
  | .surfaceEndResize => (argumentList 1 args).isSome → ∀ p,
      s.compositor.views.get 0 = some p → ResizeOver (s.toplevels p)
  | _ => True

section Lenient

variable {c : Target} {a : Answers} {s : FwrInstance} {args : DartValue} {p : Ptr}

theorem requestResize_eq_iff {toplevel : Toplevel} {width height : Int} {requestId : BitVec 64} :
    toplevel.requestResize width height requestId = toplevel ↔
      ResizeRequested toplevel width height requestId := by
  obtain ⟨isToplevel, maximized, activated, resizeInProgress, pendingWidth, pendingHeight,
    resizeRequestId, ⟨scheduledMaximized, resizing, scheduledWidth, scheduledHeight⟩⟩ := toplevel
  unfold Toplevel.requestResize Toplevel.setResizing Toplevel.setSize ResizeRequested
  cases isToplevel with
  | true => simp; grind
  | false => simp; grind

theorem endResize_eq_iff {toplevel : Toplevel} :
    toplevel.endResize = toplevel ↔ ResizeOver toplevel := by
  obtain ⟨isToplevel, maximized, activated, resizeInProgress, pendingWidth, pendingHeight,
    resizeRequestId, ⟨scheduledMaximized, resizing, scheduledWidth, scheduledHeight⟩⟩ := toplevel
  unfold Toplevel.endResize Toplevel.setResizing ResizeOver
  cases isToplevel with
  | true => simp; grind
  | false => simp; grind

/-- The lookup of an output returns. -/
theorem Sound.findOutputById {s : Instance} (h : Sound s) (outputId : UInt32) :
    ∃ found, findOutputById s outputId = .ok found ∧
      ∀ p, found = some p → ∃ output, s.outputObjects.get p = some output := by
  unfold Platform.findOutputById
  have hlive := h.outputs
  generalize s.outputs = ps at hlive
  induction ps with
  | nil => exact ⟨none, rfl, nofun⟩
  | cons q ps ih =>
      obtain ⟨output, houtput⟩ := Store.live_iff.mp (hlive q List.mem_cons_self)
      have hread : s.output q = .ok output := Instance.deref_eq_ok.mpr houtput
      rw [Instance.findOutput, hread]
      show ∃ found, (if (output.id == outputId) = true then _ else _) = _ ∧ _
      split
      next => exact ⟨some q, rfl, fun p hp => ⟨output, (Option.some.inj hp) ▸ houtput⟩⟩
      next => exact ih fun p hp => hlive p (List.mem_cons_of_mem q hp)

/-- The lookup of a view returns. -/
theorem Sound.withView (h : Sound s.compositor) (surfaceHandle : UInt32)
    (act : Ptr → FwrInstance × List Action) :
    (s.compositor.views.get surfaceHandle = none ∧
      s.withView surfaceHandle act = .ok (s, [.respond .nullSuccess])) ∨
    ∃ p, s.compositor.views.get surfaceHandle = some p ∧
      s.withView surfaceHandle act = .ok ((act p).1, (act p).2 ++ [.respond .nullSuccess]) := by
  unfold FwrInstance.withView
  cases hp : s.compositor.views.get surfaceHandle with
  | none => exact .inl ⟨rfl, rfl⟩
  | some p =>
      obtain ⟨view, hview⟩ := Store.live_iff.mp (h.views _ p hp)
      have hread : s.compositor.view p = .ok view := Instance.deref_eq_ok.mpr hview
      refine .inr ⟨p, rfl, ?_⟩
      show (s.compositor.view p >>= _) = _
      rw [hread]
      rfl

/-- The handler returns, and leaves the instance as it is just if the condition holds. -/
def LeavesIf (s : FwrInstance) (handled : Handled) (condition : Prop) : Prop :=
  ∃ s' actions, handled = .ok (s', actions) ∧ (Same s s' ↔ condition)

theorem requestResize_leaves (h : Sound s.compositor) :
    LeavesIf s (s.fwrHandleSurfaceRequestResize args)
      (DefaultsHarmless c a s args .surfaceRequestResize) := by
  unfold FwrInstance.fwrHandleSurfaceRequestResize DefaultsHarmless
  cases argumentList 4 args with
  | none => exact ⟨s, _, rfl, by simp [same_refl]⟩
  | some values =>
      dsimp only
      rcases h.withView (handleOrZero values 0) _ with ⟨hp, hhandle⟩ | ⟨p, hp, hhandle⟩
      · refine ⟨_, _, hhandle, ?_⟩
        simp [hp, same_refl]
      · refine ⟨_, _, hhandle, ?_⟩
        rw [same_setToplevel, requestResize_eq_iff]
        simp [hp]

/-- The only argument is not an integer, so 0 is taken. -/
theorem integerOrZero_of_mistyped {m : Method} (h : Mistyped m args)
    (hm : m.arguments = integers 1) {values : List DartValue}
    (hlist : argumentList 1 args = some values) : integerOrZero values 0 = 0 := by
  obtain ⟨a, ha, hmissing⟩ := h
  rw [hm] at ha
  cases List.mem_singleton.mp ha
  have hargument : argument args 0 = values[0]? := by
    unfold argumentList at hlist
    split at hlist
    next n values' =>
      split at hlist
      next hlength =>
        cases hlist
        exact if_pos hlength
      next => cases hlist
    next => cases hlist
  unfold integerOrZero integerAt
  cases hvalue : values[0]? with
  | none => rfl
  | some value =>
      have hnot := hmissing value (hargument.trans hvalue)
      cases value with
      | dvInteger integer => exact absurd trivial hnot
      | _ => rfl

theorem endResize_leaves (hs : Sound s.compositor) (h : Mistyped .surfaceEndResize args) :
    LeavesIf s (s.fwrHandleSurfaceEndResize args)
      (DefaultsHarmless c a s args .surfaceEndResize) := by
  unfold FwrInstance.fwrHandleSurfaceEndResize DefaultsHarmless
  cases hlist : argumentList 1 args with
  | none => exact ⟨s, _, rfl, by simp [same_refl]⟩
  | some values =>
      have hzero : handleOrZero values 0 = 0 := by
        unfold handleOrZero
        rw [integerOrZero_of_mistyped h rfl hlist]
        rfl
      dsimp only
      rcases hs.withView (handleOrZero values 0) _ with ⟨hp, hhandle⟩ | ⟨p, hp, hhandle⟩
      · refine ⟨_, _, hhandle, ?_⟩
        rw [hzero] at hp
        simp [hp, same_refl]
      · refine ⟨_, _, hhandle, ?_⟩
        rw [hzero] at hp
        rw [same_setToplevel, endResize_eq_iff]
        simp [hp]

theorem setDirectInputMode_same :
    Same s (s.setDirectInputMode args) ↔ DefaultsHarmless c a s args .setDirectInputMode := by
  unfold FwrInstance.setDirectInputMode DefaultsHarmless
  cases argumentList 2 args with
  | none => simp [same_refl]
  | some values =>
      dsimp only
      rw [same_iff_eq (by rfl)]
      constructor
      · rintro heq _ ⟨⟩
        exact ⟨(congrArg (·.input.directInputMode) heq).symm,
          (congrArg (·.input.directInputSurface) heq).symm⟩
      · intro hsame
        obtain ⟨hmode, hsurface⟩ := hsame values rfl
        rw [← hmode, ← hsurface]

theorem setVsyncRateLimit_same (h : Mistyped .setVsyncRateLimit args) :
    Same s (s.setVsyncRateLimit args) ↔ DefaultsHarmless c a s args .setVsyncRateLimit := by
  unfold FwrInstance.setVsyncRateLimit DefaultsHarmless
  cases hlist : argumentList 1 args with
  | none => simp [same_refl]
  | some values =>
      dsimp only
      have hzero : intOrZero values 0 = 0 := by
        unfold intOrZero
        rw [integerOrZero_of_mistyped h rfl hlist]
        rfl
      rw [same_iff_eq (by rfl), hzero]
      constructor
      · intro heq _
        exact (congrArg (·.vsyncRateLimit) heq).symm
      · intro hsame
        unfold FwrInstance.fwrSetVsyncRateLimit
        rw [← hsame rfl]

theorem setVsyncOutput_leaves (hs : Sound s.compositor) (h : Mistyped .setVsyncOutput args) :
    ∃ s', s.setVsyncOutput args = .ok s' ∧
      (Same s s' ↔ DefaultsHarmless c a s args .setVsyncOutput) := by
  unfold FwrInstance.setVsyncOutput DefaultsHarmless
  cases hlist : argumentList 1 args with
  | none => exact ⟨s, rfl, by simp [same_refl]⟩
  | some values =>
      have hzero : handleOrZero values 0 = 0 := by
        unfold handleOrZero
        rw [integerOrZero_of_mistyped h rfl hlist]
        rfl
      have hchoice : s.compositor.fwrSetVsyncOutput (handleOrZero values 0) =
          .ok { s.compositor with vsyncOutput := highestRefreshOutput s.compositor } := by
        unfold Instance.fwrSetVsyncOutput
        rw [if_pos hzero, fwrSelectHighestRefreshOutput_eq hs.outputs]
      dsimp only
      rw [hchoice]
      refine ⟨_, rfl, ?_⟩
      rw [same_iff_eq (by rfl), FwrInstance.setCompositor_eq_iff]
      constructor
      · intro heq _
        exact (congrArg (·.vsyncOutput) heq).symm
      · intro hsame
        rw [← hsame rfl]

theorem size_eq_iff {config : OutputConfig} {width height : Int} :
    { config with width, height } = config ↔ config.width = width ∧ config.height = height := by
  obtain ⟨modes, width', height', position⟩ := config
  simp only [OutputConfig.mk.injEq, true_and, and_true]
  exact and_congr eq_comm eq_comm

theorem position_eq_iff {config : OutputConfig} {position : Option (Int × Int)} :
    { config with position } = config ↔ config.position = position := by
  obtain ⟨modes, width, height, position'⟩ := config
  simp only [OutputConfig.mk.injEq, true_and]
  exact eq_comm

theorem setOutputMode_leaves (hs : Sound s.compositor) :
    ∃ s' success, s.setOutputMode a args = .ok (s', success) ∧
      (Same s s' ↔ DefaultsHarmless c a s args .setOutputMode) := by
  unfold FwrInstance.setOutputMode DefaultsHarmless
  cases argumentList 4 args with
  | none => exact ⟨s, false, rfl, by simp [same_refl]⟩
  | some values =>
      obtain ⟨found, hfound, hread⟩ := hs.findOutputById (handleOrZero values 0)
      dsimp only
      unfold FwrInstance.fwrSetOutputMode
      rw [hfound]
      cases found with
      | none => exact ⟨s, false, rfl, by simp [same_refl, hfound]⟩
      | some p =>
          obtain ⟨output, houtput⟩ := hread p rfl
          have houtputOk : s.compositor.output p = .ok output := Instance.deref_eq_ok.mpr houtput
          simp only [bind, Except.bind]
          cases hmode : bestMode (intOrZero values 1) (intOrZero values 2) (intOrZero values 3)
            (s.outputConfigs p).modes none with
          | none => exact ⟨s, false, rfl, by simp [same_refl, hfound, hmode]⟩
          | some mode =>
              by_cases hcommitted : a.committed = true
              · obtain ⟨compositor, hcommit⟩ : ∃ compositor, s.compositor.outputCommitState p
                    (some mode.refresh) output.wlrOutput.scale = .ok compositor := by
                  unfold Instance.outputCommitState
                  rw [houtputOk]
                  exact ⟨_, rfl⟩
                simp only [hcommitted, if_true, houtputOk, hcommit]
                refine ⟨_, true, rfl, ?_⟩
                rw [same_commit houtput hcommit, size_eq_iff]
                have hchosen : (∀ values' ∈ some values, ∀ q,
                    findOutputById s.compositor (handleOrZero values' 0) = .ok (some q) →
                    True → ∀ mode ∈ bestMode (intOrZero values' 1) (intOrZero values' 2)
                      (intOrZero values' 3) (s.outputConfigs q).modes none,
                      ModeInUse s q mode) ↔ ModeInUse s p mode := by
                  simp [hfound, hmode]
                rw [hchosen]
                unfold ModeInUse
                simp [houtput, eq_comm]
              · refine ⟨s, false, by simp [hcommitted]; rfl, ?_⟩
                simp [same_refl, hcommitted]

theorem setOutputPosition_leaves (hs : Sound s.compositor) :
    ∃ s' success, s.setOutputPosition args = .ok (s', success) ∧
      (Same s s' ↔ DefaultsHarmless c a s args .setOutputPosition) := by
  unfold FwrInstance.setOutputPosition DefaultsHarmless
  cases argumentList 3 args with
  | none => exact ⟨s, false, rfl, by simp [same_refl]⟩
  | some values =>
      obtain ⟨found, hfound, -⟩ := hs.findOutputById (handleOrZero values 0)
      dsimp only
      unfold FwrInstance.fwrSetOutputPosition
      rw [hfound]
      cases found with
      | none => exact ⟨s, false, rfl, by simp [same_refl, hfound]⟩
      | some p =>
          refine ⟨_, true, rfl, ?_⟩
          rw [same_setOutputConfig, position_eq_iff]
          simp [hfound]

theorem setOutputScale_leaves (hs : Sound s.compositor) :
    ∃ s' success, s.setOutputScale c a args = .ok (s', success) ∧
      (Same s s' ↔ DefaultsHarmless c a s args .setOutputScale) := by
  unfold FwrInstance.setOutputScale DefaultsHarmless
  cases argumentList 2 args with
  | none => exact ⟨s, false, rfl, by simp [same_refl]⟩
  | some values =>
      obtain ⟨found, hfound, hread⟩ := hs.findOutputById (handleOrZero values 0)
      dsimp only
      unfold FwrInstance.fwrSetOutputScale
      rw [hfound]
      cases found with
      | none => exact ⟨s, false, rfl, by simp [same_refl, hfound]⟩
      | some p =>
          obtain ⟨output, houtput⟩ := hread p rfl
          have houtputOk : s.compositor.output p = .ok output := Instance.deref_eq_ok.mpr houtput
          simp only [bind, Except.bind]
          by_cases hcommitted : a.committed = true
          · obtain ⟨compositor, hcommit⟩ : ∃ compositor, s.compositor.outputCommitState p
                output.wlrOutput.refresh (c.scale (scaleAt c values 1)) = .ok compositor := by
              unfold Instance.outputCommitState
              rw [houtputOk]
              exact ⟨_, rfl⟩
            simp only [hcommitted, if_true, houtputOk, hcommit]
            refine ⟨_, true, rfl, ?_⟩
            have hconfig : (s.setCompositor compositor).setOutputConfig p (s.outputConfigs p)
                = s.setCompositor compositor := FwrInstance.setOutputConfig_eq_iff.mpr rfl
            rw [← hconfig, same_commit houtput hcommit]
            simp [hfound, ScaleInUse, houtput, eq_comm]
          · refine ⟨s, false, by simp [hcommitted]; rfl, ?_⟩
            simp [same_refl, hcommitted]

end Lenient

/-! ## §5. Mistyped arguments. -/

section Methods

variable {c : Target} {a : Answers} {base : Nat} {s : FwrInstance} {args : DartValue} {m : Method}

/-- A message that its decoder refuses. -/
theorem leaves_of_refused {α : Type} {decoded : Option α} {handled : Handled} (h : Mistyped m args)
    (htyped : ∀ message, decoded = some message → Typed m args)
    (hrefused : decoded = none → handled = .ok (s, [.respond .failure])) :
    LeavesIf s handled True := by
  cases hdecoded : decoded with
  | some message => exact absurd (htyped message hdecoded) h.not_typed
  | none => exact ⟨s, _, hrefused hdecoded, iff_of_true (same_refl s) trivial⟩

/-- A method that changes an output. -/
theorem respondTo_leaves {errorMsg : String} {handled : Except Fault (FwrInstance × Bool)}
    {D : Prop} (h : ∃ s' success, handled = .ok (s', success) ∧ (Same s s' ↔ D)) :
    LeavesIf s (handled >>= fun result => .ok (FwrInstance.respondTo base errorMsg result)) D := by
  obtain ⟨s', success, rfl, hsame⟩ := h
  exact ⟨s', _, rfl, hsame⟩

/-- **Mistyped arguments change nothing just if the defaults in their place are harmless.** -/
theorem handleMethod_mistyped (hs : Sound s.compositor) (h : Mistyped m args) :
    ∃ s' actions, s.handleMethod c a base args m = .ok (s', actions) ∧
      (Same s s' ↔ DefaultsHarmless c a s args m) := by
  cases m with
  -- the decoders of messages.c
  | surfaceToplevelSetSize =>
      refine leaves_of_refused h (fun _ => typed_of_decodeSetSize) fun hnone => ?_
      unfold FwrInstance.handleMethod FwrInstance.fwrHandleSurfaceToplevelSetSize
      rw [hnone]
      rfl
  | surfaceToplevelSetMaximized =>
      refine leaves_of_refused h (fun _ => typed_of_decodeSetMaximized) fun hnone => ?_
      unfold FwrInstance.handleMethod FwrInstance.fwrHandleSurfaceToplevelSetMaximized
      rw [hnone]
      rfl
  | surfaceToplevelClose =>
      refine leaves_of_refused h (fun _ hdecode => typed_of_decodeClose hdecode rfl) fun hnone => ?_
      unfold FwrInstance.handleMethod FwrInstance.fwrHandleSurfaceToplevelClose
      rw [hnone]
      rfl
  | surfaceFocus =>
      refine leaves_of_refused h (fun _ hdecode => typed_of_decodeClose hdecode rfl) fun hnone => ?_
      unfold FwrInstance.handleMethod FwrInstance.fwrHandleSurfaceFocus
      rw [hnone]
      rfl
  | surfaceBeginMove =>
      refine leaves_of_refused h (fun _ => typed_of_decodeBeginMove) fun hnone => ?_
      unfold FwrInstance.handleMethod InputInstance.fwrHandleSurfaceBeginMove
      rw [hnone]
      rfl
  | surfaceBeginResize =>
      refine leaves_of_refused h (fun _ => typed_of_decodeBeginResize) fun hnone => ?_
      unfold FwrInstance.handleMethod InputInstance.fwrHandleSurfaceBeginResize
      rw [hnone]
      rfl
  | surfaceSetPosition =>
      refine leaves_of_refused h (fun _ => typed_of_decodeSetPosition) fun hnone => ?_
      unfold FwrInstance.handleMethod FwrInstance.fwrHandleSurfaceSetPosition
      rw [hnone]
      rfl
  | surfacePointerEvent =>
      refine leaves_of_refused h (fun _ hdecode => typed_of_decodePointerEvent hdecode rfl)
        fun hnone => ?_
      unfold FwrInstance.handleMethod InputInstance.fwrHandleSurfacePointerEventMessage
      rw [hnone]
      rfl
  | popupPointerEvent =>
      refine leaves_of_refused h (fun _ hdecode => typed_of_decodePointerEvent hdecode rfl)
        fun hnone => ?_
      unfold FwrInstance.handleMethod InputInstance.fwrHandlePopupPointerEventMessage
      rw [hnone]
      rfl
  | surfaceKeyboardKey =>
      refine leaves_of_refused h (fun _ => typed_of_decodeKeyboardKey) fun hnone => ?_
      unfold FwrInstance.handleMethod FwrInstance.fwrHandleSurfaceKeyboardKeyMessage
      rw [hnone]
      rfl
  -- the methods that decode inline
  | surfaceRequestResize => exact requestResize_leaves hs
  | surfaceEndResize => exact endResize_leaves hs h
  | setDirectInputMode => exact ⟨_, _, rfl, setDirectInputMode_same⟩
  | setVsyncRateLimit => exact ⟨_, _, rfl, setVsyncRateLimit_same h⟩
  | setVsyncOutput =>
      obtain ⟨s', hhandle, hsame⟩ := setVsyncOutput_leaves (c := c) (a := a) hs h
      refine ⟨s', [.respond .nullSuccess], ?_, hsame⟩
      show (s.setVsyncOutput args >>= _) = _
      rw [hhandle]
      rfl
  | setOutputMode => exact respondTo_leaves (setOutputMode_leaves hs)
  | setOutputPosition => exact respondTo_leaves (setOutputPosition_leaves hs)
  | setOutputScale => exact respondTo_leaves (setOutputScale_leaves hs)
  -- no arguments
  | surfaceClearFocus | isCompositor | compositorReady | getSocketPaths | setPrimaryOutput =>
      obtain ⟨_, hmem, -⟩ := h
      cases hmem

end Methods

theorem sound_of_standing {s : Instance} (h : Standing s) : Sound s where
  views := fun _ _ hp => Store.live_iff.mpr (h.view hp)
  outputs := h.outputs.live

/-- Arithmetic for messages without scales. -/
def Target.still : Target := { toTarget := .still, scale := fun _ => 1 }

/-- wlroots without surfaces and outputs. -/
def Answers.nothing : Answers := { layout := fun _ _ => none, surf := none, committed := false }

/-- The instance, as far as the mouse goes. -/
def FwrInstance.ofInput (input : InputInstance) : FwrInstance :=
  { FwrInstance.init (.ofLiteral "wayland-1") with input }

/-- Two windows; the second is dragged, and the first is gone. -/
def dragged : List PointerEvent :=
  [.compositor (.newToplevel 7), .compositor (.newToplevel 9), .requestMove 1,
   .compositor (.toplevelDestroy 0)]

theorem exists_dragged : ∃ s, (Input.pointer .still).Reachable s ∧
    s.now.input.grab.type = .move ∧ s.now.compositor.viewsList = [1] ∧
      s.now.compositor.views.get 1 = none := by
  have hrun : (((Input.pointer .still).exec (Input.pointer .still).init dragged).map fun s =>
      (s.now.input.grab.type, s.now.compositor.viewsList, s.now.compositor.views.get 1))
        = some (.move, [1], none) := by decide +kernel
  obtain ⟨s, hs, hend⟩ := Option.map_eq_some_iff.mp hrun
  obtain ⟨hgrab, hrest⟩ := Prod.mk.inj hend
  obtain ⟨hwindows, hstale⟩ := Prod.mk.inj hrest
  exact ⟨s, Machine.reach_exec dragged .init hs, hgrab, hwindows, hstale⟩

/-- A rate limit as a string, before one was set, while a window is dragged. -/
theorem handleMethod_mistyped_rateLimit : ∃ s : Input.Session,
    s.now.input.grab.type = .move ∧ s.now.compositor.viewsList = [1] ∧ ∃ s' actions,
    (FwrInstance.ofInput s.now).handleMethod .still .nothing 0
      (.dvList 1 [.dvString 2 [54, 48]]) .setVsyncRateLimit = .ok (s', actions) ∧
    Same (.ofInput s.now) s' := by
  obtain ⟨s, hreach, hgrab, hwindows, -⟩ := exists_dragged
  have hmistyped : Mistyped .setVsyncRateLimit (.dvList 1 [.dvString 2 [54, 48]]) := by
    refine ⟨(0, .integer), List.mem_cons_self, fun value hvalue => ?_⟩
    cases hvalue
    exact id
  have hleaves : ∃ s' actions, (FwrInstance.ofInput s.now).handleMethod .still
      .nothing 0 (.dvList 1 [.dvString 2 [54, 48]]) .setVsyncRateLimit = .ok (s', actions) ∧ _ :=
    handleMethod_mistyped (sound_of_standing (Input.reachable_standing hreach)) hmistyped
  obtain ⟨s', actions, hhandle, hsame⟩ := hleaves
  exact ⟨s, hgrab, hwindows, s', actions, hhandle, hsame.mpr fun _ => rfl⟩

/-- **An integer in the place of the flag of direct input takes effect**: the flag is off then, and
    the surface is set. -/
theorem not_unchanged_directInput : ¬ ∀ c a base s m args, Sound s.compositor → Mistyped m args →
    ∀ s' actions, s.handleMethod c a base args m = .ok (s', actions) → Same s s' := by
  intro hall
  have hmistyped : Mistyped .setDirectInputMode (.dvList 2 [.dvInteger 1, .dvInteger 5]) := by
    refine ⟨(0, .bool), List.mem_cons_self, fun value hvalue => ?_⟩
    cases hvalue
    exact id
  have hsame := hall .still .nothing 0 (.init (.ofLiteral "wayland-1")) .setDirectInputMode _
    (sound_of_standing Standing.init) hmistyped _ _ rfl
  have hsurface := congrArg (·.input.directInputSurface) hsame.rest
  exact absurd hsurface (by decide)

end FlutterWlroots.Platform
