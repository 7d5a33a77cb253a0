/-
  FlutterWlroots.Platform.StaleHandles — messages that come after their window is gone.

  A window or a popup can be removed while a message with its handle is on the way.  Every handler
  looks the handle up before it writes anything or calls the seat; without an object the message is
  answered with success, and that is all (`handleMethod_stale`).
-/
import FlutterWlroots.Platform.MistypedArguments

namespace FlutterWlroots.Platform

open Lib Lib.StateRun FlutterWlroots.Compositor FlutterWlroots.Messages
open FlutterWlroots.Input (InputInstance Call)
open FlutterWlroots.StandardMessageCodec (DartValue)

/-! ## §1. Messages with a handle. -/

/-- The map that the handler of a method looks the handle up in. -/
def Method.handleMap (s : Instance) : Method → Option (HandleMap Ptr)
  | .surfaceToplevelSetSize => some s.views
  | .surfaceToplevelSetMaximized => some s.views
  | .surfaceToplevelClose => some s.views
  | .surfaceFocus => some s.views
  | .surfaceBeginMove => some s.views
  | .surfaceBeginResize => some s.views
  | .surfaceSetPosition => some s.views
  | .surfaceRequestResize => some s.views
  | .surfaceEndResize => some s.views
  | .surfacePointerEvent => some s.views
  | .popupPointerEvent => some s.popups
  | .surfaceKeyboardKey => some s.views
  | .surfaceClearFocus => none
  | .setDirectInputMode => none
  | .isCompositor => none
  | .compositorReady => none
  | .getSocketPaths => none
  | .setVsyncOutput => none
  | .setVsyncRateLimit => none
  | .setOutputMode => none
  | .setOutputPosition => none
  | .setOutputScale => none
  | .setPrimaryOutput => none

/-- A list of this length is accepted: the decoders of messages.c want an exact length, of which a
    pointer event does not use every element, and the two inline ones a least length. -/
def Method.AcceptsLength : Method → Nat → Prop
  | .surfacePointerEvent, length => length = 31
  | .popupPointerEvent, length => length = 31
  | .surfaceRequestResize, length => 4 ≤ length
  | .surfaceEndResize, length => 1 ≤ length
  | m, length => length = m.arguments.length

/-- A list of the right length whose arguments are of their types. -/
structure WellFormed (m : Method) (values : List DartValue) : Prop where
  length : m.AcceptsLength values.length
  typed : Typed m (.dvList values.length values)

/-- The handle of a message, as wide as a `uint32_t`. -/
def surfaceHandle (values : List DartValue) : UInt32 := handleOrZero values 0

/-! ## §2. Well-formed messages are decoded. -/

section Decoders

variable {m : Method} {values : List DartValue} {i : Nat} {n : Int}

theorem argument_values (values : List DartValue) (i : Nat) :
    argument (.dvList values.length values) i = values[i]? := by
  show (if i < values.length then values[i]? else none) = values[i]?
  split
  · rfl
  · next hle => exact (List.getElem?_eq_none (Nat.not_lt.mp hle)).symm

theorem Typed.integerAt (h : Typed m (.dvList values.length values))
    (hi : (i, .integer) ∈ m.arguments) : ∃ n, integerAt values i = some n := by
  obtain ⟨value, hvalue, haccepts⟩ := h _ hi
  rw [argument_values] at hvalue
  unfold Messages.integerAt
  rw [hvalue]
  cases value with
  | dvInteger integer => exact ⟨integer, rfl⟩
  | _ => exact haccepts.elim

theorem Typed.float64At (h : Typed m (.dvList values.length values))
    (hi : (i, .float64) ∈ m.arguments) : ∃ x, float64At values i = some x := by
  obtain ⟨value, hvalue, haccepts⟩ := h _ hi
  rw [argument_values] at hvalue
  unfold Messages.float64At
  rw [hvalue]
  cases value with
  | dvFloat64 f64 => exact ⟨f64, rfl⟩
  | _ => exact haccepts.elim

theorem decodeList_values (h : values.length = i) :
    decodeList i (.dvList values.length values) = some values := if_pos h

theorem surfaceHandle_eq (h : integerAt values 0 = some n) :
    UInt32.ofInt n = surfaceHandle values := by
  unfold surfaceHandle handleOrZero integerOrZero
  rw [h]
  rfl

theorem decode_setSize (h : WellFormed .surfaceToplevelSetSize values) : ∃ message,
    decodeSurfaceToplevelSetSizeMessage (.dvList values.length values) = some message ∧
      message.surfaceHandle = surfaceHandle values := by
  obtain ⟨n0, h0⟩ := h.typed.integerAt (i := 0) (by decide)
  obtain ⟨n1, h1⟩ := h.typed.integerAt (i := 1) (by decide)
  obtain ⟨n2, h2⟩ := h.typed.integerAt (i := 2) (by decide)
  have hlist : decodeList 3 (.dvList values.length values) = some values :=
    decodeList_values h.length
  refine ⟨⟨.ofInt n0, n1, n2⟩, ?_, surfaceHandle_eq h0⟩
  simp only [decodeSurfaceToplevelSetSizeMessage, hlist, Option.bind_eq_bind,
    Option.bind_some, h0, h1, h2]
  rfl

theorem decode_setMaximized (h : WellFormed .surfaceToplevelSetMaximized values) : ∃ message,
    decodeSurfaceToplevelSetMaximizedMessage (.dvList values.length values) = some message ∧
      message.surfaceHandle = surfaceHandle values := by
  obtain ⟨n0, h0⟩ := h.typed.integerAt (i := 0) (by decide)
  obtain ⟨n1, h1⟩ := h.typed.integerAt (i := 1) (by decide)
  have hlist : decodeList 2 (.dvList values.length values) = some values :=
    decodeList_values h.length
  refine ⟨⟨.ofInt n0, n1⟩, ?_, surfaceHandle_eq h0⟩
  simp only [decodeSurfaceToplevelSetMaximizedMessage, hlist, Option.bind_eq_bind,
    Option.bind_some, h0, h1]
  rfl

/-- The messages that are a handle only. -/
theorem decode_close (hlength : values.length = 1) (h : Typed m (.dvList values.length values))
    (hm : (0, .integer) ∈ m.arguments) :
    decodeSurfaceToplevelCloseMessage (.dvList values.length values) =
      some (surfaceHandle values) := by
  obtain ⟨n0, h0⟩ := h.integerAt hm
  simp only [decodeSurfaceToplevelCloseMessage, decodeList_values hlength, Option.bind_eq_bind,
    Option.bind_some, h0, ← surfaceHandle_eq h0]
  rfl

theorem decode_beginResize (h : WellFormed .surfaceBeginResize values) : ∃ message,
    decodeSurfaceBeginResizeMessage (.dvList values.length values) = some message ∧
      message.surfaceHandle = surfaceHandle values := by
  obtain ⟨n0, h0⟩ := h.typed.integerAt (i := 0) (by decide)
  obtain ⟨n1, h1⟩ := h.typed.integerAt (i := 1) (by decide)
  have hlist : decodeList 2 (.dvList values.length values) = some values :=
    decodeList_values h.length
  refine ⟨⟨.ofInt n0, n1⟩, ?_, surfaceHandle_eq h0⟩
  simp only [decodeSurfaceBeginResizeMessage, hlist, Option.bind_eq_bind,
    Option.bind_some, h0, h1]
  rfl

theorem decode_setPosition (h : WellFormed .surfaceSetPosition values) : ∃ message,
    decodeSurfaceSetPositionMessage (.dvList values.length values) = some message ∧
      message.surfaceHandle = surfaceHandle values := by
  obtain ⟨n0, h0⟩ := h.typed.integerAt (i := 0) (by decide)
  obtain ⟨n1, h1⟩ := h.typed.integerAt (i := 1) (by decide)
  obtain ⟨n2, h2⟩ := h.typed.integerAt (i := 2) (by decide)
  have hlist : decodeList 3 (.dvList values.length values) = some values :=
    decodeList_values h.length
  refine ⟨⟨.ofInt n0, n1, n2⟩, ?_, surfaceHandle_eq h0⟩
  simp only [decodeSurfaceSetPositionMessage, hlist, Option.bind_eq_bind,
    Option.bind_some, h0, h1, h2]
  rfl

theorem decode_keyboardKey (h : WellFormed .surfaceKeyboardKey values) : ∃ message,
    decodeSurfaceKeyboardKeyMessage (.dvList values.length values) = some message ∧
      message.surfaceHandle = surfaceHandle values := by
  obtain ⟨n0, h0⟩ := h.typed.integerAt (i := 0) (by decide)
  obtain ⟨n1, h1⟩ := h.typed.integerAt (i := 1) (by decide)
  obtain ⟨n2, h2⟩ := h.typed.integerAt (i := 2) (by decide)
  obtain ⟨n3, h3⟩ := h.typed.integerAt (i := 3) (by decide)
  have hlist : decodeList 4 (.dvList values.length values) = some values :=
    decodeList_values h.length
  refine ⟨⟨.ofInt n0, .ofInt n1, .ofInt n2, .ofInt 64 n3⟩, ?_, surfaceHandle_eq h0⟩
  simp only [decodeSurfaceKeyboardKeyMessage, hlist, Option.bind_eq_bind,
    Option.bind_some, h0, h1, h2, h3]
  rfl

/-- The pointer events of windows and of popups. -/
theorem decode_pointerEvent (hm : m.arguments = pointerArguments) (hlength : values.length = 31)
    (h : Typed m (.dvList values.length values)) : ∃ message,
    decodeSurfacePointerEventMessage (.dvList values.length values) = some message ∧
      message.surfaceHandle = surfaceHandle values := by
  have integer : ∀ i, (i, .integer) ∈ pointerArguments → ∃ n, integerAt values i = some n :=
    fun i hi => h.integerAt (hm ▸ hi)
  have float64 : ∀ i, (i, .float64) ∈ pointerArguments → ∃ x, float64At values i = some x :=
    fun i hi => h.float64At (hm ▸ hi)
  obtain ⟨n0, h0⟩ := integer 0 (by decide)
  obtain ⟨n1, h1⟩ := integer 1 (by decide)
  obtain ⟨n7, h7⟩ := integer 7 (by decide)
  obtain ⟨n8, h8⟩ := integer 8 (by decide)
  obtain ⟨x11, h11⟩ := float64 11 (by decide)
  obtain ⟨x12, h12⟩ := float64 12 (by decide)
  obtain ⟨n15, h15⟩ := integer 15 (by decide)
  obtain ⟨n16, h16⟩ := integer 16 (by decide)
  obtain ⟨x17, h17⟩ := float64 17 (by decide)
  obtain ⟨x18, h18⟩ := float64 18 (by decide)
  obtain ⟨n25, h25⟩ := integer 25 (by decide)
  obtain ⟨n26, h26⟩ := integer 26 (by decide)
  obtain ⟨x27, h27⟩ := float64 27 (by decide)
  obtain ⟨x28, h28⟩ := float64 28 (by decide)
  obtain ⟨x29, h29⟩ := float64 29 (by decide)
  obtain ⟨x30, h30⟩ := float64 30 (by decide)
  refine ⟨⟨.ofInt n0, .ofInt 64 n1, .ofInt 64 n7, .ofInt n8, x11, x12, x17, x18, .ofInt 64 n15,
    .ofInt 64 n16, x27, x28, x29, x30, .ofInt n26, .ofInt 64 n25⟩, ?_, surfaceHandle_eq h0⟩
  refine Option.bind_eq_some_iff.mpr ⟨values, decodeList_values hlength, ?_⟩
  refine Option.bind_eq_some_iff.mpr ⟨_, h0, ?_⟩
  refine Option.bind_eq_some_iff.mpr ⟨_, h1, ?_⟩
  refine Option.bind_eq_some_iff.mpr ⟨_, h7, ?_⟩
  refine Option.bind_eq_some_iff.mpr ⟨_, h8, ?_⟩
  refine Option.bind_eq_some_iff.mpr ⟨_, h11, ?_⟩
  refine Option.bind_eq_some_iff.mpr ⟨_, h12, ?_⟩
  refine Option.bind_eq_some_iff.mpr ⟨_, h15, ?_⟩
  refine Option.bind_eq_some_iff.mpr ⟨_, h16, ?_⟩
  refine Option.bind_eq_some_iff.mpr ⟨_, h17, ?_⟩
  refine Option.bind_eq_some_iff.mpr ⟨_, h18, ?_⟩
  refine Option.bind_eq_some_iff.mpr ⟨_, h25, ?_⟩
  refine Option.bind_eq_some_iff.mpr ⟨_, h26, ?_⟩
  refine Option.bind_eq_some_iff.mpr ⟨_, h27, ?_⟩
  refine Option.bind_eq_some_iff.mpr ⟨_, h28, ?_⟩
  refine Option.bind_eq_some_iff.mpr ⟨_, h29, ?_⟩
  refine Option.bind_eq_some_iff.mpr ⟨_, h30, ?_⟩
  rfl

end Decoders

/-! ## §3. Stale handles. -/

section Methods

variable {c : Target} {a : Answers} {base : Nat} {s : FwrInstance} {values : List DartValue}
  {m : Method}

theorem withView_stale {handle : UInt32} {act : Ptr → FwrInstance × List Action}
    (h : s.compositor.views.get handle = none) :
    s.withView handle act = .ok (s, [.respond .nullSuccess]) := by
  unfold FwrInstance.withView
  rw [h]
  rfl

theorem withFocus_stale {handle : UInt32} {act : Ptr → List Action}
    (h : s.compositor.views.get handle = none) :
    s.withFocus handle act = .ok (s, [.respond .nullSuccess]) := by
  unfold FwrInstance.withFocus
  rw [h]
  rfl

/-- A handler of input.c that does nothing but answer. -/
theorem inputHandler_success {handled : Input.Handled}
    (h : handled = .ok (s.input, [.respond true])) :
    s.inputHandler handled = .ok (s, [.respond .nullSuccess]) := by
  unfold FwrInstance.inputHandler
  rw [h]
  rfl

theorem argumentList_values {length : Nat} (h : length ≤ values.length) :
    argumentList length (.dvList values.length values) = some values := if_pos h

/-- **A message with a stale handle is answered with success and does nothing else.** -/
theorem handleMethod_stale {map : HandleMap Ptr} (hmap : m.handleMap s.compositor = some map)
    (hargs : WellFormed m values) (hstale : map.get (surfaceHandle values) = none) :
    s.handleMethod c a base (.dvList values.length values) m =
      .ok (s, [.respond .nullSuccess]) := by
  cases m with
  -- the decoders of messages.c
  | surfaceToplevelSetSize =>
      cases hmap
      obtain ⟨message, hdecode, hhandle⟩ := decode_setSize hargs
      unfold FwrInstance.handleMethod FwrInstance.fwrHandleSurfaceToplevelSetSize
      rw [hdecode]
      exact withView_stale (hhandle ▸ hstale)
  | surfaceToplevelSetMaximized =>
      cases hmap
      obtain ⟨message, hdecode, hhandle⟩ := decode_setMaximized hargs
      unfold FwrInstance.handleMethod FwrInstance.fwrHandleSurfaceToplevelSetMaximized
      rw [hdecode]
      exact withView_stale (hhandle ▸ hstale)
  | surfaceToplevelClose =>
      cases hmap
      unfold FwrInstance.handleMethod FwrInstance.fwrHandleSurfaceToplevelClose
      rw [decode_close hargs.length hargs.typed (by decide)]
      exact withView_stale hstale
  | surfaceFocus =>
      cases hmap
      unfold FwrInstance.handleMethod FwrInstance.fwrHandleSurfaceFocus
      rw [decode_close hargs.length hargs.typed (by decide)]
      exact withFocus_stale hstale
  | surfaceBeginMove =>
      cases hmap
      have hdecode : decodeSurfaceBeginMoveMessage (.dvList values.length values) =
        some (surfaceHandle values) := decode_close hargs.length hargs.typed (by decide)
      unfold FwrInstance.handleMethod
      refine inputHandler_success ?_
      unfold InputInstance.fwrHandleSurfaceBeginMove
      rw [hdecode]
      dsimp only
      rw [hstale]
      rfl
  | surfaceBeginResize =>
      cases hmap
      obtain ⟨message, hdecode, hhandle⟩ := decode_beginResize hargs
      unfold FwrInstance.handleMethod
      refine inputHandler_success ?_
      unfold InputInstance.fwrHandleSurfaceBeginResize
      rw [hdecode]
      dsimp only
      rw [hhandle, hstale]
      rfl
  | surfaceSetPosition =>
      cases hmap
      obtain ⟨message, hdecode, hhandle⟩ := decode_setPosition hargs
      unfold FwrInstance.handleMethod FwrInstance.fwrHandleSurfaceSetPosition
      rw [hdecode]
      dsimp only
      unfold Instance.fwrHandleSurfaceSetPosition
      rw [hhandle, hstale]
      rfl
  | surfacePointerEvent =>
      cases hmap
      obtain ⟨message, hdecode, hhandle⟩ := decode_pointerEvent rfl hargs.length hargs.typed
      unfold FwrInstance.handleMethod
      refine inputHandler_success ?_
      unfold InputInstance.fwrHandleSurfacePointerEventMessage
      rw [hdecode]
      dsimp only
      rw [hhandle, hstale]
      rfl
  | popupPointerEvent =>
      cases hmap
      obtain ⟨message, hdecode, hhandle⟩ := decode_pointerEvent rfl hargs.length hargs.typed
      unfold FwrInstance.handleMethod
      refine inputHandler_success ?_
      unfold InputInstance.fwrHandlePopupPointerEventMessage
      rw [hdecode]
      dsimp only
      rw [hhandle, hstale]
      rfl
  | surfaceKeyboardKey =>
      cases hmap
      obtain ⟨message, hdecode, hhandle⟩ := decode_keyboardKey hargs
      unfold FwrInstance.handleMethod FwrInstance.fwrHandleSurfaceKeyboardKeyMessage
      rw [hdecode]
      exact withFocus_stale (hhandle ▸ hstale)
  -- the two that decode inline
  | surfaceRequestResize =>
      cases hmap
      unfold FwrInstance.handleMethod FwrInstance.fwrHandleSurfaceRequestResize
      rw [argumentList_values hargs.length]
      exact withView_stale hstale
  | surfaceEndResize =>
      cases hmap
      unfold FwrInstance.handleMethod FwrInstance.fwrHandleSurfaceEndResize
      rw [argumentList_values hargs.length]
      exact withView_stale hstale
  -- no handle
  | surfaceClearFocus | setDirectInputMode | isCompositor | compositorReady | getSocketPaths
  | setVsyncOutput | setVsyncRateLimit | setOutputMode | setOutputPosition | setOutputScale
  | setPrimaryOutput => cases hmap

end Methods

/-- A handle that does not fit and means a window that is gone, while another one is dragged. -/
theorem handleMethod_stale_setPosition : ∃ s : Input.Session,
    s.now.input.grab.type = .move ∧ s.now.compositor.viewsList = [1] ∧
    (FwrInstance.ofInput s.now).handleMethod .still .nothing 0
      (.dvList 3 [.dvInteger 4294967297, .dvInteger 10, .dvInteger 20]) .surfaceSetPosition =
    .ok (.ofInput s.now, [.respond .nullSuccess]) := by
  obtain ⟨s, -, hgrab, hwindows, hstale⟩ := exists_dragged
  have hargs : WellFormed .surfaceSetPosition
      [.dvInteger 4294967297, .dvInteger 10, .dvInteger 20] := by
    refine ⟨rfl, fun b hb => ?_⟩
    obtain ⟨i, hi, rfl⟩ := List.mem_map.mp hb
    have hlt : i < 3 := List.mem_range.mp hi
    interval_cases i
    · exact ⟨_, rfl, trivial⟩
    · exact ⟨_, rfl, trivial⟩
    · exact ⟨_, rfl, trivial⟩
  exact ⟨s, hgrab, hwindows, handleMethod_stale rfl hargs hstale⟩

end FlutterWlroots.Platform
