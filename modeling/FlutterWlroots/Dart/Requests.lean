/-
  FlutterWlroots.Dart.Requests — what Dart asks of the compositor (compositor_dart.dart,
  surface.dart).

  Every request is a call of a method of the channel `wlroots`, with the list of its arguments or
  without any.  The codec of the channel writes the name and behind it the arguments; it takes 32
  bits for an integer that fits into them, and 64 for another one.

    • `encodePointerEvent` — the list that a pointer event becomes,
    • `Request.call`       — the name and the arguments of each request,
    • `encodeMethodCall`   — the bytes,
    • `readNameAndArgs_call` — what `message_read` makes of them,
    • `arrived`            — the integer it makes of an integer.
-/
import FlutterWlroots.Codec.JsonValue
import FlutterWlroots.Codec.MessageReadScan
import FlutterWlroots.Codec.MessageReadWire

namespace FlutterWlroots.Dart

open Lib.Mem Lib.StateRun Lib.CInt
open FlutterWlroots.Codec FlutterWlroots.StandardMessageCodec

/-! ## §1. Values. -/

/-- An `int` of Dart. -/
abbrev DartInt := BitVec 64

/-- A `double` of Dart, as its bits. -/
abbrev DartDouble := BitVec 64

/-- An argument: `int`, `bool` or `double`. -/
inductive Argument where
  | int (n : DartInt)
  | bool (b : Bool)
  | double (x : DartDouble)

/-! ## §2. Pointer events. -/

/-- `PointerDeviceKind`, as far as it is told apart. -/
inductive PointerDeviceKind where
  | mouse
  | touch
  | other
  deriving DecidableEq, Repr

/-- The classes of pointer events that are told apart.  Only a scroll event has a `scrollDelta`. -/
inductive PointerEventClass where
  | down
  | up
  | hover
  | move
  | enter
  | exit
  | scroll (scrollDeltaX scrollDeltaY : DartDouble)
  | other
  deriving DecidableEq, Repr

/-- What `encodePointerEvent` reads of a `PointerEvent`; `timeStamp` is in microseconds. -/
structure PointerEvent where
  kind : PointerDeviceKind
  eventClass : PointerEventClass
  buttons : DartInt
  deltaX : DartDouble
  deltaY : DartDouble
  device : DartInt
  distance : DartDouble
  down : Bool
  embedderId : DartInt
  localDeltaX : DartDouble
  localDeltaY : DartDouble
  localPositionX : DartDouble
  localPositionY : DartDouble
  obscured : Bool
  orientation : DartDouble
  platformData : DartInt
  pointer : DartInt
  positionX : DartDouble
  positionY : DartDouble
  pressure : DartDouble
  radiusMajor : DartDouble
  radiusMinor : DartDouble
  size : DartDouble
  synthesized : Bool
  tilt : DartDouble
  timeStamp : DartInt

/-- `pointerKindMouse`, `pointerKindTouch` and `pointerKindUnknown` of constants.dart. -/
def PointerDeviceKind.constant : PointerDeviceKind → DartInt
  | .mouse => 1
  | .touch => 2
  | .other => 3

/-- `pointerDownEvent` to `pointerUnknownEvent` of constants.dart. -/
def PointerEventClass.constant : PointerEventClass → DartInt
  | .down => 1
  | .up => 2
  | .hover => 3
  | .move => 4
  | .enter => 5
  | .exit => 6
  | .scroll _ _ => 7
  | .other => 8

/-- `scrollAmount`, which is `Offset.zero` but for a scroll event. -/
def PointerEventClass.scrollAmount : PointerEventClass → DartDouble × DartDouble
  | .scroll scrollDeltaX scrollDeltaY => (scrollDeltaX, scrollDeltaY)
  | _ => (0, 0)

/-- `encodePointerEvent`; no caller has a `coordTransform`. -/
def encodePointerEvent (handle : DartInt) (event : PointerEvent)
    (widgetWidth widgetHeight : DartDouble) : List Argument :=
  [.int handle,
   .int event.buttons,
   .double event.deltaX,
   .double event.deltaY,
   .int event.device,
   .double event.distance,
   .bool event.down,
   .int event.embedderId,
   .int event.kind.constant,
   .double event.localDeltaX,
   .double event.localDeltaY,
   .double event.localPositionX,
   .double event.localPositionY,
   .bool event.obscured,
   .double event.orientation,
   .int event.platformData,
   .int event.pointer,
   .double event.positionX,
   .double event.positionY,
   .double event.pressure,
   .double event.radiusMajor,
   .double event.radiusMinor,
   .double event.size,
   .bool event.synthesized,
   .double event.tilt,
   .int event.timeStamp,
   .int event.eventClass.constant,
   .double widgetWidth,
   .double widgetHeight,
   .double event.eventClass.scrollAmount.1,
   .double event.eventClass.scrollAmount.2]

/-! ## §3. Requests. -/

/-- `KeyStatus`. -/
inductive KeyStatus where
  | released
  | pressed
  deriving DecidableEq, Repr

/-- `KeyStatus.index`. -/
def KeyStatus.index : KeyStatus → DartInt
  | .released => 0
  | .pressed => 1

/-- The requests of `_CompositorPlatform`, of `Compositor` and of the two pointer controllers. -/
inductive Request where
  | surfaceToplevelSetSize (handle width height : DartInt)
  | surfaceToplevelSetMaximized (handle : DartInt) (maximized : Bool)
  | surfaceToplevelClose (handle : DartInt)
  | surfaceFocus (handle : DartInt)
  | clearFocus (handle : DartInt)
  | surfaceSetPosition (handle x y : DartInt)
  | surfaceRequestResize (handle width height requestId : DartInt)
  | surfaceEndResize (handle : DartInt)
  | setDirectInputMode (handle : Option DartInt) (enabled : Bool)
  | surfaceSendKey (handle keycode : DartInt) (status : KeyStatus) (timestamp : DartInt)
  | getSocketPaths
  | surfacePointerEvent (handle : DartInt) (event : PointerEvent) (width height : DartDouble)
  | popupPointerEvent (handle : DartInt) (event : PointerEvent) (width height : DartDouble)
  | signalReady
  | isCompositor
  | setPrimaryOutput (outputId : DartInt)
  | setVsyncOutput (outputId : DartInt)
  | setVsyncRateLimit (maxHz : DartInt)
  | setOutputMode (outputId width height refresh : DartInt)
  | setOutputPosition (outputId x y : DartInt)
  | setOutputScale (outputId : DartInt) (scale : DartDouble)

/-- The method and the arguments that are passed to the channel. -/
def Request.call : Request → String × Option (List Argument)
  | .surfaceToplevelSetSize handle width height =>
      ("surface_toplevel_set_size",
        some [.int handle, .int width, .int height])
  | .surfaceToplevelSetMaximized handle maximized =>
      ("surface_toplevel_set_maximized",
        some [.int handle, .int (if maximized then 1 else 0)])
  | .surfaceToplevelClose handle => ("surface_toplevel_close", some [.int handle])
  | .surfaceFocus handle => ("surface_focus", some [.int handle])
  | .clearFocus handle => ("surface_clear_focus", some [.int handle])
  | .surfaceSetPosition handle x y =>
      ("surface_set_position", some [.int handle, .int x, .int y])
  | .surfaceRequestResize handle width height requestId =>
      ("surface_request_resize",
        some [.int handle, .int width, .int height, .int requestId])
  | .surfaceEndResize handle => ("surface_end_resize", some [.int handle])
  | .setDirectInputMode handle enabled =>
      ("set_direct_input_mode", some [.bool enabled, .int (handle.getD 0)])
  | .surfaceSendKey handle keycode status timestamp =>
      ("surface_keyboard_key",
        some [.int handle, .int keycode, .int status.index, .int timestamp])
  | .getSocketPaths => ("get_socket_paths", none)
  | .surfacePointerEvent handle event width height =>
      ("surface_pointer_event", some (encodePointerEvent handle event width height))
  | .popupPointerEvent handle event width height =>
      ("popup_pointer_event", some (encodePointerEvent handle event width height))
  | .signalReady => ("compositor_ready", none)
  | .isCompositor => ("is_compositor", none)
  | .setPrimaryOutput outputId => ("set_primary_output", some [.int outputId])
  | .setVsyncOutput outputId => ("set_vsync_output", some [.int outputId])
  | .setVsyncRateLimit maxHz => ("set_vsync_rate_limit", some [.int maxHz])
  | .setOutputMode outputId width height refresh =>
      ("set_output_mode",
        some [.int outputId, .int width, .int height, .int refresh])
  | .setOutputPosition outputId x y =>
      ("set_output_position", some [.int outputId, .int x, .int y])
  | .setOutputScale outputId scale =>
      ("set_output_scale", some [.int outputId, .double scale])

/-! ## §4. The codec. -/

/-- `StandardMessageCodec.writeValue` of an argument. -/
def Argument.value : Argument → StdValue
  | .int n =>
      if -2 ^ 31 ≤ n.toInt ∧ n.toInt < 2 ^ 31 then .kStdInt32 (n.setWidth 32) else .kStdInt64 n
  | .bool b => if b then .kStdTrue else .kStdFalse
  | .double x => .kStdFloat64 x

/-- The arguments of a call, which are null where there are none. -/
def argumentsValue : Option (List Argument) → StdValue
  | none => .kStdNull
  | some arguments => .kStdList (arguments.map Argument.value)

/-- `StandardMethodCodec.encodeMethodCall`. -/
def encodeMethodCall (call : String × Option (List Argument)) : List (Option UInt8) :=
  wireList 0 [.kStdString (.ofLiteral call.1), argumentsValue call.2]

/-- The integer that `message_read` makes of an integer: what is negative and has 32 bits is read
    without its sign. -/
def arrived (n : DartInt) : Int :=
  if -2 ^ 31 ≤ n.toInt ∧ n.toInt < 0 then n.toInt + 2 ^ 32 else n.toInt

/-- What `message_read` makes of an argument. -/
def Argument.read : Argument → DartValue
  | .int n => .dvInteger (arrived n)
  | .bool b => .dvBool b
  | .double x => .dvFloat64 x

def argumentsRead : Option (List Argument) → DartValue
  | none => .dvNull
  | some arguments => .dvList arguments.length (arguments.map Argument.read)

/-! ## §5. Reading a call. -/

theorem toNat_setWidth_eq_arrived {n : DartInt} (h : -2 ^ 31 ≤ n.toInt ∧ n.toInt < 2 ^ 31) :
    ((n.setWidth 32).toNat : Int) = arrived n := by
  have hlt := n.isLt
  have hcond := BitVec.toInt_eq_toNat_cond n
  unfold arrived
  rw [BitVec.toNat_setWidth]
  split at hcond
  · split <;> omega
  · split <;> omega

theorem readValue_value (argument : Argument) : readValue argument.value = argument.read := by
  cases argument with
  | int n =>
      show readValue (if _ then _ else _) = .dvInteger (arrived n)
      split
      next h =>
        exact congrArg DartValue.dvInteger (toNat_setWidth_eq_arrived h)
      next h =>
        show DartValue.dvInteger n.toInt = _
        rw [arrived, if_neg (by omega)]
  | bool b => cases b <;> rfl
  | double x => rfl

theorem dartValues_value (arguments : List Argument) :
    dartValues (fun v => v.toNat) .dvList (arguments.map Argument.value)
      = arguments.map Argument.read := by
  induction arguments with
  | nil => rfl
  | cons argument arguments ih =>
      show readValue argument.value :: dartValues _ _ _ = _
      rw [ih, readValue_value]
      rfl

theorem readValue_argumentsValue (arguments : Option (List Argument)) :
    readValue (argumentsValue arguments) = argumentsRead arguments := by
  cases arguments with
  | none => rfl
  | some arguments =>
      show DartValue.dvList (arguments.map Argument.value).length _ = .dvList _ _
      rw [dartValues_value, List.length_map]

theorem readable_value (argument : Argument) : Readable argument.value ∧ argument.value.Fits := by
  cases argument with
  | int n =>
      show Readable (if _ then _ else _) ∧ (if _ then _ else _ : StdValue).Fits
      split
      · exact ⟨rfl, rfl⟩
      · exact ⟨rfl, rfl⟩
  | bool b => cases b <;> exact ⟨rfl, rfl⟩
  | double x => exact ⟨rfl, rfl⟩

theorem readable_argumentsValue {arguments : Option (List Argument)}
    (h : ∀ l ∈ arguments, l.length < 2 ^ 31) :
    Readable (argumentsValue arguments) ∧ (argumentsValue arguments).Fits := by
  cases arguments with
  | none => exact ⟨rfl, rfl⟩
  | some arguments =>
      have hall : ∀ v ∈ arguments.map Argument.value, Readable v ∧ v.Fits := by
        intro v hv
        obtain ⟨argument, -, rfl⟩ := List.mem_map.mp hv
        exact readable_value argument
      refine ⟨StdTree.everyNode_list.mpr ⟨rfl, fun v hv => (hall v hv).1⟩,
        StdTree.fits_list.mpr ⟨?_, fun v hv => (hall v hv).2⟩⟩
      rw [List.length_map]
      exact h arguments rfl

/-- **A call is read**: its name, and its arguments but for the sign of short negative integers. -/
theorem readNameAndArgs_call {call : String × Option (List Argument)} {bytes : List UInt8}
    (hname : (CString.ofLiteral call.1).strlen < 2 ^ 31) (hargs : ∀ l ∈ call.2, l.length < 2 ^ 31)
    (h : Agrees (encodeMethodCall call) bytes) :
    (readNameAndArgs bytes).run 0
      = .ok (.dvString (CString.ofLiteral call.1).strlen (CString.ofLiteral call.1).bytes,
          argumentsRead call.2) bytes.length := by
  have hparts : encodeMethodCall call = wire 0 (.kStdString (.ofLiteral call.1)) ++
      (wire (0 + (wire 0 (.kStdString (.ofLiteral call.1))).length)
        (argumentsValue call.2) ++ []) := rfl
  rw [hparts, List.append_nil, agrees_append] at h
  obtain ⟨first, second, rfl, hfirst, hsecond⟩ := h
  rw [hfirst.length, Nat.zero_add] at hsecond
  obtain ⟨hread, hfits⟩ := readable_argumentsValue hargs
  have hmethod := messageRead_wire (.kStdString (.ofLiteral call.1)) rfl (decide_eq_true hname)
    ((first ++ second).length + 1) 0 first second (by rw [List.length_append]; omega) hfirst
    (SuffixAt.start (first ++ second))
  have hrest : SuffixAt (first ++ second) first.length (second ++ []) := by
    rw [List.append_nil]
    have hskip := (SuffixAt.start (first ++ second)).skip
    rwa [Nat.zero_add] at hskip
  have harguments := messageRead_wire (argumentsValue call.2) hread hfits
    ((first ++ second).length + 1) first.length second []
    (by rw [List.length_append]; omega) hsecond hrest
  rw [Nat.zero_add] at hmethod
  rw [readNameAndArgs, run_bind_ok hmethod, run_bind_ok harguments, EStateM.run_pure,
    List.length_append, readValue_argumentsValue]
  rfl

end FlutterWlroots.Dart
