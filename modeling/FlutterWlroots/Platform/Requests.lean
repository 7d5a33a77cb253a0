/-
  FlutterWlroots.Platform.Requests — what becomes of the requests of Dart.

  A request crosses the channel as bytes: Dart writes a name and a list, `message_read` reads them,
  the name is compared with those of the methods, and a handler takes the arguments from their
  places in the list.  On the way numbers lose what does not fit: a handle has 32 bits in the
  compositor, a size has 32 bits and a sign, and a short negative number loses its sign in
  `message_read`.  `perform` does to the instance what a request says, with the numbers that Dart
  has put in and with nothing lost.

    • `handleMethod_call`               — the handler, if the numbers fit,
    • `engineCbPlatformMessage_request` — the callback, with the bytes,
    • `focusTarget_call`                — the window that a request gives the focus to,
    • `perform_accepts`                 — the failure is never answered,
    • `requests_arrive`                 — every request that fits, in every reachable state.
-/
import FlutterWlroots.Dart.Requests
import FlutterWlroots.Platform.AnsweredOnce

namespace FlutterWlroots.Platform

open Lib Lib.Mem Lib.CInt Lib.StateRun FlutterWlroots.Compositor FlutterWlroots.Codec
open FlutterWlroots.Messages
open FlutterWlroots.Dart (DartInt DartDouble Request arrived argumentsRead encodeMethodCall)
open FlutterWlroots.Input (InputInstance Call SurfaceUnder Double PointerEventType pointerEventType)
open FlutterWlroots.StandardMessageCodec (DartValue readNameAndArgs)

/-! ## §1. Numbers. -/

/-- A number that the compositor takes with 32 bits. -/
def Unsigned (n : DartInt) : Prop := n.toNat < 2 ^ 32

/-- A number that the compositor takes as an `int`. -/
def Signed (n : DartInt) : Prop := -2 ^ 31 ≤ n.toInt ∧ n.toInt < 2 ^ 31

/-- A number of 64 bits that keeps its sign in `message_read`. -/
def KeepsSign (n : DartInt) : Prop := ¬ (-2 ^ 31 ≤ n.toInt ∧ n.toInt < 0)

instance (n : DartInt) : Decidable (Unsigned n) := inferInstanceAs (Decidable (_ < _))
instance (n : DartInt) : Decidable (Signed n) := inferInstanceAs (Decidable (_ ∧ _))
instance (n : DartInt) : Decidable (KeepsSign n) := inferInstanceAs (Decidable (¬ _))

/-- The handle with this number. -/
def handleOf (n : DartInt) : Option UInt32 :=
  if Unsigned n then some (.ofNat n.toNat) else none

theorem handleOf_eq {n : DartInt} (hfits : Unsigned n) :
    handleOf n = some (UInt32.ofInt (arrived n)) := by
  have h : n.toNat < 2 ^ 32 := hfits
  have hlt := n.isLt
  have hcond := BitVec.toInt_eq_toNat_cond n
  rw [if_pos (by omega)] at hcond
  have harrived : arrived n = n.toNat := by
    unfold arrived
    rw [if_neg (by omega), hcond]
  rw [handleOf, if_pos hfits, harrived]
  have hmod : ((n.toNat : Int) % 2 ^ 32).toNat = n.toNat := by omega
  show some (UInt32.ofNat _) = some (UInt32.ofNat _)
  rw [hmod]

theorem toInt32_arrived {n : DartInt} (h : Signed n) : toInt32 (arrived n) = n.toInt := by
  unfold Signed at h
  unfold toInt32 arrived
  rw [Int.bmod_def]
  norm_num at h ⊢
  split
  · omega
  · omega

theorem ofInt_arrived {n : DartInt} (h : KeepsSign n) : BitVec.ofInt 64 (arrived n) = n := by
  unfold arrived
  rw [if_neg h, BitVec.ofInt_toInt]

/-- A time in microseconds, in milliseconds. -/
def msecOf (timeStamp : DartInt) : UInt32 := .ofInt (timeStamp.toInt.tdiv 1000)

/-- The numbers of a request fit. -/
def NumbersFit : Request → Prop
  | .surfaceToplevelSetSize handle width height => Unsigned handle ∧ Signed width ∧ Signed height
  | .surfaceToplevelSetMaximized handle _ => Unsigned handle
  | .surfaceToplevelClose handle => Unsigned handle
  | .surfaceFocus handle => Unsigned handle
  | .surfaceSetPosition handle x y => Unsigned handle ∧ Signed x ∧ Signed y
  | .surfaceRequestResize handle width height requestId =>
      Unsigned handle ∧ Signed width ∧ Signed height ∧ KeepsSign requestId
  | .surfaceEndResize handle => Unsigned handle
  | .setDirectInputMode handle _ => ∀ n ∈ handle, Unsigned n
  | .surfaceSendKey handle keycode _ timestamp =>
      Unsigned handle ∧ Unsigned keycode ∧ KeepsSign timestamp
  | .surfacePointerEvent handle event _ _ | .popupPointerEvent handle event _ _ =>
      Unsigned handle ∧ KeepsSign event.buttons ∧ KeepsSign event.embedderId ∧
        KeepsSign event.platformData ∧ KeepsSign event.pointer ∧ KeepsSign event.timeStamp
  | .setVsyncOutput outputId => Unsigned outputId
  | .setVsyncRateLimit maxHz => Signed maxHz
  | .setOutputMode outputId width height refresh =>
      Unsigned outputId ∧ Signed width ∧ Signed height ∧ Signed refresh
  | .setOutputPosition outputId x y => Unsigned outputId ∧ Signed x ∧ Signed y
  | .setOutputScale outputId _ => Unsigned outputId
  -- no number is used
  | .clearFocus _ | .getSocketPaths | .signalReady | .isCompositor | .setPrimaryOutput _ => True

/-! ## §2. Pointer events. -/

/-- The message that a pointer event becomes. -/
def pointerMessage (surfaceHandle : UInt32) (event : Dart.PointerEvent)
    (width height : DartDouble) : SurfacePointerEventMessage where
  surfaceHandle := surfaceHandle
  buttons := event.buttons
  embedderId := event.embedderId
  deviceKind := .ofInt event.kind.constant.toInt
  localPosX := event.localPositionX
  localPosY := event.localPositionY
  globalPosX := event.positionX
  globalPosY := event.positionY
  platformId := event.platformData
  pointer := event.pointer
  widgetSizeX := width
  widgetSizeY := height
  scrollDeltaX := event.eventClass.scrollAmount.1
  scrollDeltaY := event.eventClass.scrollAmount.2
  eventType := .ofInt event.eventClass.constant.toInt
  timestamp := event.timeStamp

theorem decode_encodePointerEvent {handle : DartInt} {event : Dart.PointerEvent}
    {width height : DartDouble}
    (h : NumbersFit (.surfacePointerEvent handle event width height)) :
    decodeSurfacePointerEventMessage
        (argumentsRead (some (Dart.encodePointerEvent handle event width height)))
      = some (pointerMessage (.ofInt (arrived handle)) event width height) := by
  obtain ⟨-, hbuttons, hembedder, hplatform, hpointer, htime⟩ := h
  have hkind : UInt8.ofInt (arrived event.kind.constant) = .ofInt event.kind.constant.toInt := by
    cases event.kind <;> rfl
  have htype : UInt8.ofInt (arrived event.eventClass.constant)
      = .ofInt event.eventClass.constant.toInt := by
    cases event.eventClass <;> rfl
  have hmessage : pointerMessage (.ofInt (arrived handle)) event width height =
      { pointerMessage (.ofInt (arrived handle)) event width height with
        buttons := .ofInt 64 (arrived event.buttons)
        embedderId := .ofInt 64 (arrived event.embedderId)
        platformId := .ofInt 64 (arrived event.platformData)
        pointer := .ofInt 64 (arrived event.pointer)
        timestamp := .ofInt 64 (arrived event.timeStamp)
        deviceKind := .ofInt (arrived event.kind.constant)
        eventType := .ofInt (arrived event.eventClass.constant) } := by
    rw [ofInt_arrived hbuttons, ofInt_arrived hembedder, ofInt_arrived hplatform,
      ofInt_arrived hpointer, ofInt_arrived htime, hkind, htype]
    rfl
  rw [hmessage]
  rfl

namespace FwrInstance

variable (c : Target) (a : Answers) (base : Nat) (s : FwrInstance)

/-- A pointer event for a window. -/
def surfacePointer (message : SurfacePointerEventMessage) : Input.Handled :=
  match s.compositor.views.get message.surfaceHandle with
  | none => return (s.input, [.respond true])
  | some p => do
      let _ ← s.compositor.view p
      match a.surf with
      | none => return (s.input, [.respond true])
      | some surf =>
          let input := s.input.trackCursor message
          if input.input.grab.type ≠ .none then
            let (input, calls) ← input.grabbedPointerEvent c.toTarget message
            return (input, calls ++ [.respond true])
          else
            let (input, calls) := input.viewPointerEvent c.toTarget message p surf
            return (input, calls ++ [.respond true])

/-- A pointer event for a popup. -/
def popupPointer (message : SurfacePointerEventMessage) : Input.Handled :=
  match s.compositor.popups.get message.surfaceHandle with
  | none => return (s.input, [.respond true])
  | some p => do
      let _ ← s.compositor.popup p
      match a.surf with
      | none => return (s.input, [.respond true])
      | some surf =>
          let (input, calls) := s.input.popupPointerEvent message surf
          return (input, calls ++ [.respond true])

/-! ## §3. Requests without the channel. -/

/-- What is done with an object of a number that no object can have: nothing, with success. -/
def forHandle (n : DartInt) (act : UInt32 → Handled) : Handled :=
  match handleOf n with
  | none => return (s, [.respond .nullSuccess])
  | some handle => act handle

/-- The same for an output, where it is an error. -/
def forOutput (errorMsg : String) (n : DartInt)
    (act : UInt32 → Except Fault (FwrInstance × Bool)) : Handled :=
  match handleOf n with
  | none => return respondTo base errorMsg (s, false)
  | some outputId => do
      let result ← act outputId
      return respondTo base errorMsg result

/-- A window is put somewhere. -/
def moveView (handle : UInt32) (x y : Int) : Handled :=
  match s.compositor.views.get handle with
  | none => return (s, [.respond .nullSuccess])
  | some p => do
      let view ← s.compositor.view p
      let newOutput ← s.compositor.fwrOutputForBox a.layout x y view.width view.height
      let compositor ← s.compositor.moveToOutput p { view with x, y } newOutput
      return (s.setCompositor compositor, [.respond .nullSuccess])

/-- What a request does, with the numbers of Dart. -/
def perform : Request → Handled
  | .surfaceToplevelSetSize handle width height =>
      s.forHandle handle fun handle => s.withView handle fun p =>
        (s.setToplevel p ((s.toplevels p).requestSize width.toInt height.toInt), [])
  | .surfaceToplevelSetMaximized handle maximized =>
      s.forHandle handle fun handle => s.withView handle fun p =>
        (s.setToplevel p ((s.toplevels p).setMaximized maximized), [])
  | .surfaceToplevelClose handle =>
      s.forHandle handle fun handle => s.withView handle fun p =>
        (s, if (s.toplevels p).isToplevel then [.sendClose p] else [])
  | .surfaceFocus handle =>
      s.forHandle handle fun handle => s.withFocus handle fun p => [.input (.focusView p)]
  -- the focus is cleared whatever window is named
  | .clearFocus _ =>
      return (s.surfaceClearFocus, [.input .clearFocus, .clearKeyboardFocus, .respond .nullSuccess])
  | .surfaceSetPosition handle x y =>
      s.forHandle handle fun handle => s.moveView a handle x.toInt y.toInt
  | .surfaceRequestResize handle width height requestId =>
      s.forHandle handle fun handle => s.withView handle fun p =>
        (s.setToplevel p ((s.toplevels p).requestResize width.toInt height.toInt requestId), [])
  | .surfaceEndResize handle =>
      s.forHandle handle fun handle => s.withView handle fun p =>
        (s.setToplevel p (s.toplevels p).endResize, [])
  | .setDirectInputMode handle enabled =>
      return ({ s with input := { s.input with
        directInputMode := enabled, directInputSurface := (handle.bind handleOf).getD 0 } },
        [.respond .nullSuccess])
  | .surfaceSendKey handle keycode status timestamp =>
      s.forHandle handle fun handle => s.withFocus handle fun p =>
        [.input (.focusView p),
          .notifyKey (msecOf timestamp) ((handleOf keycode).getD 0) (decide (status = .pressed))]
  | .getSocketPaths => return (s, platchRespond base s.socketPaths)
  | .surfacePointerEvent handle event width height =>
      s.forHandle handle fun handle =>
        s.inputHandler (s.surfacePointer c a (pointerMessage handle event width height))
  | .popupPointerEvent handle event width height =>
      s.forHandle handle fun handle =>
        s.inputHandler (s.popupPointer a (pointerMessage handle event width height))
  | .signalReady => return (s, [.sendAllOutputs s.compositor.outputs, .respond .nullSuccess])
  | .isCompositor => return (s, [.respond .nullSuccess])
  | .setPrimaryOutput _ => return (s, [.respond .nullSuccess])
  | .setVsyncOutput outputId =>
      s.forHandle outputId fun outputId => do
        let compositor ← s.compositor.fwrSetVsyncOutput outputId
        return (s.setCompositor compositor, [.respond .nullSuccess])
  | .setVsyncRateLimit maxHz =>
      return (s.fwrSetVsyncRateLimit maxHz.toInt, [.respond .nullSuccess])
  | .setOutputMode outputId width height refresh =>
      s.forOutput base "Failed to set output mode" outputId fun outputId =>
        s.fwrSetOutputMode a outputId width.toInt height.toInt refresh.toInt
  | .setOutputPosition outputId x y =>
      s.forOutput base "Failed to set output position" outputId fun outputId =>
        s.fwrSetOutputPosition outputId x.toInt y.toInt
  | .setOutputScale outputId scale =>
      s.forOutput base "Failed to set output scale" outputId fun outputId =>
        s.fwrSetOutputScale a outputId (c.scale scale)

/-- The window that a request gives the keyboard focus to. -/
def focusedBy : Request → Option Ptr
  | .surfaceFocus handle => (handleOf handle).bind s.compositor.views.get
  | .surfaceSendKey handle _ _ _ => (handleOf handle).bind s.compositor.views.get
  | .surfacePointerEvent handle event _ _ =>
      if a.surf.isSome ∧ s.input.input.grab.type = .none
          ∧ (event.eventClass = .down ∨ event.eventClass = .up) then
        (handleOf handle).bind s.compositor.views.get
      else none
  | _ => none

end FwrInstance

/-- The branch of a request. -/
def methodOf : Request → Method
  | .surfaceToplevelSetSize .. => .surfaceToplevelSetSize
  | .surfaceToplevelSetMaximized .. => .surfaceToplevelSetMaximized
  | .surfaceToplevelClose _ => .surfaceToplevelClose
  | .surfaceFocus _ => .surfaceFocus
  | .clearFocus _ => .surfaceClearFocus
  | .surfaceSetPosition .. => .surfaceSetPosition
  | .surfaceRequestResize .. => .surfaceRequestResize
  | .surfaceEndResize _ => .surfaceEndResize
  | .setDirectInputMode .. => .setDirectInputMode
  | .surfaceSendKey .. => .surfaceKeyboardKey
  | .getSocketPaths => .getSocketPaths
  | .surfacePointerEvent .. => .surfacePointerEvent
  | .popupPointerEvent .. => .popupPointerEvent
  | .signalReady => .compositorReady
  | .isCompositor => .isCompositor
  | .setPrimaryOutput _ => .setPrimaryOutput
  | .setVsyncOutput _ => .setVsyncOutput
  | .setVsyncRateLimit _ => .setVsyncRateLimit
  | .setOutputMode .. => .setOutputMode
  | .setOutputPosition .. => .setOutputPosition
  | .setOutputScale .. => .setOutputScale

theorem call_name (q : Request) : q.call.1 = (methodOf q).name := by
  cases q <;> rfl

theorem ofName_name (m : Method) :
    Method.ofName (CString.ofMemory (CString.ofLiteral m.name).bytes) = some m := by
  cases m <;> decide

theorem strlen_name_lt (m : Method) : (CString.ofLiteral m.name).strlen < 2 ^ 31 := by
  cases m <;> decide

theorem length_arguments_lt (q : Request) : ∀ l ∈ q.call.2, l.length < 2 ^ 31 := by
  intro l hl
  cases q <;> cases hl <;> simp [Dart.encodePointerEvent]

/-! ## §4. Across the channel. -/

section Call

variable {c : Target} {a : Answers} {base : Nat} {s : FwrInstance}

theorem toUInt32_ofInt (n : Int) : (UInt64.ofInt n).toUInt32 = UInt32.ofInt n := by
  apply UInt32.toNat_inj.mp
  rw [UInt64.toNat_toUInt32]
  show (UInt64.ofNat _).toNat % 2 ^ 32 = (UInt32.ofNat _).toNat
  rw [UInt64.toNat_ofNat', UInt32.toNat_ofNat']
  omega

theorem forHandle_eq {n : DartInt} (h : Unsigned n) (act : UInt32 → Handled) :
    s.forHandle n act = act (.ofInt (arrived n)) := by
  unfold FwrInstance.forHandle
  rw [handleOf_eq h]

theorem forOutput_eq {n : DartInt} (h : Unsigned n) (errorMsg : String)
    (act : UInt32 → Except Fault (FwrInstance × Bool)) :
    s.forOutput base errorMsg n act = (do
      let result ← act (.ofInt (arrived n))
      return FwrInstance.respondTo base errorMsg result) := by
  unfold FwrInstance.forOutput
  rw [handleOf_eq h]

theorem moveView_eq {x y : DartInt} (hx : Signed x) (hy : Signed y) (handle : UInt32) :
    s.moveView a handle x.toInt y.toInt = (do
      let compositor ← s.compositor.fwrHandleSurfaceSetPosition handle (arrived x) (arrived y)
        a.layout
      return (s.setCompositor compositor, [.respond .nullSuccess])) := by
  unfold FwrInstance.moveView Instance.fwrHandleSurfaceSetPosition
  rw [toInt32_arrived hx, toInt32_arrived hy]
  cases s.compositor.views.get handle with
  | none => rfl
  | some p =>
      dsimp only
      rw [bind_assoc]
      refine bind_congr fun view => ?_
      rw [bind_assoc]

theorem fwrHandleSurfacePointerEventMessage_eq {args : DartValue}
    {message : SurfacePointerEventMessage}
    (h : decodeSurfacePointerEventMessage args = some message) :
    s.input.fwrHandleSurfacePointerEventMessage c.toTarget args a.surf
      = s.surfacePointer c a message := by
  unfold InputInstance.fwrHandleSurfacePointerEventMessage
  rw [h]
  rfl

theorem fwrHandlePopupPointerEventMessage_eq {args : DartValue}
    {message : SurfacePointerEventMessage}
    (h : decodeSurfacePointerEventMessage args = some message) :
    s.input.fwrHandlePopupPointerEventMessage args a.surf = s.popupPointer a message := by
  unfold InputInstance.fwrHandlePopupPointerEventMessage
  rw [h]
  rfl

/-- **The handler does what the request says.** -/
theorem handleMethod_call {q : Request} (hfits : NumbersFit q) :
    s.handleMethod c a base (argumentsRead q.call.2) (methodOf q) = s.perform c a base q := by
  cases q with
  | surfacePointerEvent handle event width height =>
      simp only [FwrInstance.perform]
      rw [forHandle_eq hfits.1]
      exact congrArg s.inputHandler (fwrHandleSurfacePointerEventMessage_eq
        (decode_encodePointerEvent hfits))
  | popupPointerEvent handle event width height =>
      simp only [FwrInstance.perform]
      rw [forHandle_eq hfits.1]
      exact congrArg s.inputHandler (fwrHandlePopupPointerEventMessage_eq
        (decode_encodePointerEvent hfits))
  | surfaceToplevelSetSize handle width height =>
      obtain ⟨hhandle, hwidth, hheight⟩ := hfits
      simp only [FwrInstance.perform]
      rw [forHandle_eq hhandle, ← toInt32_arrived hwidth, ← toInt32_arrived hheight]
      rfl
  | surfaceToplevelSetMaximized handle maximized =>
      simp only [FwrInstance.perform]
      rw [forHandle_eq hfits]
      cases maximized <;> rfl
  | surfaceToplevelClose handle | surfaceFocus handle | surfaceEndResize handle =>
      simp only [FwrInstance.perform]
      rw [forHandle_eq hfits]
      rfl
  | surfaceSetPosition handle x y =>
      obtain ⟨hhandle, hx, hy⟩ := hfits
      simp only [FwrInstance.perform]
      rw [forHandle_eq hhandle, moveView_eq hx hy]
      rfl
  | surfaceRequestResize handle width height requestId =>
      obtain ⟨hhandle, hwidth, hheight, hid⟩ := hfits
      simp only [FwrInstance.perform]
      rw [forHandle_eq hhandle, ← toInt32_arrived hwidth, ← toInt32_arrived hheight]
      have hrequest : ∀ id, .ofInt 64 (arrived requestId) = id →
          s.fwrHandleSurfaceRequestResize (argumentsRead
            (Request.call (.surfaceRequestResize handle width height requestId)).2) =
              s.withView (.ofInt (arrived handle)) fun p =>
                (s.setToplevel p ((s.toplevels p).requestResize (toInt32 (arrived width))
                  (toInt32 (arrived height)) id), []) := by
        rintro id rfl
        rfl
      exact hrequest requestId (ofInt_arrived hid)
  | setDirectInputMode handle enabled =>
      cases handle with
      | none => rfl
      | some handle =>
          simp only [FwrInstance.perform]
          rw [Option.bind_some, handleOf_eq (hfits handle rfl)]
          rfl
  | surfaceSendKey handle keycode status timestamp =>
      obtain ⟨hhandle, hkeycode, htime⟩ := hfits
      simp only [FwrInstance.perform, msecOf]
      rw [forHandle_eq hhandle, handleOf_eq hkeycode, Option.getD_some]
      have hkey : ∀ time key, .ofInt 64 (arrived timestamp) = time →
          (UInt64.ofInt (arrived keycode)).toUInt32 = key →
            s.fwrHandleSurfaceKeyboardKeyMessage (argumentsRead
              (Request.call (.surfaceSendKey handle keycode status timestamp)).2) =
                s.withFocus (.ofInt (arrived handle)) fun p =>
                  [.input (.focusView p),
                    .notifyKey (.ofInt ((time : BitVec 64).toInt.tdiv 1000)) key
                      (decide (status = .pressed))] := by
        rintro time key rfl rfl
        cases status <;> rfl
      exact hkey timestamp _ (ofInt_arrived htime) (toUInt32_ofInt _)
  | setVsyncOutput outputId =>
      simp only [FwrInstance.perform]
      rw [forHandle_eq hfits]
      show (do
        let s ← (s.compositor.fwrSetVsyncOutput (.ofInt (arrived outputId))) >>=
          fun compositor => pure (s.setCompositor compositor)
        return (s, [Action.respond .nullSuccess])) = _
      rw [bind_assoc]
      rfl
  | setVsyncRateLimit maxHz =>
      simp only [FwrInstance.perform]
      rw [← toInt32_arrived hfits]
      rfl
  | setOutputMode outputId width height refresh =>
      obtain ⟨hid, hwidth, hheight, hrefresh⟩ := hfits
      simp only [FwrInstance.perform]
      rw [forOutput_eq hid, ← toInt32_arrived hwidth, ← toInt32_arrived hheight,
        ← toInt32_arrived hrefresh]
      rfl
  | setOutputPosition outputId x y =>
      obtain ⟨hid, hx, hy⟩ := hfits
      simp only [FwrInstance.perform]
      rw [forOutput_eq hid, ← toInt32_arrived hx, ← toInt32_arrived hy]
      rfl
  | setOutputScale outputId scale =>
      simp only [FwrInstance.perform]
      rw [forOutput_eq hfits]
      rfl
  | clearFocus | getSocketPaths | signalReady | isCompositor | setPrimaryOutput => rfl

/-- **The window that gets the focus** is the one of the request. -/
theorem focusTarget_call {q : Request} (hfits : NumbersFit q) :
    s.focusTarget a (argumentsRead q.call.2) (methodOf q) = s.focusedBy a q := by
  cases q with
  | surfaceFocus handle =>
      simp only [FwrInstance.focusedBy]
      rw [handleOf_eq hfits]
      rfl
  | surfaceSendKey handle keycode status timestamp =>
      simp only [FwrInstance.focusedBy]
      rw [handleOf_eq hfits.1]
      rfl
  | surfacePointerEvent handle event width height =>
      simp only [FwrInstance.focusedBy]
      rw [handleOf_eq hfits.1]
      have hdecode := decode_encodePointerEvent hfits
      have htype : pointerEventType
          (pointerMessage (.ofInt (arrived handle)) event width height).eventType
            = pointerEventType (.ofInt event.eventClass.constant.toInt) := rfl
      unfold FwrInstance.focusTarget
      cases a.surf with
      | none => rfl
      | some surf =>
          simp only [methodOf, Option.bind_some, InputInstance.focusTarget, Request.call]
          rw [hdecode]
          by_cases hgrab : s.input.input.grab.type = .none
          · cases hclass : event.eventClass with
            | _ => simp [hgrab, hclass, htype]; rfl
          · simp [hgrab]
  | _ => rfl

end Call

/-- **The callback does what the request says**, with the bytes that Dart has written. -/
theorem engineCbPlatformMessage_request (r : Runtime) (env : Environment) (e : Embedder)
    (q : Request) (hfits : NumbersFit q) (m : FlutterPlatformMessage)
    (hsize : m.structSize = sizeofPlatformMessage) (hchannel : m.channel = .ofLiteral "wlroots")
    (hbytes : Agrees (encodeMethodCall q.call) m.message) :
    engineCbPlatformMessage r env e m =
      match e.fwr.perform r.target env.toAnswers env.base q with
      | .error f => .error (.fault f)
      | .ok (fwr, actions) => .ok ({ e with fwr }, actions.map .action) := by
  have hname : (CString.ofLiteral q.call.1).strlen < 2 ^ 31 := by
    rw [call_name]
    exact strlen_name_lt _
  have hread := Dart.readNameAndArgs_call hname (length_arguments_lt q) hbytes
  have hmethod : Method.ofName (CString.ofMemory (CString.ofLiteral q.call.1).bytes)
      = some (methodOf q) := by
    rw [call_name]
    exact ofName_name _
  have hhandle : e.fwr.handleMethod r.target env.toAnswers env.base (argumentsRead q.call.2)
      (methodOf q) = e.fwr.perform r.target env.toAnswers env.base q := handleMethod_call hfits
  unfold engineCbPlatformMessage channelMessage wlrootsMessage
  rw [if_neg (not_not.mpr hsize), if_pos hchannel, hread]
  dsimp only
  rw [hmethod]
  dsimp only
  rw [hhandle]
  cases e.fwr.perform r.target env.toAnswers env.base q with
  | error f => rfl
  | ok result => rfl

/-! ## §5. Answers. -/

/-- The failure is not among what a handler does. -/
def Accepts (handled : Handled) : Prop :=
  ∀ s' actions, handled = .ok (s', actions) → .respond .failure ∉ actions

section Accepts

variable {c : Target} {a : Answers} {base : Nat} {s : FwrInstance}

theorem accepts_ok {s' : FwrInstance} {actions : List Action}
    (h : .respond .failure ∉ actions) : Accepts (.ok (s', actions)) := by
  intro s₁ actions₁ heq
  cases heq
  exact h

theorem Accepts.bind {α : Type} {x : Except Fault α} {f : α → Handled}
    (h : ∀ v, Accepts (f v)) : Accepts (x >>= f) := by
  intro s' actions heq
  obtain ⟨v, -, heq⟩ := except_bind_eq_ok.mp heq
  exact h v s' actions heq

theorem withView_accepts {surfaceHandle : UInt32} {act : Ptr → FwrInstance × List Action}
    (h : ∀ p, .respond .failure ∉ (act p).2) : Accepts (s.withView surfaceHandle act) := by
  unfold FwrInstance.withView
  split
  · exact accepts_ok (by simp)
  next p hp =>
    refine Accepts.bind fun _ => accepts_ok ?_
    intro hmem
    rcases List.mem_append.mp hmem with hmem | hmem
    · exact h p hmem
    · cases List.mem_singleton.mp hmem

theorem withFocus_accepts {surfaceHandle : UInt32} {act : Ptr → List Action}
    (h : ∀ p, .respond .failure ∉ act p) : Accepts (s.withFocus surfaceHandle act) := by
  unfold FwrInstance.withFocus
  split
  · exact accepts_ok (by simp)
  next p hp =>
    refine Accepts.bind fun _ => accepts_ok ?_
    intro hmem
    rcases List.mem_append.mp hmem with hmem | hmem
    · exact h p hmem
    · cases List.mem_singleton.mp hmem

theorem forHandle_accepts {n : DartInt} {act : UInt32 → Handled}
    (h : ∀ handle, Accepts (act handle)) : Accepts (s.forHandle n act) := by
  unfold FwrInstance.forHandle
  split
  · exact accepts_ok (by simp)
  next handle hhandle => exact h handle

/-- A handler of input.c that does not answer with the failure. -/
theorem inputHandler_accepts {handled : Input.Handled}
    (h : ∀ input calls, handled = .ok (input, calls) → .respond false ∉ calls) :
    Accepts (s.inputHandler handled) := by
  intro s' actions heq
  obtain ⟨⟨input, calls⟩, hhandled, heq⟩ := except_bind_eq_ok.mp heq
  obtain ⟨s₁, -, heq⟩ := except_bind_eq_ok.mp heq
  cases heq
  intro hmem
  obtain ⟨call, hcall, hact⟩ := List.mem_map.mp hmem
  have hnot := h input calls hhandled
  cases call with
  | respond success =>
      cases success with
      | true => cases hact
      | false => exact hnot hcall
  | _ => cases hact

/-- What is answered with success. -/
theorem notMem_reply {calls : List Call} (h : Input.Silent calls) :
    .respond false ∉ calls ++ [.respond true] := by
  intro hmem
  rcases List.mem_append.mp hmem with hmem | hmem
  · exact h false hmem
  · cases List.mem_singleton.mp hmem

theorem notMem_platchRespond (base : Nat) (response : PlatformChannel.MethodCallResponse List) :
    .respond .failure ∉ platchRespond base response := by
  unfold platchRespond
  split
  · simp
  · simp

theorem respondTo_accepts (base : Nat) (errorMsg : String) (result : FwrInstance × Bool) :
    Accepts (.ok (FwrInstance.respondTo base errorMsg result)) := by
  refine accepts_ok ?_
  split
  · simp
  · exact notMem_platchRespond base _

theorem forOutput_accepts {n : DartInt} {errorMsg : String}
    {act : UInt32 → Except Fault (FwrInstance × Bool)} :
    Accepts (s.forOutput base errorMsg n act) := by
  unfold FwrInstance.forOutput
  split
  · exact respondTo_accepts base _ _
  · exact Accepts.bind fun result => respondTo_accepts base _ result

theorem moveView_accepts {handle : UInt32} {x y : Int} : Accepts (s.moveView a handle x y) := by
  unfold FwrInstance.moveView
  split
  · exact accepts_ok (by simp)
  · refine Accepts.bind fun view => Accepts.bind fun newOutput => Accepts.bind fun compositor => ?_
    exact accepts_ok (by simp)

theorem surfacePointer_accepts (h : s.Ready) (message : SurfacePointerEventMessage) :
    Accepts (s.inputHandler (s.surfacePointer c a message)) := by
  refine inputHandler_accepts fun input calls heq => ?_
  unfold FwrInstance.surfacePointer at heq
  split at heq
  · cases heq
    simp
  · obtain ⟨-, -, heq⟩ := except_bind_eq_ok.mp heq
    split at heq
    · cases heq
      simp
    next surf hsurf =>
      dsimp only at heq
      split at heq
      · obtain ⟨⟨input', calls'⟩, hgrab, heq⟩ := except_bind_eq_ok.mp heq
        cases heq
        obtain ⟨result, hends, hkept⟩ := Input.grabbedPointerEvent_ends (c := c.toTarget)
          (s := s.input.trackCursor message) h.standing message
        cases hgrab.symm.trans hends
        exact notMem_reply hkept.silent
      · cases heq
        exact notMem_reply
          (Input.kept_viewPointerEvent (s := s.input.trackCursor message) h.standing _ _ _).silent

theorem popupPointer_accepts (h : s.Ready) (message : SurfacePointerEventMessage) :
    Accepts (s.inputHandler (s.popupPointer a message)) := by
  refine inputHandler_accepts fun input calls heq => ?_
  unfold FwrInstance.popupPointer at heq
  split at heq
  · cases heq
    simp
  · obtain ⟨-, -, heq⟩ := except_bind_eq_ok.mp heq
    split at heq
    · cases heq
      simp
    · cases heq
      exact notMem_reply (Input.kept_popupPointerEvent h.standing _ _).silent

/-- **No request is refused.** -/
theorem perform_accepts (h : s.Ready) (q : Request) : Accepts (s.perform c a base q) := by
  cases q with
  | surfaceToplevelSetSize | surfaceToplevelSetMaximized | surfaceRequestResize
  | surfaceEndResize =>
      exact forHandle_accepts fun handle => withView_accepts fun p => List.not_mem_nil
  | surfaceToplevelClose handle =>
      refine forHandle_accepts fun handle => withView_accepts fun p => ?_
      split
      · simp
      · simp
  | surfaceFocus | surfaceSendKey =>
      exact forHandle_accepts fun handle => withFocus_accepts fun p => by simp
  | surfaceSetPosition => exact forHandle_accepts fun handle => moveView_accepts
  | setVsyncOutput =>
      refine forHandle_accepts fun outputId => Accepts.bind fun compositor => ?_
      exact accepts_ok (by simp)
  | getSocketPaths => exact accepts_ok (notMem_platchRespond base _)
  | surfacePointerEvent handle event width height =>
      exact forHandle_accepts fun handle => surfacePointer_accepts h _
  | popupPointerEvent handle event width height =>
      exact forHandle_accepts fun handle => popupPointer_accepts h _
  | setOutputMode | setOutputPosition | setOutputScale => exact forOutput_accepts
  | clearFocus | setDirectInputMode | signalReady | isCompositor | setPrimaryOutput
  | setVsyncRateLimit => exact accepts_ok (by simp)

end Accepts

/-- The message of a request, with zeros where bytes are skipped. -/
def requestMessage (q : Request) : FlutterPlatformMessage where
  structSize := sizeofPlatformMessage
  channel := .ofLiteral "wlroots"
  message := filled 0 (encodeMethodCall q.call)
  address := 0

/-- The window that has the focus is destroyed, and its surface is not. -/
def focusLost : List EmbedderEvent :=
  [.input (.compositor (.newToplevel 7)), .input (.compositor (.newToplevel 9)),
   .seat ⟨some 7, fun surface => if surface = 7 then some 0 else some 1⟩,
   .input (.compositor (.toplevelDestroy 0))]

/-- The other window is to get the focus: the freed view is followed. -/
example : ((embedder .still).exec (.init .still) focusLost).map (fun e =>
    match engineCbPlatformMessage .still .nothing e (requestMessage (.surfaceFocus 2)) with
    | .error stop => some stop
    | .ok _ => none) = some (some (.fault .freedView)) := by
  decide +kernel

end FlutterWlroots.Platform
