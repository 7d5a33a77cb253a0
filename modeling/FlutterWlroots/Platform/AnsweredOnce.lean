/-
  FlutterWlroots.Platform.AnsweredOnce — how often a platform message is answered.

  The methods of the channel `wlroots` and the mouse cursor answer each message once, and what is
  not handled is answered with the failure at the end of the callback.  Text input does not ask
  whether `platch_decode` has assigned the method and its argument: for an empty message it has not,
  although its result is 0, and neither has it for an object without a `"method"` or an `"args"`.
  The mouse cursor returns early for an empty message.  A method that gives a window the focus
  follows the toplevel that loses it, which may have been destroyed, in front of its response.

    • `wlrootsMessage_cases`             — the channel `wlroots`,
    • `textInputHandleMessage_cases`     — text input,
    • `channelMessage_cases`             — the channels, in one statement,
    • `reachable_ready`                  — what every run keeps,
    • `engineCbPlatformMessage_once_iff` — one response, if and only if it is answerable.
-/
import FlutterWlroots.Codec.JsonPasses
import FlutterWlroots.Codec.JsonStops
import FlutterWlroots.Codec.PlatchDecodeBounds
import FlutterWlroots.Platform.MethodReplies
import FlutterWlroots.Platform.MistypedArguments
import FlutterWlroots.Platform.PlatformMessages
import FlutterWlroots.TextInput.UnterminatedText

namespace FlutterWlroots.Platform

open Lib Lib.StateRun FlutterWlroots.Compositor FlutterWlroots.Codec FlutterWlroots.PlatformChannel
open FlutterWlroots.Input (Call)
open FlutterWlroots.TextInput (TextInputState)
open FlutterWlroots.TextInput.TextInputState (TextEnds textsSet)
open FlutterWlroots.StandardMessageCodec (readNameAndArgs scans_messageRead ReadStop)

/-! ## §1. Handlers of channels. -/

/-- The handler comes to its end, with one response if it has handled the message and none
    otherwise. -/
def Closed (handled : ChannelHandled) : Prop :=
  Ends handled fun result =>
    result.1.fwr.Ready ∧ responses result.2.1 = if result.2.2 then 1 else 0

section Channels

variable {r : Runtime} {env : Environment} {e : Embedder} {m : FlutterPlatformMessage}

theorem closed_unhandled (h : e.fwr.Ready) : Closed (unhandled e) := ends_ok ⟨h, rfl⟩

theorem responses_append (calls calls' : List PlatformCall) :
    responses (calls ++ calls') = responses calls + responses calls' := List.countP_append

/-- One response, behind actions without one. -/
theorem responses_answered {actions : List Action} {response : Response} (h : NoReply actions) :
    responses ((actions ++ [Action.respond response]).map PlatformCall.action) = 1 := by
  have hnone : responses (actions.map PlatformCall.action) = 0 := by
    unfold responses
    rw [List.countP_eq_zero]
    intro call hcall
    obtain ⟨action, haction, rfl⟩ := List.mem_map.mp hcall
    cases action with
    | respond response => exact absurd haction (h response)
    | _ => exact Bool.false_ne_true
  rw [List.map_append, responses_append, hnone]
  rfl

/-! The channel `wlroots`. -/

/-- Whatever the bytes are, they are read as a name and arguments, or refused. -/
theorem readNameAndArgs_cases (message : List UInt8) :
    (∃ name args o, (readNameAndArgs message).run 0 = .ok (name, args) o)
      ∨ ∃ o, (readNameAndArgs message).run 0 = .error .returnsFalse o := by
  have hscan := scans_messageRead (message.length + 1)
  unfold readNameAndArgs
  cases hname : (StandardMessageCodec.messageRead message message.length
      (message.length + 1)).run 0 with
  | error stop o =>
      obtain ⟨rfl, -⟩ := hscan.stops message 0 stop o (Nat.zero_le _) (by omega) hname
      exact .inr ⟨o, run_bind_error hname⟩
  | ok name o =>
      obtain ⟨-, hle⟩ := hscan.moves message 0 name o (Nat.zero_le _) hname
      rw [run_bind_ok hname]
      cases hargs : (StandardMessageCodec.messageRead message message.length
          (message.length + 1)).run o with
      | error stop o' =>
          obtain ⟨rfl, -⟩ := hscan.stops message o stop o' hle (by omega) hargs
          exact .inr ⟨o', run_bind_error hargs⟩
      | ok args o' => exact .inl ⟨name, args, o', run_bind_ok hargs⟩

/-- The method that a message calls can give the focus, if it gives it to a window. -/
def MethodAnswerable (env : Environment) (e : Embedder) (message : List UInt8) : Prop :=
  ∀ length string args o method,
    (readNameAndArgs message).run 0 = .ok (.dvString length string, args) o →
      Method.ofName (CString.ofMemory string) = some method →
        e.fwr.Focusable env.toAnswers args method

/-- **The channel `wlroots`** answers a message once, or stops at the focus. -/
theorem wlrootsMessage_cases (h : e.fwr.Ready) :
    (MethodAnswerable env e m.message ∧ Closed (wlrootsMessage r env e m))
      ∨ (¬ MethodAnswerable env e m.message
        ∧ ∃ stop, wlrootsMessage r env e m = .error stop) := by
  have hother : (∀ length string args o method,
      (readNameAndArgs m.message).run 0 = .ok (.dvString length string, args) o →
        Method.ofName (CString.ofMemory string) ≠ some method) →
          MethodAnswerable env e m.message := by
    intro hnone length string args o method hread hmethod
    exact absurd hmethod (hnone length string args o method hread)
  unfold wlrootsMessage
  rcases readNameAndArgs_cases m.message with ⟨name, args, o, hread⟩ | ⟨o, hread⟩
  · cases name with
    | dvString length string =>
        rw [hread]
        dsimp only
        cases hmethod : Method.ofName (CString.ofMemory string) with
        | none =>
            refine .inl ⟨hother fun _ _ _ _ method hread' hmethod' => ?_, closed_unhandled h⟩
            cases hread.symm.trans hread'
            cases hmethod.symm.trans hmethod'
        | some method =>
            have hiff : MethodAnswerable env e m.message ↔
                e.fwr.Focusable env.toAnswers args method := by
              constructor
              · intro hanswer
                exact hanswer length string args o method hread hmethod
              · intro hfocus length' string' args' o' method' hread' hmethod'
                cases hread.symm.trans hread'
                cases hmethod.symm.trans hmethod'
                exact hfocus
            rw [hiff]
            rcases handleMethod_cases (c := r.target) (a := env.toAnswers) h env.aligned args
              method with ⟨hfocus, ⟨⟨fwr, actions⟩, hrun, hanswered⟩⟩ | ⟨hnot, f, hrun⟩
            · obtain ⟨hready, before, response, rfl, hsilent⟩ := hanswered
              dsimp only
              rw [hrun]
              exact .inl ⟨hfocus, ends_ok ⟨hready, responses_answered hsilent⟩⟩
            · dsimp only
              rw [hrun]
              exact .inr ⟨hnot, .fault f, rfl⟩
    | _ =>
        rw [hread]
        refine .inl ⟨hother fun _ _ _ _ method hread' => ?_, closed_unhandled h⟩
        cases hread.symm.trans hread'
  · rw [hread]
    refine .inl ⟨hother fun _ _ _ _ method hread' => ?_, closed_unhandled h⟩
    cases hread.symm.trans hread'

/-! The mouse cursor. -/

variable (env) in
theorem responses_successStd : responses (platchRespondSuccessStd env) = 1 := by
  unfold platchRespondSuccessStd
  rw [platchRespond_null env.aligned]
  rfl

theorem activateCursor_ready (h : e.fwr.Ready) (std_arg : DecodedValue) :
    (activateCursor e std_arg).1.fwr.Ready ∧ responses (activateCursor e std_arg).2 = 0 := by
  unfold activateCursor
  split
  next kind hkind =>
    have hstanding := h.standing.handle
      (e := .activateSystemCursor (flutterCursorToXcursor kind)) rfl
    exact ⟨⟨hstanding, h.short⟩, rfl⟩
  next => exact ⟨h, rfl⟩

theorem cursorHandleMessage_closed (h : e.fwr.Ready) : Closed (cursorHandleMessage env e m) := by
  unfold cursorHandleMessage
  split
  · exact closed_unhandled h
  · rcases runDecode_ends m.address m.message with ⟨method, std_arg, c, hrun⟩ | ⟨errno, c, hrun⟩
    · rw [hrun]
      dsimp only
      split
      · obtain ⟨hready, hnone⟩ := activateCursor_ready h std_arg
        refine ends_ok ⟨hready, ?_⟩
        rw [responses_append, hnone, responses_successStd env]
        rfl
      · split
        · exact ends_ok ⟨h, responses_successStd env⟩
        · exact closed_unhandled h
    · rw [hrun]
      exact closed_unhandled h

/-! ## §2. Text input. -/

/-- The message is decoded or refused, and what is read of it and of the text is there. -/
def TextAnswerable (strtod : CString → BitVec 64) (s : TextInputState) (message : List UInt8) :
    Prop :=
  message ≠ [] ∧ TokensSuffice message ∧ ∀ entries, MethodCallText strtod message entries →
    ∃ method arg, lastSet methodOf entries none = some method
      ∧ lastSet argsOf entries none = some arg
      ∧ (method = .ofLiteral "TextInput.setEditingState" → s.TextEnds (textsSet arg))

theorem platchRespondSuccessJson_eq (returnValue : Option JsonValue) :
    platchRespondSuccessJson r returnValue = [.respondJson (returnValue.getD .kJsonNull)] := by
  unfold platchRespondSuccessJson
  obtain ⟨block, hencode, -⟩ := platchEncodeJson_eq r.percentG
    (.kJSONMethodCallSuccess (returnValue.getD .kJsonNull))
  dsimp only
  rw [hencode]

theorem responses_successJson :
    responses ([none].flatMap (platchRespondSuccessJson r)) = 1 := by
  rw [List.flatMap_singleton, platchRespondSuccessJson_eq]
  rfl

theorem answerCall_success (h : e.fwr.Ready) {call : JsonMethodCall} {s : TextInputState}
    (hrun : e.textInput.textInputHandleMessage r.textTarget call = some (s, true, [none]))
    (hlog : logText call s = .ok ()) : Closed (answerCall r e call) := by
  unfold answerCall
  rw [hrun]
  dsimp only
  rw [hlog]
  exact ends_ok ⟨h, responses_successJson⟩

/-- Only `TextInput.setEditingState` has the text printed. -/
theorem logText_other {call : JsonMethodCall} (s : TextInputState)
    (hmethod : call.method ≠ .ofLiteral "TextInput.setEditingState") : logText call s = .ok () :=
  if_neg fun h => hmethod h.1

/-- **A call that has been decoded** is answered unless the text has no end. -/
theorem answerCall_cases (h : e.fwr.Ready) (call : JsonMethodCall) :
    ((call.method = .ofLiteral "TextInput.setEditingState" →
        e.textInput.TextEnds (textsSet call.json_arg)) ∧ Closed (answerCall r e call))
      ∨ ((¬ (call.method = .ofLiteral "TextInput.setEditingState" →
        e.textInput.TextEnds (textsSet call.json_arg)))
        ∧ ∃ stop, answerCall r e call = .error stop) := by
  by_cases hstate : call.method = .ofLiteral "TextInput.setEditingState"
  · have hclient : call.method ≠ .ofLiteral "TextInput.setClient" := by
      rw [hstate]
      decide
    have hrun : e.textInput.textInputHandleMessage r.textTarget call
        = (e.textInput.setEditingState r.textTarget call.json_arg).map
          fun s => (s, true, [none]) := by
      unfold TextInputState.textInputHandleMessage
      rw [if_neg hclient, if_pos hstate]
    have hends := TextInputState.setEditingState_ends_iff (c := r.textTarget) (s := e.textInput)
      call.json_arg
    by_cases htext : e.textInput.TextEnds (textsSet call.json_arg)
    · obtain ⟨s, hs, hlen⟩ := hends.mpr htext
      rw [hs] at hrun
      exact .inl ⟨fun _ => htext, answerCall_success h hrun (if_neg fun hlog => hlen hlog.2)⟩
    · refine .inr ⟨fun himp => htext (himp hstate), .outOfBounds, ?_⟩
      unfold answerCall
      rw [hrun]
      cases hs : e.textInput.setEditingState r.textTarget call.json_arg with
      | none => rfl
      | some s =>
          have hlen : s.text.strlen = none := by
            by_contra hne
            exact htext (hends.mp ⟨s, hs, hne⟩)
          dsimp only [Option.map_some]
          rw [logText, if_pos ⟨hstate, hlen⟩]
          rfl
  · refine .inl ⟨fun heq => absurd heq hstate, ?_⟩
    by_cases hclient : call.method = .ofLiteral "TextInput.setClient"
    · obtain ⟨s, hs⟩ := TextInputState.exists_setClient (c := r.textTarget) (s := e.textInput)
        call.json_arg
      refine answerCall_success h (s := s) ?_ (logText_other s hstate)
      unfold TextInputState.textInputHandleMessage
      rw [if_pos hclient, hs]
      rfl
    · by_cases hclear : call.method = .ofLiteral "TextInput.clearClient"
      · refine answerCall_success h (s := e.textInput.clearClient) ?_ (logText_other _ hstate)
        unfold TextInputState.textInputHandleMessage
        rw [if_neg hclient, if_neg hstate, if_pos hclear]
      · by_cases hignored : call.method ∈ TextInputState.ignoredMethods
        · refine answerCall_success h (s := e.textInput) ?_ (logText_other _ hstate)
          unfold TextInputState.textInputHandleMessage
          rw [if_neg hclient, if_neg hstate, if_neg hclear, if_pos hignored]
        · have hrun : e.textInput.textInputHandleMessage r.textTarget call
              = some (e.textInput, false, []) := by
            unfold TextInputState.textInputHandleMessage
            rw [if_neg hclient, if_neg hstate, if_neg hclear, if_neg hignored]
          unfold answerCall
          rw [hrun]
          dsimp only
          rw [logText_other _ hstate]
          exact ends_ok ⟨h, rfl⟩

/-- For a text that is a method call. -/
theorem textAnswerable_iff {strtod : CString → BitVec 64} {s : TextInputState}
    {message : List UInt8} {entries : List (CString × JsonValue)} (hne : message ≠ [])
    (hsuffice : TokensSuffice message)
    (htext : MethodCallText strtod message entries) : TextAnswerable strtod s message ↔
      ∃ method arg, lastSet methodOf entries none = some method
        ∧ lastSet argsOf entries none = some arg
        ∧ (method = .ofLiteral "TextInput.setEditingState" → s.TextEnds (textsSet arg)) := by
  constructor
  · intro h
    exact h.2.2 entries htext
  · intro h
    refine ⟨hne, hsuffice, fun entries' htext' => ?_⟩
    obtain ⟨⟨k, hcopy⟩, -⟩ := htext
    obtain ⟨⟨k', hcopy'⟩, -⟩ := htext'
    cases hcopy.symm.trans hcopy'
    exact h

/-- **Text input** answers a message once if it is answerable, and stops otherwise. -/
theorem textInputHandleMessage_cases (h : e.fwr.Ready) :
    (TextAnswerable r.strtod e.textInput m.message ∧ Closed (textInputHandleMessage r e m))
      ∨ (¬ TextAnswerable r.strtod e.textInput m.message
        ∧ ∃ stop, textInputHandleMessage r e m = .error stop) := by
  unfold textInputHandleMessage
  cases hmessage : m.message with
  | nil =>
      -- `platch_decode` returns 0 for a NULL buffer and assigns nothing
      exact .inr ⟨fun hanswer => hanswer.1 rfl, .unassigned, rfl⟩
  | cons b bs =>
      have hends := platchDecodeJson_methodCall r.strtod (b :: bs) [] 0 0
      dsimp only [List.isEmpty_cons]
      rw [if_neg Bool.false_ne_true]
      generalize (platchDecodeJson r.strtod false (b :: bs).length .kJSONMethodCall).run
        ⟨b :: bs ++ [0], 0⟩ = result at hends ⊢
      cases hends with
      | errno hsuffice htext =>
          refine .inl ⟨⟨List.cons_ne_nil _ _, hsuffice, fun entries hentries => ?_⟩,
            closed_unhandled h⟩
          exact absurd hentries (htext entries)
      | outside hsuffice => exact .inr ⟨fun hanswer => hsuffice hanswer.2.1, .outOfBounds, rfl⟩
      | @assigned obj c entries hsuffice htext hmethod hargs =>
          rw [textAnswerable_iff (List.cons_ne_nil _ _) hsuffice htext, ← hmethod, ← hargs]
          dsimp only
          unfold assignedCall
          cases obj.method with
          | none =>
              refine .inr ⟨fun hanswer => ?_, .unassigned, rfl⟩
              obtain ⟨method, arg, hnone, -⟩ := hanswer
              cases hnone
          | some method =>
              cases obj.json_arg with
              | none =>
                  refine .inr ⟨fun hanswer => ?_, .unassigned, rfl⟩
                  obtain ⟨method, arg, -, hnone, -⟩ := hanswer
                  cases hnone
              | some json_arg =>
                  have hiff : ∀ P : CString → JsonValue → Prop, (∃ method' arg',
                      (some method).map (cString c.message) = some method'
                        ∧ (some json_arg).map (·.load c.message) = some arg' ∧ P method' arg')
                      ↔ P (cString c.message method) (json_arg.load c.message) := by
                    simp
                  rw [hiff fun method arg => method = .ofLiteral "TextInput.setEditingState" →
                    e.textInput.TextEnds (textsSet arg)]
                  exact answerCall_cases h ⟨cString c.message method, json_arg.load c.message⟩

/-! ## §3. The callback. -/

/-- Text input can answer the message if it is one of text input, and the method that it calls can
    give the focus if it is one of `wlroots`. -/
structure Answerable (r : Runtime) (env : Environment) (e : Embedder) (m : FlutterPlatformMessage) :
    Prop where
  text : m.channel = .ofLiteral "flutter/textinput" →
    TextAnswerable r.strtod e.textInput m.message
  method : m.channel = .ofLiteral "wlroots" → MethodAnswerable env e m.message

variable (r env m) in
/-- **The channels**, in one statement. -/
theorem channelMessage_cases (h : e.fwr.Ready) :
    (Answerable r env e m ∧ Closed (channelMessage r env e m))
      ∨ (¬ Answerable r env e m ∧ ∃ stop, channelMessage r env e m = .error stop) := by
  unfold channelMessage
  have hdistinct : CString.ofLiteral "wlroots" ≠ .ofLiteral "flutter/textinput"
      ∧ CString.ofLiteral "flutter/mousecursor" ≠ .ofLiteral "flutter/textinput" := by decide
  by_cases hwlroots : m.channel = .ofLiteral "wlroots"
  · rw [if_pos hwlroots]
    refine (wlrootsMessage_cases h).imp (And.imp_left fun hmethod => ?_)
      (And.imp_left fun hnot hanswer => hnot (hanswer.method hwlroots))
    exact ⟨fun htext => absurd (hwlroots.symm.trans htext) hdistinct.1, fun _ => hmethod⟩
  · rw [if_neg hwlroots]
    unfold pluginChannelHandlers
    by_cases htext : m.channel = .ofLiteral "flutter/textinput"
    · rw [List.find?_cons_of_pos (by simpa using htext)]
      refine (textInputHandleMessage_cases h).imp (And.imp_left fun hanswer => ?_)
        (And.imp_left fun hnot hanswer => hnot (hanswer.text htext))
      exact ⟨fun _ => hanswer, fun heq => absurd heq hwlroots⟩
    · refine .inl ⟨⟨fun heq => absurd heq htext, fun heq => absurd heq hwlroots⟩, ?_⟩
      rw [List.find?_cons_of_neg (by simpa using htext)]
      by_cases hcursor : m.channel = .ofLiteral "flutter/mousecursor"
      · rw [List.find?_cons_of_pos (by simpa using hcursor)]
        exact cursorHandleMessage_closed h
      · rw [List.find?_cons_of_neg (by simpa using hcursor)]
        exact closed_unhandled h

variable (r env) in
theorem engineCbPlatformMessage_cases (h : e.fwr.Ready)
    (hsize : m.structSize = sizeofPlatformMessage) :
    (Answerable r env e m ∧ Ends (engineCbPlatformMessage r env e m) fun result =>
        result.1.fwr.Ready ∧ responses result.2 = 1)
      ∨ (¬ Answerable r env e m ∧ ∃ stop, engineCbPlatformMessage r env e m = .error stop) := by
  unfold engineCbPlatformMessage
  rw [if_neg (not_not.mpr hsize)]
  rcases channelMessage_cases r env m h with ⟨hanswer, hclosed⟩ | ⟨hanswer, stop, hrun⟩
  · refine .inl ⟨hanswer, hclosed.bind fun result hresult => ?_⟩
    obtain ⟨e', calls, handled⟩ := result
    obtain ⟨hready, hcount⟩ := hresult
    cases handled with
    | true => exact ends_ok ⟨hready, hcount⟩
    | false =>
        refine ends_ok ⟨hready, ?_⟩
        dsimp only at hcount ⊢
        rw [responses_append, hcount]
        rfl
  · refine .inr ⟨hanswer, stop, ?_⟩
    rw [hrun]
    rfl

/-! ## §4. Runs. -/

theorem ready_init (r : Runtime) : (Embedder.init r).fwr.Ready := ⟨Standing.init, r.short⟩

/-- A message of any size keeps what the next one needs. -/
theorem engineCbPlatformMessage_ready {e' : Embedder} {calls : List PlatformCall} (h : e.fwr.Ready)
    (hrun : engineCbPlatformMessage r env e m = .ok (e', calls)) : e'.fwr.Ready := by
  by_cases hsize : m.structSize = sizeofPlatformMessage
  · rcases engineCbPlatformMessage_cases r env h hsize with
      ⟨-, result, hends, hready, -⟩ | ⟨-, stop, herror⟩
    · cases hrun.symm.trans hends
      exact hready
    · cases hrun.symm.trans herror
  · unfold engineCbPlatformMessage at hrun
    rw [if_pos hsize] at hrun
    cases hrun
    exact h

/-- What input.c does to windows does not concern the next message. -/
theorem applyCall_keeps {s s' : FwrInstance} {call : Call}
    (h : FwrInstance.applyCall s call = .ok s') :
    s'.input = s.input ∧ s'.wlSocket = s.wlSocket := by
  cases call with
  | focusView p =>
      have hrun : s.fwrFocusView p = .ok s' := h
      obtain ⟨view, hview, -⟩ := except_bind_eq_ok.mp hrun
      rcases FwrInstance.fwrFocusView_cases (Instance.deref_eq_ok.mp hview) with
        ⟨-, s₁, hok, hsame⟩ | ⟨-, f, herror⟩
      · cases hrun.symm.trans hok
        exact hsame
      · cases hrun.symm.trans herror
  | _ =>
      cases h
      exact ⟨rfl, rfl⟩

theorem foldlM_keeps {calls : List Call} : ∀ {s s' : FwrInstance},
    calls.foldlM FwrInstance.applyCall s = .ok s' →
      s'.input = s.input ∧ s'.wlSocket = s.wlSocket := by
  induction calls with
  | nil =>
      intro s s' h
      cases h
      exact ⟨rfl, rfl⟩
  | cons call calls ih =>
      intro s s' h
      obtain ⟨s₁, hcall, hrest⟩ := except_bind_eq_ok.mp h
      obtain ⟨hinput, hsocket⟩ := applyCall_keeps hcall
      obtain ⟨hinput', hsocket'⟩ := ih hrest
      exact ⟨hinput'.trans hinput, hsocket'.trans hsocket⟩

/-- One event. -/
theorem ready_step {e' : Embedder} {event : EmbedderEvent} (h : e.fwr.Ready)
    (hstep : e.step r event = some e') : e'.fwr.Ready := by
  cases event with
  | input event =>
      change (if e.fwr.input.Deliverable event then _ else none) = some e' at hstep
      rw [Option.ite_none_right_eq_some] at hstep
      obtain ⟨⟨fwr, actions⟩, hrun, rfl⟩ := Option.map_eq_some_iff.mp hstep.2
      obtain ⟨⟨input, calls⟩, hhandle, hrest⟩ := except_bind_eq_ok.mp (toOption_eq_some.mp hrun)
      obtain ⟨fwr₁, hfold, hrest⟩ := except_bind_eq_ok.mp hrest
      cases hrest
      obtain ⟨hinput, hsocket⟩ := foldlM_keeps hfold
      refine ⟨?_, ?_⟩
      · show Standing fwr.input.compositor
        rw [hinput]
        exact Input.standing_handle h.standing hhandle
      · rw [hsocket]
        exact h.short
  | key keysym unicode pressed =>
      change (e.textInput.fwrTextInputHandleKey keysym unicode pressed).map _ = some e' at hstep
      obtain ⟨result, -, rfl⟩ := Option.map_eq_some_iff.mp hstep
      exact h
  | configure toplevels outputConfigs =>
      cases hstep
      exact ⟨h.standing, h.short⟩
  | seat seat =>
      cases hstep
      exact ⟨h.standing, h.short⟩
  | message env m =>
      change (engineCbPlatformMessage r env e m).toOption.map _ = some e' at hstep
      obtain ⟨⟨e₁, calls⟩, hrun, rfl⟩ := Option.map_eq_some_iff.mp hstep
      exact engineCbPlatformMessage_ready h (toOption_eq_some.mp hrun)

/-- **What every run keeps.** -/
theorem reachable_ready (h : (embedder r).Reachable e) : e.fwr.Ready :=
  h.invariant (P := fun e => e.fwr.Ready) (ready_init r) fun _ _ _ h _ hstep => ready_step h hstep

end Channels

/-- **One response.**  In every reachable state a message of the right size is answered exactly
    once, by its handler or with the failure, if and only if it is answerable. -/
theorem engineCbPlatformMessage_once_iff (r : Runtime) (e : Embedder) (h : (embedder r).Reachable e)
    (env : Environment) (m : FlutterPlatformMessage)
    (hsize : m.structSize = sizeofPlatformMessage) :
    (∃ e' calls, engineCbPlatformMessage r env e m = .ok (e', calls) ∧ responses calls = 1)
      ↔ Answerable r env e m := by
  constructor
  · intro ⟨e', calls, hrun, _⟩
    rcases engineCbPlatformMessage_cases r env (reachable_ready h) hsize with
      ⟨hanswer, -⟩ | ⟨-, stop, herror⟩
    · exact hanswer
    · cases hrun.symm.trans herror
  · intro hanswer
    rcases engineCbPlatformMessage_cases r env (reachable_ready h) hsize with
      ⟨-, ⟨e', calls⟩, hrun, -, hcount⟩ | ⟨hnot, -⟩
    · exact ⟨e', calls, hrun, hcount⟩
    · exact absurd hanswer hnot

/-! A text field that is hidden, and an empty message. -/

def Runtime.still : Runtime where
  target := .still
  textTarget := TextInputState.smallest
  strtod := fun _ => 0
  percentG := fun _ => .ofLiteral "0"
  wlSocket := .ofLiteral "wayland-1"
  short := by decide

def Environment.nothing : Environment := { Answers.nothing with base := 0, aligned := rfl }

def textInputMessage (text : String) : FlutterPlatformMessage where
  structSize := sizeofPlatformMessage
  channel := .ofLiteral "flutter/textinput"
  message := (CString.ofLiteral text).bytes
  address := 0

theorem engineCbPlatformMessage_once_iff_hide :
    ((engineCbPlatformMessage .still .nothing (.init .still)
        (textInputMessage "\x7b\"method\":\"TextInput.hide\",\"args\":null\x7d")).toOption.map
          fun result => responses result.2) = some 1
      ∧ Answerable .still .nothing (.init .still)
        (textInputMessage "\x7b\"method\":\"TextInput.hide\",\"args\":null\x7d") := by
  have hrun : ((engineCbPlatformMessage .still .nothing (.init .still)
      (textInputMessage "\x7b\"method\":\"TextInput.hide\",\"args\":null\x7d")).toOption.map
        fun result => responses result.2) = some 1 := by decide +kernel
  refine ⟨hrun, (engineCbPlatformMessage_once_iff .still _ .init .nothing _ rfl).mp ?_⟩
  obtain ⟨⟨e', calls⟩, hok, hcount⟩ := Option.map_eq_some_iff.mp hrun
  exact ⟨e', calls, toOption_eq_some.mp hok, hcount⟩

/-- The method of an empty message is read, and nobody has assigned it. -/
theorem emptyMessage_unanswered :
    (embedder .still).Reachable (.init .still)
      ∧ (textInputMessage "").structSize = sizeofPlatformMessage
      ∧ engineCbPlatformMessage .still .nothing (.init .still) (textInputMessage "")
        = .error .unassigned
      ∧ ¬ ∃ e' calls, engineCbPlatformMessage .still .nothing (.init .still) (textInputMessage "")
        = .ok (e', calls) ∧ responses calls = 1 := by
  have hrun : engineCbPlatformMessage .still .nothing (.init .still) (textInputMessage "")
      = .error .unassigned := rfl
  refine ⟨.init, rfl, hrun, fun ⟨e', calls, hok, _⟩ => ?_⟩
  cases hrun.symm.trans hok

end FlutterWlroots.Platform
