/-
  FlutterWlroots.Platform.MethodReplies — every method of the channel `wlroots` answers once.

  Some methods answer with a fixed message, some through `platch_respond`, which sends nothing if
  the response cannot be encoded, and those of input.c for themselves.  In each branch the response
  is the last thing that is done, and there is none before it.  A method that gives a window the
  keyboard focus does not come to its response if the toplevel that loses it has been destroyed.

    • `platchRespond_eq`     — the responses of the embedder can be encoded,
    • `inputHandler_cases`   — the handlers of input.c, with the focus,
    • `handleMethod_cases`   — the methods.
-/
import FlutterWlroots.Codec.PlatchPasses
import FlutterWlroots.Input.Replies
import FlutterWlroots.Platform.Methods

namespace FlutterWlroots.Platform

open Lib Lib.StateRun FlutterWlroots.Compositor FlutterWlroots.Codec
open FlutterWlroots.Messages FlutterWlroots.PlatformChannel
open FlutterWlroots.Input (InputInstance Call SurfaceUnder)
open FlutterWlroots.StandardMessageCodec (DartValue)

/-! ## §1. Responses that are encoded. -/

section Encoding

variable {base : Nat} {response : MethodCallResponse List}

theorem platchRespond_eq {parts : List UInt8 × List StdValue} (hb : base % 8 = 0)
    (hparts : (PlatchObj.kStandardMethodCallResponse response).parts = some parts)
    (hknown : PlatchObj.Known parts) (hsize : (PlatchObj.format parts).length < 2 ^ 31) :
    platchRespond base response = [.respond (.std response)] := by
  unfold platchRespond
  rw [PlatchObj.platchEncode_parts hparts,
    allocAndWrite_emits (PlatchObj.sizePass_known hknown hsize)
      (PlatchObj.writePass_known hb hknown hsize)]

theorem length_sizePrefix_le (n : Nat) : (sizePrefix n).length ≤ 5 := by
  unfold sizePrefix
  split_ifs
  all_goals simp [Lib.LittleEndian.length_leBytes]

theorem length_wire_string_le (p : Nat) (s : CString) :
    (wire p (.kStdString s)).length ≤ s.strlen + 6 := by
  have hprefix := length_sizePrefix_le s.strlen
  rw [wire, length_fixed, List.length_append, length_header]
  unfold CString.strlen at hprefix ⊢
  omega

theorem length_wireList_cons (p : Nat) (x : StdValue) (xs : List StdValue) :
    (wireList p (x :: xs)).length
      = (wire p x).length + (wireList (p + (wire p x).length) xs).length := by
  rw [wireList, List.length_append]

/-- A map from strings to strings. -/
theorem length_wireEntries_strings_le (es : List (CString × CString)) : ∀ p,
    (wireEntries p (es.map fun e => (.kStdString e.1, .kStdString e.2))).length
      ≤ (es.map fun e => e.1.strlen + e.2.strlen + 12).sum := by
  induction es with
  | nil =>
      intro p
      rw [List.map_nil, wireEntries]
      exact Nat.le_refl 0
  | cons e es ih =>
      intro p
      rw [List.map_cons, List.map_cons, List.sum_cons, wireEntries, List.length_append,
        List.length_append]
      have hkey := length_wire_string_le p e.1
      have hvalue := length_wire_string_le (p + (wire p (.kStdString e.1)).length) e.2
      have hrest := ih (p + (wire p (.kStdString e.1)).length
        + (wire (p + (wire p (.kStdString e.1)).length) (.kStdString e.2)).length)
      omega

/-- A success without a value. -/
theorem platchRespond_null (hb : base % 8 = 0) :
    platchRespond base (.success .kStdNull) = [.respond (.std (.success .kStdNull))] := by
  have hparts : (PlatchObj.kStandardMethodCallResponse (.success .kStdNull)).parts
      = some ([0x00], [.kStdNull]) := rfl
  refine platchRespond_eq hb hparts ?_ (by decide)
  intro v hv
  rw [List.mem_singleton.mp hv]
  rfl

/-- An error without details. -/
theorem platchRespond_failure (hb : base % 8 = 0) (code msg : CString)
    (hsize : code.strlen + msg.strlen < 2 ^ 30) :
    platchRespond base (.failure code (some msg) .kStdNull)
      = [.respond (.std (.failure code (some msg) .kStdNull))] := by
  have hparts : (PlatchObj.kStandardMethodCallResponse (.failure code (some msg) .kStdNull)).parts
      = some ([0x01], [.kStdString code, .kStdString msg, .kStdNull]) := rfl
  refine platchRespond_eq hb hparts ?_ ?_
  · intro v hv
    simp only [List.mem_cons, List.not_mem_nil, or_false] at hv
    rcases hv with rfl | rfl | rfl
    all_goals rfl
  · have hcode := length_wire_string_le 1 code
    have hmsg := length_wire_string_le (1 + (wire 1 (.kStdString code)).length) msg
    rw [PlatchObj.format, List.length_append, length_fixed, List.length_singleton,
      length_wireList_cons, length_wireList_cons, length_wireList_cons]
    have hnull : ∀ p, (wire p .kStdNull).length = 1 := fun p => by rw [wire]; rfl
    rw [hnull, wireList, List.length_nil]
    omega

end Encoding

/-! ## §2. Handlers. -/

/-- What the methods rely on: the compositor stands, and the name of the socket is short. -/
structure FwrInstance.Ready (s : FwrInstance) : Prop where
  standing : Standing s.compositor
  short : s.wlSocket.strlen < 108

/-- No response. -/
def NoReply (actions : List Action) : Prop := ∀ response, .respond response ∉ actions

/-- A handler that leaves the instance ready and answers once, at its end. -/
structure Answered (result : FwrInstance × List Action) : Prop where
  ready : result.1.Ready
  reply : ∃ actions response, result.2 = actions ++ [.respond response] ∧ NoReply actions

/-- A handler that answers if a condition holds, and otherwise does not come to its end. -/
def AnswersIff (handled : Handled) (p : Prop) : Prop :=
  (p ∧ Ends handled Answered) ∨ (¬ p ∧ ∃ f, handled = .error f)

section Handlers

variable {c : Target} {a : Answers} {base : Nat} {s s' : FwrInstance} {actions : List Action}

theorem FwrInstance.Ready.setToplevel (h : s.Ready) (p : Ptr) (toplevel : Toplevel) :
    (s.setToplevel p toplevel).Ready := ⟨h.standing, h.short⟩

theorem FwrInstance.Ready.setCompositor (h : s.Ready) {compositor : Instance}
    (hstanding : Standing compositor) : (s.setCompositor compositor).Ready := ⟨hstanding, h.short⟩

/-- An answer and nothing else. -/
theorem answered_only (h : s.Ready) (response : Response) : Answered (s, [.respond response]) :=
  ⟨h, [], response, rfl, fun _ => List.not_mem_nil⟩

theorem noReply_nil : NoReply [] := fun _ => List.not_mem_nil

theorem noReply_single {act : Action} (h : ∀ response, act ≠ .respond response) :
    NoReply [act] := by
  intro response hmem
  exact h response (List.mem_singleton.mp hmem).symm

theorem withView_answers (h : s.Ready) (surfaceHandle : UInt32)
    {act : Ptr → FwrInstance × List Action} (hready : ∀ p, (act p).1.Ready)
    (hact : ∀ p, NoReply (act p).2) : Ends (s.withView surfaceHandle act) Answered := by
  unfold FwrInstance.withView
  cases hp : s.compositor.views.get surfaceHandle with
  | none => exact ends_ok (answered_only h .nullSuccess)
  | some p =>
      refine (Input.view_ends (s := s.input) h.standing hp).bind fun view _ => ?_
      exact ends_ok ⟨hready p, (act p).2, .nullSuccess, rfl, hact p⟩

/-- Without a condition. -/
theorem answersIff_of_ends {handled : Handled} {p : Prop} (hp : p) (h : Ends handled Answered) :
    AnswersIff handled p := .inl ⟨hp, h⟩

theorem withFocus_cases (h : s.Ready) (surfaceHandle : UInt32) {act : Ptr → List Action}
    (hact : ∀ p, NoReply (act p)) :
    AnswersIff (s.withFocus surfaceHandle act)
      (∀ p ∈ s.compositor.views.get surfaceHandle, s.CanFocus p) := by
  unfold FwrInstance.withFocus
  cases hp : s.compositor.views.get surfaceHandle with
  | none => exact answersIff_of_ends (fun p hp => by cases hp) (ends_ok (answered_only h _))
  | some p =>
      obtain ⟨view, hview⟩ := h.standing.view hp
      have hall : (∀ q ∈ some p, s.CanFocus q) ↔ s.CanFocus p := by simp
      rw [AnswersIff, hall]
      rcases FwrInstance.fwrFocusView_cases hview with
        ⟨hcan, s', hrun, hinput, hsocket⟩ | ⟨hcannot, f, hrun⟩
      · refine .inl ⟨hcan, ?_⟩
        dsimp only
        rw [hrun]
        refine ends_ok ⟨⟨?_, ?_⟩, act p, .nullSuccess, rfl, hact p⟩
        · show Standing s'.input.compositor
          rw [hinput]
          exact h.standing
        · rw [hsocket]
          exact h.short
      · refine .inr ⟨hcannot, f, ?_⟩
        dsimp only
        rw [hrun]
        rfl

/-! The handlers of input.c. -/

/-- Windows with the same frames can get the same focus. -/
theorem canFocus_congr {p : Ptr}
    (hframes : s'.compositor.windowFrames.frames = s.compositor.windowFrames.frames)
    (hseat : s'.seat = s.seat) (h : s.CanFocus p) : s'.CanFocus p := by
  have hsame : ∀ {q : Ptr} {view : FwrView}, s'.compositor.viewObjects.get q = some view →
      ∃ view', s.compositor.viewObjects.get q = some view'
        ∧ view'.xdgSurface = view.xdgSurface := by
    intro q view hview
    have hframe := Instance.frame_of_get hview
    rw [hframes] at hframe
    obtain ⟨view', hview', heq⟩ := Instance.view_of_frame hframe
    exact ⟨view', hview', congrArg ViewFrame.xdgSurface heq⟩
  intro view hview
  obtain ⟨view', hview', hsurface⟩ := hsame hview
  rw [hseat, ← hsurface]
  refine (h view' hview').imp_right fun hall q hq => ?_
  obtain ⟨view₁, hview₁⟩ := Store.live_iff.mp (hall q hq)
  have hframe := Instance.frame_of_get hview₁
  rw [← hframes] at hframe
  obtain ⟨view₂, hview₂, -⟩ := Instance.view_of_frame hframe
  exact Store.live_of_get hview₂

/-- The sizes asked for do not matter. -/
theorem foldlM_unfocused {calls : List Call} (hcalls : ∀ p, .focusView p ∉ calls) :
    ∀ s : FwrInstance, ∃ s', calls.foldlM FwrInstance.applyCall s = .ok s' ∧ s'.input = s.input
      ∧ s'.wlSocket = s.wlSocket ∧ s'.seat = s.seat := by
  induction calls with
  | nil =>
      intro s
      exact ⟨s, rfl, rfl, rfl, rfl⟩
  | cons call calls ih =>
      intro s
      have ih := ih fun p hmem => hcalls p (List.mem_cons_of_mem _ hmem)
      cases call with
      | focusView p => exact absurd List.mem_cons_self (hcalls p)
      | setSize p width height => exact ih (s.setToplevel p ((s.toplevels p).setSize width height))
      | _ => exact ih s

/-- The focus among the calls. -/
theorem foldlM_focus {calls : List Call} {p : Ptr} {view : FwrView}
    (hcalls : Input.windowCalls calls = [.focusView p])
    (hp : s.compositor.viewObjects.get p = some view) :
    (s.CanFocus p ∧ ∃ s', calls.foldlM FwrInstance.applyCall s = .ok s' ∧ s'.input = s.input
        ∧ s'.wlSocket = s.wlSocket)
      ∨ (¬ s.CanFocus p ∧ ∃ f, calls.foldlM FwrInstance.applyCall s = .error f) := by
  obtain ⟨before, after, rfl, hbefore, -, hafter⟩ := List.filter_eq_cons_iff.mp hcalls
  have hbefore : ∀ q, .focusView q ∉ before := fun q hmem => hbefore _ hmem rfl
  have hafter : ∀ q, .focusView q ∉ after := by
    intro q hmem
    have hmem' : Call.focusView q ∈ after.filter Call.isWindow := List.mem_filter.mpr ⟨hmem, rfl⟩
    rw [hafter] at hmem'
    cases hmem'
  obtain ⟨s₁, hrun₁, hinput₁, hsocket₁, hseat₁⟩ := foldlM_unfocused hbefore s
  have hframes : s₁.compositor.windowFrames.frames = s.compositor.windowFrames.frames := by
    show s₁.input.compositor.windowFrames.frames = _
    rw [hinput₁]
  have hp₁ : s₁.compositor.viewObjects.get p = some view := by
    show s₁.input.compositor.viewObjects.get p = _
    rw [hinput₁]
    exact hp
  rw [List.foldlM_append, hrun₁]
  rcases FwrInstance.fwrFocusView_cases hp₁ with
    ⟨hcan, s₂, hrun₂, hinput₂, hsocket₂⟩ | ⟨hcannot, f, hrun₂⟩
  · obtain ⟨s₃, hrun₃, hinput₃, hsocket₃, -⟩ := foldlM_unfocused hafter s₂
    refine .inl ⟨canFocus_congr hframes.symm hseat₁.symm hcan, s₃, ?_,
      hinput₃.trans (hinput₂.trans hinput₁), hsocket₃.trans (hsocket₂.trans hsocket₁)⟩
    show (s₁.fwrFocusView p >>= fun s => after.foldlM FwrInstance.applyCall s) = _
    rw [hrun₂]
    exact hrun₃
  · refine .inr ⟨fun h => hcannot (canFocus_congr hframes hseat₁ h), f, ?_⟩
    show (s₁.fwrFocusView p >>= fun s => after.foldlM FwrInstance.applyCall s) = _
    rw [hrun₂]
    rfl

/-- What a handler of input.c does to windows: it gives the focus to its target, if there is one. -/
structure Targets (s : InputInstance) (target : Option Ptr) (result : InputInstance × List Call) :
    Prop where
  outcome : ∃ dragged, Input.Outcome s target dragged result.1 result.2
  focuses : ∀ p ∈ target, .focusView p ∈ result.2

/-- The response is the last action. -/
theorem replied_actions {calls : List Call} {success : Bool} {before : List Call}
    (hcalls : calls = before ++ [.respond success]) (hsilent : Input.Silent before)
    {act : Call → Action}
    (hrespond : ∀ success, ∃ response, act (.respond success) = .respond response)
    (hact : ∀ call response, act call = .respond response → ∃ success, call = .respond success) :
    ∃ actions response, calls.map act = actions ++ [.respond response] ∧ NoReply actions := by
  obtain ⟨response, hresponse⟩ := hrespond success
  refine ⟨before.map act, response, ?_, fun response' hmem => ?_⟩
  · rw [hcalls, List.map_append, List.map_singleton, hresponse]
  · obtain ⟨call, hcall, heq⟩ := List.mem_map.mp hmem
    obtain ⟨success', rfl⟩ := hact call response' heq
    exact hsilent success' hcall

/-- **A handler of input.c** answers once, if its target can get the focus. -/
theorem inputHandler_cases (h : s.Ready) {handled : Input.Handled} {target : Option Ptr}
    (hends : Ends handled Input.Replied)
    (htargets : ∀ result, handled = .ok result → Targets s.input target result)
    (hlive : ∀ p ∈ target, ∃ view, s.compositor.viewObjects.get p = some view) :
    AnswersIff (s.inputHandler handled) (∀ p ∈ target, s.CanFocus p) := by
  obtain ⟨⟨input, calls⟩, rfl, hreplied⟩ := hends
  obtain ⟨hstanding, before, success, hcalls, hsilent⟩ := hreplied
  obtain ⟨⟨dragged, houtcome⟩, hfocuses⟩ := htargets _ rfl
  have hready : ∀ {s' : FwrInstance}, s'.input = input → s'.wlSocket = s.wlSocket →
      s'.Ready := by
    intro s' hinput hsocket
    refine ⟨?_, ?_⟩
    · show Standing s'.input.compositor
      rw [hinput]
      exact hstanding
    · rw [hsocket]
      exact h.short
  have hanswered : ∀ {s' : FwrInstance}, s'.Ready →
      calls.foldlM FwrInstance.applyCall { s with input } = .ok s' →
        Ends (s.inputHandler (.ok (input, calls))) Answered := by
    intro s' hs' hrun
    unfold FwrInstance.inputHandler
    show Ends (calls.foldlM FwrInstance.applyCall { s with input } >>= _) _
    rw [hrun]
    refine ends_ok ⟨hs', replied_actions hcalls hsilent ?_ ?_⟩
    · intro success
      cases success with
      | true => exact ⟨_, rfl⟩
      | false => exact ⟨_, rfl⟩
    · intro call response heq
      cases call with
      | respond success => exact ⟨success, rfl⟩
      | _ => cases heq
  -- without a focus there is no target
  have hnone : (∀ p, .focusView p ∉ calls) → AnswersIff (s.inputHandler (.ok (input, calls)))
      (∀ p ∈ target, s.CanFocus p) := by
    intro hunfocused
    obtain ⟨s', hrun, hinput, hsocket, -⟩ := foldlM_unfocused hunfocused { s with input }
    exact answersIff_of_ends (fun p hp => absurd (hfocuses p hp) (hunfocused p))
      (hanswered (hready hinput hsocket) hrun)
  have hunfocused : ∀ {ws : List Call}, Input.windowCalls calls = ws →
      (∀ p, .focusView p ∉ ws) → ∀ p, .focusView p ∉ calls := by
    intro ws hws hnot p hmem
    refine hnot p ?_
    rw [← hws]
    exact List.mem_filter.mpr ⟨hmem, rfl⟩
  cases houtcome with
  | quiet hframes hcalls => exact hnone (hunfocused hcalls fun p => List.not_mem_nil)
  | drag box hdragged hget hf hframes hcalls => exact hnone (hunfocused hcalls fun p => by simp)
  | @focus p htarget hframes hcalls =>
      obtain ⟨view, hview⟩ := hlive p htarget
      obtain ⟨view', hview', -⟩ := Instance.view_of_frame (s := input.compositor) (by
        show input.frames.frames p = _
        rw [hframes]
        exact Instance.frame_of_get hview)
      have hsame : ∀ q, ({ s with input } : FwrInstance).CanFocus q ↔ s.CanFocus q := fun q =>
        ⟨canFocus_congr (congrArg WindowFrames.frames hframes.symm) rfl,
          canFocus_congr (congrArg WindowFrames.frames hframes) rfl⟩
      have hall : (∀ q ∈ target, s.CanFocus q) ↔ s.CanFocus p := by
        rw [htarget]
        simp
      rw [AnswersIff, hall, ← hsame p]
      rcases foldlM_focus (s := { s with input }) hcalls hview' with
        ⟨hcan, s', hrun, hinput, hsocket⟩ | ⟨hcannot, f, hrun⟩
      · exact .inl ⟨hcan, hanswered (hready hinput hsocket) hrun⟩
      · refine .inr ⟨hcannot, f, ?_⟩
        unfold FwrInstance.inputHandler
        show (calls.foldlM FwrInstance.applyCall { s with input } >>= _) = _
        rw [hrun]
        rfl

theorem beginMove_targets {args : DartValue} {result : InputInstance × List Call}
    (h : s.input.fwrHandleSurfaceBeginMove args = .ok result) :
    Targets s.input (s.input.focusTarget (.beginMove args)) result := by
  refine ⟨⟨none, Input.fwrHandleSurfaceBeginMove_outcome h⟩, fun p hp => ?_⟩
  obtain ⟨surfaceHandle, hdecode, hget⟩ := Option.bind_eq_some_iff.mp hp
  unfold InputInstance.fwrHandleSurfaceBeginMove at h
  rw [hdecode] at h
  dsimp only at h
  rw [hget] at h
  obtain ⟨view, -, h⟩ := except_bind_eq_ok.mp h
  cases h
  exact List.mem_cons_self

theorem beginResize_targets {args : DartValue} {result : InputInstance × List Call}
    (h : s.input.fwrHandleSurfaceBeginResize args = .ok result) :
    Targets s.input (s.input.focusTarget (.beginResize args)) result := by
  refine ⟨⟨none, Input.fwrHandleSurfaceBeginResize_outcome h⟩, fun p hp => ?_⟩
  obtain ⟨message, hdecode, hget⟩ := Option.bind_eq_some_iff.mp hp
  unfold InputInstance.fwrHandleSurfaceBeginResize at h
  rw [hdecode] at h
  dsimp only at h
  rw [hget] at h
  obtain ⟨view, -, h⟩ := except_bind_eq_ok.mp h
  cases h
  exact List.mem_cons_self

theorem surfacePointer_targets {args : DartValue} {surf : SurfaceUnder}
    {result : InputInstance × List Call}
    (h : s.input.fwrHandleSurfacePointerEventMessage c.toTarget args (some surf) = .ok result) :
    Targets s.input (s.input.focusTarget (.surfacePointer args surf)) result := by
  refine ⟨⟨_, Input.fwrHandleSurfacePointerEventMessage_outcome h⟩, fun p hp => ?_⟩
  obtain ⟨message, hdecode, hp⟩ := Option.bind_eq_some_iff.mp hp
  rw [Option.ite_none_right_eq_some] at hp
  obtain ⟨hgrab, hp⟩ := hp
  unfold InputInstance.fwrHandleSurfacePointerEventMessage at h
  rw [hdecode] at h
  dsimp only at h
  cases htype : Input.pointerEventType message.eventType with
  | down | up =>
      rw [htype] at hp
      have hget : s.input.compositor.views.get message.surfaceHandle = some p := hp
      rw [hget] at h
      obtain ⟨view, -, h⟩ := except_bind_eq_ok.mp h
      have hgrab : (s.input.trackCursor message).input.grab.type = .none := hgrab
      rw [if_neg (not_not.mpr hgrab)] at h
      cases h
      refine List.mem_append_left _ ?_
      unfold InputInstance.viewPointerEvent
      rw [htype]
      exact List.mem_cons_of_mem _ List.mem_cons_self
  | _ =>
      rw [htype] at hp
      cases hp

/-- Without a surface there is no focus. -/
theorem unfocused_targets {result : InputInstance × List Call}
    (hcalls : Input.windowCalls result.2 = []) (hframes : result.1.frames = s.input.frames) :
    Targets s.input none result :=
  ⟨⟨none, .quiet hframes hcalls⟩, fun p hp => by cases hp⟩

theorem fwrHandleSurfaceToplevelSetSize_answers (h : s.Ready) (args : DartValue) :
    Ends (s.fwrHandleSurfaceToplevelSetSize args) Answered := by
  unfold FwrInstance.fwrHandleSurfaceToplevelSetSize
  split
  · exact ends_ok (answered_only h .failure)
  · exact withView_answers h _ (fun p => h.setToplevel p _) fun _ => noReply_nil

theorem fwrHandleSurfaceToplevelSetMaximized_answers (h : s.Ready) (args : DartValue) :
    Ends (s.fwrHandleSurfaceToplevelSetMaximized args) Answered := by
  unfold FwrInstance.fwrHandleSurfaceToplevelSetMaximized
  split
  · exact ends_ok (answered_only h .failure)
  · exact withView_answers h _ (fun p => h.setToplevel p _) fun _ => noReply_nil

theorem fwrHandleSurfaceToplevelClose_answers (h : s.Ready) (args : DartValue) :
    Ends (s.fwrHandleSurfaceToplevelClose args) Answered := by
  unfold FwrInstance.fwrHandleSurfaceToplevelClose
  split
  · exact ends_ok (answered_only h .failure)
  · refine withView_answers h _ (fun _ => h) fun p => ?_
    dsimp only
    split
    · exact noReply_single nofun
    · exact noReply_nil

theorem fwrHandleSurfaceFocus_cases (h : s.Ready) (args : DartValue) :
    AnswersIff (s.fwrHandleSurfaceFocus args) (s.Focusable a args .surfaceFocus) := by
  unfold FwrInstance.fwrHandleSurfaceFocus FwrInstance.Focusable FwrInstance.focusTarget
  cases decodeSurfaceToplevelCloseMessage args with
  | none =>
      exact answersIff_of_ends (fun p hp => by cases hp) (ends_ok (answered_only h .failure))
  | some surfaceHandle =>
      exact withFocus_cases h surfaceHandle fun p => noReply_single fun _ heq => by cases heq

theorem fwrHandleSurfaceSetPosition_answers (h : s.Ready) (args : DartValue) :
    Ends (s.fwrHandleSurfaceSetPosition a args) Answered := by
  unfold FwrInstance.fwrHandleSurfaceSetPosition
  split
  · exact ends_ok (answered_only h .failure)
  · refine (h.standing.setPosition_ends _ _ _ _).bind fun compositor hstanding => ?_
    exact ends_ok (answered_only (h.setCompositor hstanding) .nullSuccess)

theorem fwrHandleSurfaceKeyboardKeyMessage_cases (h : s.Ready) (args : DartValue) :
    AnswersIff (s.fwrHandleSurfaceKeyboardKeyMessage args)
      (s.Focusable a args .surfaceKeyboardKey) := by
  unfold FwrInstance.fwrHandleSurfaceKeyboardKeyMessage FwrInstance.Focusable
    FwrInstance.focusTarget
  cases decodeSurfaceKeyboardKeyMessage args with
  | none =>
      exact answersIff_of_ends (fun p hp => by cases hp) (ends_ok (answered_only h .failure))
  | some message =>
      exact withFocus_cases h message.surfaceHandle fun p response hmem => by simp at hmem

theorem fwrHandleSurfaceRequestResize_answers (h : s.Ready) (args : DartValue) :
    Ends (s.fwrHandleSurfaceRequestResize args) Answered := by
  unfold FwrInstance.fwrHandleSurfaceRequestResize
  split
  · exact ends_ok (answered_only h .failure)
  · exact withView_answers h _ (fun p => h.setToplevel p _) fun _ => noReply_nil

theorem fwrHandleSurfaceEndResize_answers (h : s.Ready) (args : DartValue) :
    Ends (s.fwrHandleSurfaceEndResize args) Answered := by
  unfold FwrInstance.fwrHandleSurfaceEndResize
  split
  · exact ends_ok (answered_only h .failure)
  · exact withView_answers h _ (fun p => h.setToplevel p _) fun _ => noReply_nil

/-! ## §3. Outputs. -/

/-- The output of an identifier is in the list, and there. -/
theorem findOutputById_ends (h : s.Ready) (outputId : UInt32) :
    Ends (findOutputById s.compositor outputId) fun found =>
      ∀ p ∈ found, Ends (s.compositor.output p) fun _ => True := by
  refine (h.standing.findOutput_ends _).mono fun found hfound p hp => ?_
  obtain ⟨output, houtput⟩ := Store.live_iff.mp (h.standing.outputs.live p (hfound p hp))
  exact ⟨output, Instance.deref_eq_ok.mpr houtput, trivial⟩

theorem outputCommitState_ends (h : s.Ready) {p : Ptr} (refresh : Option Int) (scale : Rat)
    (hp : Ends (s.compositor.output p) fun _ => True) :
    Ends (s.compositor.outputCommitState p refresh scale) Standing := by
  obtain ⟨output, hread, -⟩ := hp
  have hends : Ends (s.compositor.outputCommitState p refresh scale) fun _ => True := by
    unfold Instance.outputCommitState
    rw [hread]
    exact ends_ok trivial
  obtain ⟨compositor, hrun, -⟩ := hends
  exact ⟨compositor, hrun, h.standing.handle (e := .outputCommitState p refresh scale) hrun⟩

theorem fwrSetVsyncOutput_ends (h : s.Ready) (outputId : UInt32) :
    Ends (s.compositor.fwrSetVsyncOutput outputId) Standing := by
  have hselect := fwrSelectHighestRefreshOutput_eq h.standing.outputs.live
  have hends : Ends (s.compositor.fwrSetVsyncOutput outputId) fun _ => True := by
    unfold Instance.fwrSetVsyncOutput
    rw [hselect]
    split
    · exact ends_ok trivial
    · refine (h.standing.findOutput_ends _).bind fun found _ => ?_
      cases found with
      | none => exact ends_ok trivial
      | some p => exact ends_ok trivial
  obtain ⟨compositor, hrun, -⟩ := hends
  exact ⟨compositor, hrun, h.standing.handle (e := .setVsyncOutput outputId) hrun⟩

theorem fwrSetOutputMode_ends (h : s.Ready) (outputId : UInt32) (width height refresh : Int) :
    Ends (s.fwrSetOutputMode a outputId width height refresh) fun result => result.1.Ready := by
  unfold FwrInstance.fwrSetOutputMode
  refine (findOutputById_ends h outputId).bind fun found hfound => ?_
  cases found with
  | none => exact ends_ok h
  | some p =>
      dsimp only
      split
      · exact ends_ok h
      next mode =>
        split
        · refine (hfound p rfl).bind fun output _ => ?_
          refine (outputCommitState_ends h _ _ (hfound p rfl)).bind fun compositor hstanding => ?_
          exact ends_ok ⟨hstanding, h.short⟩
        · exact ends_ok h

theorem fwrSetOutputPosition_ends (h : s.Ready) (outputId : UInt32) (x y : Int) :
    Ends (s.fwrSetOutputPosition outputId x y) fun result => result.1.Ready := by
  unfold FwrInstance.fwrSetOutputPosition
  refine (findOutputById_ends h outputId).bind fun found _ => ?_
  cases found with
  | none => exact ends_ok h
  | some p => exact ends_ok ⟨h.standing, h.short⟩

theorem fwrSetOutputScale_ends (h : s.Ready) (outputId : UInt32) (scale : Rat) :
    Ends (s.fwrSetOutputScale a outputId scale) fun result => result.1.Ready := by
  unfold FwrInstance.fwrSetOutputScale
  refine (findOutputById_ends h outputId).bind fun found hfound => ?_
  cases found with
  | none => exact ends_ok h
  | some p =>
      dsimp only
      split
      · refine (hfound p rfl).bind fun output _ => ?_
        refine (outputCommitState_ends h _ _ (hfound p rfl)).bind fun compositor hstanding => ?_
        exact ends_ok (h.setCompositor hstanding)
      · exact ends_ok h

/-! The methods with a list of arguments. -/

theorem setVsyncOutput_ends (h : s.Ready) (args : DartValue) :
    Ends (s.setVsyncOutput args) FwrInstance.Ready := by
  unfold FwrInstance.setVsyncOutput
  split
  · exact ends_ok h
  · refine (fwrSetVsyncOutput_ends h _).bind fun compositor hstanding => ?_
    exact ends_ok (h.setCompositor hstanding)

theorem setOutputMode_ends (h : s.Ready) (args : DartValue) :
    Ends (s.setOutputMode a args) fun result => result.1.Ready := by
  unfold FwrInstance.setOutputMode
  split
  · exact ends_ok h
  · exact fwrSetOutputMode_ends h _ _ _ _

theorem setOutputPosition_ends (h : s.Ready) (args : DartValue) :
    Ends (s.setOutputPosition args) fun result => result.1.Ready := by
  unfold FwrInstance.setOutputPosition
  split
  · exact ends_ok h
  · exact fwrSetOutputPosition_ends h _ _ _

theorem setOutputScale_ends (h : s.Ready) (args : DartValue) :
    Ends (s.setOutputScale c a args) fun result => result.1.Ready := by
  unfold FwrInstance.setOutputScale
  split
  · exact ends_ok h
  · exact fwrSetOutputScale_ends h _ _

/-! ## §4. Methods. -/

/-- The methods that change an output answer with a success or with an error. -/
theorem respondTo_answers (hb : base % 8 = 0) {errorMsg : String}
    (hmsg : (CString.ofLiteral errorMsg).strlen < 2 ^ 20)
    {result : Except Fault (FwrInstance × Bool)}
    (hends : Ends result fun result => result.1.Ready) :
    Ends (do
      let result ← result
      return FwrInstance.respondTo base errorMsg result) Answered := by
  refine hends.bind fun result hready => ends_ok ?_
  unfold FwrInstance.respondTo platchRespondErrorStd
  have herror : (CString.ofLiteral "error").strlen = 5 := by decide
  rw [platchRespond_failure hb _ _ (by omega)]
  split
  · exact answered_only hready _
  · exact answered_only hready _

/-- The paths of the sockets. -/
theorem platchRespond_socketPaths (h : s.Ready) (hb : base % 8 = 0) :
    platchRespond base s.socketPaths = [.respond (.std s.socketPaths)] := by
  refine platchRespond_eq hb rfl ?_ ?_
  · intro v hv
    rw [List.mem_singleton.mp hv]
    rfl
  · have hshort := h.short
    have hkeys : (CString.ofLiteral "wayland").strlen = 7 ∧ (CString.ofLiteral "x").strlen = 1
        ∧ (CString.ofLiteral "").strlen = 0 := by decide
    have hprefix := length_sizePrefix_le 2
    have hentries := length_wireEntries_strings_le
      [(.ofLiteral "wayland", s.wlSocket), (.ofLiteral "x", .ofLiteral "")]
        (1 + (header 13 2).length)
    simp only [List.map_cons, List.map_nil, List.sum_cons, List.sum_nil] at hentries
    rw [PlatchObj.format, List.length_append, length_fixed, List.length_singleton,
      length_wireList_cons, wireList, List.length_nil, wire, List.length_append, length_fixed]
    refine Nat.lt_of_le_of_lt (Nat.add_le_add_left (Nat.add_le_add_right
      (Nat.add_le_add_left hentries _) 0) 1) ?_
    rw [length_header]
    show 1 + (1 + (sizePrefix 2).length + _ + 0) < 2 ^ 31
    omega

/-- The methods of input.c. -/
theorem beginMove_cases (h : s.Ready) (args : DartValue) :
    AnswersIff (s.inputHandler (s.input.fwrHandleSurfaceBeginMove args))
      (s.Focusable a args .surfaceBeginMove) := by
  refine inputHandler_cases h (Input.fwrHandleSurfaceBeginMove_replies h.standing args)
    (fun _ => beginMove_targets) fun p hp => ?_
  obtain ⟨surfaceHandle, -, hget⟩ := Option.bind_eq_some_iff.mp hp
  exact h.standing.view hget

theorem beginResize_cases (h : s.Ready) (args : DartValue) :
    AnswersIff (s.inputHandler (s.input.fwrHandleSurfaceBeginResize args))
      (s.Focusable a args .surfaceBeginResize) := by
  refine inputHandler_cases h (Input.fwrHandleSurfaceBeginResize_replies h.standing args)
    (fun _ => beginResize_targets) fun p hp => ?_
  obtain ⟨message, -, hget⟩ := Option.bind_eq_some_iff.mp hp
  exact h.standing.view hget

theorem surfacePointer_cases (h : s.Ready) (args : DartValue) :
    AnswersIff
      (s.inputHandler (s.input.fwrHandleSurfacePointerEventMessage c.toTarget args a.surf))
      (s.Focusable a args .surfacePointerEvent) := by
  have hends := Input.fwrHandleSurfacePointerEventMessage_replies (c := c.toTarget) h.standing
    args a.surf
  unfold FwrInstance.Focusable FwrInstance.focusTarget
  cases hsurf : a.surf with
  | none =>
      rw [hsurf] at hends
      refine inputHandler_cases h hends (fun result hrun => ?_) fun p hp => by cases hp
      unfold InputInstance.fwrHandleSurfacePointerEventMessage at hrun
      split at hrun
      next =>
        cases hrun
        exact unfocused_targets rfl rfl
      next message _ =>
        split at hrun
        next =>
          cases hrun
          exact unfocused_targets rfl rfl
        next p _ =>
          obtain ⟨view, -, hrun⟩ := except_bind_eq_ok.mp hrun
          cases hrun
          exact unfocused_targets rfl rfl
  | some surf =>
      rw [hsurf] at hends
      refine inputHandler_cases h hends (fun _ => surfacePointer_targets) fun p hp => ?_
      have hp : s.input.focusTarget (.surfacePointer args surf) = some p := hp
      obtain ⟨message, -, hp⟩ := Option.bind_eq_some_iff.mp hp
      rw [Option.ite_none_right_eq_some] at hp
      obtain ⟨-, hp⟩ := hp
      cases htype : Input.pointerEventType message.eventType with
      | down | up =>
          rw [htype] at hp
          exact h.standing.view hp
      | _ =>
          rw [htype] at hp
          cases hp

/-- A message for a popup does not move the focus. -/
theorem popupPointer_answers (h : s.Ready) (args : DartValue) :
    Ends (s.inputHandler (s.input.fwrHandlePopupPointerEventMessage args a.surf)) Answered := by
  have hends := Input.fwrHandlePopupPointerEventMessage_replies h.standing args a.surf
  have htargets : ∀ result, s.input.fwrHandlePopupPointerEventMessage args a.surf = .ok result →
      Targets s.input none result := by
    intro result hrun
    cases hsurf : a.surf with
    | some surf =>
        rw [hsurf] at hrun
        exact ⟨⟨none, Input.fwrHandlePopupPointerEventMessage_quiet hrun⟩,
          fun p hp => by cases hp⟩
    | none =>
        rw [hsurf] at hrun
        unfold InputInstance.fwrHandlePopupPointerEventMessage at hrun
        split at hrun
        next =>
          cases hrun
          exact unfocused_targets rfl rfl
        next message _ =>
          split at hrun
          next =>
            cases hrun
            exact unfocused_targets rfl rfl
          next p _ =>
            obtain ⟨popup, -, hrun⟩ := except_bind_eq_ok.mp hrun
            cases hrun
            exact unfocused_targets rfl rfl
  rcases inputHandler_cases h hends htargets (fun p hp => by cases hp) with ⟨-, hends⟩ | ⟨hnot, -⟩
  · exact hends
  · exact absurd (fun p hp => by cases hp) hnot

/-- **Every method answers once**, and leaves the instance ready for the next one, unless a window
    is to get the focus that cannot. -/
theorem handleMethod_cases (h : s.Ready) (hb : base % 8 = 0) (args : DartValue) (m : Method) :
    AnswersIff (s.handleMethod c a base args m) (s.Focusable a args m) := by
  have hother : ∀ {m : Method}, (∀ args, s.focusTarget a args m = none) →
      Ends (s.handleMethod c a base args m) Answered →
        AnswersIff (s.handleMethod c a base args m) (s.Focusable a args m) := by
    intro m hnone hends
    refine answersIff_of_ends (fun p hp => ?_) hends
    rw [hnone] at hp
    cases hp
  cases m with
  -- the focus
  | surfaceFocus => exact fwrHandleSurfaceFocus_cases h args
  | surfaceKeyboardKey => exact fwrHandleSurfaceKeyboardKeyMessage_cases h args
  | surfaceBeginMove => exact beginMove_cases h args
  | surfaceBeginResize => exact beginResize_cases h args
  | surfacePointerEvent => exact surfacePointer_cases h args
  -- the other windows
  | surfaceToplevelSetSize =>
      exact hother (fun _ => rfl) (fwrHandleSurfaceToplevelSetSize_answers h args)
  | surfaceToplevelSetMaximized =>
      exact hother (fun _ => rfl) (fwrHandleSurfaceToplevelSetMaximized_answers h args)
  | surfaceToplevelClose =>
      exact hother (fun _ => rfl) (fwrHandleSurfaceToplevelClose_answers h args)
  | surfaceSetPosition => exact hother (fun _ => rfl) (fwrHandleSurfaceSetPosition_answers h args)
  | surfaceRequestResize =>
      exact hother (fun _ => rfl) (fwrHandleSurfaceRequestResize_answers h args)
  | surfaceEndResize => exact hother (fun _ => rfl) (fwrHandleSurfaceEndResize_answers h args)
  | popupPointerEvent => exact hother (fun _ => rfl) (popupPointer_answers h args)
  -- a fixed message
  | isCompositor | setPrimaryOutput =>
      exact hother (fun _ => rfl) (ends_ok (answered_only h .nullSuccess))
  | surfaceClearFocus =>
      refine hother (fun _ => rfl) (ends_ok ⟨⟨h.standing, h.short⟩,
        [.input .clearFocus, .clearKeyboardFocus], .nullSuccess, rfl, ?_⟩)
      intro response hmem
      simp at hmem
  | compositorReady =>
      refine hother (fun _ => rfl)
        (ends_ok ⟨h, [.sendAllOutputs s.compositor.outputs], .nullSuccess, rfl, ?_⟩)
      exact noReply_single fun _ heq => by cases heq
  | setDirectInputMode =>
      refine hother (fun _ => rfl) (ends_ok (answered_only ?_ .nullSuccess))
      unfold FwrInstance.setDirectInputMode
      split
      · exact h
      · exact ⟨h.standing, h.short⟩
  | setVsyncRateLimit =>
      refine hother (fun _ => rfl) (ends_ok (answered_only ?_ .nullSuccess))
      unfold FwrInstance.setVsyncRateLimit
      split
      · exact h
      · exact ⟨h.standing, h.short⟩
  | setVsyncOutput =>
      exact hother (fun _ => rfl)
        ((setVsyncOutput_ends h args).bind fun s' h' => ends_ok (answered_only h' .nullSuccess))
  -- `platch_respond`
  | getSocketPaths =>
      refine hother (fun _ => rfl) (ends_ok ?_)
      rw [platchRespond_socketPaths h hb]
      exact answered_only h _
  | setOutputMode =>
      exact hother (fun _ => rfl) (respondTo_answers hb (by decide) (setOutputMode_ends h args))
  | setOutputPosition =>
      exact hother (fun _ => rfl)
        (respondTo_answers hb (by decide) (setOutputPosition_ends h args))
  | setOutputScale =>
      exact hother (fun _ => rfl) (respondTo_answers hb (by decide) (setOutputScale_ends h args))

end Handlers

end FlutterWlroots.Platform
