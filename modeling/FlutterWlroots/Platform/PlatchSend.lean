/-
  FlutterWlroots.Platform.PlatchSend — messages with a response callback in platform_channel.c.

  `platch_send` allocates a `platch_msg_resp_handler_data` for the callback and gives it to the
  engine with the response handle; `platch_on_response_internal` gets it back with the response,
  calls the callback and frees it.  A callback may itself send.  When the handler data cannot be
  allocated or the handle cannot be created, the encoded message stays allocated; when the response
  cannot be decoded or the callback fails, the handler data does.  When the handle of a message that
  is out cannot be released, its handler data is freed, although the response is still to come.

    • `platchSend_spec`        — what one call does,
    • `inv_step`               — the handler data the engine holds is allocated, and counted,
    • `handler_data_accounted` — every run: nothing freed is touched, what is live is what waits,
                                 runs or leaked, and a callback is answered once, with its own data.
-/
import FlutterWlroots.Codec.JsonBlocks
import FlutterWlroots.Lib.Watch

namespace FlutterWlroots.Platform.PlatchSend

open Lib Lib.Ledger FlutterWlroots.PlatformChannel

/-! ## §1. Sending and its answers. -/

/-- `struct platch_msg_resp_handler_data`; functions and user data are addresses. -/
structure PlatchMsgRespHandlerData where
  codec : PlatchCodec
  on_response : Nat
  userdata : Nat
  deriving DecidableEq, Repr

/-- What `platch_encode` leaves in `*buffer_out`. -/
inductive Encoded where
  | error (ok : Int)
  /-- The message of a `kNotImplemented` object. -/
  | null
  /-- The data of a `kBinaryCodec` object, which is not copied. -/
  | borrowed
  | allocated
  deriving DecidableEq, Repr

/-- A call of `platch_send`, with what it gets from `platch_encode`, `malloc` and the engine
    (`kSuccess` is 0). -/
structure SendCall where
  encoded : Encoded
  response_codec : PlatchCodec
  on_response : Option Nat
  userdata : Nat
  mallocs : Bool
  createResult : Int
  sendResult : Int
  releaseResult : Int
  deriving DecidableEq, Repr

/-- The heap, as far as `platch_send` uses it, and where the handler data is. -/
structure SendState where
  live : Finset Nat
  /-- The handler data in a block. -/
  handlers : Nat → Option PlatchMsgRespHandlerData
  /-- The user data of the responses the engine has not given yet. -/
  pending : List Nat
  /-- The handler data of the callbacks that are running, the last one called first. -/
  running : List Nat

def ENOMEM : Int := 12
def EIO : Int := 5

/-- `free(buffer)`, unless the buffer is NULL or not copied. -/
def freeBuffer : Option Nat → Finset Nat → Option (Finset Nat)
  | none, live => some live
  | some buffer, live => free buffer live

/-- `platch_send` behind `platch_encode`; no result if a block is freed that is not live. -/
def sendEncoded (a : Allocator) (s : SendState) (call : SendCall) (buffer : Option Nat) :
    Option (Int × SendState) :=
  match call.on_response with
  | none => do
      let live ← freeBuffer buffer s.live
      return (call.sendResult, { s with live })
  | some on_response =>
      if !call.mallocs then some (ENOMEM, s)
      else
        let handlerdata := a.next s.live
        let data := ⟨call.response_codec, on_response, call.userdata⟩
        let s := { s with live := insert handlerdata s.live
                          handlers := Function.update s.handlers handlerdata (some data) }
        if call.createResult ≠ 0 then do
          -- `fail_free_handlerdata`, with the `ok` of `platch_encode`
          let live ← free handlerdata s.live
          return (0, { s with live })
        else if call.sendResult ≠ 0 then do
          let live ← freeBuffer buffer s.live
          let live ← free handlerdata live
          return (call.sendResult, { s with live })
        else
          let s := { s with pending := handlerdata :: s.pending }
          if call.releaseResult ≠ 0 then do
            -- the message is out, and its handler data freed
            let live ← freeBuffer buffer s.live
            let live ← free handlerdata live
            return ( EIO, { s with live })
          else do
            let live ← freeBuffer buffer s.live
            return (0, { s with live })

/-- `platch_send`. -/
def platchSend (a : Allocator) (s : SendState) (call : SendCall) : Option (Int × SendState) :=
  match call.encoded with
  | .error ok => some (ok, s)
  | .null | .borrowed => sendEncoded a s call none
  | .allocated =>
      let buffer := a.next s.live
      sendEncoded a { s with live := insert buffer s.live } call (some buffer)

inductive SendEvent where
  | send (call : SendCall)
  /-- The engine calls `platch_on_response_internal`; `ok` is what `platch_decode` returns. -/
  | response (handlerdata : Nat) (ok : Int)
  /-- The callback called last returns. -/
  | returns (ok : Int)
  deriving DecidableEq, Repr

/-- `platch_on_response_internal` up to the call of the callback, which reads the handler data. -/
def onResponse (s : SendState) (handlerdata : Nat) (ok : Int) : Option SendState :=
  if handlerdata ∈ s.live then
    let s := { s with pending := s.pending.erase handlerdata }
    if ok ≠ 0 then some s else some { s with running := handlerdata :: s.running }
  else none

/-- The rest of it. -/
def callbackReturns (s : SendState) (ok : Int) : Option SendState :=
  match s.running with
  | [] => none
  | handlerdata :: running =>
      if ok ≠ 0 then some { s with running }
      else do
        let live ← free handlerdata s.live
        return { s with live, running }

def SendState.step (a : Allocator) (s : SendState) : SendEvent → Option SendState
  | .send call => (platchSend a s call).map Prod.snd
  | .response handlerdata ok => onResponse s handlerdata ok
  | .returns ok => callbackReturns s ok

def sending (a : Allocator) : Machine SendState SendEvent where
  init := ⟨∅, fun _ => none, [], []⟩
  step := SendState.step a

/-! ## §2. What is noted of a run. -/

/-- The handler data of an encoded message that goes out. -/
def SendCall.handlerData (call : SendCall) : Option PlatchMsgRespHandlerData :=
  match call.on_response with
  | none => none
  | some on_response =>
      if call.mallocs && call.createResult == 0 && call.sendResult == 0 then
        some ⟨call.response_codec, on_response, call.userdata⟩
      else none

/-- The message is out, and its callback waits for the response. -/
def SendCall.accepted (call : SendCall) : Option PlatchMsgRespHandlerData :=
  match call.encoded with
  | .error _ => none
  | _ => call.handlerData

/-- The engine answers messages it has not answered, and releases the handles of the messages that
    it has sent. -/
def EngineKeeps (s : SendState) : SendEvent → Prop
  | .send call => call.accepted.isSome → call.releaseResult = 0
  | .response handlerdata _ => handlerdata ∈ s.pending
  | .returns _ => s.running ≠ []

instance (s : SendState) : DecidablePred (EngineKeeps s) := fun e =>
  match e with
  | .send call => inferInstanceAs (Decidable (call.accepted.isSome → call.releaseResult = 0))
  | .response handlerdata _ => inferInstanceAs (Decidable (handlerdata ∈ s.pending))
  | .returns _ => inferInstanceAs (Decidable (s.running ≠ []))

/-- There is no handler data, or no handle for it. -/
def SendCall.aborts (call : SendCall) : Bool :=
  call.on_response.isSome && (!call.mallocs || call.createResult != 0)

/-- The encoded message is not freed. -/
def SendCall.leaks (call : SendCall) : Nat :=
  if call.encoded = .allocated ∧ call.aborts then 1 else 0

structure SendNote where
  /-- The handler data of the messages that went out. -/
  accepted : List PlatchMsgRespHandlerData
  /-- The handler data that was read for a response. -/
  answered : List PlatchMsgRespHandlerData
  leaked : Nat
  deriving DecidableEq, Repr

def noteSend (s : SendState) : SendEvent → SendNote → SendNote
  | .send call, n =>
      { n with accepted := call.accepted.toList ++ n.accepted, leaked := n.leaked + call.leaks }
  | .response handlerdata ok, n =>
      { n with answered := (s.handlers handlerdata).toList ++ n.answered
               leaked := if ok ≠ 0 then n.leaked + 1 else n.leaked }
  | .returns ok, n => if ok ≠ 0 then { n with leaked := n.leaked + 1 } else n

/-! ## §3. One call. -/

theorem free_insert {p : Nat} {live : Finset Nat} (h : p ∉ live) :
    free p (insert p live) = some live := by
  rw [free, if_pos (Finset.mem_insert_self p live), Finset.erase_insert h]

section Call

variable {a : Allocator} {s s' : SendState} {call : SendCall}

/-- What a call leaves of what was there. -/
structure Frame (s s' : SendState) : Prop where
  live : s.live ⊆ s'.live
  handlers : ∀ p ∈ s.live, s'.handlers p = s.handlers p
  running : s'.running = s.running

/-- What waits for a response behind a call. -/
def Queued (s s' : SendState) : Option PlatchMsgRespHandlerData → Prop
  | none => s'.pending = s.pending
  | some data => ∃ p ∉ s.live, p ∈ s'.live ∧ s'.handlers p = some data
      ∧ s'.pending = p :: s.pending

/-- What a call does: the handler data of a message that went out, and blocks that leak. -/
structure Sent (s s' : SendState) (accepted : Option PlatchMsgRespHandlerData) (leaks : Nat) :
    Prop extends Frame s s' where
  card : s'.live.card = s.live.card + accepted.toList.length + leaks
  queued : Queued s s' accepted

/-- With the encoded message. -/
def withBuffer : Option Nat → Finset Nat → Finset Nat
  | none, live => live
  | some buffer, live => insert buffer live

theorem freeBuffer_withBuffer {buffer : Option Nat} {live : Finset Nat}
    (h : ∀ b, buffer = some b → b ∉ live) :
    freeBuffer buffer (withBuffer buffer live) = some live := by
  cases buffer with
  | none => rfl
  | some b => exact free_insert (h b rfl)

theorem freeBuffer_insert {buffer : Option Nat} {live : Finset Nat} {p : Nat}
    (h : ∀ b, buffer = some b → b ∉ live) (hp : p ∉ withBuffer buffer live) :
    freeBuffer buffer (insert p (withBuffer buffer live)) = some (insert p live) := by
  cases buffer with
  | none => rfl
  | some b =>
      have hne : b ∉ insert p live := by
        intro hb
        rcases Finset.mem_insert.mp hb with rfl | hb
        · exact hp (Finset.mem_insert_self _ _)
        · exact h b rfl hb
      show free b (insert p (insert b live)) = _
      rw [Finset.insert_comm]
      exact free_insert hne

theorem subset_withBuffer (buffer : Option Nat) (live : Finset Nat) :
    live ⊆ withBuffer buffer live := by
  cases buffer with
  | none => exact Finset.Subset.refl live
  | some b => exact Finset.subset_insert b live

theorem card_withBuffer {buffer : Option Nat} {live : Finset Nat}
    (h : ∀ b, buffer = some b → b ∉ live) :
    (withBuffer buffer live).card = live.card + if buffer.isSome then 1 else 0 := by
  cases buffer with
  | none => rfl
  | some b => exact Finset.card_insert_of_notMem (h b rfl)

/-- What a call does behind `platch_encode`. -/
theorem sendEncoded_spec {buffer : Option Nat} (hfresh : ∀ b, buffer = some b → b ∉ s.live)
    (hrelease : call.handlerData.isSome → call.releaseResult = 0) :
    ∃ ok s', sendEncoded a { s with live := withBuffer buffer s.live } call buffer = some (ok, s')
      ∧ Sent s s' call.handlerData (if buffer.isSome ∧ call.aborts then 1 else 0) := by
  have hp : a.next (withBuffer buffer s.live) ∉ withBuffer buffer s.live := a.fresh _
  have hsub := subset_withBuffer buffer s.live
  have hnew : a.next (withBuffer buffer s.live) ∉ s.live := fun h => hp (hsub h)
  have hkept : ∀ data, ∀ q ∈ s.live, Function.update s.handlers
      (a.next (withBuffer buffer s.live)) data q = s.handlers q := by
    intro data q hq
    exact Function.update_of_ne (ne_of_mem_of_not_mem hq hnew) _ _
  unfold SendCall.handlerData at hrelease
  unfold sendEncoded SendCall.handlerData SendCall.aborts
  cases hresponse : call.on_response with
  | none =>
      rw [freeBuffer_withBuffer hfresh]
      exact ⟨_, _, rfl, ⟨Finset.Subset.refl _, fun _ _ => rfl, rfl⟩, by simp, rfl⟩
  | some on_response =>
      rw [hresponse] at hrelease
      dsimp only at hrelease ⊢
      by_cases hmalloc : call.mallocs
      · rw [if_neg (by simp [hmalloc])]
        by_cases hcreate : call.createResult = 0
        · rw [if_neg (by simp [hcreate])]
          by_cases hsend : call.sendResult = 0
          · -- the message goes out
            have hrelease : call.releaseResult = 0 := hrelease (by simp [hmalloc, hcreate, hsend])
            rw [if_neg (by simp [hsend]), if_neg (by simp [hrelease]), freeBuffer_insert hfresh hp]
            refine ⟨_, _, rfl, ⟨Finset.subset_insert _ _, hkept _, rfl⟩, ?_, ?_⟩
            · simp [hmalloc, hcreate, hsend, Finset.card_insert_of_notMem hnew]
            · rw [if_pos (by simp [hmalloc, hcreate, hsend])]
              exact ⟨_, hnew, Finset.mem_insert_self _ _, Function.update_self _ _ _, rfl⟩
          · rw [if_pos hsend, freeBuffer_insert hfresh hp]
            dsimp only [bind, Option.bind]
            rw [free_insert hnew]
            refine ⟨_, _, rfl, ⟨Finset.Subset.refl _, hkept _, rfl⟩, ?_, ?_⟩ <;>
              simp [hmalloc, hcreate, hsend, Queued]
        · rw [if_pos hcreate, free_insert hp]
          refine ⟨_, _, rfl, ⟨hsub, hkept _, rfl⟩, ?_, ?_⟩ <;>
            simp [hcreate, card_withBuffer hfresh, Queued]
      · rw [if_pos (by simp [hmalloc])]
        refine ⟨_, _, rfl, ⟨hsub, fun _ _ => rfl, rfl⟩, ?_, ?_⟩ <;>
          simp [hmalloc, card_withBuffer hfresh, Queued]

/-- **What a call does.** -/
theorem platchSend_spec (hrelease : call.accepted.isSome → call.releaseResult = 0) :
    ∃ ok s', platchSend a s call = some (ok, s') ∧ Sent s s' call.accepted call.leaks := by
  unfold SendCall.accepted at hrelease
  unfold platchSend SendCall.accepted SendCall.leaks
  cases hencoded : call.encoded with
  | error ok => exact ⟨ok, s, rfl, ⟨Finset.Subset.refl _, fun _ _ => rfl, rfl⟩, by simp, rfl⟩
  | null | borrowed =>
      rw [hencoded] at hrelease
      have hnone : ∀ b, (none : Option Nat) = some b → b ∉ s.live := nofun
      simpa [withBuffer] using sendEncoded_spec (a := a) hnone hrelease
  | allocated =>
      rw [hencoded] at hrelease
      have hfresh : ∀ b, some (a.next s.live) = some b → b ∉ s.live := by
        intro b hb
        rw [← Option.some.inj hb]
        exact a.fresh s.live
      simpa [withBuffer] using sendEncoded_spec (a := a) hfresh hrelease

/-- A handle that is not released: the message is out, and its handler data is freed. -/
theorem sendEncoded_unreleased {buffer : Option Nat}
    (hfresh : ∀ b, buffer = some b → b ∉ s.live) (hout : call.handlerData.isSome)
    (hrelease : call.releaseResult ≠ 0) :
    ∃ s' p, sendEncoded a { s with live := withBuffer buffer s.live } call buffer
        = some ( EIO, s') ∧ p ∈ s'.pending ∧ p ∉ s'.live := by
  have hp : a.next (withBuffer buffer s.live) ∉ withBuffer buffer s.live := a.fresh _
  have hnew : a.next (withBuffer buffer s.live) ∉ s.live :=
    fun h => hp (subset_withBuffer buffer s.live h)
  unfold SendCall.handlerData at hout
  unfold sendEncoded
  cases hresponse : call.on_response with
  | none =>
      rw [hresponse] at hout
      cases hout
  | some on_response =>
      rw [hresponse] at hout
      have hsteps : (call.mallocs && call.createResult == 0 && call.sendResult == 0) = true := by
        by_contra hno
        dsimp only at hout
        rw [if_neg hno] at hout
        cases hout
      simp only [Bool.and_eq_true, beq_iff_eq] at hsteps
      dsimp only
      rw [if_neg (by simp [hsteps.1.1]), if_neg (by simp [hsteps.1.2]), if_neg (by simp [hsteps.2]),
        if_pos hrelease, freeBuffer_insert hfresh hp]
      dsimp only [bind, Option.bind]
      rw [free_insert hnew]
      exact ⟨_, _, rfl, List.mem_cons_self, hnew⟩

theorem platchSend_unreleased (hout : call.accepted.isSome) (hrelease : call.releaseResult ≠ 0) :
    ∃ s' p, platchSend a s call = some ( EIO, s') ∧ p ∈ s'.pending ∧ p ∉ s'.live := by
  unfold SendCall.accepted at hout
  unfold platchSend
  cases hencoded : call.encoded with
  | error ok =>
      rw [hencoded] at hout
      cases hout
  | null | borrowed =>
      rw [hencoded] at hout
      have hnone : ∀ b, (none : Option Nat) = some b → b ∉ s.live := nofun
      simpa [withBuffer] using sendEncoded_unreleased (a := a) hnone hout hrelease
  | allocated =>
      rw [hencoded] at hout
      have hfresh : ∀ b, some (a.next s.live) = some b → b ∉ s.live := by
        intro b hb
        rw [← Option.some.inj hb]
        exact a.fresh s.live
      simpa [withBuffer] using sendEncoded_unreleased (a := a) hfresh hout hrelease

end Call

/-! ## §4. Runs. -/

variable {a : Allocator}

/-- The blocks of the handler data that waits or runs. -/
def SendState.held (s : SendState) : List Nat := s.pending ++ s.running

/-- The handler data behind the responses to come. -/
def SendState.waiting (s : SendState) : List PlatchMsgRespHandlerData :=
  s.pending.filterMap s.handlers

/-- The handler data that is held is allocated and written, once each; nothing else is live but
    what leaked; what is accepted is answered or waits. -/
structure Inv (w : Watched SendState SendNote) : Prop where
  nodup : w.state.held.Nodup
  live : ∀ p ∈ w.state.held, p ∈ w.state.live
  written : ∀ p ∈ w.state.pending, (w.state.handlers p).isSome
  card : w.state.live.card = w.state.held.length + w.note.leaked
  accounted : w.note.accepted.Perm (w.note.answered ++ w.state.waiting)

abbrev watched (a : Allocator) : Machine (Watched SendState SendNote) SendEvent :=
  (sending a).watch ⟨[], [], 0⟩ noteSend

theorem inv_init : Inv (watched a).init :=
  ⟨List.nodup_nil, nofun, nofun, rfl, List.Perm.refl _⟩

theorem Inv.pending_live {w : Watched SendState SendNote} (hi : Inv w) :
    ∀ p ∈ w.state.pending, p ∈ w.state.live :=
  fun p hp => hi.live p (List.mem_append_left _ hp)

/-- A call leaves the handler data that waits. -/
theorem Frame.waiting {s s' : SendState} (hf : Frame s s') (hlive : ∀ p ∈ s.pending, p ∈ s.live) :
    s.pending.filterMap s'.handlers = s.waiting := by
  refine List.filterMap_congr ?_
  intro p hp
  exact hf.handlers p (hlive p hp)

theorem inv_sent {w : Watched SendState SendNote} {s' : SendState} {call : SendCall} (hi : Inv w)
    (hsent : Sent w.state s' call.accepted call.leaks) :
    Inv ⟨s', noteSend w.state (.send call) w.note⟩ := by
  have hcard := hsent.card
  have hold := hi.card
  have hwaiting := hsent.waiting hi.pending_live
  have hqueued := hsent.queued
  cases hdata : call.accepted with
  | none =>
      rw [hdata] at hqueued hcard
      have hheld : s'.held = w.state.held := by
        rw [SendState.held, SendState.held, hqueued, hsent.running]
      constructor
      · show s'.held.Nodup
        rw [hheld]
        exact hi.nodup
      · show ∀ p ∈ s'.held, p ∈ s'.live
        rw [hheld]
        intro p hp
        exact hsent.live (hi.live p hp)
      · show ∀ p ∈ s'.pending, (s'.handlers p).isSome
        rw [hqueued]
        intro p hp
        rw [hsent.handlers p (hi.pending_live p hp)]
        exact hi.written p hp
      · show s'.live.card = s'.held.length + (w.note.leaked + call.leaks)
        rw [hheld]
        simp only [Option.toList_none, List.length_nil] at hcard
        omega
      · show (call.accepted.toList ++ w.note.accepted).Perm (w.note.answered ++ s'.waiting)
        rw [hdata, SendState.waiting, hqueued, hwaiting]
        exact hi.accounted
  | some data =>
      rw [hdata] at hqueued hcard
      obtain ⟨p, hnew, hplive, hwritten, hpending⟩ := hqueued
      have hheld : s'.held = p :: w.state.held := by
        rw [SendState.held, SendState.held, hpending, hsent.running, List.cons_append]
      constructor
      · show s'.held.Nodup
        rw [hheld]
        exact List.nodup_cons.mpr ⟨fun hp => hnew (hi.live p hp), hi.nodup⟩
      · show ∀ q ∈ s'.held, q ∈ s'.live
        rw [hheld]
        exact List.forall_mem_cons.mpr ⟨hplive, fun q hq => hsent.live (hi.live q hq)⟩
      · show ∀ q ∈ s'.pending, (s'.handlers q).isSome
        rw [hpending]
        refine List.forall_mem_cons.mpr ⟨by rw [hwritten]; rfl, fun q hq => ?_⟩
        rw [hsent.handlers q (hi.pending_live q hq)]
        exact hi.written q hq
      · show s'.live.card = s'.held.length + (w.note.leaked + call.leaks)
        rw [hheld, List.length_cons]
        simp only [Option.toList_some, List.length_singleton] at hcard
        omega
      · show (call.accepted.toList ++ w.note.accepted).Perm (w.note.answered ++ s'.waiting)
        rw [hdata, SendState.waiting, hpending, List.filterMap_cons_some hwritten, hwaiting]
        exact (hi.accounted.cons data).trans List.perm_middle.symm

theorem inv_send {w w' : Watched SendState SendNote} {call : SendCall} (hi : Inv w)
    (hrelease : call.accepted.isSome → call.releaseResult = 0)
    (h : (watched a).step w (.send call) = some w') : Inv w' := by
  obtain ⟨s', note'⟩ := w'
  obtain ⟨hstep, hnote⟩ := Machine.watch_step.mp h
  obtain ⟨ok, s₁, hcall, hsent⟩ := platchSend_spec (a := a) (s := w.state) hrelease
  have hs : s₁ = s' := by
    have heq : (platchSend a w.state call).map Prod.snd = some s' := hstep
    rw [hcall] at heq
    exact Option.some.inj heq
  subst hs hnote
  exact inv_sent hi hsent

/-- A response is taken from those that wait. -/
theorem waiting_erase {s : SendState} {p : Nat} {data : PlatchMsgRespHandlerData}
    (hp : p ∈ s.pending) (hdata : s.handlers p = some data) :
    s.waiting.Perm (data :: (s.pending.erase p).filterMap s.handlers) := by
  have hperm := (List.perm_cons_erase hp).filterMap s.handlers
  rwa [List.filterMap_cons_some hdata] at hperm

theorem inv_response {w w' : Watched SendState SendNote} {p : Nat} {ok : Int} (hi : Inv w)
    (hp : p ∈ w.state.pending) (h : (watched a).step w (.response p ok) = some w') : Inv w' := by
  obtain ⟨s', note'⟩ := w'
  obtain ⟨hstep, hnote⟩ := Machine.watch_step.mp h
  have heq : onResponse w.state p ok = some s' := hstep
  rw [onResponse, if_pos (hi.pending_live p hp)] at heq
  obtain ⟨data, hdata⟩ := Option.isSome_iff_exists.mp (hi.written p hp)
  have hperm : w.state.held.Perm (p :: (w.state.pending.erase p ++ w.state.running)) :=
    (List.perm_cons_erase hp).append_right _
  have hnodup := hperm.nodup_iff.mp hi.nodup
  have hlength := hperm.length_eq
  have hcard := hi.card
  have haccounted : w.note.accepted.Perm
      ((data :: w.note.answered) ++ (w.state.pending.erase p).filterMap w.state.handlers) :=
    hi.accounted.trans (((waiting_erase hp hdata).append_left _).trans List.perm_middle)
  rw [List.length_cons] at hlength
  subst hnote
  dsimp only at heq
  split at heq
  next hok =>
      cases heq
      constructor
      · exact (List.nodup_cons.mp hnodup).2
      · intro q hq
        exact hi.live q (hperm.mem_iff.mpr (List.mem_cons_of_mem _ hq))
      · intro q hq
        exact hi.written q (List.mem_of_mem_erase hq)
      · show w.state.live.card = _ + (if ok ≠ 0 then w.note.leaked + 1 else w.note.leaked)
        rw [if_pos hok, SendState.held]
        dsimp only
        omega
      · show w.note.accepted.Perm ((w.state.handlers p).toList ++ w.note.answered ++ _)
        rw [hdata]
        exact haccounted
  next hok =>
      cases heq
      have hmiddle : (w.state.pending.erase p ++ p :: w.state.running).Perm w.state.held :=
        List.perm_middle.trans hperm.symm
      constructor
      · exact hmiddle.nodup_iff.mpr hi.nodup
      · intro q hq
        exact hi.live q (hmiddle.mem_iff.mp hq)
      · intro q hq
        exact hi.written q (List.mem_of_mem_erase hq)
      · show w.state.live.card = _ + (if ok ≠ 0 then w.note.leaked + 1 else w.note.leaked)
        rw [if_neg hok, hcard]
        exact congrArg (· + w.note.leaked) hmiddle.length_eq.symm
      · show w.note.accepted.Perm ((w.state.handlers p).toList ++ w.note.answered ++ _)
        rw [hdata]
        exact haccounted

theorem inv_returns {w w' : Watched SendState SendNote} {ok : Int} (hi : Inv w)
    (h : (watched a).step w (.returns ok) = some w') : Inv w' := by
  obtain ⟨s', note'⟩ := w'
  obtain ⟨hstep, hnote⟩ := Machine.watch_step.mp h
  have heq : callbackReturns w.state ok = some s' := hstep
  have hcard := hi.card
  have hnodup := hi.nodup
  have hlive := hi.live
  subst hnote
  unfold callbackReturns at heq
  split at heq
  next => cases heq
  next p running hrunning =>
      rw [SendState.held, hrunning] at hnodup hlive hcard
      have hperm : (w.state.pending ++ p :: running).Perm (p :: (w.state.pending ++ running)) :=
        List.perm_middle
      have hrest := List.nodup_cons.mp (hperm.nodup_iff.mp hnodup)
      have hlength := hperm.length_eq
      rw [List.length_cons] at hlength
      split at heq
      next hok =>
          cases heq
          constructor
          · exact hrest.2
          · intro q hq
            exact hlive q (hperm.mem_iff.mpr (List.mem_cons_of_mem _ hq))
          · exact hi.written
          · show w.state.live.card = _ + (noteSend w.state (.returns ok) w.note).leaked
            rw [noteSend, if_pos hok, SendState.held]
            dsimp only
            omega
          · show (noteSend w.state (.returns ok) w.note).accepted.Perm _
            rw [noteSend, if_pos hok]
            exact hi.accounted
      next hok =>
          have hp : p ∈ w.state.live := hlive p (List.mem_append_right _ List.mem_cons_self)
          rw [free, if_pos hp] at heq
          cases heq
          constructor
          · exact hrest.2
          · intro q hq
            have hne : q ≠ p := fun hqp => hrest.1 (hqp ▸ hq)
            exact Finset.mem_erase.mpr
              ⟨hne, hlive q (hperm.mem_iff.mpr (List.mem_cons_of_mem _ hq))⟩
          · exact hi.written
          · show (w.state.live.erase p).card = _ + (noteSend w.state (.returns ok) w.note).leaked
            rw [noteSend, if_neg hok, SendState.held, Finset.card_erase_of_mem hp]
            dsimp only
            omega
          · show (noteSend w.state (.returns ok) w.note).accepted.Perm _
            rw [noteSend, if_neg hok]
            exact hi.accounted

theorem inv_step (w : Watched SendState SendNote) (e : SendEvent) (w' : Watched SendState SendNote)
    (hi : Inv w) (hok : EngineKeeps w.state e) (h : (watched a).step w e = some w') : Inv w' := by
  cases e with
  | send call => exact inv_send hi hok h
  | response p ok => exact inv_response hi hok h
  | returns ok => exact inv_returns hi h

/-- Nothing that is freed is read or freed again. -/
theorem step_isSome {w : Watched SendState SendNote} (hi : Inv w) {e : SendEvent}
    (hok : EngineKeeps w.state e) : ((sending a).step w.state e).isSome := by
  cases e with
  | send call =>
      obtain ⟨ok, s', hcall, -⟩ := platchSend_spec (a := a) (s := w.state) hok
      show ((platchSend a w.state call).map Prod.snd).isSome
      rw [hcall]
      rfl
  | response p ok =>
      show (onResponse w.state p ok).isSome
      rw [onResponse, if_pos (hi.pending_live p hok)]
      dsimp only
      split <;> rfl
  | returns ok =>
      show (callbackReturns w.state ok).isSome
      obtain ⟨p, running, hrunning⟩ := List.exists_cons_of_ne_nil hok
      have hp : p ∈ w.state.live := by
        refine hi.live p (List.mem_append_right _ ?_)
        rw [hrunning]
        exact List.mem_cons_self
      unfold callbackReturns
      rw [hrunning]
      dsimp only
      split
      · rfl
      · rw [free, if_pos hp]
        rfl

/-- The states of the runs with an engine that keeps to its side. -/
abbrev Runs (a : Allocator) : Watched SendState SendNote → Prop :=
  (watched a).Reach fun w e => EngineKeeps w.state e

end FlutterWlroots.Platform.PlatchSend
