/-
  FlutterWlroots.Codec.MessageBuilderRun — the builder under any sequence of pushes.

  The builder is a machine whose events are the calls on it, with any segment records.  `Inv` holds
  in every reachable state: the fill lies in the buffer, and as long as at most two bytes are
  pushed, nothing behind them has ever been stored.  (Later that fails: a typed list stores all its
  bytes but advances the fill by its length only, so bytes may lie behind the fill.)
-/
import FlutterWlroots.Lib.Machine
import FlutterWlroots.Codec.MessageBuilderSpec

namespace FlutterWlroots.StandardMessageCodec

open Lib Lib.LittleEndian Lib.Mem Lib.CInt Lib.StateRun
open FlutterWlroots.Codec

/-! ## §1. Calls. -/

/-- The pushes that write a size. -/
inductive SizedPush where
  | string (string : CString)
  | uint8List (vals : List UInt8)
  | list (size : Nat)
  | map (size : Nat)

namespace SizedPush

/-- The size that is written. -/
def size : SizedPush → Nat
  | string s => s.strlen
  | uint8List vals => vals.length
  | list size => size
  | map size => size

/-- The type byte. -/
def tag : SizedPush → UInt8
  | string _ => 7
  | uint8List _ => 8
  | list _ => 12
  | map _ => 13

/-- The bytes behind the size. -/
def payload : SizedPush → List UInt8
  | string s => s.bytes
  | uint8List vals => vals
  | list _ => []
  | map _ => []

/-- The call. -/
def exec (segment : MessageBuilderSegment) : SizedPush → BuilderM Unit
  | string s => do
      let _ ← pushString segment s
  | uint8List vals => do
      let _ ← pushUInt8List segment vals
  | list size => do
      let _ ← pushList segment size
  | map size => do
      let _ ← pushMap segment size

end SizedPush

/-- The pushes. -/
inductive PushCall where
  | null
  | bool (value : Bool)
  | int32 (value : BitVec 32)
  | int64 (value : BitVec 64)
  | float64 (value : BitVec 64)
  | int32List (vals : List (BitVec 32))
  | int64List (vals : List (BitVec 64))
  | float64List (vals : List (BitVec 64))
  | float32List (vals : List (BitVec 32))
  | sized (push : SizedPush)

/-- The call. -/
def PushCall.exec (segment : MessageBuilderSegment) : PushCall → BuilderM Unit
  | null => do
      let _ ← pushNull segment
  | bool value => do
      let _ ← pushBool segment value
  | int32 value => do
      let _ ← pushInt32 segment value
  | int64 value => do
      let _ ← pushInt64 segment value
  | float64 value => do
      let _ ← pushFloat64 segment value
  | int32List vals => do
      let _ ← pushInt32List segment vals
  | int64List vals => do
      let _ ← pushInt64List segment vals
  | float64List vals => do
      let _ ← pushFloat64List segment vals
  | float32List vals => do
      let _ ← pushFloat32List segment vals
  | sized push => push.exec segment

/-- Everything that happens to a builder between `message_builder_new` and
`message_builder_finish`. -/
inductive BuilderEvent where
  | push (segment : MessageBuilderSegment) (call : PushCall)
  | segment
  | finish (segment : MessageBuilderSegment)

/-- The program an event runs. -/
def BuilderEvent.exec : BuilderEvent → BuilderM Unit
  | .push seg call => call.exec seg
  | .segment => do
      let _ ← messageBuilderSegment
  | .finish seg => segmentFinish seg

/-- The state a run ends in, unless a store has left the buffer. -/
def finalState (result : EStateM.Result BuilderStop MessageBuilderState Unit) :
    Option MessageBuilderState :=
  match result with
  | .ok _ s => some s
  | .error _ _ => none

/-- The builder. -/
def builder : Machine MessageBuilderState BuilderEvent where
  init := messageBuilderNew
  step := fun s e => finalState (e.exec.run s)

theorem finalState_eq_some {result : EStateM.Result BuilderStop MessageBuilderState Unit}
    {s : MessageBuilderState} : finalState result = some s ↔ result = .ok () s := by
  cases result with
  | ok _ s' => simp [finalState]
  | error e s' => simp [finalState]

/-! ## §2. The invariant. -/

namespace MessageBuilderState

/-- No byte behind the fill has been stored. -/
def Fresh (s : MessageBuilderState) : Prop :=
  ∀ j, s.bufferLen ≤ j → ∀ x, s.buffer.cells[j]? ≠ some (some x)

/-- The invariant of the builder. -/
structure Inv (s : MessageBuilderState) : Prop where
  wf : s.WF
  fresh : s.bufferLen ≤ 2 → s.Fresh

variable {s : MessageBuilderState} {bs : List UInt8} {segment : MessageBuilderSegment}

theorem Inv.of_eq {s' : MessageBuilderState} (h : s.Inv) (hbuffer : s'.buffer = s.buffer)
    (hlen : s'.bufferLen = s.bufferLen) : s'.Inv where
  wf := by
    rw [WF, hbuffer, hlen]
    exact h.wf
  fresh := by
    rw [Fresh, hbuffer, hlen]
    exact h.fresh

theorem inv_new : messageBuilderNew.Inv where
  wf := Nat.zero_le _
  fresh := by
    intro _ j _ x hx
    rw [messageBuilderNew, Block.alloc, List.getElem?_replicate] at hx
    split at hx
    · cases hx
    · cases hx

theorem Inv.asserted (h : s.Inv) : (s.asserted segment).Inv :=
  h.of_eq asserted_buffer asserted_bufferLen

theorem Inv.reserved (h : s.Inv) (k : Nat) : (s.reserved k).Inv where
  wf := (h.wf.grown_reserved k).wf
  fresh := by
    rw [reserved_bufferLen]
    intro hlen j hj x hx
    rw [reserved_bufferLen] at hj
    exact h.fresh hlen j hj x (reserved_getElem?.mp hx)

theorem Inv.append (h : s.Inv) (hroom : s.bufferLen + bs.length ≤ s.buffer.size) :
    (s.append bs).Inv where
  wf := (grown_append hroom).wf
  fresh := by
    intro hlen j hj x hx
    rw [append_bufferLen] at hlen hj
    rw [getElem?_append hroom, if_neg (by omega)] at hx
    exact h.fresh (by omega) j (by omega) x hx

end MessageBuilderState

section Pushes

variable {s : MessageBuilderState} {segment : MessageBuilderSegment}

/-- A size prefix keeps the invariant: the short form appends, the longer ones leave more than two
bytes. -/
theorem writeSizeLen_inv {n : Nat} (h : s.Inv)
    (hroom : s.bufferLen + calcSizeLen n ≤ s.buffer.size) :
    ∃ s', (writeSizeLen n).run s = .ok () s' ∧ s'.bufferLen = s.bufferLen + calcSizeLen n
      ∧ s'.buffer.size = s.buffer.size ∧ s'.Inv := by
  by_cases hn : n ≤ 253
  · have hone : (sizePrefix n).length = 1 := by
      rw [sizePrefix_of_small hn, List.length_singleton]
    rw [calcSizeLen_eq] at hroom ⊢
    refine ⟨_, writeSizeLen_run_small hn (by omega), ?_, ?_, h.append hroom⟩
    · rw [MessageBuilderState.append_bufferLen]
    · rw [MessageBuilderState.append_size hroom]
  · obtain ⟨s', hrun, hlen, hsize, -⟩ := writeSizeLen_run_large (by omega) hroom
    refine ⟨s', hrun, hlen, hsize, ?_, ?_⟩
    · rw [MessageBuilderState.WF, hlen, hsize]
      exact hroom
    · have hcalc := calcSizeLen_of_large (n := n) (by omega)
      have hbytes := length_lengthBytes n
      intro hle
      omega

/-- Behind a header, the elements of a typed list keep the invariant. -/
theorem putElems_inv {w : Nat} (hw : 0 < w) (vals : List (BitVec (8 * w))) (h : s.Inv)
    (hlen : 2 ≤ s.bufferLen) (hroom : s.bufferLen + vals.length * w ≤ s.buffer.size) :
    ∃ s', (putElems w vals).run s = .ok () s' ∧ s'.Inv := by
  have hfits : s.bufferLen + (elemBytes w vals).length ≤ s.buffer.size := by
    rw [length_elemBytes]
    exact hroom
  have hle : vals.length ≤ vals.length * w := Nat.le_mul_of_pos_right _ hw
  refine ⟨{ s with
    buffer := (s.append (elemBytes w vals)).buffer
    bufferLen := s.bufferLen + vals.length }, ?_, ?_, ?_⟩
  · rw [putElems, run_get_bind,
      run_bind_ok (storeAt_run (MessageBuilderState.store_eq_append hfits)), advanceLen_run]
  · show s.bufferLen + vals.length ≤ (s.append (elemBytes w vals)).buffer.size
    rw [MessageBuilderState.append_size hfits]
    omega
  · -- with no element nothing is stored, with one the fill passes two
    intro hle2
    have hnil : vals = [] := by
      have hzero : s.bufferLen + vals.length ≤ 2 := hle2
      exact List.length_eq_zero_iff.mp (by omega)
    subst hnil
    exact (h.append hfits).fresh hle2

/-- The type byte and the size prefix of a push. -/
theorem header_inv (tag : UInt8) (n : Nat) (h : s.Inv)
    (hroom : s.bufferLen + (1 + calcSizeLen n) ≤ s.buffer.size) :
    ∃ s', (putByte tag >>= fun _ => writeSizeLen n).run s = .ok () s'
      ∧ s'.bufferLen = s.bufferLen + (1 + calcSizeLen n) ∧ s'.buffer.size = s.buffer.size
      ∧ s'.Inv := by
  have htag : s.bufferLen + [tag].length ≤ s.buffer.size := by
    rw [List.length_singleton]
    omega
  obtain ⟨s', hrun, hlen, hsize, hinv⟩ := writeSizeLen_inv (n := n) (h.append htag) (by
    rw [MessageBuilderState.append_bufferLen, MessageBuilderState.append_size htag,
      List.length_singleton]
    omega)
  refine ⟨s', by rw [run_bind_ok (putByte_run htag), hrun], ?_, ?_, hinv⟩
  · rw [hlen, MessageBuilderState.append_bufferLen, List.length_singleton, Nat.add_assoc]
  · rw [hsize, MessageBuilderState.append_size htag]

theorem ready_inv (segment : MessageBuilderSegment) (k : Nat) (h : s.Inv) :
    (ready s segment k).Inv :=
  h.asserted.reserved k

theorem ready_append_inv {k : Nat} {bs : List UInt8} (h : s.Inv) (hk : bs.length ≤ k) :
    ((ready s segment k).append bs).Inv := by
  have hroom := ready_room segment h.wf k
  exact (ready_inv segment k h).append (by omega)

theorem pushSizedBytes_inv {tag : UInt8} {bytes : List UInt8} (h : s.Inv) :
    ∃ r s', (pushSizedBytes tag bytes segment).run s = .ok r s' ∧ s'.Inv := by
  have hroom := ready_room segment h.wf (1 + calcSizeLen bytes.length + bytes.length)
  obtain ⟨t, hrun, hlen, hsize, hinv⟩ := header_inv tag bytes.length
    (ready_inv segment (1 + calcSizeLen bytes.length + bytes.length) h) (by omega)
  have hfits : t.bufferLen + bytes.length ≤ t.buffer.size := by omega
  exact ⟨_, _, pushSizedBytes_run _ hrun hfits, hinv.append hfits⟩

theorem pushContainer_inv {tag : UInt8} {size members : Nat} (h : s.Inv) :
    ∃ r s', (pushContainer tag size members segment).run s = .ok r s' ∧ s'.Inv := by
  have hroom := ready_room segment h.wf (1 + calcSizeLen size)
  obtain ⟨t, hrun, -, -, hinv⟩ := header_inv tag size
    (ready_inv segment (1 + calcSizeLen size) h) hroom
  exact ⟨_, _, pushContainer_run _ _ hrun, hinv.of_eq rfl rfl⟩

/-- The header and the elements of a typed list. -/
theorem typedList_inv (tag : UInt8) {w : Nat} (hw : 0 < w) (vals : List (BitVec (8 * w)))
    (h : s.Inv) (hroom : s.bufferLen + (1 + calcSizeLen vals.length + vals.length * w) ≤ s.buffer.size) :
    ∃ s' s'', (putByte tag >>= fun _ => writeSizeLen vals.length).run s = .ok () s'
      ∧ (putElems w vals).run s' = .ok () s'' ∧ s''.Inv := by
  obtain ⟨s', hrun, hlen, hsize, hinv⟩ := header_inv tag vals.length h (by omega)
  have hpos : 0 < calcSizeLen vals.length := by
    rw [calcSizeLen_eq]
    exact length_sizePrefix_pos _
  obtain ⟨s'', hrun', hinv'⟩ := putElems_inv hw vals hinv (by omega) (by omega)
  exact ⟨s', s'', hrun, hrun', hinv'⟩

theorem pushTypedList_inv {tag : UInt8} {w : Nat} (hw : 0 < w) {vals : List (BitVec (8 * w))}
    (h : s.Inv) : ∃ r s', (pushTypedList tag w vals segment).run s = .ok r s' ∧ s'.Inv := by
  obtain ⟨t, hready⟩ : ∃ t, ready s segment
      (1 + calcSizeLen vals.length + (vals.length + 1) * w) = t := ⟨_, rfl⟩
  have hroom := ready_room segment h.wf
    (1 + calcSizeLen vals.length + (vals.length + 1) * w)
  have ht := ready_inv segment (1 + calcSizeLen vals.length + (vals.length + 1) * w) h
  rw [hready] at hroom ht
  -- the padding takes less than the one element that is reserved on top
  have hmul : (vals.length + 1) * w = vals.length * w + w := Nat.succ_mul _ _
  rw [hmul] at hroom
  have hlt := padding_lt t.bufferLen hw
  have hzeros : t.bufferLen + (List.replicate (padding t.bufferLen w) (0 : UInt8)).length
      ≤ t.buffer.size := by
    rw [List.length_replicate]
    omega
  obtain ⟨s', s'', hrun, hrun', hinv⟩ := typedList_inv tag hw vals
    (ht.append hzeros)
    (MessageBuilderState.append_room (by rw [List.length_replicate]; omega))
  refine ⟨segment.wrote, s'', ?_, hinv⟩
  rw [pushTypedList, ready_run, hready, run_bind_ok (writeAlignTo_run hw (by omega)),
    run_seq_ok hrun, run_bind_ok hrun', EStateM.run_pure]

/-- Padding that is longer than what is left of the buffer leaves it. -/
theorem putZeros_outside : ∀ {n : Nat} {s : MessageBuilderState}, s.WF →
    s.buffer.size < s.bufferLen + n → ∃ s', (putZeros n).run s = .error .outOfBounds s'
  | 0, s, hwf, h => absurd h (Nat.not_lt.mpr hwf)
  | n + 1, s, hwf, h => by
      by_cases hroom : s.bufferLen + [(0 : UInt8)].length ≤ s.buffer.size
      · rw [putZeros, run_bind_ok (putByte_run hroom)]
        refine putZeros_outside (MessageBuilderState.grown_append hroom).wf ?_
        rw [MessageBuilderState.append_size hroom, MessageBuilderState.append_bufferLen,
          List.length_singleton]
        omega
      · have hstore : s.buffer.store s.bufferLen [0] = none := if_neg hroom
        have herror : (putByte 0).run s = .error .outOfBounds s := by
          rw [putByte, putBytes, run_get_bind]
          apply run_bind_error
          rw [storeAt, run_get_bind, hstore, run_throw]
        exact ⟨s, by rw [putZeros, run_bind_error herror]⟩

theorem writeAlignTo_outside {n : Nat} (hwf : s.WF)
    (h : s.buffer.size < s.bufferLen + padding s.bufferLen n) :
    ∃ s', (writeAlignTo n).run s = .error .outOfBounds s' := by
  rw [writeAlignTo, run_get_bind]
  by_cases hmod : s.bufferLen % n = 0
  · have hpad : padding s.bufferLen n = 0 := by rw [padding, hmod, Nat.sub_zero, Nat.mod_self]
    rw [hpad] at h
    exact absurd h (Nat.not_lt.mpr hwf)
  · rw [if_pos hmod]
    have hle : padding s.bufferLen n ≤ n - s.bufferLen % n := Nat.mod_le _ _
    exact putZeros_outside hwf (by omega)

/-- The padding of a push that aligns before it reserves lies in the buffer. -/
def PushCall.PadsInside (s : MessageBuilderState) : PushCall → Prop
  | float32List _ => s.bufferLen + padding s.bufferLen 4 ≤ s.buffer.size
  | _ => True

instance (s : MessageBuilderState) : (call : PushCall) → Decidable (call.PadsInside s)
  | .float32List _ => inferInstanceAs (Decidable (_ ≤ _))
  | .null | .bool _ | .int32 _ | .int64 _ | .float64 _ | .int32List _ | .int64List _
  | .float64List _ | .sized _ => .isTrue trivial

/-- The float32 push with its padding in the buffer. -/
theorem pushFloat32List_inv {vals : List (BitVec 32)} (h : s.Inv)
    (hpad : s.bufferLen + padding s.bufferLen 4 ≤ s.buffer.size) :
    ∃ r s', (pushFloat32List segment vals).run s = .ok r s' ∧ s'.Inv := by
  have hasserted : (s.asserted segment).Inv := h.asserted
  have hpad' : (s.asserted segment).bufferLen + padding (s.asserted segment).bufferLen 4
      ≤ (s.asserted segment).buffer.size := by
    rwa [MessageBuilderState.asserted_buffer, MessageBuilderState.asserted_bufferLen]
  have ht := hasserted.append (show (s.asserted segment).bufferLen
      + (List.replicate (padding (s.asserted segment).bufferLen 4) (0 : UInt8)).length
      ≤ (s.asserted segment).buffer.size by rwa [List.length_replicate])
  have hroom := ht.wf.reserved_room (1 + calcSizeLen vals.length + (vals.length + 1) * 4)
  obtain ⟨u, u', hheader, helems, hinv⟩ := typedList_inv (w := 4) 14 (by decide) vals
    (ht.reserved (1 + calcSizeLen vals.length + (vals.length + 1) * 4)) (by omega)
  refine ⟨segment.wrote, u', ?_, hinv⟩
  rw [pushFloat32List, run_bind_ok assertLevel_run,
    run_bind_ok (writeAlignTo_run (by decide) hpad'), run_bind_ok reserve_run,
    run_seq_ok hheader, run_bind_ok helems, EStateM.run_pure]

/-- It aligns before it reserves, so with any other padding it leaves the buffer. -/
theorem pushFloat32List_pads {vals : List (BitVec 32)} {r : MessageBuilderSegment}
    {s' : MessageBuilderState} (h : s.Inv)
    (hrun : (pushFloat32List segment vals).run s = .ok r s') :
    s.bufferLen + padding s.bufferLen 4 ≤ s.buffer.size := by
  by_contra hpad
  have hasserted : (s.asserted segment).Inv := h.asserted
  obtain ⟨t, herror⟩ := writeAlignTo_outside (n := 4) hasserted.wf (by
    rw [MessageBuilderState.asserted_buffer, MessageBuilderState.asserted_bufferLen]
    omega)
  rw [pushFloat32List, run_bind_ok assertLevel_run, run_bind_error herror] at hrun
  cases hrun

/-- A push whose result is not used. -/
theorem runs_of_exists {α : Type} {m : BuilderM α}
    (h : ∃ r s', m.run s = .ok r s' ∧ s'.Inv) :
    ∃ s', (m >>= fun _ => pure ()).run s = .ok () s' ∧ s'.Inv := by
  obtain ⟨r, s', hm, hinv⟩ := h
  exact ⟨s', run_discard hm, hinv⟩

theorem sizedPush_runs (push : SizedPush) (h : s.Inv) :
    ∃ s', (push.exec segment).run s = .ok () s' ∧ s'.Inv := by
  cases push with
  | string _ => exact runs_of_exists (pushSizedBytes_inv h)
  | uint8List _ => exact runs_of_exists (pushSizedBytes_inv h)
  | list _ => exact runs_of_exists (pushContainer_inv h)
  | map _ => exact runs_of_exists (pushContainer_inv h)

/-- **Every push with its padding in the buffer stays there**, and keeps the invariant. -/
theorem pushCall_runs (segment : MessageBuilderSegment) (call : PushCall) (h : s.Inv)
    (hpad : call.PadsInside s) :
    ∃ s', (call.exec segment).run s = .ok () s' ∧ s'.Inv := by
  cases call with
  | null => exact runs_of_exists ⟨_, _, pushNull_run h.wf, ready_append_inv h (Nat.le_refl _)⟩
  | bool _ => exact runs_of_exists ⟨_, _, pushBool_run h.wf, ready_append_inv h (Nat.le_refl _)⟩
  | int32 v =>
      exact runs_of_exists ⟨_, _, pushInt32_run h.wf, ready_append_inv h
        (by rw [List.length_cons, length_leBytes])⟩
  | int64 v =>
      exact runs_of_exists ⟨_, _, pushInt64_run h.wf, ready_append_inv h
        (by rw [List.length_cons, length_leBytes])⟩
  | float64 v =>
      exact runs_of_exists ⟨_, _, pushFloat64_run h.wf, ready_append_inv h
        (length_float64Bytes_le _ v)⟩
  | int32List _ => exact runs_of_exists (pushTypedList_inv (by decide) h)
  | int64List _ => exact runs_of_exists (pushTypedList_inv (by decide) h)
  | float64List _ => exact runs_of_exists (pushTypedList_inv (by decide) h)
  | float32List vals => exact runs_of_exists (pushFloat32List_inv h hpad)
  | sized push => exact sizedPush_runs push h

/-- No other push stays in the buffer. -/
theorem pushCall_pads (call : PushCall) {s' : MessageBuilderState} (h : s.Inv)
    (hrun : (call.exec segment).run s = .ok () s') : call.PadsInside s := by
  cases call with
  | float32List vals =>
      obtain ⟨_, _, hpush, -⟩ := run_bind_eq_ok.mp hrun
      exact pushFloat32List_pads h hpush
  | null | bool | int32 | int64 | float64 | int32List | int64List | float64List | sized => trivial

/-! ## §3. Events. -/

/-- The event with its padding in the buffer. -/
def BuilderEvent.PadsInside (s : MessageBuilderState) : BuilderEvent → Prop
  | .push _ call => call.PadsInside s
  | .segment => True
  | .finish _ => True

instance (s : MessageBuilderState) : (e : BuilderEvent) → Decidable (e.PadsInside s)
  | .push _ call => inferInstanceAs (Decidable (call.PadsInside s))
  | .segment => .isTrue trivial
  | .finish _ => .isTrue trivial

theorem event_runs (e : BuilderEvent) (h : s.Inv) (hpad : e.PadsInside s) :
    ∃ s', e.exec.run s = .ok () s' ∧ s'.Inv := by
  cases e with
  | push segment call => exact pushCall_runs segment call h hpad
  | segment => exact ⟨_, rfl, h.of_eq rfl rfl⟩
  | finish segment =>
      refine ⟨_, (run_bind_ok assertLevel_run).trans (EStateM.run_modify _ _), ?_⟩
      exact h.of_eq MessageBuilderState.asserted_buffer MessageBuilderState.asserted_bufferLen

theorem event_pads (e : BuilderEvent) {s' : MessageBuilderState} (h : s.Inv)
    (hrun : e.exec.run s = .ok () s') : e.PadsInside s := by
  cases e with
  | push segment call => exact pushCall_pads call h hrun
  | segment | finish => trivial

theorem event_inv (e : BuilderEvent) {s' : MessageBuilderState} (h : s.Inv)
    (hrun : e.exec.run s = .ok () s') : s'.Inv := by
  obtain ⟨s'', hrun', hinv⟩ := event_runs e h (event_pads e h hrun)
  rw [hrun] at hrun'
  cases hrun'
  exact hinv

end Pushes

/-- **The invariant holds in every reachable state of the builder.** -/
theorem reachable_inv {s : MessageBuilderState} (hs : builder.Reachable s) : s.Inv := by
  refine hs.invariant MessageBuilderState.inv_new ?_
  intro s e s' hinv _ hstep
  exact event_inv e hinv (finalState_eq_some.mp hstep)

end FlutterWlroots.StandardMessageCodec
