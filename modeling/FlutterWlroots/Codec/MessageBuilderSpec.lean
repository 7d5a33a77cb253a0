/-
  FlutterWlroots.Codec.MessageBuilderSpec — what the builder's stores do to its buffer.

  `append` is the effect of a store at the fill that stays inside the buffer, `reserved` that of
  `reserve`.  Runs of the builder are rewritten to these two, and facts about the contents are facts
  about them.  `Grown s s' bs` says that a run has appended the bytes `bs`.
-/
import FlutterWlroots.Lib.StateRun
import FlutterWlroots.Codec.WireFormat
import FlutterWlroots.Codec.MessageBuilder

namespace FlutterWlroots.StandardMessageCodec

open Lib.LittleEndian Lib.Mem Lib.CInt Lib.StateRun
open FlutterWlroots.Codec

/-! ## §1. Effects on the state. -/

namespace MessageBuilderState

/-- The fill lies in the buffer. -/
def WF (s : MessageBuilderState) : Prop := s.bufferLen ≤ s.buffer.size

/-- The cells of the message so far. -/
def contents (s : MessageBuilderState) : List (Option UInt8) := s.buffer.cells.take s.bufferLen

/-- A store of `bs` at the fill, and the fill behind it. -/
def append (s : MessageBuilderState) (bs : List UInt8) : MessageBuilderState :=
  { s with
    buffer := ⟨s.buffer.cells.take s.bufferLen ++ bs.map some
      ++ s.buffer.cells.drop (s.bufferLen + bs.length)⟩
    bufferLen := s.bufferLen + bs.length }

/-- The state after `ASSERT_LEVEL`. -/
def asserted (s : MessageBuilderState) (segment : MessageBuilderSegment) : MessageBuilderState :=
  if segment.level ≠ s.currentLevel then { s with log := s.log ++ [.wrongLevel] } else s

variable {s : MessageBuilderState} {bs cs : List UInt8} {segment : MessageBuilderSegment}

theorem WF.length_contents (h : s.WF) : s.contents.length = s.bufferLen := by
  rw [contents, List.length_take]
  exact Nat.min_eq_left h

@[simp] theorem asserted_buffer : (s.asserted segment).buffer = s.buffer := by
  unfold asserted
  split <;> rfl

@[simp] theorem asserted_bufferLen : (s.asserted segment).bufferLen = s.bufferLen := by
  unfold asserted
  split <;> rfl

@[simp] theorem append_bufferLen : (s.append bs).bufferLen = s.bufferLen + bs.length := rfl

theorem append_nil : s.append [] = s := by
  obtain ⟨⟨cells⟩, len, level, log⟩ := s
  simp [append]

theorem store_eq_append (h : s.bufferLen + bs.length ≤ s.buffer.size) :
    s.buffer.store s.bufferLen bs = some (s.append bs).buffer :=
  Block.store_eq_some.mpr ⟨h, rfl⟩

theorem append_size (h : s.bufferLen + bs.length ≤ s.buffer.size) :
    (s.append bs).buffer.size = s.buffer.size :=
  Block.size_store (store_eq_append h)

theorem getElem?_append (h : s.bufferLen + bs.length ≤ s.buffer.size) (j : Nat) :
    (s.append bs).buffer.cells[j]? =
      if s.bufferLen ≤ j ∧ j < s.bufferLen + bs.length then some bs[j - s.bufferLen]?
      else s.buffer.cells[j]? :=
  Block.getElem?_store (store_eq_append h) j

theorem append_room {b : List UInt8} {k : Nat} (h : s.bufferLen + (b.length + k) ≤ s.buffer.size) :
    (s.append b).bufferLen + k ≤ (s.append b).buffer.size := by
  rw [append_size (by omega), append_bufferLen]
  omega

/-- Appending twice is appending once. -/
theorem append_append (h : s.bufferLen + (bs.length + cs.length) ≤ s.buffer.size) :
    (s.append bs).append cs = s.append (bs ++ cs) := by
  have hbs : s.bufferLen + bs.length ≤ s.buffer.size := by omega
  have hcs : (s.append bs).bufferLen + cs.length ≤ (s.append bs).buffer.size := by
    rw [append_size hbs, append_bufferLen]
    omega
  have hboth : s.bufferLen + (bs ++ cs).length ≤ s.buffer.size := by
    rw [List.length_append]
    exact h
  -- the buffers agree because the two stores touch
  have hbuffer : ((s.append bs).append cs).buffer = (s.append (bs ++ cs)).buffer := by
    have hstore := Block.store_append s.buffer s.bufferLen bs cs
    rw [store_eq_append hbs, Option.bind_some, store_eq_append hboth] at hstore
    exact Option.some.inj ((store_eq_append hcs).symm.trans hstore)
  have hlen : ((s.append bs).append cs).bufferLen = (s.append (bs ++ cs)).bufferLen := by
    rw [append_bufferLen, append_bufferLen, append_bufferLen, List.length_append, Nat.add_assoc]
  calc (s.append bs).append cs
      = { s with
          buffer := ((s.append bs).append cs).buffer
          bufferLen := ((s.append bs).append cs).bufferLen } := rfl
    _ = { s with
          buffer := (s.append (bs ++ cs)).buffer
          bufferLen := (s.append (bs ++ cs)).bufferLen } := by rw [hbuffer, hlen]
    _ = s.append (bs ++ cs) := rfl

/-! ## §2. Reserving. -/

@[simp] theorem reserved_bufferLen {k : Nat} : (s.reserved k).bufferLen = s.bufferLen := by
  unfold reserved
  split <;> rfl

theorem le_growthStrategy (current required : Nat) : required ≤ growthStrategy current required :=
  Nat.le_trans (Nat.le_max_right _ _) (Nat.le_max_left _ _)

theorem size_le_growthStrategy (current required : Nat) :
    current ≤ growthStrategy current required := by
  have h : current * 2 ≤ growthStrategy current required :=
    Nat.le_trans (Nat.le_max_left _ _) (Nat.le_max_left _ _)
  omega

/-- **After `reserve` there is room.** -/
theorem WF.reserved_room (h : s.WF) (k : Nat) :
    (s.reserved k).bufferLen + k ≤ (s.reserved k).buffer.size := by
  rw [reserved_bufferLen]
  unfold reserved
  -- the subtraction does not wrap because the fill lies in the buffer
  rw [sizeSub_of_le h]
  split
  · rw [Block.size_realloc]
    exact le_growthStrategy _ _
  · have hle : s.bufferLen ≤ s.buffer.size := h
    omega

/-- `reserve` keeps every cell of the buffer. -/
theorem reserved_getElem?_of_lt {k j : Nat} (hj : j < s.buffer.size) :
    (s.reserved k).buffer.cells[j]? = s.buffer.cells[j]? := by
  unfold reserved
  split
  · exact Block.getElem?_realloc_of_lt (size_le_growthStrategy _ _) hj
  · rfl

/-- The cells `reserve` adds are indeterminate. -/
theorem reserved_getElem? {k j : Nat} {x : UInt8} :
    (s.reserved k).buffer.cells[j]? = some (some x) ↔ s.buffer.cells[j]? = some (some x) := by
  by_cases hj : j < s.buffer.size
  · rw [reserved_getElem?_of_lt hj]
  · have hnone : s.buffer.cells[j]? = none := List.getElem?_eq_none (Nat.le_of_not_lt hj)
    rw [hnone]
    constructor
    · unfold reserved
      split
      · intro h
        exact (Block.getElem?_realloc_of_ge (size_le_growthStrategy _ _)
          (Nat.le_of_not_lt hj) x h).elim
      · rw [hnone]
        exact id
    · intro h
      cases h

/-! ## §3. Growing. -/

/-- `s'` has the message of `s` with `bs` appended. -/
structure Grown (s s' : MessageBuilderState) (bs : List UInt8) : Prop where
  wf : s'.WF
  bufferLen_eq : s'.bufferLen = s.bufferLen + bs.length
  contents_eq : s'.contents = s.contents ++ bs.map some

theorem Grown.trans {s' s'' : MessageBuilderState} (h : Grown s s' bs) (h' : Grown s' s'' cs) :
    Grown s s'' (bs ++ cs) where
  wf := h'.wf
  bufferLen_eq := by
    rw [h'.bufferLen_eq, h.bufferLen_eq, List.length_append, Nat.add_assoc]
  contents_eq := by
    rw [h'.contents_eq, h.contents_eq, List.map_append, List.append_assoc]

theorem grown_of_eq {s' : MessageBuilderState} (h : s.WF) (hbuffer : s'.buffer = s.buffer)
    (hlen : s'.bufferLen = s.bufferLen) : Grown s s' [] where
  wf := by
    rw [WF, hbuffer, hlen]
    exact h
  bufferLen_eq := hlen
  contents_eq := by rw [contents, contents, hbuffer, hlen, List.map_nil, List.append_nil]

theorem WF.grown_asserted (h : s.WF) : Grown s (s.asserted segment) [] :=
  grown_of_eq h asserted_buffer asserted_bufferLen

theorem WF.leveled (h : s.WF) (n : UInt32) : Grown s { s with currentLevel := n } [] :=
  grown_of_eq h rfl rfl

theorem WF.grown_reserved (h : s.WF) (k : Nat) : Grown s (s.reserved k) [] where
  wf := by
    have hroom := h.reserved_room k
    show (s.reserved k).bufferLen ≤ (s.reserved k).buffer.size
    omega
  bufferLen_eq := reserved_bufferLen
  contents_eq := by
    rw [contents, contents, reserved_bufferLen, List.map_nil, List.append_nil]
    apply List.ext_getElem?
    intro j
    rw [List.getElem?_take, List.getElem?_take]
    split
    next hj => exact reserved_getElem?_of_lt (Nat.lt_of_lt_of_le hj h)
    next => rfl

theorem grown_append (h : s.bufferLen + bs.length ≤ s.buffer.size) : Grown s (s.append bs) bs where
  wf := by
    rw [WF, append_size h]
    exact h
  bufferLen_eq := rfl
  contents_eq := by
    have hlen : s.contents.length = s.bufferLen :=
      WF.length_contents (Nat.le_trans (Nat.le_add_right _ _) h)
    rw [contents, append_bufferLen]
    show ((s.contents ++ bs.map some) ++ _).take (s.bufferLen + bs.length) = _
    rw [List.take_left']
    rw [List.length_append, hlen, List.length_map]

end MessageBuilderState

/-! ## §4. Runs of the stores. -/

section Runs

variable {s : MessageBuilderState} {bs : List UInt8} {segment : MessageBuilderSegment}

theorem assertLevel_run : (assertLevel segment).run s = .ok () (s.asserted segment) :=
  EStateM.run_modify _ _

theorem reserve_run {k : Nat} : (reserve k).run s = .ok () (s.reserved k) :=
  EStateM.run_modify _ _

theorem advanceLen_run {n : Nat} :
    (advanceLen n).run s = .ok () { s with bufferLen := s.bufferLen + n } :=
  EStateM.run_modify _ _

theorem storeAt_run {i : Nat} {buffer : Block} (h : s.buffer.store i bs = some buffer) :
    (storeAt i bs).run s = .ok () { s with buffer } := by
  rw [storeAt, run_get_bind, h]
  exact EStateM.run_set _ _

theorem putBytes_run (h : s.bufferLen + bs.length ≤ s.buffer.size) :
    (putBytes bs).run s = .ok () (s.append bs) := by
  rw [putBytes, run_get_bind, run_bind_ok (storeAt_run (MessageBuilderState.store_eq_append h)),
    advanceLen_run]
  rfl

theorem putByte_run {b : UInt8} (h : s.bufferLen + 1 ≤ s.buffer.size) :
    (putByte b).run s = .ok () (s.append [b]) :=
  putBytes_run h

theorem putZeros_run : ∀ {n : Nat} {s : MessageBuilderState}, s.bufferLen + n ≤ s.buffer.size →
    (putZeros n).run s = .ok () (s.append (List.replicate n 0))
  | 0, s, _ => by
      rw [List.replicate_zero, MessageBuilderState.append_nil]
      exact EStateM.run_pure ..
  | n + 1, s, h => by
      have h1 : s.bufferLen + [(0 : UInt8)].length ≤ s.buffer.size := by
        rw [List.length_singleton]
        omega
      have hn : (s.append [0]).bufferLen + n ≤ (s.append [0]).buffer.size := by
        rw [MessageBuilderState.append_size h1, MessageBuilderState.append_bufferLen,
          List.length_singleton]
        omega
      rw [putZeros, run_bind_ok (putByte_run h1), putZeros_run hn,
        MessageBuilderState.append_append
          (by rw [List.length_singleton, List.length_replicate]; omega)]
      rfl

theorem writeAlignTo_run {n : Nat} (hn : 0 < n)
    (h : s.bufferLen + padding s.bufferLen n ≤ s.buffer.size) :
    (writeAlignTo n).run s = .ok () (s.append (List.replicate (padding s.bufferLen n) 0)) := by
  have hlt := Nat.mod_lt s.bufferLen hn
  rw [writeAlignTo, run_get_bind]
  by_cases hmod : s.bufferLen % n = 0
  · have hpad : padding s.bufferLen n = 0 := by
      rw [padding, hmod, Nat.sub_zero, Nat.mod_self]
    rw [if_neg (not_not.mpr hmod), hpad, List.replicate_zero, MessageBuilderState.append_nil]
    exact EStateM.run_pure ..
  · have hpad : padding s.bufferLen n = n - s.bufferLen % n :=
      Nat.mod_eq_of_lt (Nat.sub_lt hn (Nat.pos_of_ne_zero hmod))
    rw [if_pos hmod, ← hpad, putZeros_run h]

/-! ## §5. Size prefixes. -/

/-- The marker of the two longer forms. -/
def lengthMarker (n : Nat) : UInt8 := if n > 0xFFFF then 255 else 254

/-- The bytes of the size behind that marker. -/
def lengthBytes (n : Nat) : List UInt8 := if n > 0xFFFF then leBytes 4 n else leBytes 2 n

theorem sizePrefix_of_small {n : Nat} (hn : n ≤ 253) : sizePrefix n = [UInt8.ofNat n] :=
  if_pos (by omega)

theorem sizePrefix_of_large {n : Nat} (hn : 254 ≤ n) :
    sizePrefix n = lengthMarker n :: lengthBytes n := by
  unfold sizePrefix lengthMarker lengthBytes
  rw [if_neg (by omega)]
  by_cases hlarge : n > 0xFFFF
  · rw [if_neg (by omega), if_pos hlarge, if_pos hlarge]
  · rw [if_pos (by omega), if_neg hlarge, if_neg hlarge]

/-- `CALC_SIZE_LEN` is the length of the prefix. -/
theorem calcSizeLen_eq (n : Nat) : calcSizeLen n = (sizePrefix n).length := by
  unfold calcSizeLen sizePrefix
  by_cases hsmall : n < 254
  · rw [if_neg (by omega), if_neg (by omega), if_pos hsmall, List.length_singleton]
  · rw [if_neg hsmall]
    by_cases hlarge : n > 0xFFFF
    · rw [if_pos hlarge, if_neg (by omega), List.length_cons, length_leBytes]
    · rw [if_neg hlarge, if_pos (by omega), if_pos (by omega), List.length_cons, length_leBytes]

theorem calcSizeLen_of_large {n : Nat} (hn : 254 ≤ n) :
    calcSizeLen n = (lengthBytes n).length + 1 := by
  rw [calcSizeLen_eq, sizePrefix_of_large hn, List.length_cons]

theorem length_lengthBytes (n : Nat) : (lengthBytes n).length = 4 ∨ (lengthBytes n).length = 2 := by
  unfold lengthBytes
  split
  · exact .inl (length_leBytes 4 n)
  · exact .inr (length_leBytes 2 n)

theorem writeSizeLen_of_small {n : Nat} (hn : n ≤ 253) :
    writeSizeLen n = putByte (UInt8.ofNat n) := by
  rw [writeSizeLen, if_neg (by omega), if_neg (by omega)]

theorem writeSizeLen_of_large {n : Nat} (hn : 254 ≤ n) :
    writeSizeLen n = (do
      putByte (lengthMarker n)
      storeAt 0 (lengthBytes n)
      advanceLen (lengthBytes n).length) := by
  unfold writeSizeLen lengthMarker lengthBytes
  by_cases hlarge : n > 0xFFFF
  · rw [if_pos hlarge, if_pos hlarge, if_pos hlarge, length_leBytes]
  · rw [if_neg hlarge, if_pos hn, if_neg hlarge, if_neg hlarge, length_leBytes]

theorem writeSizeLen_run_small {n : Nat} (hn : n ≤ 253) (h : s.bufferLen + 1 ≤ s.buffer.size) :
    (writeSizeLen n).run s = .ok () (s.append (sizePrefix n)) := by
  rw [writeSizeLen_of_small hn, putByte_run h, sizePrefix_of_small hn]

/-- **The longer forms**: the marker goes to the fill, the size to the start of the buffer. -/
theorem writeSizeLen_run_large {n : Nat} (hn : 254 ≤ n)
    (h : s.bufferLen + calcSizeLen n ≤ s.buffer.size) :
    ∃ s', (writeSizeLen n).run s = .ok () s' ∧ s'.bufferLen = s.bufferLen + calcSizeLen n
      ∧ s'.buffer.size = s.buffer.size
      ∧ ∀ j, s'.buffer.cells[j]? =
          if j < (lengthBytes n).length then some (lengthBytes n)[j]?
          else if j = s.bufferLen then some (some (lengthMarker n)) else s.buffer.cells[j]? := by
  rw [calcSizeLen_of_large hn] at h ⊢
  have hmarker : s.bufferLen + [lengthMarker n].length ≤ s.buffer.size := by
    rw [List.length_singleton]
    omega
  obtain ⟨buffer, hstore⟩ : ∃ buffer, (s.append [lengthMarker n]).buffer.store 0 (lengthBytes n)
      = some buffer :=
    Block.exists_store (by rw [MessageBuilderState.append_size hmarker]; omega)
  refine ⟨{ s with
    buffer
    bufferLen := s.bufferLen + 1 + (lengthBytes n).length }, ?_, ?_, ?_, fun j => ?_⟩
  · rw [writeSizeLen_of_large hn, run_bind_ok (putByte_run hmarker),
      run_bind_ok (storeAt_run hstore), advanceLen_run]
    rfl
  · show s.bufferLen + 1 + (lengthBytes n).length = _
    omega
  · show buffer.size = _
    rw [Block.size_store hstore, MessageBuilderState.append_size hmarker]
  · show buffer.cells[j]? = _
    rw [Block.getElem?_store hstore, MessageBuilderState.getElem?_append hmarker]
    -- the size is stored last, so it is what is found where it overlaps the marker
    by_cases hj : j < (lengthBytes n).length
    · rw [if_pos ⟨Nat.zero_le j, by omega⟩, if_pos hj]
      rfl
    · rw [if_neg (by omega), if_neg hj, List.length_singleton]
      by_cases hb : j = s.bufferLen
      · rw [if_pos (by omega), if_pos hb, hb, Nat.sub_self]
        rfl
      · rw [if_neg (by omega), if_neg hb]

/-! ## §6. Runs of the pushes. -/

/-- The state a push stores into: `ASSERT_LEVEL` and `reserve` are done. -/
def ready (s : MessageBuilderState) (segment : MessageBuilderSegment) (k : Nat) :
    MessageBuilderState :=
  (s.asserted segment).reserved k

theorem ready_run {α : Type} {k : Nat} {rest : BuilderM α} :
    (assertLevel segment >>= fun _ => reserve k >>= fun _ => rest).run s
      = rest.run (ready s segment k) := by
  rw [run_bind_ok assertLevel_run, run_bind_ok reserve_run, ready]

@[simp] theorem ready_bufferLen {k : Nat} : (ready s segment k).bufferLen = s.bufferLen := by
  rw [ready, MessageBuilderState.reserved_bufferLen, MessageBuilderState.asserted_bufferLen]

theorem ready_room (segment : MessageBuilderSegment) (h : s.WF) (k : Nat) :
    (ready s segment k).bufferLen + k ≤ (ready s segment k).buffer.size :=
  h.grown_asserted.wf.reserved_room k

theorem grown_ready (h : s.WF) (k : Nat) : MessageBuilderState.Grown s (ready s segment k) [] :=
  h.grown_asserted.trans (h.grown_asserted.wf.grown_reserved k)

theorem grown_ready_append (segment : MessageBuilderSegment) (bs : List UInt8) {k : Nat} (h : s.WF)
    (hk : bs.length ≤ k) :
    MessageBuilderState.Grown s ((ready s segment k).append bs) bs := by
  have hroom := ready_room segment h k
  exact (grown_ready h k).trans (MessageBuilderState.grown_append (by omega))

theorem pushNull_run (h : s.WF) :
    (pushNull segment).run s = .ok segment.wrote ((ready s segment 1).append [0]) := by
  have hroom := ready_room segment h 1
  rw [pushNull, ready_run, run_bind_ok (putByte_run hroom), EStateM.run_pure]

theorem pushBool_run {value : Bool} (h : s.WF) :
    (pushBool segment value).run s
      = .ok segment ((ready s segment 1).append [if value then 1 else 2]) := by
  have hroom := ready_room segment h 1
  rw [pushBool, ready_run, run_bind_ok (putByte_run hroom), EStateM.run_pure]

/-- A type byte and the bytes behind it. -/
theorem putTagged_run {α : Type} {tag : UInt8} {rest : BuilderM α}
    (h : s.bufferLen + (1 + bs.length) ≤ s.buffer.size) :
    (putByte tag >>= fun _ => putBytes bs >>= fun _ => rest).run s
      = rest.run (s.append (tag :: bs)) := by
  rw [run_bind_ok (putByte_run (by omega)),
    run_bind_ok (putBytes_run (MessageBuilderState.append_room h)),
    MessageBuilderState.append_append h]
  rfl

theorem pushInt32_run {value : BitVec 32} (h : s.WF) :
    (pushInt32 segment value).run s
      = .ok segment.wrote ((ready s segment (1 + 4)).append (3 :: leBytes 4 value.toNat)) := by
  have hroom := ready_room segment h (1 + 4)
  rw [pushInt32, ready_run, putTagged_run (by rw [length_leBytes]; exact hroom), EStateM.run_pure]

theorem pushInt64_run {value : BitVec 64} (h : s.WF) :
    (pushInt64 segment value).run s
      = .ok segment.wrote ((ready s segment (1 + 8)).append (4 :: leBytes 8 value.toNat)) := by
  have hroom := ready_room segment h (1 + 8)
  rw [pushInt64, ready_run, putTagged_run (by rw [length_leBytes]; exact hroom), EStateM.run_pure]

/-- The bytes of a double pushed at fill `p`: padding is zero. -/
def float64Bytes (p : Nat) (value : BitVec 64) : List UInt8 :=
  6 :: (List.replicate (padding (p + 1) 8) 0 ++ leBytes 8 value.toNat)

theorem length_float64Bytes_le (p : Nat) (value : BitVec 64) :
    (float64Bytes p value).length ≤ 1 + 8 + 8 := by
  have hlt := padding_lt (p + 1) (a := 8) (by decide)
  rw [float64Bytes, List.length_cons, List.length_append, List.length_replicate, length_leBytes]
  omega

theorem pushFloat64_run {value : BitVec 64} (h : s.WF) :
    (pushFloat64 segment value).run s = .ok segment.wrote
      ((ready s segment (1 + 8 + 8)).append (float64Bytes s.bufferLen value)) := by
  have hroom := ready_room segment h (1 + 8 + 8)
  have hlt := padding_lt (s.bufferLen + 1) (a := 8) (by decide)
  have hpad : ((ready s segment (1 + 8 + 8)).append [6]).bufferLen = s.bufferLen + 1 := by
    rw [MessageBuilderState.append_bufferLen, ready_bufferLen, List.length_singleton]
  have hsize : ((ready s segment (1 + 8 + 8)).append [6]).buffer.size
      = (ready s segment (1 + 8 + 8)).buffer.size :=
    MessageBuilderState.append_size (by rw [List.length_singleton]; omega)
  have hlen := length_leBytes 8 value.toNat
  have hzeros : (List.replicate (padding (s.bufferLen + 1) 8) (0 : UInt8)).length
      = padding (s.bufferLen + 1) 8 := List.length_replicate
  rw [ready_bufferLen] at hroom
  -- type byte, padding and double are three appends, and three appends are one
  rw [pushFloat64, ready_run, run_bind_ok (putByte_run (by rw [ready_bufferLen]; omega)),
    run_bind_ok (writeAlignTo_run (by decide) (by rw [hpad, hsize]; omega)), hpad,
    run_bind_ok (putBytes_run (MessageBuilderState.append_room
      (by rw [hlen, hzeros, hpad, hsize]; omega))),
    MessageBuilderState.append_append (by rw [hlen, hzeros, hpad, hsize]; omega),
    MessageBuilderState.append_append (by
      rw [List.length_append, hlen, hzeros, List.length_singleton, ready_bufferLen]; omega),
    EStateM.run_pure]
  rfl

/-- The header of a sized value in the short form. -/
theorem header_run_small (tag : UInt8) {n : Nat} (hn : n ≤ 253)
    (h : s.bufferLen + 2 ≤ s.buffer.size) :
    (putByte tag >>= fun _ => writeSizeLen n).run s = .ok () (s.append (tag :: sizePrefix n)) := by
  have hone : (sizePrefix n).length = 1 := by rw [sizePrefix_of_small hn, List.length_singleton]
  rw [run_bind_ok (putByte_run (by omega)),
    writeSizeLen_run_small hn (MessageBuilderState.append_room h),
    MessageBuilderState.append_append (by rw [hone]; exact h)]
  rfl

/-- The header of a sized value in the longer forms. -/
theorem header_run_large (tag : UInt8) {n : Nat} (hn : 254 ≤ n)
    (h : s.bufferLen + (1 + calcSizeLen n) ≤ s.buffer.size) :
    ∃ s', (putByte tag >>= fun _ => writeSizeLen n).run s = .ok () s'
      ∧ s'.bufferLen = s.bufferLen + (1 + calcSizeLen n) ∧ s'.buffer.size = s.buffer.size
      ∧ ∀ j, s'.buffer.cells[j]? =
          if j < (lengthBytes n).length then some (lengthBytes n)[j]?
          else if j = s.bufferLen + 1 then some (some (lengthMarker n))
          else if j = s.bufferLen then some (some tag) else s.buffer.cells[j]? := by
  have htag : s.bufferLen + [tag].length ≤ s.buffer.size := by
    rw [List.length_singleton]
    omega
  obtain ⟨s', hrun, hlen, hsize, hcells⟩ :=
    writeSizeLen_run_large hn (MessageBuilderState.append_room (b := [tag]) h)
  rw [MessageBuilderState.append_bufferLen, List.length_singleton] at hlen hcells
  rw [MessageBuilderState.append_size htag] at hsize
  refine ⟨s', by rw [run_bind_ok (putByte_run htag), hrun], by rw [hlen, Nat.add_assoc], hsize,
    fun j => ?_⟩
  rw [hcells, MessageBuilderState.getElem?_append htag]
  split
  -- a byte of the size
  · rfl
  · split
    -- the marker
    · rfl
    -- the type byte, or what was there before
    · by_cases hb : j = s.bufferLen
      · rw [if_pos (by rw [List.length_singleton]; omega), if_pos hb, hb, Nat.sub_self]
        rfl
      · rw [if_neg (by rw [List.length_singleton]; omega), if_neg hb]

/-- A string or byte list push, given the state behind its header. -/
theorem pushSizedBytes_run (segment : MessageBuilderSegment) {tag : UInt8} {bytes : List UInt8}
    {t : MessageBuilderState}
    (hheader : (putByte tag >>= fun _ => writeSizeLen bytes.length).run
      (ready s segment (1 + calcSizeLen bytes.length + bytes.length)) = .ok () t)
    (hroom : t.bufferLen + bytes.length ≤ t.buffer.size) :
    (pushSizedBytes tag bytes segment).run s = .ok segment.wrote (t.append bytes) := by
  rw [pushSizedBytes, ready_run, run_seq_ok hheader, run_bind_ok (putBytes_run hroom),
    EStateM.run_pure]

/-- A list or map push, given the state behind its header. -/
theorem pushContainer_run (segment : MessageBuilderSegment) (members : Nat) {tag : UInt8}
    {size : Nat} {t : MessageBuilderState}
    (hheader : (putByte tag >>= fun _ => writeSizeLen size).run
      (ready s segment (1 + calcSizeLen size)) = .ok () t) :
    (pushContainer tag size members segment).run s
      = .ok (⟨UInt32.ofNat members, 0, t.currentLevel + 1⟩, segment.wrote)
          { t with currentLevel := t.currentLevel + 1 } := by
  rw [pushContainer, ready_run, run_seq_ok hheader, run_modify_bind, run_get_bind, EStateM.run_pure]

end Runs

end FlutterWlroots.StandardMessageCodec
