/-
  FlutterWlroots.Codec.MessageBuilderTree — method calls built with the message builder.

  `pushValue` is how the compositor uses the builder: a container is pushed with its size, its
  members into the segment that the push returns, and that segment is finished.  For trees whose
  sizes fit the short prefix the builder writes the format, so `platch_decode` reads the call back
  (`platchDecode_buildMethodCall`), whatever its total size.
-/
import FlutterWlroots.Codec.PlatchDecodeWire
import FlutterWlroots.Codec.MessageBuilderSpec

namespace FlutterWlroots.StandardMessageCodec

open Lib.LittleEndian Lib.Mem Lib.CInt Lib.StateRun
open FlutterWlroots.Codec FlutterWlroots.PlatformChannel

/-! ## §1. Pushing a tree. -/

/-- Node types that are pushed, with sizes in the short form. -/
def isPushable : StdValue → Bool
  | .kStdNull | .kStdTrue | .kStdFalse | .kStdInt32 _ | .kStdInt64 _ | .kStdFloat64 _ => true
  | .kStdString s => s.strlen ≤ 253
  | .kStdUInt8Array a => a.length ≤ 253
  | .kStdList xs => xs.length ≤ 253
  | .kStdMap es => es.length ≤ 253
  | _ => false

/-- A tree of such nodes. -/
def Pushable (v : StdValue) : Prop := v.everyNode isPushable = true

instance (v : StdValue) : Decidable (Pushable v) := inferInstanceAs (Decidable (_ = _))

mutual
/-- The pushes of a tree into a segment. -/
def pushValue (segment : MessageBuilderSegment) : StdValue → BuilderM MessageBuilderSegment
  | .kStdNull => pushNull segment
  | .kStdTrue => pushBool segment true
  | .kStdFalse => pushBool segment false
  | .kStdInt32 v => pushInt32 segment v
  | .kStdInt64 v => pushInt64 segment v
  | .kStdFloat64 v => pushFloat64 segment v
  | .kStdString s => pushString segment s
  | .kStdUInt8Array a => pushUInt8List segment a
  | .kStdInt32Array a => pushInt32List segment a
  | .kStdInt64Array a => pushInt64List segment a
  | .kStdFloat64Array a => pushFloat64List segment a
  | .kStdList xs => do
      let (members, segment) ← pushList segment xs.length
      let members ← pushValues members xs
      segmentFinish members
      return segment
  | .kStdMap es => do
      let (members, segment) ← pushMap segment es.length
      let members ← pushEntries members es
      segmentFinish members
      return segment
  -- the builder has no push for the other types
  | .kStdLargeInt _ | .unknown _ _ => return segment
def pushValues (segment : MessageBuilderSegment) : List StdValue → BuilderM MessageBuilderSegment
  | [] => return segment
  | x :: xs => do
      let segment ← pushValue segment x
      pushValues segment xs
def pushEntries (segment : MessageBuilderSegment) :
    List (StdValue × StdValue) → BuilderM MessageBuilderSegment
  | [] => return segment
  | (k, v) :: es => do
      let segment ← pushValue segment k
      let segment ← pushValue segment v
      pushEntries segment es
end

/-- A method call: one segment for the name and one for the argument, then the finished buffer. -/
def buildMethodCall (method : CString) (arg : StdValue) : BuilderM Block := do
  let segment ← messageBuilderSegment
  let segment ← pushString segment method
  segmentFinish segment
  let segment ← messageBuilderSegment
  let segment ← pushValue segment arg
  segmentFinish segment
  let s ← get
  return messageBuilderFinish s

/-! ## §2. The builder writes the format. -/

open MessageBuilderState (Grown)

/-- A run of `m` from `s` appends bytes that show `cells`. -/
def Shows {α : Type} (s : MessageBuilderState) (m : BuilderM α) (cells : List (Option UInt8)) :
    Prop :=
  ∃ r s' bs, m.run s = .ok r s' ∧ Grown s s' bs ∧ Agrees cells bs

variable {s : MessageBuilderState} {segment : MessageBuilderSegment}

theorem Shows.bind {α β : Type} {m : BuilderM α} {f : α → BuilderM β}
    {cells cells' : List (Option UInt8)} (h : Shows s m cells)
    (h' : ∀ (r : α) (s' : MessageBuilderState), s'.WF →
      s'.bufferLen = s.bufferLen + cells.length → Shows s' (f r) cells') :
    Shows s (m >>= f) (cells ++ cells') := by
  obtain ⟨r, s', bs, hrun, hgrown, hbs⟩ := h
  have hlen : s'.bufferLen = s.bufferLen + cells.length := by
    rw [hgrown.bufferLen_eq, hbs.length]
  obtain ⟨r', s'', bs', hrun', hgrown', hbs'⟩ := h' r s' hgrown.wf hlen
  exact ⟨r', s'', bs ++ bs', by rw [run_bind_ok hrun, hrun'], hgrown.trans hgrown',
    agrees_append.mpr ⟨bs, bs', rfl, hbs, hbs'⟩⟩

/-- A run that appends nothing. -/
theorem shows_nil {α : Type} {m : BuilderM α} {r : α} {s' : MessageBuilderState}
    (hrun : m.run s = .ok r s') (hs : s.WF) (hbuffer : s'.buffer = s.buffer)
    (hlen : s'.bufferLen = s.bufferLen) : Shows s m [] :=
  ⟨r, s', [], hrun, MessageBuilderState.grown_of_eq hs hbuffer hlen, agrees_nil⟩

theorem shows_pure {α : Type} (a : α) (hs : s.WF) : Shows s (pure a : BuilderM α) [] :=
  shows_nil (EStateM.run_pure a s) hs rfl rfl

theorem shows_segmentFinish (hs : s.WF) : Shows s (segmentFinish segment) [] := by
  obtain ⟨s', hrun, hbuffer, hlen⟩ : ∃ s', (segmentFinish segment).run s = .ok () s'
      ∧ s'.buffer = (s.asserted segment).buffer
      ∧ s'.bufferLen = (s.asserted segment).bufferLen := by
    rw [segmentFinish, run_bind_ok assertLevel_run, EStateM.run_modify]
    exact ⟨_, rfl, rfl, rfl⟩
  exact shows_nil hrun hs (hbuffer.trans MessageBuilderState.asserted_buffer)
    (hlen.trans MessageBuilderState.asserted_bufferLen)

theorem shows_messageBuilderSegment (hs : s.WF) : Shows s messageBuilderSegment [] := by
  have hrun : messageBuilderSegment.run s = .ok ⟨1, 0, 1⟩ { s with currentLevel := 1 } := by
    rw [messageBuilderSegment, run_modify_bind, EStateM.run_pure]
  exact shows_nil hrun hs rfl rfl

/-- A push that appends `bs` behind what it has reserved. -/
theorem shows_ready {α : Type} {m : BuilderM α} {r : α} {k : Nat} {bs : List UInt8}
    {cells : List (Option UInt8)} (hrun : m.run s = .ok r ((ready s segment k).append bs))
    (hs : s.WF) (hk : bs.length ≤ k) (hbs : Agrees cells bs) : Shows s m cells :=
  ⟨r, _, bs, hrun, grown_ready_append _ _ hs hk, hbs⟩

theorem shows_pushSizedBytes {tag : Nat} {bytes : List UInt8} (hs : s.WF)
    (hn : bytes.length ≤ 253) :
    Shows s (pushSizedBytes (UInt8.ofNat tag) bytes segment)
      (fixed (header tag bytes.length ++ bytes)) := by
  have hone : calcSizeLen bytes.length = 1 := by
    rw [calcSizeLen_eq, sizePrefix_of_small hn, List.length_singleton]
  have hlen : (header tag bytes.length).length = 2 := by
    rw [length_header, ← calcSizeLen_eq, hone]
  have hroom := ready_room segment hs (1 + calcSizeLen bytes.length + bytes.length)
  have hrun := pushSizedBytes_run (s := s) segment
    (header_run_small (UInt8.ofNat tag) hn (by omega))
    (MessageBuilderState.append_room (by rw [← header, hlen]; omega))
  rw [← header, MessageBuilderState.append_append (by rw [hlen]; omega)] at hrun
  exact shows_ready hrun hs (by rw [List.length_append, hlen, hone]) (agrees_fixed.mpr rfl)

theorem shows_pushContainer {tag size members : Nat} (hs : s.WF) (hn : size ≤ 253) :
    Shows s (pushContainer (UInt8.ofNat tag) size members segment) (fixed (header tag size)) := by
  have hone : calcSizeLen size = 1 := by
    rw [calcSizeLen_eq, sizePrefix_of_small hn, List.length_singleton]
  have hlen : (header tag size).length = 2 := by
    rw [length_header, ← calcSizeLen_eq, hone]
  have hroom := ready_room segment hs (1 + calcSizeLen size)
  have hrun := pushContainer_run (s := s) segment members
    (header_run_small (UInt8.ofNat tag) hn (by omega))
  have hgrown := grown_ready_append segment (header tag size) (k := 1 + calcSizeLen size) hs
    (by rw [hlen]; omega)
  have hlevel := hgrown.trans (hgrown.wf.leveled
    (((ready s segment (1 + calcSizeLen size)).append (header tag size)).currentLevel + 1))
  rw [List.append_nil] at hlevel
  exact ⟨_, _, _, hrun, hlevel, agrees_fixed.mpr rfl⟩

/-- A container: its header, its members, and the end of their segment. -/
theorem Shows.container {push : BuilderM (MessageBuilderSegment × MessageBuilderSegment)}
    {bs : List UInt8} {cells : List (Option UInt8)} (h : Shows s push (fixed bs))
    (body : MessageBuilderSegment → BuilderM MessageBuilderSegment)
    (hbody : ∀ (segment : MessageBuilderSegment) (s' : MessageBuilderState), s'.WF →
      s'.bufferLen = s.bufferLen + bs.length → Shows s' (body segment) cells) :
    Shows s (do
        let (members, segment) ← push
        let members ← body members
        segmentFinish members
        return segment) (fixed bs ++ cells) := by
  have hcells : cells = cells ++ ([] ++ []) := by rw [List.append_nil, List.append_nil]
  rw [hcells]
  refine h.bind fun r s' hs' hlen => ?_
  rw [length_fixed] at hlen
  refine (hbody r.1 s' hs' hlen).bind fun members s'' hs'' _ => ?_
  exact (shows_segmentFinish hs'').bind fun _ _ h _ => shows_pure _ h

theorem shows_pushFloat64 {value : BitVec 64} (hs : s.WF) :
    Shows s (pushFloat64 segment value)
      (fixed [6] ++ skipped (padding (s.bufferLen + 1) 8) ++ fixed (leBytes 8 value.toNat)) := by
  refine shows_ready (pushFloat64_run hs) hs (length_float64Bytes_le _ _) ?_
  rw [List.append_assoc, float64Bytes]
  refine agrees_append.mpr ⟨[6], _, rfl, agrees_fixed.mpr rfl, ?_⟩
  exact agrees_append.mpr
    ⟨_, _, rfl, agrees_skipped.mpr List.length_replicate, agrees_fixed.mpr rfl⟩

theorem shows_pushValues : ∀ {xs : List StdValue} {s : MessageBuilderState}
    {segment : MessageBuilderSegment},
    (∀ x ∈ xs, ∀ (s : MessageBuilderState) (segment : MessageBuilderSegment), s.WF →
      Shows s (pushValue segment x) (wire s.bufferLen x)) →
    s.WF → Shows s (pushValues segment xs) (wireList s.bufferLen xs)
  | [], _, segment, _, hs => shows_pure segment hs
  | x :: _, s, segment, hall, hs => by
      rw [wireList, pushValues]
      refine (hall x List.mem_cons_self s segment hs).bind fun segment' s' hs' hlen => ?_
      rw [← hlen]
      exact shows_pushValues (fun y hy => hall y (List.mem_cons_of_mem x hy)) hs'

theorem shows_pushEntries : ∀ {es : List (StdValue × StdValue)} {s : MessageBuilderState}
    {segment : MessageBuilderSegment},
    (∀ e ∈ es, ∀ (s : MessageBuilderState) (segment : MessageBuilderSegment), s.WF →
      Shows s (pushValue segment e.1) (wire s.bufferLen e.1)
        ∧ Shows s (pushValue segment e.2) (wire s.bufferLen e.2)) →
    s.WF → Shows s (pushEntries segment es) (wireEntries s.bufferLen es)
  | [], _, segment, _, hs => shows_pure segment hs
  | (k, v) :: es, s, segment, hall, hs => by
      rw [wireEntries, pushEntries]
      refine (hall (k, v) List.mem_cons_self s segment hs).1.bind fun segment' s' hs' hlen => ?_
      rw [← hlen]
      have hvalue := (hall (k, v) List.mem_cons_self s' segment' hs').2
      refine hvalue.bind fun segment'' s'' hs'' hlen' => ?_
      rw [← hlen']
      exact shows_pushEntries (fun e he => hall e (List.mem_cons_of_mem _ he)) hs''

/-- **The builder writes the format** of every pushable tree. -/
theorem shows_pushValue (v : StdValue) (hpush : Pushable v) :
    ∀ (s : MessageBuilderState) (segment : MessageBuilderSegment), s.WF →
      Shows s (pushValue segment v) (wire s.bufferLen v) := by
  induction v using StdTree.induct
  all_goals
    intro s segment hs
    rw [pushValue, wire]
  case kStdNull => exact shows_ready (pushNull_run hs) hs (Nat.le_refl _) (agrees_fixed.mpr rfl)
  case kStdTrue => exact shows_ready (pushBool_run hs) hs (Nat.le_refl _) (agrees_fixed.mpr rfl)
  case kStdFalse => exact shows_ready (pushBool_run hs) hs (Nat.le_refl _) (agrees_fixed.mpr rfl)
  case kStdInt32 v =>
    exact shows_ready (pushInt32_run hs) hs (by rw [List.length_cons, length_leBytes])
      (agrees_fixed.mpr rfl)
  case kStdInt64 v =>
    exact shows_ready (pushInt64_run hs) hs (by rw [List.length_cons, length_leBytes])
      (agrees_fixed.mpr rfl)
  case kStdFloat64 v => exact shows_pushFloat64 hs
  case kStdString string => exact shows_pushSizedBytes hs (of_decide_eq_true hpush)
  case kStdUInt8Array a => exact shows_pushSizedBytes hs (of_decide_eq_true hpush)
  case kStdList xs ih =>
    obtain ⟨hsize, hall⟩ := StdTree.everyNode_list.mp hpush
    have hheader : Shows s (pushList segment xs.length) (fixed (header 12 xs.length)) :=
      shows_pushContainer hs (of_decide_eq_true hsize)
    refine hheader.container (pushValues · xs) fun members s' hs' hlen => ?_
    rw [← hlen]
    exact shows_pushValues (fun x hx => ih x hx (hall x hx)) hs'
  case kStdMap es ih =>
    obtain ⟨hsize, hall⟩ := StdTree.everyNode_map.mp hpush
    have hheader : Shows s (pushMap segment es.length) (fixed (header 13 es.length)) :=
      shows_pushContainer hs (of_decide_eq_true hsize)
    refine hheader.container (pushEntries · es) fun members s' hs' hlen => ?_
    rw [← hlen]
    exact shows_pushEntries (fun e he s segment hs =>
      ⟨(ih e he).1 (hall e he).1 s segment hs, (ih e he).2 (hall e he).2 s segment hs⟩) hs'
  -- what is left is not pushable
  all_goals cases hpush

/-! ## §3. Method calls. -/

/-- The finished buffer is the message. -/
theorem messageBuilderFinish_cells (hs : s.WF) : (messageBuilderFinish s).cells = s.contents := by
  have hle : s.bufferLen ≤ s.buffer.size := hs
  unfold messageBuilderFinish
  split
  next heq =>
    rw [MessageBuilderState.contents, heq]
    exact (List.take_length).symm
  next =>
    rw [Block.realloc, Nat.sub_eq_zero_of_le hle, List.replicate_zero, List.append_nil]
    rfl

theorem Pushable.fits {v : StdValue} (h : Pushable v) : v.Fits := by
  refine StdTree.everyNode_mono (fun v hv => ?_) v h
  cases v with
  | kStdString s =>
      have hs : s.strlen ≤ 253 := of_decide_eq_true hv
      exact decide_eq_true (by omega)
  | kStdUInt8Array a =>
      have ha : a.length ≤ 253 := of_decide_eq_true hv
      exact decide_eq_true (by omega)
  | kStdList xs =>
      have hxs : xs.length ≤ 253 := of_decide_eq_true hv
      exact decide_eq_true (by omega)
  | kStdMap es =>
      have hes : es.length ≤ 253 := of_decide_eq_true hv
      exact decide_eq_true (by omega)
  | _ => first | rfl | cases hv

/-- A built call shows its name and its argument, and every byte of it is determined. -/
theorem buildMethodCall_run {method : CString} {arg : StdValue} (hmethod : method.strlen ≤ 253)
    (harg : Pushable arg) :
    ∃ block s' bytes, (buildMethodCall method arg).run messageBuilderNew = .ok block s'
      ∧ block.cells = bytes.map some ∧ Agrees (wireList 0 [.kStdString method, arg]) bytes := by
  have hname : Pushable (.kStdString method) := decide_eq_true hmethod
  have hshows : Shows messageBuilderNew (buildMethodCall method arg)
      ([] ++ (wire 0 (.kStdString method) ++ ([] ++ ([] ++
        (wire (wire 0 (.kStdString method)).length arg ++ ([] ++ [])))))) := by
    -- the name, at offset zero
    refine (shows_messageBuilderSegment (Nat.zero_le _)).bind fun segment s hs hlen => ?_
    have hzero : s.bufferLen = 0 := hlen
    have hpush := shows_pushValue (.kStdString method) hname s segment hs
    rw [hzero] at hpush
    refine hpush.bind fun segment s' hs' hlen' => ?_
    refine (shows_segmentFinish hs').bind fun _ s1 hs1 hlen1 => ?_
    -- the argument, behind the name
    refine (shows_messageBuilderSegment hs1).bind fun segment s2 hs2 hlen2 => ?_
    have harg' := shows_pushValue arg harg s2 segment hs2
    have hpos : s2.bufferLen = (wire 0 (.kStdString method)).length := by
      simp only [List.length_nil, Nat.add_zero] at hlen1 hlen2
      omega
    rw [hpos] at harg'
    refine harg'.bind fun segment s3 hs3 _ => ?_
    refine (shows_segmentFinish hs3).bind fun _ s4 hs4 _ => ?_
    exact shows_nil (by rw [run_get_bind, EStateM.run_pure]) hs4 rfl rfl
  simp only [List.nil_append, List.append_nil] at hshows
  obtain ⟨block, s', bytes, hrun, hgrown, hbytes⟩ := hshows
  refine ⟨block, s', bytes, hrun, ?_, ?_⟩
  · -- the last step of the run returns the finished buffer of the state it ends in
    have hblock : block = messageBuilderFinish s' := by
      obtain ⟨_, t, -, h⟩ := run_bind_eq_ok.mp hrun
      obtain ⟨_, t, -, h⟩ := run_bind_eq_ok.mp h
      obtain ⟨_, t, -, h⟩ := run_bind_eq_ok.mp h
      obtain ⟨_, t, -, h⟩ := run_bind_eq_ok.mp h
      obtain ⟨_, t, -, h⟩ := run_bind_eq_ok.mp h
      obtain ⟨_, t, -, h⟩ := run_bind_eq_ok.mp h
      rw [run_get_bind] at h
      obtain ⟨rfl, rfl⟩ := run_pure_eq_ok.mp h
      rfl
    rw [hblock, messageBuilderFinish_cells hgrown.wf, hgrown.contents_eq]
    rfl
  · simpa only [wireList, List.append_nil, Nat.zero_add] using hbytes

/-- **Builder and decoder agree on method calls.**  A name and a pushable tree, built with the
message builder, are decoded as that name and that tree, and no byte is left. -/
theorem platchDecode_buildMethodCall (base : Nat) (hb : base % 8 = 0) (method : CString)
    (hmethod : method.strlen ≤ 253) (arg : StdValue) (harg : Pushable arg) :
    ∃ block s' bytes, (buildMethodCall method arg).run messageBuilderNew = .ok block s'
      ∧ block.cells = bytes.map some
      ∧ ∃ d, runDecode base bytes .kStandardMethodCall = .ok (.kStandardMethodCall method d)
            ⟨bytes.length, 0⟩
          ∧ d.load bytes = some arg := by
  obtain ⟨block, s', bytes, hrun, hcells, hbytes⟩ := buildMethodCall_run hmethod harg
  exact ⟨block, s', bytes, hrun, hcells, runDecode_methodCall hb (by omega) harg.fits hbytes⟩

end FlutterWlroots.StandardMessageCodec
