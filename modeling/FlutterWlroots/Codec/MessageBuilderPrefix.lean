/-
  FlutterWlroots.Codec.MessageBuilderPrefix — size prefixes and the bytes before them.

  A push of a string, byte list, list or map should leave the message so far alone and append its
  type byte and a size prefix.  `appendsSized_iff` says in which reachable states it does: for sizes
  up to 253 in all of them.  In the longer forms `WRITE_SIZE_LEN` stores the size bytes at the start
  of the buffer, so it does only where the bytes that should have been stored are there already.
-/
import FlutterWlroots.Codec.MessageReadWire
import FlutterWlroots.Codec.MessageBuilderRun

namespace FlutterWlroots.StandardMessageCodec

open Lib Lib.LittleEndian Lib.Mem Lib.CInt Lib.StateRun
open FlutterWlroots.Codec FlutterWlroots.PlatformChannel

/-! ## §1. The property. -/

/-- Both readers find the size `n` at `offset`, in a prefix of `CALC_SIZE_LEN` bytes. -/
def ReadsSize (bytes : List UInt8) (offset n : Nat) : Prop :=
  (readLength bytes bytes.length).run offset = .ok n (offset + calcSizeLen n)
    ∧ (readSize bytes).run ⟨offset, bytes.length - offset⟩
        = .ok n (Cursor.skip ⟨offset, bytes.length - offset⟩ (calcSizeLen n))

/-- The push leaves the message so far alone and appends its type byte and its size. -/
def AppendsSized (s : MessageBuilderState) (segment : MessageBuilderSegment) (push : SizedPush) :
    Prop :=
  ∃ s', (push.exec segment).run s = .ok () s'
    ∧ (∀ j < s.bufferLen, s'.buffer.cells[j]? = s.buffer.cells[j]?)
    ∧ s'.buffer.cells[s.bufferLen]? = some (some push.tag)
    ∧ ∀ bytes, Agrees s'.contents bytes → ReadsSize bytes (s.bufferLen + 1) push.size

/-- The size bytes of the longer forms are found both at the start of the message, where they are
stored, and behind the marker, where they are read. -/
def Coincides (s : MessageBuilderState) (push : SizedPush) : Prop :=
  ∀ i < (lengthBytes push.size).length,
    (i < s.bufferLen → s.buffer.cells[i]? = some (lengthBytes push.size)[i]?)
      ∧ (i = s.bufferLen → (lengthBytes push.size)[i]? = some push.tag)
      ∧ s.buffer.cells[s.bufferLen + 2 + i]? = some (lengthBytes push.size)[i]?

/-! ## §2. Reading a prefix. -/

/-- A prefix that stands in determined cells is read by both readers. -/
theorem readsSize_of_cells {s : MessageBuilderState} (hs : s.WF) {p n : Nat} (hn : n < 2 ^ 32)
    (hp : p + (sizePrefix n).length ≤ s.bufferLen)
    (h : ∀ i < (sizePrefix n).length, s.buffer.cells[p + i]? = some (sizePrefix n)[i]?)
    {bytes : List UInt8} (hbytes : Agrees s.contents bytes) : ReadsSize bytes p n := by
  have hlen : bytes.length = s.bufferLen := by rw [← hbytes.length, hs.length_contents]
  have hget : ∀ i < (sizePrefix n).length, bytes[p + i]? = (sizePrefix n)[i]? := by
    intro i hi
    rw [List.getElem?_eq_getElem hi]
    apply hbytes.getElem?
    rw [MessageBuilderState.contents, List.getElem?_take_of_lt (by omega), h i hi,
      List.getElem?_eq_getElem hi]
  have hsuffix := SuffixAt.of_getElem? (by omega) hget
  have hat : At bytes ⟨p, bytes.length - p⟩
      (sizePrefix n ++ bytes.drop (p + (sizePrefix n).length)) := by
    refine ⟨hsuffix, ?_⟩
    have hadd := hsuffix.add_length
    show bytes.length - p = _
    omega
  rw [ReadsSize, calcSizeLen_eq]
  exact ⟨readLength_run hn hsuffix, readSize_run hn hat⟩

theorem requireData_eq_ok {length n offset offset' : Nat}
    (h : (requireData length n).run offset = .ok () offset') : offset' = offset := by
  rw [requireData, run_get_bind] at h
  split at h
  · exact (run_throw_eq_ok.mp h).elim
  · exact (run_pure_eq_ok.mp h).2.symm

theorem takeUInt_eq_ok {bytes : List UInt8} {k n offset offset' : Nat}
    (h : (takeUInt bytes k).run offset = .ok n offset') :
    offset + k ≤ bytes.length ∧ n = leNat ((bytes.drop offset).take k) ∧ offset' = offset + k := by
  obtain ⟨bs, o, htake, hpure⟩ := run_bind_eq_ok.mp h
  obtain ⟨rfl, rfl⟩ := run_pure_eq_ok.mp hpure
  rw [takeBytes, run_get_bind] at htake
  split at htake
  next hle =>
    rw [run_set_bind] at htake
    obtain ⟨rfl, rfl⟩ := run_pure_eq_ok.mp htake
    exact ⟨hle, rfl, rfl⟩
  next => exact (run_throw_eq_ok.mp htake).elim

theorem leNat_lengthBytes {n : Nat} (hlarge : 254 ≤ n) (hn : n < 2 ^ 32) :
    leNat (lengthBytes n) = n := by
  unfold lengthBytes
  split
  · exact leNat_leBytes_of_lt (by omega)
  · exact leNat_leBytes_of_lt (by omega)

/-- A reader that finds a longer prefix for `n` has found the size bytes of `n`. -/
theorem lengthBytes_of_readLength {bytes : List UInt8} {n offset : Nat} (hlarge : 254 ≤ n)
    (hn : n < 2 ^ 32)
    (h : (readLength bytes bytes.length).run offset = .ok n (offset + calcSizeLen n)) :
    (bytes.drop (offset + 1)).take (lengthBytes n).length = lengthBytes n := by
  have hcalc := calcSizeLen_of_large hlarge
  have hw := length_lengthBytes n
  obtain ⟨_, o1, hreq, h⟩ := run_bind_eq_ok.mp h
  obtain rfl := requireData_eq_ok hreq
  obtain ⟨first, o2, htake, h⟩ := run_bind_eq_ok.mp h
  obtain ⟨-, -, rfl⟩ := takeUInt_eq_ok htake
  -- the number of bytes read tells which form was found
  have hform : ∀ k, (takeUInt bytes k).run (o1 + 1) = .ok n (o1 + calcSizeLen n) →
      (bytes.drop (o1 + 1)).take (lengthBytes n).length = lengthBytes n := by
    intro k hk
    obtain ⟨hle, hnat, hoff⟩ := takeUInt_eq_ok hk
    have hkw : k = (lengthBytes n).length := by omega
    subst hkw
    apply leNat_inj
    · rw [List.length_take, List.length_drop]
      omega
    · rw [← hnat, leNat_lengthBytes hlarge hn]
  split at h
  · obtain ⟨_, o3, hreq, h⟩ := run_bind_eq_ok.mp h
    obtain rfl := requireData_eq_ok hreq
    exact hform 4 h
  · split at h
    · obtain ⟨_, o3, hreq, h⟩ := run_bind_eq_ok.mp h
      obtain rfl := requireData_eq_ok hreq
      exact hform 2 h
    · have hoff := (run_pure_eq_ok.mp h).2
      omega

/-! ## §3. Sized pushes. -/

section Push

variable {s : MessageBuilderState} {segment : MessageBuilderSegment} {push : SizedPush}

/-- The state a sized push stores into. -/
def readySized (s : MessageBuilderState) (segment : MessageBuilderSegment) (push : SizedPush) :
    MessageBuilderState :=
  ready s segment (1 + calcSizeLen push.size + push.payload.length)

/-- A sized push is its header and its payload. -/
theorem sizedPush_run {t : MessageBuilderState}
    (hheader :
      (putByte push.tag >>= fun _ => writeSizeLen push.size).run (readySized s segment push)
      = .ok () t)
    (hroom : t.bufferLen + push.payload.length ≤ t.buffer.size) :
    ∃ s', (push.exec segment).run s = .ok () s' ∧ s'.buffer = (t.append push.payload).buffer
      ∧ s'.bufferLen = t.bufferLen + push.payload.length := by
  cases push with
  | string _ => exact ⟨_, run_discard (pushSizedBytes_run _ hheader hroom), rfl, rfl⟩
  | uint8List _ => exact ⟨_, run_discard (pushSizedBytes_run _ hheader hroom), rfl, rfl⟩
  | list _ =>
      refine ⟨_, run_discard (pushContainer_run _ _ hheader), ?_, rfl⟩
      show t.buffer = (t.append []).buffer
      rw [MessageBuilderState.append_nil]
  | map _ =>
      refine ⟨_, run_discard (pushContainer_run _ _ hheader), ?_, rfl⟩
      show t.buffer = (t.append []).buffer
      rw [MessageBuilderState.append_nil]

/-- A sized push in the short form appends its header and its payload. -/
theorem sizedPush_run_small (segment : MessageBuilderSegment) (hs : s.WF) (hn : push.size ≤ 253) :
    ∃ s', (push.exec segment).run s = .ok () s'
      ∧ MessageBuilderState.Grown s s' (push.tag :: sizePrefix push.size ++ push.payload) := by
  have hone : calcSizeLen push.size = 1 := by
    rw [calcSizeLen_eq, sizePrefix_of_small hn, List.length_singleton]
  have hlen : (push.tag :: sizePrefix push.size).length = 2 := by
    rw [List.length_cons, sizePrefix_of_small hn, List.length_singleton]
  have hroom := ready_room segment hs (1 + calcSizeLen push.size + push.payload.length)
  have hroom' : ((readySized s segment push).append (push.tag :: sizePrefix push.size)).bufferLen
      + push.payload.length
        ≤ ((readySized s segment push).append (push.tag :: sizePrefix push.size)).buffer.size :=
    MessageBuilderState.append_room (by rw [hlen]; rw [hone] at hroom; rwa [readySized, hone])
  obtain ⟨s', hrun, hbuffer, hlen'⟩ := sizedPush_run
    (header_run_small (s := readySized s segment push) push.tag hn
      (by rw [readySized]; omega)) hroom'
  refine ⟨s', hrun, ?_⟩
  have hgrown : MessageBuilderState.Grown s
      ((readySized s segment push).append (push.tag :: sizePrefix push.size))
      (push.tag :: sizePrefix push.size) :=
    grown_ready_append _ _ hs (by rw [hlen]; omega)
  have hpayload := hgrown.trans (MessageBuilderState.grown_append hroom')
  have heq := hpayload.trans (MessageBuilderState.grown_of_eq hpayload.wf hbuffer hlen')
  rwa [List.append_nil] at heq

/-- The cells behind a sized push in one of the longer forms. -/
theorem sizedPush_run_large (segment : MessageBuilderSegment) (hs : s.WF) (hn : 254 ≤ push.size) :
    ∃ s', (push.exec segment).run s = .ok () s' ∧ s'.WF
      ∧ s'.bufferLen = s.bufferLen + (1 + calcSizeLen push.size) + push.payload.length
      ∧ ∀ j < s.bufferLen + (1 + calcSizeLen push.size), s'.buffer.cells[j]? =
          if j < (lengthBytes push.size).length then some (lengthBytes push.size)[j]?
          else if j = s.bufferLen + 1 then some (some (lengthMarker push.size))
          else if j = s.bufferLen then some (some push.tag)
          else (readySized s segment push).buffer.cells[j]? := by
  have hroom := ready_room segment hs (1 + calcSizeLen push.size + push.payload.length)
  have hlenReady : (readySized s segment push).bufferLen = s.bufferLen := ready_bufferLen
  obtain ⟨t, hrun, hlen, hsize, hcells⟩ := header_run_large (s := readySized s segment push)
    push.tag hn (by rw [readySized]; omega)
  rw [hlenReady] at hlen hcells
  have hroom' : t.bufferLen + push.payload.length ≤ t.buffer.size := by
    rw [hlen, hsize, readySized]
    rw [ready_bufferLen] at hroom
    omega
  obtain ⟨s', hexec, hbuffer, hlen'⟩ := sizedPush_run hrun hroom'
  refine ⟨s', hexec, ?_, by rw [hlen', hlen], fun j hj => ?_⟩
  · rw [MessageBuilderState.WF, hbuffer, hlen', MessageBuilderState.append_size hroom']
    exact hroom'
  · rw [hbuffer, MessageBuilderState.getElem?_append hroom', if_neg (by omega), hcells]

theorem readySized_getElem? {j : Nat} {x : UInt8} :
    (readySized s segment push).buffer.cells[j]? = some (some x)
      ↔ s.buffer.cells[j]? = some (some x) := by
  rw [readySized, ready, MessageBuilderState.reserved_getElem?, MessageBuilderState.asserted_buffer]

theorem readySized_getElem?_of_lt (hs : s.WF) {j : Nat} (hj : j < s.bufferLen) :
    (readySized s segment push).buffer.cells[j]? = s.buffer.cells[j]? := by
  rw [readySized, ready, MessageBuilderState.reserved_getElem?_of_lt
    (by rw [MessageBuilderState.asserted_buffer]; exact Nat.lt_of_lt_of_le hj hs),
    MessageBuilderState.asserted_buffer]

/-! ## §4. When a push appends. -/

/-- The short form appends in every state. -/
theorem appendsSized_of_small (hs : s.WF) (hn : push.size ≤ 253) : AppendsSized s segment push := by
  obtain ⟨s', hrun, hgrown⟩ := sizedPush_run_small segment hs hn
  have hcontents : ∀ j < s'.bufferLen, s'.buffer.cells[j]?
      = (s.contents ++ (push.tag :: sizePrefix push.size ++ push.payload).map some)[j]? := by
    intro j hj
    rw [← hgrown.contents_eq, MessageBuilderState.contents, List.getElem?_take_of_lt hj]
  have hlen := hgrown.bufferLen_eq
  have hs0 := hs.length_contents
  rw [List.length_append, List.length_cons] at hlen
  refine ⟨s', hrun, fun j hj => ?_, ?_, fun bytes hbytes => ?_⟩
  · rw [hcontents j (by omega), List.getElem?_append_left (by omega), MessageBuilderState.contents,
      List.getElem?_take_of_lt hj]
  · rw [hcontents _ (by omega), List.getElem?_append_right (by omega), hs0, Nat.sub_self]
    rfl
  · refine readsSize_of_cells hgrown.wf (by omega) (by omega) (fun i hi => ?_) hbytes
    have hidx : s.bufferLen + 1 + i - s.bufferLen = i + 1 := by omega
    rw [hcontents _ (by omega), List.getElem?_append_right (by omega), hs0, hidx, List.cons_append,
      List.map_cons, List.getElem?_cons_succ, List.getElem?_map, List.getElem?_append_left hi,
      List.getElem?_eq_getElem hi]
    rfl

/-- Where the size bytes coincide with what is there, a longer form appends. -/
theorem appendsSized_of_coincides (hs : s.Inv) (hn : 254 ≤ push.size) (hsize : push.size < 2 ^ 32)
    (h : Coincides s push) : AppendsSized s segment push := by
  obtain ⟨s', hrun, hwf, hlen, hcells⟩ := sizedPush_run_large segment hs.wf hn
  have hcalc := calcSizeLen_of_large hn
  have hw := length_lengthBytes push.size
  -- stored bytes behind the fill: more than two bytes have been pushed
  have hthree : 2 < s.bufferLen := by
    by_contra hle
    obtain ⟨-, -, hbehind⟩ := h 0 (by omega)
    rw [List.getElem?_eq_getElem (show 0 < (lengthBytes push.size).length by omega)] at hbehind
    exact hs.fresh (by omega) _ (by omega) _ hbehind
  refine ⟨s', hrun, fun j hj => ?_, ?_, fun bytes hbytes => ?_⟩
  · rw [hcells j (by omega)]
    split
    next hjw => exact ((h j hjw).1 hj).symm
    next => rw [if_neg (by omega), if_neg (by omega), readySized_getElem?_of_lt hs.wf hj]
  · rw [hcells _ (by omega)]
    split
    next hbw => rw [(h _ hbw).2.1 rfl]
    next => rw [if_neg (by omega), if_pos rfl]
  · refine readsSize_of_cells hwf hsize (by rw [← calcSizeLen_eq]; omega) (fun i hi => ?_) hbytes
    rw [sizePrefix_of_large hn] at hi ⊢
    rw [List.length_cons] at hi
    rw [hcells _ (by omega), if_neg (by omega)]
    cases i with
    | zero => rw [if_pos (Nat.add_zero _), List.getElem?_cons_zero]
    | succ i =>
        have hbehind := (h i (by omega)).2.2
        rw [if_neg (by omega), if_neg (by omega), List.getElem?_cons_succ,
          List.getElem?_eq_getElem (show i < (lengthBytes push.size).length by omega)]
        rw [List.getElem?_eq_getElem (show i < (lengthBytes push.size).length by omega)] at hbehind
        rw [readySized_getElem?, ← hbehind]
        congr 1
        omega

/-- Cells that show the same bytes in every content are determined. -/
theorem determined_of_agrees {cells : List (Option UInt8)} {j : Nat} {x : UInt8}
    (hj : j < cells.length) (h : ∀ bytes, Agrees cells bytes → bytes[j]? = some x) :
    cells[j]? = some (some x) := by
  have hfill : ∀ fill : UInt8, (cells[j]).getD fill = x := by
    intro fill
    have hget := h _ (agrees_filled fill cells)
    rw [filled, List.getElem?_map, List.getElem?_eq_getElem hj, Option.map_some,
      Option.some.injEq] at hget
    exact hget
  rw [List.getElem?_eq_getElem hj]
  cases hcell : cells[j] with
  | some y =>
      have h0 := hfill 0
      rw [hcell] at h0
      rw [← h0]
      rfl
  | none =>
      have h0 := hfill 0
      have h1 := hfill 1
      rw [hcell] at h0 h1
      exact absurd (h0.trans h1.symm) (by decide)

/-- Where a longer form appends, the size bytes coincide with what was there. -/
theorem coincides_of_appendsSized (hs : s.Inv) (hn : 254 ≤ push.size) (hsize : push.size < 2 ^ 32)
    (h : AppendsSized s segment push) : Coincides s push := by
  obtain ⟨s', hrun, hkept, htag, hreads⟩ := h
  obtain ⟨s'', hrun', hwf, hlen, hcells⟩ := sizedPush_run_large segment hs.wf hn
  rw [hrun] at hrun'
  cases hrun'
  have hcalc := calcSizeLen_of_large hn
  have hw := length_lengthBytes push.size
  -- what is read behind the marker is determined, and the size bytes
  have hread : ∀ i (hi : i < (lengthBytes push.size).length),
      s'.buffer.cells[s.bufferLen + 2 + i]? = some (some (lengthBytes push.size)[i]) := by
    intro i hi
    have hcontents :
        s'.contents[s.bufferLen + 2 + i]? = some (some (lengthBytes push.size)[i]) := by
      refine determined_of_agrees (by rw [hwf.length_contents]; omega) fun bytes hbytes => ?_
      have hbytesAt := lengthBytes_of_readLength hn hsize (hreads bytes hbytes).1
      have hget : ((bytes.drop (s.bufferLen + 1 + 1)).take (lengthBytes push.size).length)[i]?
          = some (lengthBytes push.size)[i] := by
        rw [hbytesAt, List.getElem?_eq_getElem hi]
      rwa [List.getElem?_take_of_lt hi, List.getElem?_drop] at hget
    rwa [MessageBuilderState.contents, List.getElem?_take_of_lt (by omega)] at hcontents
  -- the last of them lies where the push does not store
  have hthree : 2 < s.bufferLen := by
    by_contra hle
    have hlast := hread ((lengthBytes push.size).length - 1) (by omega)
    rw [hcells _ (by omega), if_neg (by omega), if_neg (by omega), if_neg (by omega),
      readySized_getElem?] at hlast
    exact hs.fresh (by omega) _ (by omega) _ hlast
  intro i hi
  refine ⟨fun hib => ?_, fun hib => ?_, ?_⟩
  · rw [← hkept i hib, hcells i (by omega), if_pos hi]
  · subst hib
    rw [hcells _ (by omega), if_pos hi] at htag
    exact Option.some.inj htag
  · have hbehind := hread i hi
    rw [hcells _ (by omega), if_neg (by omega), if_neg (by omega), if_neg (by omega),
      readySized_getElem?] at hbehind
    rw [hbehind, List.getElem?_eq_getElem hi]

end Push

/-- **When a sized push appends**: for sizes up to 253 always, above only where the size bytes
coincide with what the buffer holds already. -/
theorem appendsSized_iff (s : MessageBuilderState) (hs : builder.Reachable s)
    (segment : MessageBuilderSegment) (push : SizedPush) (hsize : push.size < 2 ^ 32) :
    AppendsSized s segment push ↔ push.size ≤ 253 ∨ Coincides s push := by
  have hinv := reachable_inv hs
  by_cases hn : push.size ≤ 253
  · exact ⟨fun _ => .inl hn, fun _ => appendsSized_of_small hinv.wf hn⟩
  · constructor
    · intro h
      exact .inr (coincides_of_appendsSized hinv (by omega) hsize h)
    · rintro (hsmall | hcoincides)
      · exact absurd hsmall hn
      · exact appendsSized_of_coincides hinv (by omega) hsize hcoincides

/-- A list of three behind a null: the null stays. -/
theorem appendsSized_iff_behind :
    AppendsSized ⟨⟨some 0 :: List.replicate 31 none⟩, 1, 1, []⟩ ⟨1, 0, 1⟩ (.list 3) := by
  have hreach : builder.Reachable
      ⟨⟨some 0 :: List.replicate 31 none⟩, 1, 1, []⟩ :=
    Machine.reach_exec [.segment, .push ⟨1, 0, 1⟩ .null] Machine.Reach.init rfl
  apply (appendsSized_iff _ hreach ⟨1, 0, 1⟩ (.list 3) (by decide)).mpr
  exact .inl (by decide)

/-- A null and then a list of 254: the size bytes of the list overwrite the null. -/
theorem not_appendsSized_list :
    ¬ ∀ s, builder.Reachable s → ∀ segment (push : SizedPush), push.size < 2 ^ 32 →
      AppendsSized s segment push := by
  intro h
  have hreach : builder.Reachable
      ⟨⟨some 0 :: List.replicate 31 none⟩, 1, 1, []⟩ :=
    Machine.reach_exec [.segment, .push ⟨1, 0, 1⟩ .null] Machine.Reach.init rfl
  obtain ⟨s', hrun, hkept, -⟩ := h _ hreach ⟨1, 0, 1⟩ (.list 254) (by decide)
  have hlist : ((SizedPush.list 254).exec ⟨1, 0, 1⟩).run
      ⟨⟨some 0 :: List.replicate 31 none⟩, 1, 1, []⟩
        = .ok () ⟨⟨some 254 :: some 0 :: some 254 :: List.replicate 29 none⟩, 5, 2, []⟩ := rfl
  rw [hlist] at hrun
  cases hrun
  exact absurd (hkept 0 (by decide)) (by decide)

end FlutterWlroots.StandardMessageCodec
