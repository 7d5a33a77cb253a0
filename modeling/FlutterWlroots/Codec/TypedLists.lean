/-
  FlutterWlroots.Codec.TypedLists — what the decoder makes of a typed list of the builder.

  The builder aligns in front of the type byte and puts the elements right behind the size; then it
  advances its fill by the number of elements, not of their bytes.  The decoder expects the type byte
  where the value starts and the padding behind the size.  They agree about no typed list:

    • where padding comes first, its zero is read as a null,
    • where none does, the decoder goes on by padding that the builder has not written, and by all
      bytes of the elements (`arrayEnd`),
    • `not_readsBack` — so no list is read back, at whatever fill, of whatever length.
-/
import FlutterWlroots.Codec.PlatchDecodeWire
import FlutterWlroots.Codec.MessageBuilderRun

namespace FlutterWlroots.StandardMessageCodec

open Lib Lib.LittleEndian Lib.Mem Lib.CInt Lib.StateRun
open FlutterWlroots.Codec FlutterWlroots.PlatformChannel

/-! ## §1. Typed lists. -/

/-- The lists that the decoder knows as arrays. -/
inductive TypedList where
  | int32 (vals : List (BitVec 32))
  | int64 (vals : List (BitVec 64))
  | float64 (vals : List (BitVec 64))

namespace TypedList

/-- The number of elements. -/
def length : TypedList → Nat
  | int32 vals => vals.length
  | int64 vals => vals.length
  | float64 vals => vals.length

/-- The size of an element. -/
def width : TypedList → Nat
  | int32 _ => 4
  | int64 _ => 8
  | float64 _ => 8

/-- The type byte. -/
def tag : TypedList → UInt8
  | int32 _ => 9
  | int64 _ => 10
  | float64 _ => 11

/-- The push. -/
def push (segment : MessageBuilderSegment) : TypedList → BuilderM MessageBuilderSegment
  | int32 vals => pushInt32List segment vals
  | int64 vals => pushInt64List segment vals
  | float64 vals => pushFloat64List segment vals

/-- The array that is meant. -/
def value : TypedList → StdValue
  | int32 vals => .kStdInt32Array vals
  | int64 vals => .kStdInt64Array vals
  | float64 vals => .kStdFloat64Array vals

end TypedList

/-- Decoding `bytes` from `start` on yields the value and ends at `stop`. -/
def ReadsBack (base : Nat) (bytes : List UInt8) (start : Nat) (v : StdValue) (stop : Nat) : Prop :=
  ∃ d c, (platchDecodeValueStd base bytes (bytes.length + 1)).run ⟨start, bytes.length - start⟩
      = .ok d c ∧ d.load bytes = some v ∧ c.pos = stop

/-! ## §2. What the builder writes. -/

section Builder

variable {s : MessageBuilderState} {segment : MessageBuilderSegment}

/-- The padding, the type byte and the size of a list that is pushed at fill `p`. -/
def listHeader (p : Nat) (tag : UInt8) (w n : Nat) : List UInt8 :=
  List.replicate (padding p w) 0 ++ [tag, UInt8.ofNat n]

/-- A typed list of at most 253 elements. -/
theorem pushTypedList_header {tag : UInt8} {w : Nat} (hw : 0 < w) {vals : List (BitVec (8 * w))}
    (hlen : vals.length ≤ 253) (hwf : s.WF) :
    ∃ s', (pushTypedList tag w vals segment).run s = .ok segment.wrote s' ∧
      s'.bufferLen = s.bufferLen + padding s.bufferLen w + 2 + vals.length ∧
      ∀ i < (listHeader s.bufferLen tag w vals.length).length,
        s'.buffer.cells[s.bufferLen + i]?
          = some (listHeader s.bufferLen tag w vals.length)[i]? := by
  obtain ⟨t, hready⟩ : ∃ t, ready s segment
      (1 + calcSizeLen vals.length + (vals.length + 1) * w) = t := ⟨_, rfl⟩
  have hroom := ready_room segment hwf (1 + calcSizeLen vals.length + (vals.length + 1) * w)
  have htlen : t.bufferLen = s.bufferLen := by rw [← hready, ready_bufferLen]
  have hone : (sizePrefix vals.length).length = 1 := by
    rw [sizePrefix_of_small hlen, List.length_singleton]
  have hmul : (vals.length + 1) * w = vals.length * w + w := Nat.succ_mul _ _
  rw [hready, calcSizeLen_eq, hone, hmul, htlen] at hroom
  have hlt := padding_lt s.bufferLen hw
  have hzeros : (List.replicate (padding s.bufferLen w) (0 : UInt8)).length
      = padding s.bufferLen w := List.length_replicate
  -- padding and header are one append
  have hheader : (List.replicate (padding s.bufferLen w) (0 : UInt8)
      ++ tag :: sizePrefix vals.length) = listHeader s.bufferLen tag w vals.length := by
    rw [sizePrefix_of_small hlen, listHeader]
  have hlength : (listHeader s.bufferLen tag w vals.length).length = padding s.bufferLen w + 2 := by
    rw [listHeader, List.length_append, hzeros]
    rfl
  obtain ⟨u, hu⟩ : ∃ u, t.append (listHeader s.bufferLen tag w vals.length) = u := ⟨_, rfl⟩
  have hfits : t.bufferLen + (listHeader s.bufferLen tag w vals.length).length ≤ t.buffer.size := by
    rw [hlength, htlen]
    omega
  have hulen : u.bufferLen = s.bufferLen + (padding s.bufferLen w + 2) := by
    rw [← hu, MessageBuilderState.append_bufferLen, hlength, htlen]
  have husize : u.buffer.size = t.buffer.size := by rw [← hu, MessageBuilderState.append_size hfits]
  have helems : u.bufferLen + (elemBytes w vals).length ≤ u.buffer.size := by
    rw [length_elemBytes, hulen, husize]
    omega
  refine ⟨{ u with
    buffer := (u.append (elemBytes w vals)).buffer
    bufferLen := u.bufferLen + vals.length }, ?_, ?_, fun i hi => ?_⟩
  · have hput : (putElems w vals).run u = .ok () { u with
        buffer := (u.append (elemBytes w vals)).buffer
        bufferLen := u.bufferLen + vals.length } := by
      rw [putElems, run_get_bind,
        run_bind_ok (storeAt_run (MessageBuilderState.store_eq_append helems)), advanceLen_run]
    have hpadded := MessageBuilderState.append_size (s := t)
      (show t.bufferLen + (List.replicate (padding s.bufferLen w) 0).length ≤ t.buffer.size by
        rw [hzeros, htlen]
        omega)
    rw [pushTypedList, ready_run, hready, run_bind_ok (writeAlignTo_run hw (by rw [htlen]; omega)),
      htlen, run_seq_ok (header_run_small tag hlen (by
        rw [hpadded, MessageBuilderState.append_bufferLen, hzeros, htlen]
        omega)), MessageBuilderState.append_append (by
        rw [hzeros, List.length_cons, hone, htlen]
        omega), hheader, hu, run_bind_ok hput, EStateM.run_pure]
  · show u.bufferLen + vals.length = _
    rw [hulen]
    omega
  · -- the elements lie behind the header
    show (u.append (elemBytes w vals)).buffer.cells[s.bufferLen + i]? = _
    rw [MessageBuilderState.getElem?_append helems, if_neg (by omega), ← hu,
      MessageBuilderState.getElem?_append hfits, if_pos (by omega), htlen, Nat.add_sub_cancel_left]

/-- The push of a typed list. -/
theorem typedList_header (segment : MessageBuilderSegment) (list : TypedList) (hlen : list.length ≤ 253) (hwf : s.WF) :
    ∃ s', (list.push segment).run s = .ok segment.wrote s' ∧
      s'.bufferLen = s.bufferLen + padding s.bufferLen list.width + 2 + list.length ∧
      ∀ i < (listHeader s.bufferLen list.tag list.width list.length).length,
        s'.buffer.cells[s.bufferLen + i]?
          = some (listHeader s.bufferLen list.tag list.width list.length)[i]? := by
  cases list with
  | int32 vals => exact pushTypedList_header (w := 4) (by decide) hlen hwf
  | int64 vals => exact pushTypedList_header (w := 8) (by decide) hlen hwf
  | float64 vals => exact pushTypedList_header (w := 8) (by decide) hlen hwf

/-- The bytes that the buffer holds, up to the fill, and anything behind them. -/
def Holds (s : MessageBuilderState) (bytes : List UInt8) : Prop :=
  s.bufferLen ≤ bytes.length ∧ Agrees s.contents (bytes.take s.bufferLen)

/-- Stored bytes are held. -/
theorem Holds.at {bytes xs : List UInt8} {o : Nat} (h : Holds s bytes)
    (hlen : o + xs.length ≤ s.bufferLen)
    (hcells : ∀ i < xs.length, s.buffer.cells[o + i]? = some xs[i]?) :
    At bytes ⟨o, bytes.length - o⟩ (xs ++ bytes.drop (o + xs.length)) := by
  have hlength := h.1
  refine ⟨SuffixAt.of_getElem? (show o + xs.length ≤ bytes.length by omega) fun i hi => ?_, ?_⟩
  · have hcell : s.contents[o + i]? = some (some xs[i]) := by
      rw [MessageBuilderState.contents, List.getElem?_take, if_pos (by omega), hcells i hi,
        List.getElem?_eq_getElem hi]
    have hbyte := h.2.getElem? hcell
    rw [List.getElem?_take, if_pos (by omega)] at hbyte
    rw [hbyte, List.getElem?_eq_getElem hi]
  · show bytes.length - o = _
    rw [List.length_append, List.length_drop]
    omega

end Builder

/-! ## §3. What the decoder reads. -/

section Decoder

variable {base : Nat} {bytes rest : List UInt8} {c c' : Cursor}

theorem advance_eq_ok {n : Int} (h : (advance n).run c = .ok () c') :
    c'.pos = c.pos + toSizeT n := by
  rw [advance] at h
  obtain ⟨_, c1, hcheck, hmodify⟩ := run_bind_eq_ok.mp h
  have hc1 : c1 = c := by
    rw [checkRemaining, run_get_bind] at hcheck
    split at hcheck
    · exact (run_throw_eq_ok.mp hcheck).elim
    · exact (run_pure_eq_ok.mp hcheck).2.symm
  rw [EStateM.run_modify, hc1] at hmodify
  cases hmodify
  rfl

/-- **Where an array ends**: behind its size, the padding and all bytes of its elements. -/
theorem arrayEnd {k w n : Nat} {d : Borrowed (BitVec (8 * w))} (hw : w = 2 ^ k)
    (hb : base % w = 0) (hk : w ≤ 8) (hn : n ≤ 253) (hat : At bytes c (UInt8.ofNat n :: rest))
    (h : (decodeArray base bytes w).run c = .ok d c') :
    c'.pos = c.pos + 1 + padding (c.pos + 1) w + n * w := by
  subst hw
  have hbytes : sizePrefix n = [UInt8.ofNat n] := sizePrefix_of_small hn
  have hsize : (readSize bytes).run c = .ok n (c.skip 1) := by
    have hread := readSize_run (n := n) (by omega) (by rw [hbytes]; exact hat)
    rwa [hbytes, List.length_singleton] at hread
  rw [decodeArray, run_bind_ok hsize] at h
  obtain ⟨_, c1, halign, h⟩ := run_bind_eq_ok.mp h
  rw [run_get_bind] at h
  have hpad := padding_lt (c.pos + 1) (Nat.two_pow_pos k)
  have hc1 : c1.pos = c.pos + 1 + padding (c.pos + 1) (2 ^ k) := by
    rw [align, run_get_bind] at halign
    rw [advance_eq_ok halign, alignDiff, alignMask_sub, padding_add_left _ hb, Cursor.skip_pos,
      toSizeT_toInt32_of_lt (by omega)]
  have hmul : n * 2 ^ k ≤ 253 * 8 := Nat.mul_le_mul hn hk
  rw [Nat.mod_eq_of_lt (a := n * 2 ^ k) (by omega)] at h
  split at h
  · exact (run_throw_eq_ok.mp (run_bind_eq_ok.mp h).choose_spec.choose_spec.1).elim
  · obtain ⟨_, c2, hadvance, h⟩ := run_bind_eq_ok.mp h
    obtain ⟨-, rfl⟩ := run_pure_eq_ok.mp h
    rw [advance_eq_ok hadvance, hc1, toSizeT_toInt32_of_lt (by omega)]

/-- The value that starts with the type byte of an array ends where the array does. -/
theorem typedList_end (list : TypedList) (hb : base % 8 = 0) (hlen : list.length ≤ 253)
    {fuel : Nat} {d : DecodedValue}
    (hat : At bytes c (list.tag :: UInt8.ofNat list.length :: rest))
    (h : (platchDecodeValueStd base bytes (fuel + 1)).run c = .ok d c') :
    c'.pos = c.pos + 2 + padding (c.pos + 2) list.width + list.length * list.width := by
  have hnext : At bytes (c.skip 1) (UInt8.ofNat list.length :: rest) := At.skip (l := [list.tag]) hat
  rw [platchDecodeValueStd, run_bind_ok (readByte_run hat)] at h
  cases list with
  | int32 vals =>
      obtain ⟨a, c1, harray, hpure⟩ := run_bind_eq_ok.mp h
      obtain ⟨-, rfl⟩ := run_pure_eq_ok.mp hpure
      exact arrayEnd (k := 2) rfl (by omega) (by decide) hlen hnext harray
  | int64 vals =>
      obtain ⟨a, c1, harray, hpure⟩ := run_bind_eq_ok.mp h
      obtain ⟨-, rfl⟩ := run_pure_eq_ok.mp hpure
      exact arrayEnd (k := 3) rfl hb (by decide) hlen hnext harray
  | float64 vals =>
      obtain ⟨a, c1, harray, hpure⟩ := run_bind_eq_ok.mp h
      obtain ⟨-, rfl⟩ := run_pure_eq_ok.mp hpure
      exact arrayEnd (k := 3) rfl hb (by decide) hlen hnext harray

/-- A zero is a null. -/
theorem zero_null {fuel : Nat} {d : DecodedValue} (hat : At bytes c (0 :: rest))
    (h : (platchDecodeValueStd base bytes (fuel + 1)).run c = .ok d c') : d = .kStdNull := by
  rw [platchDecodeValueStd, run_bind_ok (readByte_run hat)] at h
  exact (run_pure_eq_ok.mp h).1.symm

end Decoder

/-! ## §4. No list is read back. -/

theorem TypedList.value_ne_null (list : TypedList) : list.value ≠ .kStdNull := by
  cases list <;> exact nofun

/-- **No typed list of the builder is read back**, whatever it holds before and behind it. -/
theorem not_readsBack (base : Nat) (hb : base % 8 = 0) (s : MessageBuilderState)
    (hs : builder.Reachable s) (segment : MessageBuilderSegment) (list : TypedList)
    (hlen : list.length ≤ 253) :
    ∃ r s', (list.push segment).run s = .ok r s' ∧
      ∀ bytes, Holds s' bytes → ¬ ReadsBack base bytes s.bufferLen list.value s'.bufferLen := by
  obtain ⟨s', hrun, hfill, hcells⟩ := typedList_header segment list hlen
    (reachable_inv hs).wf
  refine ⟨segment.wrote, s', hrun, ?_⟩
  rintro bytes hholds ⟨d, c, hdecode, hload, hstop⟩
  have hlength : (listHeader s.bufferLen list.tag list.width list.length).length
      = padding s.bufferLen list.width + 2 := by
    rw [listHeader, List.length_append, List.length_replicate]
    rfl
  have hat := hholds.at (by rw [hlength]; omega) hcells
  cases hpad : padding s.bufferLen list.width with
  | zero =>
      -- no padding in front: the decoder skips bytes behind the size that are not there
      rw [listHeader, hpad, List.replicate_zero, List.nil_append] at hat
      have hend := typedList_end list hb hlen hat hdecode
      have hstop' : s.bufferLen + 2 + padding (s.bufferLen + 2) list.width
          + list.length * list.width = s.bufferLen + 0 + 2 + list.length := by
        rw [← hend, hstop, hfill, hpad]
      have hfour : list.width = 4 ∨ list.width = 8 := by
        cases list with
        | int32 => exact .inl rfl
        | int64 => exact .inr rfl
        | float64 => exact .inr rfl
      unfold padding at hpad hstop'
      rcases hfour with hw | hw
      · rw [hw] at hstop' hpad
        omega
      · rw [hw] at hstop' hpad
        omega
  | succ n =>
      -- the first byte is one of padding
      rw [listHeader, hpad, List.replicate_succ, List.cons_append, List.cons_append] at hat
      cases zero_null hat hdecode
      exact list.value_ne_null (Option.some.inj hload).symm

/-- Two numbers behind a null. -/
theorem not_readsBack_behind :
    ∃ r s', (TypedList.push ⟨1, 0, 1⟩ (.int32 [7, 8])).run
        ⟨⟨some 0 :: List.replicate 31 none⟩, 1, 1, []⟩ = .ok r s' ∧
      ∀ bytes, Holds s' bytes →
        ¬ ReadsBack 16 bytes 1 (.kStdInt32Array [7, 8]) s'.bufferLen := by
  have hreach : builder.Reachable
      ⟨⟨some 0 :: List.replicate 31 none⟩, 1, 1, []⟩ :=
    Machine.reach_exec [.segment, .push ⟨1, 0, 1⟩ .null] Machine.Reach.init rfl
  exact not_readsBack 16 (by decide) _ hreach ⟨1, 0, 1⟩ (.int32 [7, 8]) (by decide)

/-- The number 7 at the start of a message is left as three bytes, of which the decoder misses the
    padding and the rest of the number. -/
theorem not_readsBack_seven : ¬ ∀ (s : MessageBuilderState) (list : TypedList),
    builder.Reachable s → list.length ≤ 253 →
    ∃ r s', (list.push ⟨1, 0, 1⟩).run s = .ok r s' ∧
      ∀ bytes, Holds s' bytes → ReadsBack 16 bytes s.bufferLen list.value s'.bufferLen := by
  intro h
  obtain ⟨r, s', hrun, hall⟩ := h messageBuilderNew (.int32 [7]) .init (by decide)
  have hs' : s'.bufferLen = 3 ∧ s'.contents = fixed [9, 1, 7] := by
    have hcompute : ∃ t, (TypedList.push ⟨1, 0, 1⟩ (.int32 [7])).run messageBuilderNew
        = .ok ⟨1, 1, 1⟩ t ∧ t.bufferLen = 3 ∧ t.contents = fixed [9, 1, 7] := ⟨_, rfl, rfl, rfl⟩
    obtain ⟨t, ht, hlen, hcontents⟩ := hcompute
    rw [hrun] at ht
    cases ht
    exact ⟨hlen, hcontents⟩
  obtain ⟨d, c, hdecode, -⟩ := hall [9, 1, 7]
    ⟨by rw [hs'.1]; decide, by rw [hs'.1, hs'.2]; exact agrees_fixed.mpr rfl⟩
  have hcompute : (platchDecodeValueStd 16 [9, 1, 7] 4).run ⟨0, 3⟩
      = .error (.errno .EBADMSG) ⟨2, 1⟩ := rfl
  rw [show messageBuilderNew.bufferLen = 0 from rfl] at hdecode
  rw [show ([9, 1, 7] : List UInt8).length = 3 from rfl] at hdecode
  rw [hcompute] at hdecode
  cases hdecode

end FlutterWlroots.StandardMessageCodec
