/-
  FlutterWlroots.Codec.MethodNames — method calls with names of any length.

  The size of a name above 253 bytes is stored over the type byte of the message, and the two bytes
  behind it are not stored at all (`buildMethodCall_run_large`).  A decoder that takes the first of
  them for the type byte may still find a string, and the string may even begin with the name; but
  then it is so long that what is left of the message is too short for the argument, since no value
  is read from fewer bytes than the format has for it (`wire_end_le`).  So a call is read back if and
  only if its name has at most 253 bytes (`readsCall_iff`).
-/
import FlutterWlroots.Codec.DecodedArrays
import FlutterWlroots.Codec.MessageBuilderRun
import FlutterWlroots.Codec.MessageBuilderTree

namespace FlutterWlroots.StandardMessageCodec

open Lib.LittleEndian Lib.Mem Lib.CInt Lib.StateRun
open FlutterWlroots.Codec FlutterWlroots.PlatformChannel

/-! ## §1. The least that is read for a value. -/

section Least

variable {base : Nat} {buffer : List UInt8}

/-- An aligned place is not in front of an earlier one. -/
theorem aligned_mono {p q : Nat} (h : p ≤ q) : p + padding p 8 ≤ q + padding q 8 := by
  unfold padding
  omega

theorem length_header_small {type n : Nat} (h : n ≤ 253) : (header type n).length = 2 := by
  rw [length_header, sizePrefix_of_small h, List.length_singleton]

theorem sizeAt_pos (buffer : List UInt8) (p : Nat) : 1 ≤ (sizeAt buffer p).2 := by
  unfold sizeAt
  split
  · exact Nat.le_refl 1
  · split
    · exact Nat.le_add_left 1 2
    · exact Nat.le_add_left 1 4

/-- A value of the tree is read from no fewer bytes than the format has for it, and from a later
    place the read ends no earlier. -/
def EndsBehind (buffer : List UInt8) (decode : DecodeM DecodedValue) : Prop :=
  ∀ (d : DecodedValue) (v : StdValue) (c c' : Cursor) (p : Nat), decode.run c = .ok d c' →
    d.load buffer = some v → Pushable v → p ≤ c.pos → p + (wire p v).length ≤ c'.pos

theorem wireList_end_le {decode : DecodeM DecodedValue} (h : EndsBehind buffer decode) (n : Nat) :
    ∀ {ds : List DecodedValue} {vs : List StdValue} {c c' : Cursor} {p : Nat},
    (decodeTimes decode n).run c = .ok ds c' → StdTree.loadList buffer ds = some vs →
      (∀ v ∈ vs, Pushable v) → p ≤ c.pos → p + (wireList p vs).length ≤ c'.pos := by
  induction n with
  | zero =>
      intro ds vs c c' p hrun hload _ hp
      obtain ⟨rfl, rfl⟩ := run_pure_eq_ok.mp hrun
      rw [StdTree.loadList, Option.some.injEq] at hload
      subst hload
      exact hp
  | succ n ih =>
      intro ds vs c c' p hrun hload hpush hp
      obtain ⟨x, c₁, hx, hrun⟩ := run_bind_eq_ok.mp hrun
      obtain ⟨xs, c₂, hxs, hrun⟩ := run_bind_eq_ok.mp hrun
      obtain ⟨rfl, rfl⟩ := run_pure_eq_ok.mp hrun
      rw [StdTree.loadList] at hload
      obtain ⟨v, hv, hload⟩ := Option.bind_eq_some_iff.mp hload
      obtain ⟨vs', hvs, hload⟩ := Option.bind_eq_some_iff.mp hload
      cases hload
      have hall := List.forall_mem_cons.mp hpush
      have hfirst := h x v c c₁ p hx hv hall.1 hp
      have hrest := ih hxs hvs hall.2 hfirst
      rw [wireList, List.length_append]
      omega

theorem wireEntries_end_le {decode : DecodeM DecodedValue} (h : EndsBehind buffer decode)
    (n : Nat) : ∀ {ds : List (DecodedValue × DecodedValue)} {es : List (StdValue × StdValue)}
    {c c' : Cursor} {p : Nat},
    (decodePairs decode n).run c = .ok ds c' → StdTree.loadEntries buffer ds = some es →
      (∀ e ∈ es, Pushable e.1 ∧ Pushable e.2) → p ≤ c.pos →
        p + (wireEntries p es).length ≤ c'.pos := by
  induction n with
  | zero =>
      intro ds es c c' p hrun hload _ hp
      obtain ⟨rfl, rfl⟩ := run_pure_eq_ok.mp hrun
      rw [StdTree.loadEntries, Option.some.injEq] at hload
      subst hload
      exact hp
  | succ n ih =>
      intro ds es c c' p hrun hload hpush hp
      obtain ⟨k, c₁, hk, hrun⟩ := run_bind_eq_ok.mp hrun
      obtain ⟨x, c₂, hx, hrun⟩ := run_bind_eq_ok.mp hrun
      obtain ⟨xs, c₃, hxs, hrun⟩ := run_bind_eq_ok.mp hrun
      obtain ⟨rfl, rfl⟩ := run_pure_eq_ok.mp hrun
      rw [StdTree.loadEntries] at hload
      obtain ⟨key, hkey, hload⟩ := Option.bind_eq_some_iff.mp hload
      obtain ⟨v, hv, hload⟩ := Option.bind_eq_some_iff.mp hload
      obtain ⟨es', hes, hload⟩ := Option.bind_eq_some_iff.mp hload
      cases hload
      have hall := List.forall_mem_cons.mp hpush
      have hfirst := h k key c c₁ p hk hkey hall.1.1 hp
      have hsecond := h x v c₁ c₂ _ hx hv hall.1.2 hfirst
      have hrest := ih hxs hes hall.2 hsecond
      rw [wireEntries, List.length_append, List.length_append]
      omega

theorem strlen_ofMemory_le (bytes : List UInt8) :
    (CString.ofMemory bytes).strlen ≤ bytes.length :=
  (List.takeWhile_prefix _).length_le

/-- The size of a string and its bytes. -/
theorem string_end_le {s : CString} {c c' : Cursor} {p : Nat}
    (hrun : (decodeString buffer).run c = .ok s c') (hp : p ≤ c.pos) :
    p + 1 + s.strlen ≤ c'.pos := by
  obtain ⟨size, c₁, hsize, hrun⟩ := run_bind_eq_ok.mp hrun
  obtain ⟨bytes, c₂, hread, hrun⟩ := run_bind_eq_ok.mp hrun
  obtain ⟨rfl, rfl⟩ := run_pure_eq_ok.mp hrun
  obtain ⟨-, rfl, -⟩ := readSize_eq_ok hsize
  obtain ⟨-, hc, hbytes⟩ := read_eq_ok hread
  have hpos := sizeAt_pos buffer c.pos
  have hstrlen := strlen_ofMemory_le bytes
  have hlen : bytes.length ≤ toSizeT (toInt32 size) := by
    rw [hbytes]
    exact List.length_take_le _ _
  rw [hc]
  simp only [Cursor.skip]
  omega

/-- The size of a byte array and its bytes. -/
theorem uint8Array_end_le {a : Borrowed UInt8} {bytes : List UInt8} {c c' : Cursor} {p : Nat}
    (hlen : bytes.length ≤ 253) (hrun : (decodeUInt8Array buffer).run c = .ok a c')
    (hload : a.loadBytes buffer = some bytes) (hp : p ≤ c.pos) :
    p + 1 + bytes.length ≤ c'.pos := by
  obtain ⟨size, c₁, hsize, hrun⟩ := run_bind_eq_ok.mp hrun
  obtain ⟨-, rfl, -⟩ := readSize_eq_ok hsize
  rw [run_get_bind] at hrun
  split at hrun
  · exact (run_throw_eq_ok.mp hrun).elim
  · obtain ⟨_, c₂, hadvance, hrun⟩ := run_bind_eq_ok.mp hrun
    obtain ⟨rfl, rfl⟩ := run_pure_eq_ok.mp hrun
    obtain ⟨-, rfl⟩ := advance_eq_ok hadvance
    have hpos := sizeAt_pos buffer c.pos
    unfold Borrowed.loadBytes at hload
    dsimp only at hload
    split at hload
    next hin =>
      have hbytes := congrArg List.length (Option.some.inj hload)
      rw [List.length_take, List.length_drop] at hbytes
      have hexact := toSizeT_toInt32_of_lt (show size < 2 ^ 31 by omega)
      rw [hexact]
      simp only [Cursor.skip] at hin hbytes ⊢
      omega
    next => cases hload

/-- **The least that is read for a value** is what the format has for it. -/
theorem wire_end_le (hb : base % 8 = 0) (fuel : Nat) :
    EndsBehind buffer (platchDecodeValueStd base buffer fuel) := by
  induction fuel with
  | zero =>
      intro d v c c' p hrun
      exact (run_throw_eq_ok.mp hrun).elim
  | succ fuel ih =>
      intro d v c c' p hrun hload hpush hp
      obtain ⟨type_byte, c₁, htype, hrun⟩ := run_bind_eq_ok.mp hrun
      obtain ⟨-, rfl, -⟩ := readUInt_eq_ok (by decide) htype
      have hnext : p + 1 ≤ (c.skip 1).pos := Nat.add_le_add_right hp 1
      split at hrun
      · obtain ⟨rfl, rfl⟩ := run_pure_eq_ok.mp hrun
        cases hload
        exact hnext
      · obtain ⟨rfl, rfl⟩ := run_pure_eq_ok.mp hrun
        cases hload
        exact hnext
      · obtain ⟨rfl, rfl⟩ := run_pure_eq_ok.mp hrun
        cases hload
        exact hnext
      · obtain ⟨n, c₂, hread, hrun⟩ := run_bind_eq_ok.mp hrun
        obtain ⟨rfl, rfl⟩ := run_pure_eq_ok.mp hrun
        obtain ⟨-, rfl, -⟩ := readUInt_eq_ok (by decide) hread
        cases hload
        rw [wire, length_fixed, List.length_cons, length_leBytes]
        simp only [Cursor.skip] at hnext ⊢
        omega
      · obtain ⟨n, c₂, hread, hrun⟩ := run_bind_eq_ok.mp hrun
        obtain ⟨rfl, rfl⟩ := run_pure_eq_ok.mp hrun
        obtain ⟨-, rfl, -⟩ := readUInt_eq_ok (by decide) hread
        cases hload
        rw [wire, length_fixed, List.length_cons, length_leBytes]
        simp only [Cursor.skip] at hnext ⊢
        omega
      · obtain ⟨s, c₂, hstring, hrun⟩ := run_bind_eq_ok.mp hrun
        obtain ⟨rfl, rfl⟩ := run_pure_eq_ok.mp hrun
        cases hload
        cases hpush
      · obtain ⟨_, c₂, halign, hrun⟩ := run_bind_eq_ok.mp hrun
        obtain ⟨n, c₃, hread, hrun⟩ := run_bind_eq_ok.mp hrun
        obtain ⟨rfl, rfl⟩ := run_pure_eq_ok.mp hrun
        obtain ⟨-, rfl⟩ := align_eq_ok (k := 3) (by decide) halign
        obtain ⟨-, rfl, -⟩ := readUInt_eq_ok (by decide) hread
        cases hload
        have hmono := aligned_mono hnext
        rw [show (2 ^ 3 : Nat) = 8 from rfl, padding_add_left _ hb]
        rw [wire, List.length_append, List.length_append, length_fixed, length_skipped,
          length_fixed, List.length_singleton, length_leBytes]
        simp only [Cursor.skip] at hmono ⊢
        omega
      · obtain ⟨s, c₂, hstring, hrun⟩ := run_bind_eq_ok.mp hrun
        obtain ⟨rfl, rfl⟩ := run_pure_eq_ok.mp hrun
        cases hload
        have hs : s.strlen ≤ 253 := of_decide_eq_true hpush
        have hend := string_end_le hstring hnext
        rw [wire, length_fixed, List.length_append, length_header_small hs]
        show p + (2 + s.strlen) ≤ _
        omega
      · obtain ⟨a, c₂, harray, hrun⟩ := run_bind_eq_ok.mp hrun
        obtain ⟨rfl, rfl⟩ := run_pure_eq_ok.mp hrun
        rw [StdTree.load] at hload
        obtain ⟨bytes, hbytes, hload⟩ := Option.map_eq_some_iff.mp hload
        subst hload
        have hlen : bytes.length ≤ 253 := of_decide_eq_true hpush
        have hend := uint8Array_end_le hlen harray hbytes hnext
        rw [wire, length_fixed, List.length_append, length_header_small hlen]
        omega
      · obtain ⟨a, c₂, harray, hrun⟩ := run_bind_eq_ok.mp hrun
        obtain ⟨rfl, rfl⟩ := run_pure_eq_ok.mp hrun
        rw [StdTree.load] at hload
        obtain ⟨elements, -, hload⟩ := Option.map_eq_some_iff.mp hload
        subst hload
        cases hpush
      · obtain ⟨a, c₂, harray, hrun⟩ := run_bind_eq_ok.mp hrun
        obtain ⟨rfl, rfl⟩ := run_pure_eq_ok.mp hrun
        rw [StdTree.load] at hload
        obtain ⟨elements, -, hload⟩ := Option.map_eq_some_iff.mp hload
        subst hload
        cases hpush
      · obtain ⟨a, c₂, harray, hrun⟩ := run_bind_eq_ok.mp hrun
        obtain ⟨rfl, rfl⟩ := run_pure_eq_ok.mp hrun
        rw [StdTree.load] at hload
        obtain ⟨elements, -, hload⟩ := Option.map_eq_some_iff.mp hload
        subst hload
        cases hpush
      · obtain ⟨n, c₂, hsize, hrun⟩ := run_bind_eq_ok.mp hrun
        obtain ⟨ds, c₃, hmembers, hrun⟩ := run_bind_eq_ok.mp hrun
        obtain ⟨rfl, rfl⟩ := run_pure_eq_ok.mp hrun
        obtain ⟨-, rfl, -⟩ := readSize_eq_ok hsize
        rw [StdTree.load] at hload
        obtain ⟨vs, hvs, hload⟩ := Option.map_eq_some_iff.mp hload
        subst hload
        obtain ⟨hlen, hall⟩ := StdTree.everyNode_list.mp hpush
        have hpos := sizeAt_pos buffer (c.skip 1).pos
        have hmembersEnd := wireList_end_le ih n hmembers hvs hall (p := p + 2) (by
          simp only [Cursor.skip] at hnext hpos ⊢
          omega)
        rw [wire, List.length_append, length_fixed,
          length_header_small (of_decide_eq_true hlen)]
        omega
      · obtain ⟨n, c₂, hsize, hrun⟩ := run_bind_eq_ok.mp hrun
        obtain ⟨ds, c₃, hmembers, hrun⟩ := run_bind_eq_ok.mp hrun
        obtain ⟨rfl, rfl⟩ := run_pure_eq_ok.mp hrun
        obtain ⟨-, rfl, -⟩ := readSize_eq_ok hsize
        rw [StdTree.load] at hload
        obtain ⟨es, hes, hload⟩ := Option.map_eq_some_iff.mp hload
        subst hload
        obtain ⟨hlen, hall⟩ := StdTree.everyNode_map.mp hpush
        have hpos := sizeAt_pos buffer (c.skip 1).pos
        have hmembersEnd := wireEntries_end_le ih n hmembers hes hall (p := p + 2) (by
          simp only [Cursor.skip] at hnext hpos ⊢
          omega)
        rw [wire, List.length_append, length_fixed,
          length_header_small (of_decide_eq_true hlen)]
        omega
      · exact (run_throw_eq_ok.mp hrun).elim

end Least

/-! ## §2. The same value eight bytes later. -/

theorem padding_add_eight (p : Nat) : padding (p + 8) 8 = padding p 8 := by
  unfold padding
  omega

theorem padding_add_eight_four (p : Nat) : padding (p + 8) 4 = padding p 4 := by
  unfold padding
  omega

theorem wireArray_add_eight (p type w : Nat) (a : List (BitVec (8 * w)))
    (h : ∀ q, padding (q + 8) w = padding q w) :
    wireArray (p + 8) type w a = wireArray p type w a := by
  rw [wireArray, wireArray, Nat.add_right_comm, h]

theorem wireList_add_eight {xs : List StdValue} (h : ∀ x ∈ xs, ∀ p, wire (p + 8) x = wire p x) :
    ∀ p, wireList (p + 8) xs = wireList p xs := by
  induction xs with
  | nil => exact fun p => rfl
  | cons x xs ih =>
      obtain ⟨hx, hxs⟩ := List.forall_mem_cons.mp h
      intro p
      rw [wireList, wireList, hx, Nat.add_right_comm, ih hxs]

theorem wireEntries_add_eight {es : List (StdValue × StdValue)}
    (h : ∀ e ∈ es, ∀ p, wire (p + 8) e.1 = wire p e.1 ∧ wire (p + 8) e.2 = wire p e.2) :
    ∀ p, wireEntries (p + 8) es = wireEntries p es := by
  induction es with
  | nil => exact fun p => rfl
  | cons e es ih =>
      obtain ⟨he, hes⟩ := List.forall_mem_cons.mp h
      intro p
      rw [wireEntries, wireEntries, (he p).1, Nat.add_right_comm p, (he _).2,
        Nat.add_right_comm _ 8, ih hes]

/-- The format asks for multiples of eight at most. -/
theorem wire_add_eight (v : StdValue) : ∀ p, wire (p + 8) v = wire p v := by
  induction v using StdTree.induct with
  | kStdFloat64 x =>
      intro p
      rw [wire, wire, Nat.add_right_comm, padding_add_eight]
  | kStdInt32Array a =>
      intro p
      rw [wire, wire, wireArray_add_eight _ _ _ _ padding_add_eight_four]
  | kStdInt64Array a =>
      intro p
      rw [wire, wire, wireArray_add_eight _ _ _ _ padding_add_eight]
  | kStdFloat64Array a =>
      intro p
      rw [wire, wire, wireArray_add_eight _ _ _ _ padding_add_eight]
  | kStdList xs ih =>
      intro p
      rw [wire, wire, Nat.add_right_comm, wireList_add_eight ih]
  | kStdMap es ih =>
      intro p
      rw [wire, wire, Nat.add_right_comm,
        wireEntries_add_eight fun e he q => ⟨(ih e he).1 q, (ih e he).2 q⟩]
  | _ => exact fun p => rfl

/-! ## §3. Building a call with a long name. -/

variable {method : CString} {arg : StdValue}

/-- What is stored of a long name: its size over the type byte and the marker, then two bytes that
    are skipped, then the name. -/
def longName (method : CString) : List (Option UInt8) :=
  fixed (lengthBytes method.strlen) ++ (skipped 2 ++ fixed method.bytes)

theorem length_longName (method : CString) :
    (longName method).length = (lengthBytes method.strlen).length + 2 + method.strlen := by
  rw [longName, List.length_append, List.length_append, length_fixed, length_skipped, length_fixed,
    Nat.add_assoc]
  rfl

/-- The first push of a message, with a long string. -/
theorem pushString_run_large (segment : MessageBuilderSegment) {s : MessageBuilderState}
    (hs : s.Inv) (hzero : s.bufferLen = 0) (hn : 254 ≤ method.strlen) :
    ∃ segment' s', (pushString segment method).run s = .ok segment' s' ∧ s'.WF
      ∧ s'.contents = longName method := by
  have hready := ready_inv segment (1 + calcSizeLen method.strlen + method.strlen) hs
  have hroom := ready_room segment hs.wf (1 + calcSizeLen method.strlen + method.strlen)
  have hcalc := calcSizeLen_of_large hn
  have hlong := length_lengthBytes method.strlen
  rw [ready_bufferLen, hzero, Nat.zero_add] at hroom
  obtain ⟨t, hheader, hlen, hsize, hcells⟩ := header_run_large
    (s := ready s segment (1 + calcSizeLen method.strlen + method.strlen)) 7 hn
    (by rw [ready_bufferLen, hzero]; omega)
  rw [ready_bufferLen, hzero, Nat.zero_add] at hlen
  have hfits : t.bufferLen + method.bytes.length ≤ t.buffer.size := by
    rw [hlen, hsize]
    exact hroom
  have hgrown := MessageBuilderState.grown_append hfits
  have hwf : t.WF := Nat.le_trans (Nat.le_add_right _ _) hfits
  refine ⟨segment.wrote, _, pushSizedBytes_run segment hheader hfits, hgrown.wf, ?_⟩
  rw [hgrown.contents_eq]
  have hcontents : t.contents = fixed (lengthBytes method.strlen) ++ skipped 2 := by
    refine List.ext_getElem? fun j => ?_
    rw [MessageBuilderState.contents, List.getElem?_take]
    split
    next hj =>
      rw [hcells]
      split
      next hin =>
        rw [List.getElem?_append_left (by rw [length_fixed]; exact hin), fixed, List.getElem?_map,
          List.getElem?_eq_getElem hin]
        rfl
      next hout =>
        -- behind the size nothing has been stored
        have hempty : (ready s segment (1 + calcSizeLen method.strlen
            + method.strlen)).buffer.cells[j]? = some none := by
          have hlt : j < (ready s segment (1 + calcSizeLen method.strlen
            + method.strlen)).buffer.cells.length := by
            have hbound : j < (ready s segment (1 + calcSizeLen method.strlen
              + method.strlen)).buffer.size := by omega
            exact hbound
          have hfresh := hready.fresh (by rw [ready_bufferLen, hzero]; decide) j
            (by rw [ready_bufferLen, hzero]; exact Nat.zero_le j)
          rw [List.getElem?_eq_getElem hlt] at hfresh ⊢
          cases hcell : (ready s segment (1 + calcSizeLen method.strlen
            + method.strlen)).buffer.cells[j] with
          | none => rfl
          | some x => exact absurd (congrArg some hcell) (hfresh x)
        rw [if_neg (by rw [ready_bufferLen]; omega), if_neg (by rw [ready_bufferLen]; omega),
          hempty, List.getElem?_append_right (by rw [length_fixed]; omega), skipped,
          List.getElem?_replicate, if_pos (by rw [length_fixed]; omega)]
    next hj =>
      rw [List.getElem?_eq_none]
      rw [List.length_append, length_fixed, length_skipped]
      omega
  rw [hcontents, longName, List.append_assoc]
  rfl

/-- **A call with a long name.** -/
theorem buildMethodCall_run_large (hn : 254 ≤ method.strlen) (harg : Pushable arg) :
    ∃ block s' bs, (buildMethodCall method arg).run messageBuilderNew = .ok block s'
      ∧ block.cells = longName method ++ bs.map some
      ∧ Agrees (wire (longName method).length arg) bs := by
  have hsegment : messageBuilderSegment.run messageBuilderNew
      = .ok ⟨1, 0, 1⟩ { messageBuilderNew with currentLevel := 1 } := by
    rw [messageBuilderSegment, run_modify_bind, EStateM.run_pure]
  have hinv : MessageBuilderState.Inv { messageBuilderNew with currentLevel := 1 } :=
    MessageBuilderState.inv_new.of_eq rfl rfl
  obtain ⟨segment', s₁, hname, hwf, hcontents⟩ := pushString_run_large ⟨1, 0, 1⟩ hinv rfl hn
  have hlen : s₁.bufferLen = (longName method).length := by
    rw [← hcontents, hwf.length_contents]
  have hshows : Shows s₁ (do
      segmentFinish segment'
      let segment ← messageBuilderSegment
      let segment ← pushValue segment arg
      segmentFinish segment
      let s ← get
      return messageBuilderFinish s) ([] ++ ([] ++ (wire (longName method).length arg
        ++ ([] ++ [])))) := by
    refine (shows_segmentFinish hwf).bind fun _ s₂ hs₂ hlen₂ => ?_
    refine (shows_messageBuilderSegment hs₂).bind fun segment s₃ hs₃ hlen₃ => ?_
    have harg' := shows_pushValue arg harg s₃ segment hs₃
    have hpos : s₃.bufferLen = (longName method).length := by
      simp only [List.length_nil, Nat.add_zero] at hlen₂ hlen₃
      omega
    rw [hpos] at harg'
    refine harg'.bind fun segment s₄ hs₄ _ => ?_
    refine (shows_segmentFinish hs₄).bind fun _ s₅ hs₅ _ => ?_
    exact shows_nil (by rw [run_get_bind, EStateM.run_pure]) hs₅ rfl rfl
  simp only [List.nil_append, List.append_nil] at hshows
  obtain ⟨block, s', bs, hrun, hgrown, hbs⟩ := hshows
  refine ⟨block, s', bs, ?_, ?_, hbs⟩
  · rw [buildMethodCall, run_bind_ok hsegment, run_bind_ok hname, hrun]
  · have hblock : block = messageBuilderFinish s' := by
      obtain ⟨_, _, -, h⟩ := run_bind_eq_ok.mp hrun
      obtain ⟨_, _, -, h⟩ := run_bind_eq_ok.mp h
      obtain ⟨_, _, -, h⟩ := run_bind_eq_ok.mp h
      obtain ⟨_, _, -, h⟩ := run_bind_eq_ok.mp h
      rw [run_get_bind] at h
      obtain ⟨rfl, rfl⟩ := run_pure_eq_ok.mp h
      rfl
    rw [hblock, messageBuilderFinish_cells hgrown.wf, hgrown.contents_eq, hcontents]

/-! ## §4. Reading it. -/

/-- The call is built, and whatever stands in bytes that were never stored, it is read back. -/
def ReadsCall (base : Nat) (method : CString) (arg : StdValue) : Prop :=
  ∃ block s', (buildMethodCall method arg).run messageBuilderNew = .ok block s'
    ∧ ∀ bytes, Agrees block.cells bytes →
      ∃ d, runDecode base bytes .kStandardMethodCall = .ok (.kStandardMethodCall method d)
          ⟨bytes.length, 0⟩
        ∧ d.load bytes = some arg

section Reading

variable {base : Nat} {bytes rest : List UInt8} {a b c d e f : UInt8}

/-- A string comes from a type byte 7. -/
theorem value_eq_string {fuel : Nat} {s : CString} {k k' : Cursor}
    (h : (platchDecodeValueStd base bytes fuel).run k = .ok (.kStdString s) k') :
    uintAt bytes k.pos 1 = 7 ∧ (decodeString bytes).run (k.skip 1) = .ok s k' := by
  cases fuel with
  | zero => exact (run_throw_eq_ok.mp h).elim
  | succ fuel =>
      obtain ⟨type_byte, k₁, hread, h⟩ := run_bind_eq_ok.mp h
      obtain ⟨-, rfl, htype⟩ := readUInt_eq_ok (by decide) hread
      rw [← htype]
      split at h
      case h_8 =>
        obtain ⟨s', k₂, hstring, h⟩ := run_bind_eq_ok.mp h
        obtain ⟨heq, rfl⟩ := run_pure_eq_ok.mp h
        cases heq
        exact ⟨rfl, hstring⟩
      case h_15 => exact (run_throw_eq_ok.mp h).elim
      case h_1 | h_2 | h_3 => cases (run_pure_eq_ok.mp h).1
      case h_7 | h_13 | h_14 =>
        obtain ⟨_, _, -, h⟩ := run_bind_eq_ok.mp h
        obtain ⟨_, _, -, h⟩ := run_bind_eq_ok.mp h
        cases (run_pure_eq_ok.mp h).1
      all_goals
        obtain ⟨_, _, -, h⟩ := run_bind_eq_ok.mp h
        cases (run_pure_eq_ok.mp h).1

/-- What is read of a string that begins behind the type byte of the message. -/
theorem string_read {s : CString} {k' : Cursor} {remaining : Nat}
    (h : (decodeString bytes).run ⟨1, remaining⟩ = .ok s k') :
    ∃ m, s.strlen ≤ m ∧ (sizeAt bytes 1).1 ≤ m ∧ ((sizeAt bytes 1).1 < 2 ^ 31 → m = (sizeAt bytes 1).1)
      ∧ k'.pos = 1 + (sizeAt bytes 1).2 + m := by
  obtain ⟨size, k₁, hsize, h⟩ := run_bind_eq_ok.mp h
  obtain ⟨text, k₂, hread, h⟩ := run_bind_eq_ok.mp h
  obtain ⟨rfl, rfl⟩ := run_pure_eq_ok.mp h
  obtain ⟨-, rfl, hvalue⟩ := readSize_eq_ok hsize
  obtain ⟨-, hk, htext⟩ := read_eq_ok hread
  dsimp only at hvalue
  rw [← hvalue]
  have hstrlen := strlen_ofMemory_le text
  have hlen : text.length ≤ toSizeT (toInt32 size) := by
    rw [htext]
    exact List.length_take_le _ _
  refine ⟨toSizeT (toInt32 size), Nat.le_trans hstrlen hlen, ?_, toSizeT_toInt32_of_lt, ?_⟩
  · have hlt : size < 2 ^ 32 := by
      rw [hvalue]
      exact sizeAt_lt bytes 1
    rcases Nat.lt_or_ge size (2 ^ 31) with hshort | hlong
    · rw [toSizeT_toInt32_of_lt hshort]
    · -- the `int` is negative, and as a `size_t` it is larger than any size
      unfold toInt32 toSizeT
      rw [Int.bmod_def]
      norm_num at hlt hlong ⊢
      omega
  · rw [hk]
    rfl

/-- **A call with a long name is not read back** if the bytes that were skipped are zero. -/
theorem not_read_large {n : Nat} {value : DecodedValue} (hb : base % 8 = 0)
    (hn : method.strlen = n) (h254 : 254 ≤ n) (harg : Pushable arg)
    (hbytes : bytes = a :: b :: c :: d :: e :: f :: rest)
    (hform : (c = 0 ∧ d = 0 ∧ e ≠ 0 ∧ n ≤ 0xFFFF ∧ a.toNat = n % 256
        ∧ bytes.length = 4 + n + (wire (4 + n) arg).length)
      ∨ (e = 0 ∧ f = 0 ∧ 0xFFFF < n))
    (h : runDecode base bytes .kStandardMethodCall
      = .ok (.kStandardMethodCall method value) ⟨bytes.length, 0⟩) :
    value.load bytes ≠ some arg := by
  intro hload
  obtain ⟨name, k₁, hname, h⟩ := run_bind_eq_ok.mp h
  split at h
  next name =>
    obtain ⟨value', k₂, hvalue, h⟩ := run_bind_eq_ok.mp h
    obtain ⟨heq, rfl⟩ := run_pure_eq_ok.mp h
    cases heq
    obtain ⟨htype, hstring⟩ := value_eq_string hname
    obtain ⟨m, hstrlen, hle, hexact, hk⟩ := string_read hstring
    rw [hn] at hstrlen
    have ha := a.toNat_lt
    have hb' := b.toNat_lt
    have hc := c.toNat_lt
    have hd := d.toNat_lt
    have hfirst : uintAt bytes 0 1 = a.toNat := by
      rw [hbytes]
      simp [uintAt, leNat]
    have hsize8 : uintAt bytes 1 1 = b.toNat := by
      rw [hbytes]
      simp [uintAt, leNat]
    have hsize16 : uintAt bytes 2 2 = c.toNat + 256 * d.toNat := by
      rw [hbytes]
      simp [uintAt, leNat]
    have hsize32 : uintAt bytes 2 4
        = c.toNat + 256 * (d.toNat + 256 * (e.toNat + 256 * f.toNat)) := by
      rw [hbytes]
      simp [uintAt, leNat]
    dsimp only at htype
    rw [hfirst] at htype
    unfold sizeAt at hle hexact hk
    rw [hsize8, hsize16, hsize32] at hle hexact hk
    by_cases h253 : b.toNat ≤ 253
    · rw [if_pos h253] at hexact
      have hm := hexact (by dsimp only; omega)
      dsimp only at hm
      omega
    · rw [if_neg h253] at hexact hle hk
      by_cases hmid : b.toNat = 254
      · rw [if_pos hmid] at hexact
        have hm := hexact (by dsimp only; omega)
        dsimp only at hm
        rcases hform with ⟨rfl, rfl, -⟩ | ⟨-, -, hlong⟩
        · simp at hm
          omega
        · omega
      · rw [if_neg hmid] at hexact hle hk
        dsimp only at hexact hle hk
        rcases hform with ⟨rfl, rfl, he, hshort, hlow, hlen⟩ | ⟨rfl, rfl, hlong⟩
        · -- the size that is found is longer than the name: too little is left
          have hpos : 0 < e.toNat := by
            rw [Nat.pos_iff_ne_zero]
            intro hzero
            exact he (UInt8.toNat_inj.mp hzero)
          simp only [UInt8.toNat_zero, Nat.zero_add] at hle
          have hend := wire_end_le hb _ value arg k₁ _ (4 + n + 8) hvalue hload harg (by omega)
          rw [wire_add_eight] at hend
          dsimp only at hend
          omega
        · simp only [UInt8.toNat_zero, Nat.mul_zero, Nat.add_zero] at hexact
          have hm := hexact (by omega)
          omega
  next => exact (run_throw_eq_ok.mp h).elim

end Reading

/-! ## §5. Which calls are read back. -/

variable {base : Nat}

/-- **A short name.** -/
theorem readsCall_of_small (hb : base % 8 = 0) (hn : method.strlen ≤ 253) (harg : Pushable arg) :
    ReadsCall base method arg := by
  obtain ⟨block, s', bytes, hrun, hcells, hread⟩ := platchDecode_buildMethodCall base hb method hn
    arg harg
  refine ⟨block, s', hrun, fun bytes' hagrees => ?_⟩
  rw [hcells, agrees_map_some] at hagrees
  rw [hagrees]
  exact hread

/-- **A long name.** -/
theorem not_readsCall_of_large (hb : base % 8 = 0) (hn : 254 ≤ method.strlen)
    (harg : Pushable arg) : ¬ ReadsCall base method arg := by
  rintro ⟨block, s', hrun, hread⟩
  obtain ⟨block', s'', bs, hrun', hcells, hbs⟩ := buildMethodCall_run_large hn harg
  cases hrun.symm.trans hrun'
  obtain ⟨value, hdecode, hload⟩ := hread _ (agrees_filled 0 block.cells)
  have hbytes : filled 0 block.cells
      = lengthBytes method.strlen ++ 0 :: 0 :: (method.bytes ++ bs) := by
    rw [hcells, longName]
    simp [filled, fixed, skipped, Function.comp_def]
  have hlen : (filled 0 block.cells).length
      = (longName method).length + (wire (longName method).length arg).length := by
    rw [hbs.length, filled, List.length_map, hcells, List.length_append, List.length_map]
  generalize filled 0 block.cells = bytes at hbytes hlen hdecode hload
  obtain ⟨x, y, name, hname⟩ : ∃ x y name, method.bytes = x :: y :: name := by
    have hlength : method.bytes.length = method.strlen := rfl
    cases h : method.bytes with
    | nil => rw [h, List.length_nil] at hlength; omega
    | cons x name =>
        cases name with
        | nil => rw [h, List.length_singleton] at hlength; omega
        | cons y name => exact ⟨x, y, name, rfl⟩
  have hx : x ≠ 0 := by
    rintro rfl
    exact method.nulFree (by rw [hname]; exact List.mem_cons_self)
  rw [hname] at hbytes
  by_cases hshort : method.strlen ≤ 0xFFFF
  · have hform : lengthBytes method.strlen
        = [UInt8.ofNat method.strlen, UInt8.ofNat (method.strlen / 256)] := by
      rw [lengthBytes, if_neg (by omega)]
      rfl
    rw [length_longName, hform] at hlen
    rw [hform] at hbytes
    refine not_read_large hb rfl hn harg hbytes (.inl ⟨rfl, rfl, hx, hshort, ?_, ?_⟩) hdecode hload
    · exact UInt8.toNat_ofNat'
    · exact hlen
  · have hform : lengthBytes method.strlen
        = [UInt8.ofNat method.strlen, UInt8.ofNat (method.strlen / 256),
          UInt8.ofNat (method.strlen / 256 / 256), UInt8.ofNat (method.strlen / 256 / 256 / 256)] := by
      rw [lengthBytes, if_pos (by omega)]
      rfl
    rw [hform] at hbytes
    exact not_read_large hb rfl hn harg hbytes (.inr ⟨rfl, rfl, by omega⟩) hdecode hload

/-- **Builder and decoder agree on a method call** if and only if its name has at most 253 bytes. -/
theorem readsCall_iff (base : Nat) (hb : base % 8 = 0) (method : CString) (arg : StdValue)
    (harg : Pushable arg) : ReadsCall base method arg ↔ method.strlen ≤ 253 := by
  constructor
  · intro hread
    by_contra hlarge
    exact not_readsCall_of_large hb (by omega) harg hread
  · intro hsmall
    exact readsCall_of_small hb hsmall harg

/-- A call with a list of a string and a map with a double. -/
theorem readsCall_iff_map :
    ReadsCall 16 ⟨[109, 97, 112], by decide⟩
        (.kStdList [.kStdString ⟨[120], by decide⟩, .kStdMap [(.kStdInt32 1, .kStdFloat64 7)]])
      ↔ CString.strlen ⟨[109, 97, 112], by decide⟩ ≤ 253 :=
  readsCall_iff 16 (by decide) _ _ (by decide)

/-- A name of 254 letters, with null for an argument. -/
theorem not_readsCall_letters :
    ¬ ∀ (base : Nat) (method : CString) (arg : StdValue), base % 8 = 0 → Pushable arg →
      ReadsCall base method arg := by
  intro h
  have hnul : 0 ∉ List.replicate 254 (97 : UInt8) := fun hmem =>
    absurd (List.eq_of_mem_replicate hmem) (by decide)
  have hlen : 254 ≤ CString.strlen ⟨_, hnul⟩ := List.length_replicate.ge
  exact not_readsCall_of_large rfl hlen (show Pushable .kStdNull by decide)
    (h 0 _ _ rfl (by decide))

end FlutterWlroots.StandardMessageCodec
