/-
  FlutterWlroots.Codec.MessageReadWire — what `message_read` makes of an encoded value.

  `messageRead_wire`: over the bytes that the encoder writes, `message_read` returns true, stops at
  the end and yields `readValue`.  That is the value one expects (`expectedValue`) except for two
  slips: an int32 is loaded unsigned, and a map is tagged as a list.  Both are functions of one
  definition, `dartValue`, so that they differ in exactly these two arguments, and
  `messageRead_inverts_iff` says on which values the difference shows.
-/
import FlutterWlroots.Codec.MessageRead
import FlutterWlroots.Codec.PlatchRoundTrip

namespace FlutterWlroots.StandardMessageCodec

open Lib.LittleEndian Lib.Mem Lib.CInt Lib.StateRun
open FlutterWlroots.Codec FlutterWlroots.PlatformChannel

/-! ## §1. Dart values of standard values. -/

/-- Types that `message_read` has a case for. -/
def isReadable : StdValue → Bool
  | .kStdNull | .kStdTrue | .kStdFalse | .kStdInt32 _ | .kStdInt64 _ | .kStdFloat64 _
  | .kStdString _ | .kStdList _ | .kStdMap _ => true
  | _ => false

/-- A tree of such values. -/
def Readable (v : StdValue) : Prop := v.everyNode isReadable = true

instance (v : StdValue) : Decidable (Readable v) := inferInstanceAs (Decidable (_ = _))

section DartValue

variable (int32 : BitVec 32 → Int) (map : Nat → List DartValue → DartValue)

mutual
/-- The dart value of a readable value, given what becomes of an int32 and of a map. -/
def dartValue : StdValue → DartValue
  | .kStdTrue => .dvBool true
  | .kStdFalse => .dvBool false
  | .kStdInt32 v => .dvInteger (int32 v)
  | .kStdInt64 v => .dvInteger v.toInt
  | .kStdFloat64 v => .dvFloat64 v
  | .kStdString s => .dvString s.strlen s.bytes
  | .kStdList xs => .dvList xs.length (dartValues xs)
  | .kStdMap es => map es.length (dartEntries es)
  | _ => .dvNull
def dartValues : List StdValue → List DartValue
  | [] => []
  | x :: xs => dartValue x :: dartValues xs
/-- Keys and values in turn. -/
def dartEntries : List (StdValue × StdValue) → List DartValue
  | [] => []
  | (k, v) :: es => dartValue k :: dartValue v :: dartEntries es
end

end DartValue

/-- The value that corresponds: signed integers, maps as `dvMap`. -/
def expectedValue : StdValue → DartValue := dartValue BitVec.toInt .dvMap

/-- The value that `message_read` yields. -/
def readValue : StdValue → DartValue := dartValue (fun v => v.toNat) .dvList

/-! ## §2. The readers, one by one. -/

section Reads

variable {buffer xs rest : List UInt8} {offset : Nat}

theorem requireData_run {l : List UInt8} {n : Nat} (h : SuffixAt buffer offset (l ++ rest))
    (hn : n ≤ l.length) :
    (requireData buffer.length n).run offset = .ok () offset := by
  have hle := h.le
  rw [requireData, run_get_bind, sizeSub_of_le (by omega), if_neg (by omega), EStateM.run_pure]

theorem takeBytes_run {n : Nat} (h : SuffixAt buffer offset (xs ++ rest)) (hn : xs.length = n) :
    (takeBytes buffer n).run offset = .ok xs (offset + n) := by
  subst hn
  rw [takeBytes, run_get_bind, if_pos h.le, run_set_bind, EStateM.run_pure, h.take_drop]

theorem takeUInt_run {n : Nat} (h : SuffixAt buffer offset (xs ++ rest)) (hn : xs.length = n) :
    (takeUInt buffer n).run offset = .ok (leNat xs) (offset + n) := by
  rw [takeUInt, run_bind_ok (takeBytes_run h hn), EStateM.run_pure]

theorem takeByte_run {t : Nat} (ht : t < 256) (h : SuffixAt buffer offset (UInt8.ofNat t :: rest)) :
    (takeUInt buffer 1).run offset = .ok t (offset + 1) := by
  have h1 : SuffixAt buffer offset ([UInt8.ofNat t] ++ rest) := h
  rw [takeUInt_run h1 List.length_singleton, leNat, leNat, UInt8.toNat_ofNat', Nat.mod_eq_of_lt ht,
    Nat.mul_zero, Nat.add_zero]

theorem readLength_run {n : Nat} (hn : n < 2 ^ 32)
    (h : SuffixAt buffer offset (sizePrefix n ++ rest)) :
    (readLength buffer buffer.length).run offset = .ok n (offset + (sizePrefix n).length) := by
  have hreq : (requireData buffer.length 1).run offset = .ok () offset :=
    requireData_run h (length_sizePrefix_pos n)
  unfold sizePrefix at h ⊢
  split at h
  next hsmall =>
    rw [if_pos hsmall, readLength, run_bind_ok hreq, run_bind_ok (takeByte_run (by omega) h),
      if_neg (by omega), if_neg (by omega), EStateM.run_pure, List.length_singleton]
  next hsmall =>
    rw [if_neg hsmall]
    split at h
    next hmid =>
      have h2 : SuffixAt buffer (offset + 1) (leBytes 2 n ++ rest) := SuffixAt.skip (l := [254]) h
      rw [if_pos hmid, readLength, run_bind_ok hreq,
        run_bind_ok (takeByte_run (t := 254) (by decide) h), if_neg (by decide), if_pos rfl,
        run_bind_ok (requireData_run h2 (by rw [length_leBytes])),
        takeUInt_run h2 (length_leBytes 2 n), leNat_leBytes_of_lt (by omega), List.length_cons,
        length_leBytes, Nat.add_assoc]
    next hmid =>
      have h4 : SuffixAt buffer (offset + 1) (leBytes 4 n ++ rest) := SuffixAt.skip (l := [255]) h
      rw [if_neg hmid, readLength, run_bind_ok hreq,
        run_bind_ok (takeByte_run (t := 255) (by decide) h), if_pos rfl,
        run_bind_ok (requireData_run h4 (by rw [length_leBytes])),
        takeUInt_run h4 (length_leBytes 4 n), leNat_leBytes_of_lt (by omega), List.length_cons,
        length_leBytes, Nat.add_assoc]

theorem readAlignTo_run {n : Nat} (hn : 0 < n) (h : SuffixAt buffer offset (xs ++ rest))
    (hpad : xs.length = padding offset n) :
    (readAlignTo buffer.length n).run offset = .ok () (offset + xs.length) := by
  rw [readAlignTo, run_get_bind]
  have hlt := Nat.mod_lt offset hn
  by_cases hmod : offset % n = 0
  · have hzero : xs.length = 0 := by
      rw [hpad, padding, hmod, Nat.sub_zero, Nat.mod_self]
    rw [if_neg (not_not.mpr hmod), EStateM.run_pure, hzero, Nat.add_zero]
  · have hnum : n - offset % n = xs.length := by
      rw [hpad, padding]
      exact (Nat.mod_eq_of_lt (by omega)).symm
    rw [if_pos hmod, hnum, run_bind_ok (requireData_run h (Nat.le_refl _)), EStateM.run_set]

/-! ## §3. Values. -/

/-- With this fuel, `v` is read where the message shows it. -/
def Reads (buffer : List UInt8) (fuel : Nat) (v : StdValue) : Prop :=
  ∀ (offset : Nat) (mid rest : List UInt8), mid.length ≤ fuel → Agrees (wire offset v) mid →
    SuffixAt buffer offset (mid ++ rest) →
      (messageRead buffer buffer.length fuel).run offset = .ok (readValue v) (offset + mid.length)

theorem readTimes_wireList {fuel : Nat} : ∀ {vs : List StdValue} {offset : Nat} {mid : List UInt8},
    (∀ v ∈ vs, Reads buffer fuel v) → mid.length ≤ fuel → Agrees (wireList offset vs) mid →
    SuffixAt buffer offset (mid ++ rest) →
      (readTimes (messageRead buffer buffer.length fuel) vs.length).run offset
        = .ok (dartValues (fun v => v.toNat) .dvList vs) (offset + mid.length)
  | [], offset, mid, _, _, hmid, _ => by
      rw [wireList, agrees_nil_iff] at hmid
      subst hmid
      exact EStateM.run_pure ..
  | v :: vs, offset, mid, hall, hfuel, hmid, h => by
      rw [wireList, agrees_append] at hmid
      obtain ⟨m, ms, rfl, hm, hms⟩ := hmid
      rw [List.length_append] at hfuel
      rw [List.append_assoc] at h
      have hv := hall v List.mem_cons_self offset m (ms ++ rest) (by omega) hm h
      rw [hm.length] at hms
      have hvs := readTimes_wireList (fun w hw => hall w (List.mem_cons_of_mem v hw)) (by omega)
        hms h.skip
      rw [List.length_cons, readTimes, run_bind_ok hv, run_bind_ok hvs, EStateM.run_pure,
        List.length_append, Nat.add_assoc]
      rfl

theorem readPairs_wireEntries {fuel : Nat} :
    ∀ {es : List (StdValue × StdValue)} {offset : Nat} {mid : List UInt8},
    (∀ e ∈ es, Reads buffer fuel e.1 ∧ Reads buffer fuel e.2) → mid.length ≤ fuel →
    Agrees (wireEntries offset es) mid → SuffixAt buffer offset (mid ++ rest) →
      (readPairs (messageRead buffer buffer.length fuel) es.length).run offset
        = .ok (dartEntries (fun v => v.toNat) .dvList es) (offset + mid.length)
  | [], offset, mid, _, _, hmid, _ => by
      rw [wireEntries, agrees_nil_iff] at hmid
      subst hmid
      exact EStateM.run_pure ..
  | (k, v) :: es, offset, mid, hall, hfuel, hmid, h => by
      rw [wireEntries, agrees_append] at hmid
      obtain ⟨mk, ms, rfl, hmk, hms⟩ := hmid
      rw [hmk.length, agrees_append] at hms
      obtain ⟨mv, ms, rfl, hmv, hms⟩ := hms
      rw [List.length_append, List.length_append] at hfuel
      rw [List.append_assoc, List.append_assoc] at h
      obtain ⟨hk, hv⟩ := hall (k, v) List.mem_cons_self
      have hk := hk offset mk (mv ++ (ms ++ rest)) (by omega) hmk h
      have hv := hv (offset + mk.length) mv (ms ++ rest) (by omega) hmv h.skip
      rw [hmv.length] at hms
      have hes := readPairs_wireEntries (fun e he => hall e (List.mem_cons_of_mem _ he)) (by omega)
        hms h.skip.skip
      rw [List.length_cons, readPairs, run_bind_ok hk, run_bind_ok hv, run_bind_ok hes,
        EStateM.run_pure, List.length_append, List.length_append, Nat.add_assoc, Nat.add_assoc]
      rfl

theorem reads_of_succ {v : StdValue} (hfits : v.Fits)
    (h : ∀ (fuel offset : Nat) (mid rest : List UInt8), mid.length ≤ fuel + 1 →
      Agrees (wire offset v) mid → SuffixAt buffer offset (mid ++ rest) →
        (messageRead buffer buffer.length (fuel + 1)).run offset
          = .ok (readValue v) (offset + mid.length)) (fuel : Nat) :
    Reads buffer fuel v := by
  intro offset mid rest hfuel hmid hs
  have hpos : 0 < mid.length := by
    rw [← hmid.length]
    exact length_wire_pos _ hfits.isKnown
  obtain ⟨fuel, rfl⟩ : ∃ f, fuel = f + 1 := ⟨fuel - 1, by omega⟩
  exact h fuel offset mid rest hfuel hmid hs

/-- The type byte of a value. -/
theorem messageRead_tag {l : List UInt8} {t : Nat} (ht : t < 256)
    (h : SuffixAt buffer offset (UInt8.ofNat t :: l)) :
    (requireData buffer.length 1).run offset = .ok () offset
      ∧ (takeUInt buffer 1).run offset = .ok t (offset + 1)
      ∧ SuffixAt buffer (offset + 1) l :=
  ⟨requireData_run (l := [UInt8.ofNat t]) h (Nat.le_refl 1), takeByte_run ht h,
    SuffixAt.skip (l := [UInt8.ofNat t]) h⟩

/-- What stands before the members of a list or a map: their number. -/
theorem readLength_members {t n : Nat} (ht : t < 256) (hn : n < 2 ^ 32)
    {f : Nat → List (Option UInt8)} {mid : List UInt8}
    (hmid : Agrees (fixed (header t n) ++ f (offset + (header t n).length)) mid)
    (h : SuffixAt buffer offset (mid ++ rest)) :
    ∃ ms, mid = header t n ++ ms
      ∧ (requireData buffer.length 1).run offset = .ok () offset
      ∧ (takeUInt buffer 1).run offset = .ok t (offset + 1)
      ∧ (readLength buffer buffer.length).run (offset + 1) = .ok n (offset + (header t n).length)
      ∧ Agrees (f (offset + (header t n).length)) ms
      ∧ SuffixAt buffer (offset + (header t n).length) (ms ++ rest) := by
  rw [agrees_append] at hmid
  obtain ⟨mh, ms, rfl, hmh, hms⟩ := hmid
  rw [agrees_fixed] at hmh
  subst hmh
  rw [List.append_assoc] at h
  obtain ⟨hreq, htag, h1⟩ := messageRead_tag (l := sizePrefix n ++ (ms ++ rest)) ht h
  refine ⟨ms, rfl, hreq, htag, ?_, hms, h.skip⟩
  rw [readLength_run hn h1, length_header, Nat.add_assoc]

/-- **`message_read` reads the format**, with its two slips. -/
theorem messageRead_wire (v : StdValue) (hread : Readable v) (hfits : v.Fits) :
    ∀ fuel, Reads buffer fuel v := by
  induction v using StdTree.induct
  all_goals refine reads_of_succ hfits fun fuel offset mid rest hfuel hmid h => ?_
  case kStdNull =>
    rw [wire, agrees_fixed] at hmid
    subst hmid
    obtain ⟨hreq, htag, -⟩ := messageRead_tag (t := 0) (by decide) h
    rw [messageRead, run_bind_ok hreq, run_bind_ok htag]
    exact EStateM.run_pure ..
  case kStdTrue =>
    rw [wire, agrees_fixed] at hmid
    subst hmid
    obtain ⟨hreq, htag, -⟩ := messageRead_tag (t := 1) (by decide) h
    rw [messageRead, run_bind_ok hreq, run_bind_ok htag]
    exact EStateM.run_pure ..
  case kStdFalse =>
    rw [wire, agrees_fixed] at hmid
    subst hmid
    obtain ⟨hreq, htag, -⟩ := messageRead_tag (t := 2) (by decide) h
    rw [messageRead, run_bind_ok hreq, run_bind_ok htag]
    exact EStateM.run_pure ..
  case kStdInt32 v =>
    rw [wire, agrees_fixed] at hmid
    subst hmid
    obtain ⟨hreq, htag, h1⟩ := messageRead_tag (t := 3) (l := leBytes 4 v.toNat ++ rest)
      (by decide) h
    have hlen := length_leBytes 4 v.toNat
    rw [messageRead, run_bind_ok hreq, run_bind_ok htag]
    simp only
    rw [run_bind_ok (requireData_run h1 (Nat.le_of_eq hlen.symm)),
      run_bind_ok (takeUInt_run h1 hlen),
      EStateM.run_pure, leNat_leBytes_of_lt v.isLt, List.length_cons, hlen]
    rfl
  case kStdInt64 v =>
    rw [wire, agrees_fixed] at hmid
    subst hmid
    obtain ⟨hreq, htag, h1⟩ := messageRead_tag (t := 4) (l := leBytes 8 v.toNat ++ rest)
      (by decide) h
    have hlen := length_leBytes 8 v.toNat
    rw [messageRead, run_bind_ok hreq, run_bind_ok htag]
    simp only
    rw [run_bind_ok (requireData_run h1 (Nat.le_of_eq hlen.symm)),
      run_bind_ok (takeUInt_run h1 hlen),
      EStateM.run_pure, leNat_leBytes_of_lt v.isLt, List.length_cons, hlen, toInt64,
      ← BitVec.toInt_eq_toNat_bmod]
    rfl
  case kStdFloat64 v =>
    rw [wire, agrees_append] at hmid
    obtain ⟨mp, mv, rfl, hmp, hmv⟩ := hmid
    rw [agrees_append] at hmp
    obtain ⟨mt, mp, rfl, hmt, hmp⟩ := hmp
    rw [agrees_fixed] at hmt hmv
    rw [agrees_skipped] at hmp
    subst hmt hmv
    rw [List.append_assoc, List.append_assoc] at h
    obtain ⟨hreq, htag, h1⟩ := messageRead_tag (t := 6) (l := mp ++ (leBytes 8 v.toNat ++ rest))
      (by decide) h
    have hlen := length_leBytes 8 v.toNat
    rw [messageRead, run_bind_ok hreq, run_bind_ok htag]
    simp only
    rw [run_bind_ok (readAlignTo_run (by decide) h1 hmp),
      run_bind_ok (requireData_run h1.skip (Nat.le_of_eq hlen.symm)),
      run_bind_ok (takeUInt_run h1.skip hlen), EStateM.run_pure, ofNat_leNat_leBytes 8 v,
      List.length_append, List.length_append, hlen, List.length_singleton, Nat.add_assoc,
      Nat.add_assoc, Nat.add_assoc]
    rfl
  case kStdString s =>
    have hs : s.strlen < 2 ^ 31 := of_decide_eq_true hfits
    rw [wire, agrees_fixed] at hmid
    subst hmid
    rw [List.append_assoc] at h
    obtain ⟨hreq, htag, h1⟩ := messageRead_tag (t := 7)
      (l := sizePrefix s.strlen ++ (s.bytes ++ rest)) (by decide) h
    rw [messageRead, run_bind_ok hreq, run_bind_ok htag]
    simp only
    rw [run_bind_ok (readLength_run (by omega) h1),
      run_bind_ok (requireData_run h1.skip (Nat.le_of_eq (CString.strlen.eq_1 s))),
      run_bind_ok (takeBytes_run h1.skip (CString.strlen.eq_1 s).symm), EStateM.run_pure,
      List.length_append, length_header, CString.strlen, Nat.add_assoc, Nat.add_assoc,
      Nat.add_assoc]
    rfl
  case kStdList xs ih =>
    have hread := (StdTree.everyNode_list.mp hread).2
    obtain ⟨hsize, hfits⟩ := StdTree.fits_list.mp hfits
    rw [wire] at hmid
    obtain ⟨ms, rfl, hreq, htag, hcount, hms, h2⟩ := readLength_members
      (f := (wireList · xs)) (by decide) (by omega) hmid h
    rw [List.length_append, length_header] at hfuel
    have hvs := readTimes_wireList (fun x hx => ih x hx (hread x hx) (hfits x hx) fuel) (by omega)
      hms h2
    rw [messageRead, run_bind_ok hreq, run_bind_ok htag]
    simp only
    rw [run_bind_ok hcount, run_bind_ok hvs, EStateM.run_pure, List.length_append, Nat.add_assoc]
    rfl
  case kStdMap es ih =>
    have hread := (StdTree.everyNode_map.mp hread).2
    obtain ⟨hsize, hfits⟩ := StdTree.fits_map.mp hfits
    rw [wire] at hmid
    obtain ⟨ms, rfl, hreq, htag, hcount, hms, h2⟩ := readLength_members
      (f := (wireEntries · es)) (by decide) (by omega) hmid h
    rw [List.length_append, length_header] at hfuel
    have hes := readPairs_wireEntries (fun e he =>
      ⟨(ih e he).1 (hread e he).1 (hfits e he).1 fuel,
        (ih e he).2 (hread e he).2 (hfits e he).2 fuel⟩)
      (by omega) hms h2
    rw [messageRead, run_bind_ok hreq, run_bind_ok htag]
    simp only
    rw [run_bind_ok hcount, run_bind_ok hes, EStateM.run_pure, List.length_append, Nat.add_assoc]
    rfl
  all_goals cases hread

end Reads

/-! ## §4. Where the slips show. -/

/-- Not a negative int32, and not a map. -/
def isKeptByRead : StdValue → Bool
  | .kStdInt32 v => 0 ≤ v.toInt
  | .kStdMap _ => false
  | _ => true

theorem toNat_eq_toInt_iff (v : BitVec 32) : (v.toNat : Int) = v.toInt ↔ 0 ≤ v.toInt := by
  have hlt := v.isLt
  rw [BitVec.toInt_eq_toNat_cond]
  split <;> omega

theorem dartValues_eq_iff {f g : BitVec 32 → Int} {m n : Nat → List DartValue → DartValue} :
    ∀ {xs : List StdValue},
      dartValues f m xs = dartValues g n xs ↔ ∀ x ∈ xs, dartValue f m x = dartValue g n x
  | [] => by simp [dartValues]
  | x :: xs => by
      rw [dartValues, dartValues, List.cons.injEq, dartValues_eq_iff, List.forall_mem_cons]

/-- **The value read is the expected one** exactly when no int32 is negative and no node a map. -/
theorem readValue_eq_iff (v : StdValue) :
    readValue v = expectedValue v ↔ v.everyNode isKeptByRead = true := by
  induction v using StdTree.induct with
  | kStdInt32 v =>
      rw [readValue, expectedValue, dartValue, dartValue, DartValue.dvInteger.injEq,
        toNat_eq_toInt_iff]
      exact decide_eq_true_iff.symm
  | kStdList xs ih =>
      rw [readValue, expectedValue, dartValue, dartValue, DartValue.dvList.injEq,
        dartValues_eq_iff, StdTree.everyNode_list]
      constructor
      · rintro ⟨-, hall⟩
        exact ⟨rfl, fun x hx => (ih x hx).mp (hall x hx)⟩
      · rintro ⟨-, hall⟩
        exact ⟨rfl, fun x hx => (ih x hx).mpr (hall x hx)⟩
  | kStdMap es _ =>
      rw [readValue, expectedValue, dartValue, dartValue, StdTree.everyNode_map]
      exact ⟨nofun, nofun⟩
  | _ => exact ⟨fun _ => rfl, fun _ => rfl⟩

/-- `message_read` over the encoded value yields the expected value and ends at the end. -/
def Inverts (base : Nat) (v : StdValue) : Prop :=
  ∃ block, platchEncode base (.kStandardMessageCodec v) = .ok (some block) ∧
    ∀ bytes, Agrees block.cells bytes → runMessageRead bytes = .ok (expectedValue v) block.size

theorem Readable.known {v : StdValue} (h : Readable v) : v.Known :=
  StdTree.everyNode_mono (fun v hv => by cases v <;> first | rfl | cases hv) v h

/-- What `message_read` does over an encoded value. -/
theorem runMessageRead_wire {v : StdValue} (hread : Readable v) (hfits : v.Fits)
    {bytes : List UInt8} (h : Agrees (wire 0 v) bytes) :
    runMessageRead bytes = .ok (readValue v) bytes.length := by
  have hstart : SuffixAt bytes 0 (bytes ++ []) := by
    rw [List.append_nil]
    exact SuffixAt.start bytes
  rw [runMessageRead, messageRead_wire v hread hfits _ 0 bytes [] (Nat.le_succ _) h hstart,
    Nat.zero_add]

/-- **`message_read` inverts the standard encoding** exactly on the values without negative int32
and without maps. -/
theorem messageRead_inverts_iff (base : Nat) (hb : base % 8 = 0) (v : StdValue)
    (hread : Readable v) (hsize : (wire 0 v).length < 2 ^ 31) :
    Inverts base v ↔ v.everyNode isKeptByRead = true := by
  have hvs : (PlatchObj.kStandardMessageCodec v).values = some [v] := rfl
  have hencode := platchEncode_values hb hvs
    (fun w hw => by rw [List.mem_singleton.mp hw]; exact hread.known)
    (by simpa only [wireList, List.append_nil] using hsize)
  simp only [wireList, List.append_nil] at hencode
  have hfits := fits_of_length_wire v hread.known 0 hsize
  rw [← readValue_eq_iff]
  constructor
  · rintro ⟨block, hblock, hall⟩
    rw [hencode] at hblock
    cases hblock
    have hagrees := agrees_filled 0 (wire 0 v)
    have hrun := hall _ hagrees
    rw [runMessageRead_wire hread hfits hagrees] at hrun
    exact (EStateM.Result.ok.inj hrun).1
  · intro heq
    refine ⟨_, hencode, fun bytes hbytes => ?_⟩
    rw [runMessageRead_wire hread hfits hbytes, heq, ← hbytes.length]
    rfl

/-- A list of a positive int32, a string and a double. -/
theorem messageRead_inverts_list :
    Inverts 16 (.kStdList [.kStdInt32 7, .kStdString ⟨[97], by decide⟩, .kStdFloat64 1])
      ↔ (StdTree.kStdList [.kStdInt32 7, .kStdString ⟨[97], by decide⟩, .kStdFloat64 1]
          : StdValue).everyNode isKeptByRead = true :=
  messageRead_inverts_iff 16 (by decide) _ (by decide) (by decide)

/-- The int32 -1 is read as 4294967295. -/
theorem not_inverts_negative : ¬ ∀ v, Readable v → (wire 0 v).length < 2 ^ 31 → Inverts 16 v := by
  intro h
  obtain ⟨block, hencode, hall⟩ := h (.kStdInt32 (-1)) (by decide) (by decide)
  have hcompute : platchEncode 16 (.kStandardMessageCodec (.kStdInt32 (-1)))
      = .ok (some ⟨fixed [3, 255, 255, 255, 255]⟩) := rfl
  rw [hcompute] at hencode
  cases hencode
  have hrun := hall [3, 255, 255, 255, 255] (agrees_fixed.mpr rfl)
  have hread : runMessageRead [3, 255, 255, 255, 255] = .ok (.dvInteger 4294967295) 5 := rfl
  rw [hread] at hrun
  injection hrun with hvalue _
  injection hvalue with hint
  revert hint
  decide

end FlutterWlroots.StandardMessageCodec
