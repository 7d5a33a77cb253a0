/-
  FlutterWlroots.Codec.PlatchDecodeWire — `platch_decode_value_std` reads the format.

  `platchDecodeValueStd_wire`: at a cursor where the message shows `wire pos v`, the decoder
  returns a value that loads as `v` and stops right behind it.  The induction is on `v`; what it
  carries is `At`, the two cursor variables in step with the bytes that are left.

  Messages start at an 8-aligned address.  They may have any length: what has to be in the range of
  the `int` lengths of the source is the size of each node (`StdTree.Fits`).
-/
import FlutterWlroots.Lib.StateRun
import FlutterWlroots.Codec.WireFormat
import FlutterWlroots.Codec.PlatchDecode

namespace FlutterWlroots.PlatformChannel

open Lib.LittleEndian Lib.Mem Lib.CInt Lib.StateRun
open FlutterWlroots.Codec

/-! ## §1. Cursors in step with the message. -/

/-- The cursor stands in front of the last bytes `rest` of the message. -/
structure At (buffer : List UInt8) (c : Cursor) (rest : List UInt8) : Prop
    extends SuffixAt buffer c.pos rest where
  remaining_eq : c.remaining = rest.length

/-- The cursor `n` bytes further on. -/
def Cursor.skip (c : Cursor) (n : Nat) : Cursor := ⟨c.pos + n, c.remaining - n⟩

@[simp] theorem Cursor.skip_pos (c : Cursor) (n : Nat) : (c.skip n).pos = c.pos + n := rfl

@[simp] theorem Cursor.skip_skip (c : Cursor) (m n : Nat) : (c.skip m).skip n = c.skip (m + n) := by
  simp only [Cursor.skip, Nat.add_assoc, Nat.sub_sub]

theorem At.start (buffer : List UInt8) : At buffer ⟨0, buffer.length⟩ buffer :=
  ⟨SuffixAt.start buffer, rfl⟩

theorem At.skip {buffer l rest : List UInt8} {c : Cursor} (h : At buffer c (l ++ rest)) :
    At buffer (c.skip l.length) rest where
  toSuffixAt := h.toSuffixAt.skip
  remaining_eq := by
    have hr := h.remaining_eq
    rw [List.length_append] at hr
    show c.remaining - l.length = rest.length
    omega

theorem At.le_remaining {buffer xs rest : List UInt8} {c : Cursor} (h : At buffer c (xs ++ rest)) :
    xs.length ≤ c.remaining := by
  rw [h.remaining_eq, List.length_append]
  exact Nat.le_add_right _ _

section Reads

variable {buffer xs rest : List UInt8} {c : Cursor}

/-! ## §2. The readers, one by one. -/

theorem checkRemaining_run {n : Int} (h : At buffer c (xs ++ rest)) (hn : toSizeT n = xs.length) :
    (checkRemaining n).run c = .ok () c := by
  rw [checkRemaining, run_get_bind, hn, if_neg (Nat.not_lt.mpr h.le_remaining), EStateM.run_pure]

theorem read_run {n : Int} (h : At buffer c (xs ++ rest)) (hn : toSizeT n = xs.length) :
    (read buffer n).run c = .ok xs (c.skip xs.length) := by
  rw [read, run_bind_ok (checkRemaining_run h hn), run_get_bind, hn, if_pos h.le, run_set_bind,
    EStateM.run_pure, h.take_drop, Cursor.skip]

theorem readUInt_run {n : Nat} (h : At buffer c (xs ++ rest)) (hn : xs.length = n)
    (hn64 : n < 2 ^ 64) : (readUInt buffer n).run c = .ok (leNat xs) (c.skip n) := by
  rw [readUInt, run_bind_ok (read_run h (by rw [toSizeT_of_lt hn64, hn])), EStateM.run_pure, hn]

/-- Reading one byte. -/
theorem readByte_run {b : UInt8} (h : At buffer c (b :: rest)) :
    (readUInt buffer 1).run c = .ok b.toNat (c.skip 1) := by
  have h1 : At buffer c ([b] ++ rest) := h
  rw [readUInt_run h1 (List.length_singleton) (by decide)]
  simp [leNat]

theorem advance_run {n : Int} (h : At buffer c (xs ++ rest)) (hn : toSizeT n = xs.length) :
    (advance n).run c = .ok () (c.skip xs.length) := by
  rw [advance, run_bind_ok (checkRemaining_run h hn), EStateM.run_modify, hn, Cursor.skip]

theorem readSize_run {n : Nat} (hn : n < 2 ^ 32) (h : At buffer c (sizePrefix n ++ rest)) :
    (readSize buffer).run c = .ok n (c.skip (sizePrefix n).length) := by
  unfold sizePrefix at h ⊢
  split at h
  next hsmall =>
    have hb : (UInt8.ofNat n).toNat = n := by rw [UInt8.toNat_ofNat']; omega
    rw [if_pos hsmall, readSize, run_bind_ok (readByte_run h), hb, if_pos (by omega),
      EStateM.run_pure, List.length_singleton]
  next hsmall =>
    rw [if_neg hsmall]
    split at h
    next hmid =>
      have h2 : At buffer (c.skip 1) (leBytes 2 n ++ rest) := At.skip (l := [254]) h
      rw [if_pos hmid, readSize, run_bind_ok (readByte_run h), if_neg (by decide),
        if_pos (by decide), readUInt_run h2 (length_leBytes 2 n) (by decide),
        leNat_leBytes_of_lt (by omega), Cursor.skip_skip, List.length_cons, length_leBytes]
    next hmid =>
      have h4 : At buffer (c.skip 1) (leBytes 4 n ++ rest) := At.skip (l := [255]) h
      rw [if_neg hmid, readSize, run_bind_ok (readByte_run h), if_neg (by decide),
        if_neg (by decide), readUInt_run h4 (length_leBytes 4 n) (by decide),
        leNat_leBytes_of_lt (by omega), Cursor.skip_skip, List.length_cons, length_leBytes]

theorem align_run {base k : Nat} (hb : base % 2 ^ k = 0) (hk : 2 ^ k < 2 ^ 31)
    (h : At buffer c (xs ++ rest)) (hpad : xs.length = padding c.pos (2 ^ k)) :
    (align base (2 ^ k)).run c = .ok () (c.skip xs.length) := by
  have hdiff : alignDiff (base + c.pos) (2 ^ k) = xs.length := by
    rw [hpad, alignDiff, alignMask_sub, padding_add_left _ hb]
  have hlt := padding_lt c.pos (Nat.two_pow_pos k)
  rw [align, run_get_bind, hdiff, advance_run h (toSizeT_toInt32_of_lt (by omega))]

theorem decodeString_run {s : CString} (hs : s.strlen < 2 ^ 31)
    (h : At buffer c (sizePrefix s.strlen ++ s.bytes ++ rest)) :
    (decodeString buffer).run c = .ok s (c.skip ((sizePrefix s.strlen).length + s.strlen)) := by
  rw [List.append_assoc] at h
  have hread : (read buffer (toInt32 s.strlen)).run (c.skip (sizePrefix s.strlen).length)
      = .ok s.bytes ((c.skip (sizePrefix s.strlen).length).skip s.strlen) :=
    read_run h.skip (toSizeT_toInt32_of_lt hs)
  rw [decodeString, run_bind_ok (readSize_run (by omega) h), run_bind_ok hread, EStateM.run_pure,
    CString.ofMemory_bytes, Cursor.skip_skip]

theorem decodeUInt8Array_run {a : List UInt8} (ha : a.length < 2 ^ 31)
    (h : At buffer c (sizePrefix a.length ++ a ++ rest)) :
    (decodeUInt8Array buffer).run c
        = .ok ⟨c.pos + (sizePrefix a.length).length, a.length⟩
            (c.skip ((sizePrefix a.length).length + a.length))
      ∧ Borrowed.loadBytes buffer ⟨c.pos + (sizePrefix a.length).length, a.length⟩ = some a := by
  rw [List.append_assoc] at h
  constructor
  · rw [decodeUInt8Array, run_bind_ok (readSize_run (by omega) h), run_get_bind,
      if_neg (Nat.not_lt.mpr h.skip.le_remaining),
      run_bind_ok (advance_run h.skip (toSizeT_toInt32_of_lt ha)), EStateM.run_pure,
      Cursor.skip_skip, Cursor.skip_pos]
  · have hskip := h.skip.toSuffixAt
    rw [Cursor.skip_pos] at hskip
    rw [Borrowed.loadBytes, if_pos hskip.le, hskip.take_drop]

/-- A typed array: the padding and the elements behind the header. -/
theorem decodeArray_run {base k : Nat} (hb : base % 2 ^ k = 0) (hk : 2 ^ k < 2 ^ 31)
    {a : List (BitVec (8 * 2 ^ k))} (ha : a.length * 2 ^ k < 2 ^ 31) {pad : List UInt8}
    (hpad : pad.length = padding (c.pos + (sizePrefix a.length).length) (2 ^ k))
    (h : At buffer c (sizePrefix a.length ++ (pad ++ (elemBytes (2 ^ k) a ++ rest)))) :
    ∃ d : Borrowed (BitVec (8 * 2 ^ k)),
      (decodeArray base buffer (2 ^ k)).run c
        = .ok d (c.skip ((sizePrefix a.length).length + (pad.length + a.length * 2 ^ k)))
      ∧ d.load (2 ^ k) buffer = some a := by
  have h1 := h.skip
  have h2 := h1.skip
  have hle := h2.le_remaining
  have hbuf := h2.le
  rw [length_elemBytes] at hle hbuf
  have hadv := advance_run (n := toInt32 (a.length * 2 ^ k : Nat)) h2
    (by rw [length_elemBytes, toSizeT_toInt32_of_lt ha])
  rw [length_elemBytes] at hadv
  have hcount : a.length ≤ a.length * 2 ^ k := Nat.le_mul_of_pos_right _ (Nat.two_pow_pos k)
  have hmod : a.length * 2 ^ k % 2 ^ 32 = a.length * 2 ^ k := Nat.mod_eq_of_lt (by omega)
  refine ⟨⟨c.pos + (sizePrefix a.length).length + pad.length, a.length⟩, ?_, ?_⟩
  · rw [decodeArray, run_bind_ok (readSize_run (by omega) h), run_bind_ok (align_run hb hk h1 hpad),
      run_get_bind, hmod, if_neg (Nat.not_lt.mpr hle), run_bind_ok hadv, EStateM.run_pure,
      Cursor.skip_skip, Cursor.skip_skip, Cursor.skip_pos, Nat.add_assoc, Nat.add_assoc]
  · have hdrop := h2.drop_eq
    simp only [Cursor.skip_pos] at hdrop hbuf
    rw [Borrowed.load, if_pos hbuf, hdrop, readElems_elemBytes]

/-! ## §3. Values. -/

variable {base : Nat} (hb : base % 8 = 0)

theorem readTag_run {t : Nat} (ht : t < 256) (h : At buffer c (UInt8.ofNat t :: rest)) :
    (readUInt buffer 1).run c = .ok t (c.skip 1) := by
  rw [readByte_run h, UInt8.toNat_ofNat', Nat.mod_eq_of_lt ht]

/-- With this fuel, `v` is read back wherever the message shows it. -/
def ReadsBack (base : Nat) (buffer : List UInt8) (fuel : Nat) (v : StdValue) : Prop :=
  ∀ (c : Cursor) (mid rest : List UInt8), mid.length ≤ fuel → Agrees (wire c.pos v) mid →
    At buffer c (mid ++ rest) →
      ∃ d, (platchDecodeValueStd base buffer fuel).run c = .ok d (c.skip mid.length)
        ∧ d.load buffer = some v

theorem decodeTimes_wireList {fuel : Nat} : ∀ {xs : List StdValue} {c : Cursor} {mid : List UInt8},
    (∀ x ∈ xs, ReadsBack base buffer fuel x) → mid.length ≤ fuel →
    Agrees (wireList c.pos xs) mid → At buffer c (mid ++ rest) →
      ∃ ds, (decodeTimes (platchDecodeValueStd base buffer fuel) xs.length).run c
          = .ok ds (c.skip mid.length) ∧ StdTree.loadList buffer ds = some xs
  | [], c, mid, _, _, hmid, _ => by
      rw [wireList, agrees_nil_iff] at hmid
      subst hmid
      refine ⟨[], ?_, rfl⟩
      rw [List.length_nil, decodeTimes, EStateM.run_pure]
      rfl
  | x :: xs, c, mid, hall, hfuel, hmid, h => by
      rw [wireList, agrees_append] at hmid
      obtain ⟨m, ms, rfl, hm, hms⟩ := hmid
      rw [List.length_append] at hfuel
      rw [List.append_assoc] at h
      obtain ⟨d, hd, hload⟩ := hall x List.mem_cons_self c m (ms ++ rest) (by omega) hm h
      rw [hm.length] at hms
      obtain ⟨ds, hds, hloads⟩ := decodeTimes_wireList (c := c.skip m.length)
        (fun y hy => hall y (List.mem_cons_of_mem x hy)) (by omega) hms h.skip
      refine ⟨d :: ds, ?_, ?_⟩
      · rw [List.length_cons, decodeTimes, run_bind_ok hd, run_bind_ok hds, EStateM.run_pure,
          Cursor.skip_skip, List.length_append]
      · simp [StdTree.loadList, hload, hloads]

theorem decodePairs_wireEntries {fuel : Nat} :
    ∀ {es : List (StdValue × StdValue)} {c : Cursor} {mid : List UInt8},
    (∀ e ∈ es, ReadsBack base buffer fuel e.1 ∧ ReadsBack base buffer fuel e.2) →
    mid.length ≤ fuel → Agrees (wireEntries c.pos es) mid → At buffer c (mid ++ rest) →
      ∃ ds, (decodePairs (platchDecodeValueStd base buffer fuel) es.length).run c
          = .ok ds (c.skip mid.length) ∧ StdTree.loadEntries buffer ds = some es
  | [], c, mid, _, _, hmid, _ => by
      rw [wireEntries, agrees_nil_iff] at hmid
      subst hmid
      refine ⟨[], ?_, rfl⟩
      rw [List.length_nil, decodePairs, EStateM.run_pure]
      rfl
  | (k, v) :: es, c, mid, hall, hfuel, hmid, h => by
      rw [wireEntries, agrees_append] at hmid
      obtain ⟨mk, ms, rfl, hmk, hms⟩ := hmid
      rw [hmk.length, agrees_append] at hms
      obtain ⟨mv, ms, rfl, hmv, hms⟩ := hms
      rw [List.length_append, List.length_append] at hfuel
      rw [List.append_assoc, List.append_assoc] at h
      obtain ⟨hk, hv⟩ := hall (k, v) List.mem_cons_self
      obtain ⟨dk, hdk, hloadk⟩ := hk c mk (mv ++ (ms ++ rest)) (by omega) hmk h
      obtain ⟨dv, hdv, hloadv⟩ := hv (c.skip mk.length) mv (ms ++ rest) (by omega) hmv h.skip
      rw [hmv.length] at hms
      obtain ⟨ds, hds, hloads⟩ := decodePairs_wireEntries (c := (c.skip mk.length).skip mv.length)
        (fun e he => hall e (List.mem_cons_of_mem _ he)) (by omega) hms h.skip.skip
      refine ⟨(dk, dv) :: ds, ?_, ?_⟩
      · rw [List.length_cons, decodePairs, run_bind_ok hdk, run_bind_ok hdv, run_bind_ok hds,
          EStateM.run_pure, Cursor.skip_skip, Cursor.skip_skip, List.length_append,
          List.length_append]
      · simp [StdTree.loadEntries, hloadk, hloadv, hloads]

/-- A value has at least its type byte, so there is fuel for the level it is on. -/
theorem readsBack_of_succ {v : StdValue} (hfits : v.Fits)
    (h : ∀ (fuel : Nat) (c : Cursor) (mid rest : List UInt8), mid.length ≤ fuel + 1 →
      Agrees (wire c.pos v) mid → At buffer c (mid ++ rest) →
        ∃ d, (platchDecodeValueStd base buffer (fuel + 1)).run c = .ok d (c.skip mid.length)
          ∧ d.load buffer = some v) (fuel : Nat) :
    ReadsBack base buffer fuel v := by
  intro c mid rest hfuel hmid hc
  have hpos : 0 < mid.length := by
    rw [← hmid.length]
    exact length_wire_pos _ hfits.isKnown
  obtain ⟨fuel, rfl⟩ : ∃ f, fuel = f + 1 := ⟨fuel - 1, by omega⟩
  exact h fuel c mid rest hfuel hmid hc

/-- An array value: its type byte and the array behind it. -/
theorem decodeArray_wireArray {k w t : Nat} (hw : w = 2 ^ k) (hk : w < 2 ^ 31)
    (hbase : base % w = 0) (ht : t < 256) {a : List (BitVec (8 * w))} (ha : a.length * w < 2 ^ 31)
    {mid : List UInt8} (hmid : Agrees (wireArray c.pos t w a) mid)
    (h : At buffer c (mid ++ rest)) :
    (readUInt buffer 1).run c = .ok t (c.skip 1) ∧
      ∃ d : Borrowed (BitVec (8 * w)),
        (decodeArray base buffer w).run (c.skip 1) = .ok d (c.skip mid.length)
          ∧ d.load w buffer = some a := by
  subst hw
  rw [wireArray, agrees_append] at hmid
  obtain ⟨mp, mv, rfl, hmp, hmv⟩ := hmid
  rw [agrees_append] at hmp
  obtain ⟨mh, mp, rfl, hmh, hmp⟩ := hmp
  rw [agrees_fixed] at hmh hmv
  rw [agrees_skipped, length_header, ← Nat.add_assoc] at hmp
  subst hmh hmv
  rw [List.append_assoc, List.append_assoc] at h
  have h1 : At buffer (c.skip 1) (sizePrefix a.length ++ (mp ++ (elemBytes (2 ^ k) a ++ rest))) :=
    At.skip (l := [UInt8.ofNat t]) h
  obtain ⟨d, hrun, hload⟩ := decodeArray_run hbase hk ha hmp h1
  refine ⟨readTag_run ht h, d, ?_, hload⟩
  rw [hrun, Cursor.skip_skip, List.length_append, List.length_append, length_header,
    length_elemBytes, Nat.add_assoc, Nat.add_assoc]

/-- A number value: its type byte and its bytes. -/
theorem readUInt_number {w t : Nat} (hw : w < 2 ^ 64) (ht : t < 256) {v : BitVec (8 * w)}
    (h : At buffer c (UInt8.ofNat t :: leBytes w v.toNat ++ rest)) :
    (readUInt buffer 1).run c = .ok t (c.skip 1) ∧
      (readUInt buffer w).run (c.skip 1)
        = .ok (leNat (leBytes w v.toNat)) (c.skip (w + 1)) := by
  have h1 : At buffer (c.skip 1) (leBytes w v.toNat ++ rest) := At.skip (l := [UInt8.ofNat t]) h
  refine ⟨readTag_run ht h, ?_⟩
  rw [readUInt_run h1 (length_leBytes w _) hw, Cursor.skip_skip, Nat.add_comm]

/-- A string value: its type byte, its size and its text. -/
theorem decodeString_text {t : Nat} (ht : t < 256) {s : CString} (hs : s.strlen < 2 ^ 31)
    (h : At buffer c (header t s.strlen ++ s.bytes ++ rest)) :
    (readUInt buffer 1).run c = .ok t (c.skip 1) ∧
      (decodeString buffer).run (c.skip 1)
        = .ok s (c.skip (header t s.strlen ++ s.bytes).length) := by
  have h1 : At buffer (c.skip 1) (sizePrefix s.strlen ++ s.bytes ++ rest) :=
    At.skip (l := [UInt8.ofNat t]) h
  refine ⟨readTag_run ht h, ?_⟩
  rw [decodeString_run hs h1, Cursor.skip_skip, List.length_append, length_header, Nat.add_assoc,
    CString.strlen]

/-- What stands before the members of a list or a map: its type byte and their number. -/
theorem readSize_members {t n : Nat} (ht : t < 256) (hn : n < 2 ^ 32)
    {f : Nat → List (Option UInt8)} {mid : List UInt8}
    (hmid : Agrees (fixed (header t n) ++ f (c.pos + (header t n).length)) mid)
    (h : At buffer c (mid ++ rest)) :
    ∃ ms, mid = header t n ++ ms ∧ (readUInt buffer 1).run c = .ok t (c.skip 1) ∧
      (readSize buffer).run (c.skip 1) = .ok n (c.skip (header t n).length) ∧
        Agrees (f (c.skip (header t n).length).pos) ms ∧
          At buffer (c.skip (header t n).length) (ms ++ rest) := by
  rw [agrees_append] at hmid
  obtain ⟨mh, ms, rfl, hmh, hms⟩ := hmid
  rw [agrees_fixed] at hmh
  subst hmh
  rw [List.append_assoc] at h
  have h1 : At buffer (c.skip 1) (sizePrefix n ++ (ms ++ rest)) :=
    At.skip (l := [UInt8.ofNat t]) h
  have hskip : (c.skip 1).skip (sizePrefix n).length = c.skip (header t n).length := by
    rw [Cursor.skip_skip, length_header]
  refine ⟨ms, rfl, readTag_run ht h, ?_, hms, h.skip⟩
  rw [readSize_run hn h1, hskip]

include hb

/-- **The decoder reads the format**: every value that fits is read back where it is shown. -/
theorem platchDecodeValueStd_wire (v : StdValue) (hfits : v.Fits) :
    ∀ fuel, ReadsBack base buffer fuel v := by
  induction v using StdTree.induct
  all_goals refine readsBack_of_succ hfits fun fuel c mid rest hfuel hmid h => ?_
  case kStdNull =>
    rw [wire, agrees_fixed] at hmid
    subst hmid
    refine ⟨.kStdNull, ?_, rfl⟩
    rw [platchDecodeValueStd, run_bind_ok (readTag_run (t := 0) (by decide) h)]
    exact EStateM.run_pure ..
  case kStdTrue =>
    rw [wire, agrees_fixed] at hmid
    subst hmid
    refine ⟨.kStdTrue, ?_, rfl⟩
    rw [platchDecodeValueStd, run_bind_ok (readTag_run (t := 1) (by decide) h)]
    exact EStateM.run_pure ..
  case kStdFalse =>
    rw [wire, agrees_fixed] at hmid
    subst hmid
    refine ⟨.kStdFalse, ?_, rfl⟩
    rw [platchDecodeValueStd, run_bind_ok (readTag_run (t := 2) (by decide) h)]
    exact EStateM.run_pure ..
  case kStdInt32 v =>
    rw [wire, agrees_fixed] at hmid
    subst hmid
    obtain ⟨htag, hrun⟩ := readUInt_number (w := 4) (t := 3) (by decide) (by decide) h
    refine ⟨.kStdInt32 v, ?_, rfl⟩
    rw [platchDecodeValueStd, run_bind_ok htag]
    simp only
    rw [run_bind_ok hrun, EStateM.run_pure, ofNat_leNat_leBytes 4 v, List.length_cons,
      length_leBytes]
  case kStdInt64 v =>
    rw [wire, agrees_fixed] at hmid
    subst hmid
    obtain ⟨htag, hrun⟩ := readUInt_number (w := 8) (t := 4) (by decide) (by decide) h
    refine ⟨.kStdInt64 v, ?_, rfl⟩
    rw [platchDecodeValueStd, run_bind_ok htag]
    simp only
    rw [run_bind_ok hrun, EStateM.run_pure, ofNat_leNat_leBytes 8 v, List.length_cons,
      length_leBytes]
  case kStdLargeInt s =>
    rw [wire, agrees_fixed] at hmid
    subst hmid
    obtain ⟨htag, hrun⟩ := decodeString_text (t := 5) (by decide) (of_decide_eq_true hfits) h
    refine ⟨.kStdLargeInt s, ?_, rfl⟩
    rw [platchDecodeValueStd, run_bind_ok htag]
    simp only
    rw [run_bind_ok hrun, EStateM.run_pure]
  case kStdFloat64 v =>
    rw [wire, agrees_append] at hmid
    obtain ⟨mp, mv, rfl, hmp, hmv⟩ := hmid
    rw [agrees_append] at hmp
    obtain ⟨mt, mp, rfl, hmt, hmp⟩ := hmp
    rw [agrees_fixed] at hmt hmv
    rw [agrees_skipped] at hmp
    subst hmt hmv
    rw [List.append_assoc, List.append_assoc] at h
    have h1 : At buffer (c.skip 1) (mp ++ (leBytes 8 v.toNat ++ rest)) := At.skip (l := [6]) h
    have halign : (align base 8).run (c.skip 1) = .ok () ((c.skip 1).skip mp.length) :=
      align_run (k := 3) hb (by decide) h1 hmp
    refine ⟨.kStdFloat64 v, ?_, rfl⟩
    rw [platchDecodeValueStd, run_bind_ok (readTag_run (t := 6) (by decide) h)]
    simp only
    rw [run_bind_ok halign,
      run_bind_ok (readUInt_run h1.skip (length_leBytes 8 _) (by decide)), EStateM.run_pure,
      ofNat_leNat_leBytes 8 v, Cursor.skip_skip, Cursor.skip_skip, List.length_append,
      List.length_append, length_leBytes, List.length_singleton, Nat.add_assoc]
  case kStdString s =>
    rw [wire, agrees_fixed] at hmid
    subst hmid
    obtain ⟨htag, hrun⟩ := decodeString_text (t := 7) (by decide) (of_decide_eq_true hfits) h
    refine ⟨.kStdString s, ?_, rfl⟩
    rw [platchDecodeValueStd, run_bind_ok htag]
    simp only
    rw [run_bind_ok hrun, EStateM.run_pure]
  case kStdUInt8Array a =>
    rw [wire, agrees_fixed] at hmid
    subst hmid
    have h1 : At buffer (c.skip 1) (sizePrefix a.length ++ a ++ rest) := At.skip (l := [8]) h
    obtain ⟨hrun, hload⟩ := decodeUInt8Array_run (of_decide_eq_true hfits) h1
    refine ⟨.kStdUInt8Array _, ?_, by rw [StdTree.load, hload, Option.map_some]⟩
    rw [platchDecodeValueStd, run_bind_ok (readTag_run (t := 8) (by decide) h)]
    simp only
    rw [run_bind_ok hrun, EStateM.run_pure, Cursor.skip_skip, List.length_append, length_header,
      Nat.add_assoc]
  case kStdInt32Array a =>
    obtain ⟨htag, d, hrun, hload⟩ :=
      decodeArray_wireArray (k := 2) (w := 4) rfl (by decide) (show base % 4 = 0 by omega)
        (by decide) (of_decide_eq_true hfits) hmid h
    refine ⟨.kStdInt32Array d, ?_, by rw [StdTree.load, hload, Option.map_some]⟩
    rw [platchDecodeValueStd, run_bind_ok htag]
    simp only
    rw [run_bind_ok hrun, EStateM.run_pure]
  case kStdInt64Array a =>
    obtain ⟨htag, d, hrun, hload⟩ :=
      decodeArray_wireArray (k := 3) (w := 8) rfl (by decide) hb (by decide)
        (of_decide_eq_true hfits) hmid h
    refine ⟨.kStdInt64Array d, ?_, by rw [StdTree.load, hload, Option.map_some]⟩
    rw [platchDecodeValueStd, run_bind_ok htag]
    simp only
    rw [run_bind_ok hrun, EStateM.run_pure]
  case kStdFloat64Array a =>
    obtain ⟨htag, d, hrun, hload⟩ :=
      decodeArray_wireArray (k := 3) (w := 8) rfl (by decide) hb (by decide)
        (of_decide_eq_true hfits) hmid h
    refine ⟨.kStdFloat64Array d, ?_, by rw [StdTree.load, hload, Option.map_some]⟩
    rw [platchDecodeValueStd, run_bind_ok htag]
    simp only
    rw [run_bind_ok hrun, EStateM.run_pure]
  case kStdList xs ih =>
    rw [StdTree.fits_list] at hfits
    obtain ⟨hsize, hfits⟩ := hfits
    rw [wire] at hmid
    obtain ⟨ms, rfl, htag, hcount, hms, h2⟩ := readSize_members (f := (wireList · xs))
      (by decide) (by omega) hmid h
    rw [List.length_append, length_header] at hfuel
    obtain ⟨ds, hds, hload⟩ := decodeTimes_wireList
      (fun x hx => ih x hx (hfits x hx) fuel) (by omega) hms h2
    refine ⟨.kStdList ds, ?_, by rw [StdTree.load, hload, Option.map_some]⟩
    rw [platchDecodeValueStd, run_bind_ok htag]
    simp only
    rw [run_bind_ok hcount, run_bind_ok hds, EStateM.run_pure, Cursor.skip_skip,
      List.length_append]
  case kStdMap es ih =>
    rw [StdTree.fits_map] at hfits
    obtain ⟨hsize, hfits⟩ := hfits
    rw [wire] at hmid
    obtain ⟨ms, rfl, htag, hcount, hms, h2⟩ := readSize_members (f := (wireEntries · es))
      (by decide) (by omega) hmid h
    rw [List.length_append, length_header] at hfuel
    obtain ⟨ds, hds, hload⟩ := decodePairs_wireEntries
      (fun e he => ⟨(ih e he).1 (hfits e he).1 fuel, (ih e he).2 (hfits e he).2 fuel⟩)
      (by omega) hms h2
    refine ⟨.kStdMap ds, ?_, by rw [StdTree.load, hload, Option.map_some]⟩
    rw [platchDecodeValueStd, run_bind_ok htag]
    simp only
    rw [run_bind_ok hcount, run_bind_ok hds, EStateM.run_pure, Cursor.skip_skip,
      List.length_append]
  case unknown t ht => cases hfits

/-! ## §4. Messages. -/

/-- A message is one value. -/
theorem runDecode_message {v : StdValue} (hfits : v.Fits) (h : Agrees (wire 0 v) buffer) :
    ∃ d, runDecode base buffer .kStandardMessageCodec
        = .ok (.kStandardMessageCodec d) ⟨buffer.length, 0⟩ ∧ d.load buffer = some v := by
  have hstart : At buffer ⟨0, buffer.length⟩ (buffer ++ []) := by
    rw [List.append_nil]
    exact At.start buffer
  obtain ⟨d, hrun, hload⟩ := platchDecodeValueStd_wire hb v hfits (buffer.length + 1)
    ⟨0, buffer.length⟩ buffer [] (Nat.le_succ _) h hstart
  refine ⟨d, ?_, hload⟩
  rw [runDecode, platchDecode, run_bind_ok hrun, EStateM.run_pure, Cursor.skip, Nat.sub_self,
    Nat.zero_add]

/-- A method call is its name and its argument. -/
theorem runDecode_methodCall {method : CString} {std_arg : StdValue}
    (hmethod : method.strlen < 2 ^ 31) (hfits : std_arg.Fits)
    (h : Agrees (wireList 0 [.kStdString method, std_arg]) buffer) :
    ∃ d, runDecode base buffer .kStandardMethodCall
        = .ok (.kStandardMethodCall method d) ⟨buffer.length, 0⟩ ∧ d.load buffer = some std_arg := by
  rw [wireList, wireList, wireList, List.append_nil, agrees_append] at h
  obtain ⟨mname, marg, rfl, hname, harg⟩ := h
  have hstart := At.start (mname ++ marg)
  have hend : At (mname ++ marg) (Cursor.skip ⟨0, (mname ++ marg).length⟩ mname.length)
      (marg ++ []) := by
    rw [List.append_nil]
    exact hstart.skip
  have hfuel : mname.length ≤ (mname ++ marg).length + 1 ∧
      marg.length ≤ (mname ++ marg).length + 1 := by
    rw [List.length_append]
    omega
  obtain ⟨dname, hrunName, hloadName⟩ := platchDecodeValueStd_wire hb (.kStdString method)
    (decide_eq_true hmethod)
    ((mname ++ marg).length + 1) _ mname marg hfuel.1 hname hstart
  rw [hname.length] at harg
  obtain ⟨d, hrun, hload⟩ := platchDecodeValueStd_wire hb std_arg hfits
    ((mname ++ marg).length + 1) _ marg [] hfuel.2 (by rwa [Cursor.skip_pos]) hend
  obtain rfl := StdTree.eq_kStdString_of_load hloadName
  refine ⟨d, ?_, hload⟩
  rw [runDecode, platchDecode, run_bind_ok hrunName]
  simp only
  rw [run_bind_ok hrun, EStateM.run_pure, Cursor.skip_skip, Cursor.skip, List.length_append,
    Nat.sub_self, Nat.zero_add]

end Reads

end FlutterWlroots.PlatformChannel
