/-
  FlutterWlroots.Codec.PlatchEncodeWire — `platch_encode` writes the format.

  Both passes are compared with `wire`: the size pass adds up its length (`platchCalcValueSizeStd_wire`)
  and the write pass turns a fresh block into it (`platchWriteValueToBufferStd_emits`).  The state a
  write pass walks through is `filledTo cells n`: the cells written so far and `n` fresh ones.

  Whatever the sizes are, the write pass only appends (`Appends`): no byte behind the cursor changes.
-/
import FlutterWlroots.Lib.StateRun
import FlutterWlroots.Codec.WireFormat
import FlutterWlroots.Codec.PlatchEncode

namespace FlutterWlroots.PlatformChannel

open Lib.LittleEndian Lib.Mem Lib.CInt Lib.StateRun
open FlutterWlroots.Codec

/-! ## §1. The size pass. -/

theorem advanceSize_of_lt {value n : Nat} (h : value + n < 2 ^ 31) :
    advanceSize value n = value + n := by
  rw [advanceSize, toSizeT_toInt32_of_lt (by omega)]
  omega

theorem alignSize_of_lt {value w k : Nat} (hw : w = 2 ^ k)
    (h : value + padding value w < 2 ^ 31) : alignSize value w = value + padding value w := by
  subst hw
  rw [alignSize, alignDiff, alignMask_sub, advanceSize_of_lt h]

theorem advanceSizeBytes_of_lt {value size : Nat} (h : value + (sizePrefix size).length < 2 ^ 31) :
    advanceSizeBytes value size = value + (sizePrefix size).length := by
  unfold advanceSizeBytes
  unfold sizePrefix at h ⊢
  split at h
  next hsmall =>
    rw [List.length_singleton] at h
    rw [if_pos hsmall, if_pos hsmall, advanceSize_of_lt h, List.length_singleton]
  next hsmall =>
    split at h
    next hmid =>
      rw [List.length_cons, length_leBytes] at h
      rw [if_neg hsmall, if_neg hsmall, if_pos hmid, if_pos hmid, advanceSize_of_lt h,
        List.length_cons, length_leBytes]
    next hmid =>
      rw [List.length_cons, length_leBytes] at h
      rw [if_neg hsmall, if_neg hsmall, if_neg hmid, if_neg hmid, advanceSize_of_lt h,
        List.length_cons, length_leBytes]

theorem calcBytesSize_of_lt {value n : Nat} (h : value + ((sizePrefix n).length + n) < 2 ^ 31) :
    calcBytesSize value n = value + ((sizePrefix n).length + n) := by
  rw [calcBytesSize, advanceSizeBytes_of_lt (by omega), advanceSize_of_lt (by omega), Nat.add_assoc]

theorem calcArraySize_of_lt {p t k w : Nat} (hw : w = 2 ^ k) {a : List (BitVec (8 * w))}
    (h : p + (wireArray p t w a).length < 2 ^ 31) :
    calcArraySize (advanceSize p 1) w a.length = p + (wireArray p t w a).length := by
  rw [length_wireArray, length_header] at h ⊢
  have htag : advanceSize p 1 = p + 1 := advanceSize_of_lt (by omega)
  have hheader : advanceSizeBytes (p + 1) a.length = p + (1 + (sizePrefix a.length).length) := by
    rw [advanceSizeBytes_of_lt (by omega), Nat.add_assoc]
  rw [calcArraySize, htag, hheader, alignSize_of_lt hw (by omega), advanceSize_of_lt (by omega)]
  omega

theorem calcList_wireList : ∀ {xs : List StdValue} {size : Nat},
    (∀ x ∈ xs, ∀ size, size + (wire size x).length < 2 ^ 31 →
      platchCalcValueSizeStd size x = .ok (size + (wire size x).length)) →
    size + (wireList size xs).length < 2 ^ 31 →
    calcList size xs = .ok (size + (wireList size xs).length)
  | [], _, _, _ => rfl
  | x :: xs, size, hall, h => by
      rw [wireList, List.length_append, ← Nat.add_assoc] at h ⊢
      rw [calcList, hall x List.mem_cons_self size (by omega)]
      exact calcList_wireList (fun y hy => hall y (List.mem_cons_of_mem x hy)) h

theorem calcEntries_wireEntries : ∀ {es : List (StdValue × StdValue)} {size : Nat},
    (∀ e ∈ es, (∀ size, size + (wire size e.1).length < 2 ^ 31 →
      platchCalcValueSizeStd size e.1 = .ok (size + (wire size e.1).length))
      ∧ ∀ size, size + (wire size e.2).length < 2 ^ 31 →
      platchCalcValueSizeStd size e.2 = .ok (size + (wire size e.2).length)) →
    size + (wireEntries size es).length < 2 ^ 31 →
    calcEntries size es = .ok (size + (wireEntries size es).length)
  | [], _, _, _ => rfl
  | (k, v) :: es, size, hall, h => by
      rw [wireEntries, List.length_append, List.length_append, ← Nat.add_assoc, ← Nat.add_assoc]
        at h ⊢
      obtain ⟨hk, hv⟩ := hall (k, v) List.mem_cons_self
      simp only at hk hv
      rw [calcEntries, hk size (by omega)]
      show (platchCalcValueSizeStd _ v >>= fun size => calcEntries size es) = _
      rw [hv _ (by omega)]
      exact calcEntries_wireEntries (fun e he => hall e (List.mem_cons_of_mem _ he)) h

/-- **The size pass computes the length of the format.** -/
theorem platchCalcValueSizeStd_wire (v : StdValue) (hknown : v.Known) : ∀ size,
    size + (wire size v).length < 2 ^ 31 →
    platchCalcValueSizeStd size v = .ok (size + (wire size v).length) := by
  induction v using StdTree.induct
  all_goals
    intro size h
    rw [platchCalcValueSizeStd]
    rw [wire] at h ⊢
  case kStdNull | kStdTrue | kStdFalse =>
    rw [length_fixed, List.length_singleton] at h ⊢
    rw [advanceSize_of_lt h]
    rfl
  case kStdInt32 v | kStdInt64 v =>
    rw [length_fixed, List.length_cons, length_leBytes] at h ⊢
    have htag : advanceSize size 1 = size + 1 := advanceSize_of_lt (by omega)
    rw [htag, advanceSize_of_lt (by omega), Nat.add_assoc, Nat.add_comm 1]
    rfl
  case kStdLargeInt s | kStdString s =>
    rw [length_fixed, List.length_append, length_header, Nat.add_assoc, ← Nat.add_assoc,
      ← CString.strlen] at h ⊢
    rw [advanceSize_of_lt (by omega), calcBytesSize_of_lt h]
    rfl
  case kStdFloat64 v =>
    rw [List.length_append, List.length_append, length_fixed, length_skipped, length_fixed,
      length_leBytes, List.length_singleton] at h ⊢
    have htag : advanceSize size 1 = size + 1 := advanceSize_of_lt (by omega)
    rw [htag, alignSize_of_lt (k := 3) (w := 8) rfl (by omega), advanceSize_of_lt (by omega)]
    simp only [← Nat.add_assoc]
    rfl
  case kStdUInt8Array a =>
    rw [length_fixed, List.length_append, length_header, Nat.add_assoc, ← Nat.add_assoc] at h ⊢
    rw [advanceSize_of_lt (by omega), calcBytesSize_of_lt h]
    rfl
  case kStdInt32Array a =>
    rw [calcArraySize_of_lt (k := 2) (w := 4) rfl h]
    rfl
  case kStdInt64Array a | kStdFloat64Array a =>
    rw [calcArraySize_of_lt (k := 3) (w := 8) rfl h]
    rfl
  case kStdList xs ih =>
    rw [StdTree.known_list] at hknown
    rw [List.length_append, length_fixed, length_header, ← Nat.add_assoc, ← Nat.add_assoc] at h ⊢
    rw [advanceSize_of_lt (by omega), advanceSizeBytes_of_lt (by omega),
      calcList_wireList (fun x hx => ih x hx (hknown x hx)) h]
  case kStdMap es ih =>
    rw [StdTree.known_map] at hknown
    rw [List.length_append, length_fixed, length_header, ← Nat.add_assoc, ← Nat.add_assoc] at h ⊢
    rw [advanceSize_of_lt (by omega), advanceSizeBytes_of_lt (by omega),
      calcEntries_wireEntries
        (fun e he => ⟨(ih e he).1 (hknown e he).1, (ih e he).2 (hknown e he).2⟩) h]
  case unknown t ht => cases hknown

/-! ## §2. The write pass on a fresh block. -/

/-- The writer behind `cells`, with `n` fresh bytes in front of it. -/
def filledTo (cells : List (Option UInt8)) (n : Nat) : Writer :=
  ⟨⟨cells ++ List.replicate n none⟩, cells.length⟩

/-- From offset `p` on, `m` turns fresh bytes into `cells`. -/
def Emits (p : Nat) (m : WriteM Unit) (cells : List (Option UInt8)) : Prop :=
  ∀ (pre : List (Option UInt8)) (n : Nat), pre.length = p → cells.length ≤ n →
    m.run (filledTo pre n) = .ok () (filledTo (pre ++ cells) (n - cells.length))

theorem Emits.bind {p : Nat} {m m' : WriteM Unit} {cells cells' : List (Option UInt8)}
    (h : Emits p m cells) (h' : Emits (p + cells.length) m' cells') :
    Emits p (m >>= fun _ => m') (cells ++ cells') := by
  intro pre n hp hn
  rw [List.length_append] at hn ⊢
  have hp' : (pre ++ cells).length = p + cells.length := by rw [List.length_append, hp]
  rw [run_bind_ok (h pre n hp (by omega)), h' (pre ++ cells) _ hp' (by omega), List.append_assoc,
    Nat.sub_sub]

theorem emits_pure (p : Nat) : Emits p (pure ()) [] := by
  intro pre n _ _
  rw [EStateM.run_pure, List.append_nil, List.length_nil, Nat.sub_zero]

theorem emits_write (p : Nat) (bs : List UInt8) : Emits p (write bs) (fixed bs) := by
  intro pre n _ hn
  rw [length_fixed] at hn ⊢
  have hblock : pre ++ List.replicate n none
      = pre ++ List.replicate bs.length none ++ List.replicate (n - bs.length) none := by
    rw [List.append_assoc, List.replicate_append_replicate, Nat.add_sub_cancel' hn]
  have hstore : (filledTo pre n).block.store (filledTo pre n).pos bs
      = some ⟨pre ++ fixed bs ++ List.replicate (n - bs.length) none⟩ := by
    rw [filledTo, hblock]
    exact Block.store_middle rfl List.length_replicate
  rw [write, run_get_bind, hstore]
  simp only
  rw [EStateM.run_set, filledTo, filledTo, List.length_append, length_fixed]

theorem emits_writeUInt {p n value : Nat} {bs : List UInt8} (h : leBytes n value = bs) :
    Emits p (writeUInt n value) (fixed bs) := by
  rw [writeUInt, h]
  exact emits_write p bs

theorem emits_align {p base w k : Nat} (hw : w = 2 ^ k) (hb : base % w = 0) (hk : w < 2 ^ 31) :
    Emits p (alignWriter base w) (skipped (padding p w)) := by
  subst hw
  intro pre n hp hn
  rw [length_skipped] at hn ⊢
  have hlt := padding_lt p (Nat.two_pow_pos k)
  have hdiff : alignDiff (base + pre.length) (2 ^ k) = padding p (2 ^ k) := by
    rw [alignDiff, alignMask_sub, padding_add_left _ hb, hp]
  rw [alignWriter, EStateM.run_modify, filledTo, hdiff, toSizeT_toInt32_of_lt (by omega), filledTo,
    List.append_assoc, skipped, List.replicate_append_replicate, Nat.add_sub_cancel' hn,
    List.length_append, List.length_replicate]

theorem emits_writeSize {p n : Nat} (hn : n < 2 ^ 31) :
    Emits p (writeSize (toInt32 n)) (fixed (sizePrefix n)) := by
  rw [toInt32_of_lt hn, writeSize, toSizeT_of_lt (by omega), sizePrefix]
  by_cases hsmall : n < 254
  · rw [if_pos (by omega), if_pos hsmall]
    exact emits_writeUInt rfl
  · rw [if_neg (by omega), if_neg hsmall]
    by_cases hmid : n ≤ 0xFFFF
    · rw [if_pos (by omega), if_pos hmid]
      exact (emits_writeUInt rfl).bind (emits_writeUInt rfl)
    · rw [if_neg (by omega), if_neg hmid]
      exact (emits_writeUInt rfl).bind (emits_writeUInt rfl)

theorem emits_writeBytes : ∀ (p : Nat) (bs : List UInt8), Emits p (writeBytes bs) (fixed bs)
  | p, [] => emits_pure p
  | p, b :: bs => by
      have hb : leBytes 1 b.toNat = [b] := by rw [leBytes, leBytes, UInt8.ofNat_toNat]
      exact (emits_writeUInt hb).bind (emits_writeBytes (p + 1) bs)

theorem emits_writeElems (w : Nat) : ∀ (p : Nat) (a : List (BitVec (8 * w))),
    Emits p (writeElems w a) (fixed (elemBytes w a))
  | p, [] => emits_pure p
  | p, v :: a => by
      have hcells : fixed (elemBytes w (v :: a)) =
          fixed (leBytes w v.toNat) ++ fixed (elemBytes w a) :=
        List.map_append
      rw [hcells]
      exact (emits_writeUInt rfl).bind (emits_writeElems w _ a)

/-- A tag and a size prefix: the header. -/
theorem emits_header {p t n : Nat} (hn : n < 2 ^ 31) {m : WriteM Unit}
    {cells : List (Option UInt8)} (h : Emits (p + (header t n).length) m cells) :
    Emits p (writeUInt 1 t >>= fun _ => writeSize (toInt32 n) >>= fun _ => m)
      (fixed (header t n) ++ cells) := by
  rw [length_header, ← Nat.add_assoc] at h
  have hcells : fixed (header t n) ++ cells
      = fixed (leBytes 1 t) ++ (fixed (sizePrefix n) ++ cells) := rfl
  rw [hcells]
  exact (emits_writeUInt rfl).bind
    ((emits_writeSize hn).bind (by rwa [length_fixed, length_leBytes, length_fixed]))

theorem emits_array {p t base w k : Nat} (hw : w = 2 ^ k) (hb : base % w = 0) (hk : w < 2 ^ 31)
    {a : List (BitVec (8 * w))} (ha : a.length < 2 ^ 31) :
    Emits p (writeUInt 1 t >>= fun _ => writeArray base w a) (wireArray p t w a) := by
  rw [wireArray, List.append_assoc]
  exact emits_header ha ((emits_align hw hb hk).bind (emits_writeElems w _ a))

theorem emits_writeList {base : Nat} : ∀ {xs : List StdValue} {p : Nat},
    (∀ x ∈ xs, ∀ p, Emits p (platchWriteValueToBufferStd base x) (wire p x)) →
    Emits p (writeList base xs) (wireList p xs)
  | [], p, _ => emits_pure p
  | x :: _, p, hall => (hall x List.mem_cons_self p).bind
      (emits_writeList fun y hy => hall y (List.mem_cons_of_mem x hy))

theorem emits_writeEntries {base : Nat} : ∀ {es : List (StdValue × StdValue)} {p : Nat},
    (∀ e ∈ es, (∀ p, Emits p (platchWriteValueToBufferStd base e.1) (wire p e.1))
      ∧ ∀ p, Emits p (platchWriteValueToBufferStd base e.2) (wire p e.2)) →
    Emits p (writeEntries base es) (wireEntries p es)
  | [], p, _ => emits_pure p
  | e :: _, p, hall => ((hall e List.mem_cons_self).1 p).bind
      (((hall e List.mem_cons_self).2 _).bind
        (emits_writeEntries fun e' he => hall e' (List.mem_cons_of_mem e he)))

/-- **The write pass writes the format.** -/
theorem platchWriteValueToBufferStd_emits {base : Nat} (hb : base % 8 = 0) (v : StdValue)
    (hfits : v.Fits) : ∀ p, Emits p (platchWriteValueToBufferStd base v) (wire p v) := by
  induction v using StdTree.induct
  all_goals
    intro p
    rw [platchWriteValueToBufferStd, wire]
  case kStdNull | kStdTrue | kStdFalse => exact emits_writeUInt rfl
  case kStdInt32 v | kStdInt64 v => exact (emits_writeUInt rfl).bind (emits_writeUInt rfl)
  case kStdLargeInt s | kStdString s =>
    rw [fixed, List.map_append]
    exact emits_header (of_decide_eq_true hfits) (emits_writeBytes _ s.bytes)
  case kStdFloat64 v =>
    rw [List.append_assoc]
    exact (emits_writeUInt rfl).bind
      ((emits_align (k := 3) rfl hb (by decide)).bind (emits_writeUInt rfl))
  case kStdUInt8Array a =>
    rw [fixed, List.map_append]
    exact emits_header (of_decide_eq_true hfits) (emits_writeBytes _ a)
  case kStdInt32Array a =>
    have ha : a.length * 4 < 2 ^ 31 := of_decide_eq_true hfits
    exact emits_array (k := 2) rfl (by omega) (by decide) (by omega)
  case kStdInt64Array a | kStdFloat64Array a =>
    have ha : a.length * 8 < 2 ^ 31 := of_decide_eq_true hfits
    exact emits_array (k := 3) rfl hb (by decide) (by omega)
  case kStdList xs ih =>
    obtain ⟨hsize, hfits⟩ := StdTree.fits_list.mp hfits
    exact emits_header hsize (emits_writeList fun x hx => ih x hx (hfits x hx))
  case kStdMap es ih =>
    obtain ⟨hsize, hfits⟩ := StdTree.fits_map.mp hfits
    exact emits_header hsize (emits_writeEntries fun e he =>
      ⟨(ih e he).1 (hfits e he).1, (ih e he).2 (hfits e he).2⟩)
  case unknown t ht => cases hfits

/-- An object whose size pass yields the length of what its write pass writes. -/
theorem allocAndWrite_emits {size : Except Errno Nat} {pass : WriteM Unit}
    {cells : List (Option UInt8)} (hsize : size = .ok cells.length) (hpass : Emits 0 pass cells) :
    allocAndWrite size pass = .ok (some ⟨cells⟩) := by
  have hrun : pass.run ⟨Block.alloc cells.length, 0⟩ = .ok () (filledTo cells 0) := by
    have h := hpass [] cells.length rfl (Nat.le_refl _)
    rwa [List.nil_append, Nat.sub_self] at h
  unfold allocAndWrite
  rw [hsize]
  simp only [hrun]
  rw [filledTo, List.replicate_zero, List.append_nil]

/-! ## §3. Rules for write passes. -/

/-- A property of programs that the parts of a write pass have and sequences keep. -/
structure WriteRule (P : WriteM Unit → Prop) : Prop where
  pure : P (Pure.pure ())
  bind : ∀ {m m'}, P m → P m' → P (m >>= fun _ => m')
  write : ∀ src, P (write src)
  align : ∀ base w, P (alignWriter base w)

namespace WriteRule

variable {P : WriteM Unit → Prop} (h : WriteRule P)

include h

theorem writeSize (size : Int) : P (writeSize size) := by
  unfold PlatformChannel.writeSize
  split
  · exact h.write _
  · split
    · exact h.bind (h.write _) (h.write _)
    · exact h.bind (h.write _) (h.write _)

theorem writeBytes : ∀ bs, P (writeBytes bs)
  | [] => h.pure
  | _ :: bs => h.bind (h.write _) (writeBytes bs)

theorem writeElems (w : Nat) : ∀ a, P (writeElems w a)
  | [] => h.pure
  | _ :: a => h.bind (h.write _) (writeElems w a)

theorem writeArray (base w : Nat) (a : List (BitVec (8 * w))) : P (writeArray base w a) :=
  h.bind (h.writeSize _) (h.bind (h.align base w) (h.writeElems w a))

theorem writeList {base : Nat} : ∀ {xs : List StdValue},
    (∀ x ∈ xs, P (platchWriteValueToBufferStd base x)) → P (writeList base xs)
  | [], _ => h.pure
  | x :: _, hall => h.bind (hall x List.mem_cons_self)
      (writeList fun y hy => hall y (List.mem_cons_of_mem x hy))

theorem writeEntries {base : Nat} : ∀ {es : List (StdValue × StdValue)},
    (∀ e ∈ es, P (platchWriteValueToBufferStd base e.1) ∧
      P (platchWriteValueToBufferStd base e.2)) → P (writeEntries base es)
  | [], _ => h.pure
  | e :: _, hall => h.bind (hall e List.mem_cons_self).1 (h.bind (hall e List.mem_cons_self).2
      (writeEntries fun e' he => hall e' (List.mem_cons_of_mem e he)))

/-- **The write pass of a value has the property**, if that of an unknown value has it or there is
    none in the tree. -/
theorem value (base : Nat) (v : StdValue) (hv : v.Known ∨
    ∀ type, P (writeUInt 1 type >>= fun _ => throw (.errno .EINVAL))) :
    P (platchWriteValueToBufferStd base v) := by
  induction v using StdTree.induct
  all_goals rw [platchWriteValueToBufferStd]
  case kStdNull | kStdTrue | kStdFalse => exact h.write _
  case kStdInt32 v | kStdInt64 v => exact h.bind (h.write _) (h.write _)
  case kStdLargeInt s | kStdString s =>
    exact h.bind (h.write _) (h.bind (h.writeSize _) (h.writeBytes _))
  case kStdFloat64 v => exact h.bind (h.write _) (h.bind (h.align _ _) (h.write _))
  case kStdUInt8Array a => exact h.bind (h.write _) (h.bind (h.writeSize _) (h.writeBytes _))
  case kStdInt32Array a | kStdInt64Array a | kStdFloat64Array a =>
    exact h.bind (h.write _) (h.writeArray _ _ _)
  case kStdList xs ih =>
    rw [StdTree.known_list] at hv
    exact h.bind (h.write _) (h.bind (h.writeSize _) (h.writeList fun x hx =>
      ih x hx (hv.imp_left fun hknown => hknown x hx)))
  case kStdMap es ih =>
    rw [StdTree.known_map] at hv
    exact h.bind (h.write _) (h.bind (h.writeSize _) (h.writeEntries fun e he =>
      ⟨(ih e he).1 (hv.imp_left fun hknown => (hknown e he).1),
        (ih e he).2 (hv.imp_left fun hknown => (hknown e he).2)⟩))
  case unknown t ht =>
    rcases hv with hknown | hunknown
    · cases hknown
    · exact hunknown t

end WriteRule

/-! ## §4. The write pass only appends. -/

/-- `w'` comes after `w`: the cursor went forward and nothing behind it changed. -/
structure Writer.Extends (w' w : Writer) : Prop where
  pos_le : w.pos ≤ w'.pos
  cells_eq : ∀ j < w.pos, w'.block.cells[j]? = w.block.cells[j]?

theorem Writer.Extends.trans {w w' w'' : Writer} (h' : w''.Extends w') (h : w'.Extends w) :
    w''.Extends w where
  pos_le := Nat.le_trans h.pos_le h'.pos_le
  cells_eq := fun j hj => by
    rw [h'.cells_eq j (Nat.lt_of_lt_of_le hj h.pos_le), h.cells_eq j hj]

/-- Whenever `m` succeeds, it has only appended. -/
def Appends (m : WriteM Unit) : Prop :=
  ∀ w w', m.run w = .ok () w' → w'.Extends w

theorem write_eq_ok {src : List UInt8} {w w' : Writer} (h : (write src).run w = .ok () w') :
    ∃ block, w.block.store w.pos src = some block ∧ w' = ⟨block, w.pos + src.length⟩ := by
  rw [write, run_get_bind] at h
  cases hstore : w.block.store w.pos src with
  | none =>
      rw [hstore] at h
      cases h
  | some block =>
      rw [hstore] at h
      cases h
      exact ⟨block, rfl, rfl⟩

theorem appends : WriteRule Appends where
  pure := by
    intro w w' hrun
    obtain ⟨-, rfl⟩ := run_pure_eq_ok.mp hrun
    exact ⟨Nat.le_refl _, fun _ _ => rfl⟩
  bind := by
    intro m m' h h' w w'' hrun
    obtain ⟨_, w', hm, hm'⟩ := run_bind_eq_ok.mp hrun
    exact (h' w' w'' hm').trans (h w w' hm)
  write := by
    intro src w w' hrun
    obtain ⟨block, hstore, rfl⟩ := write_eq_ok hrun
    refine ⟨Nat.le_add_right _ _, fun j hj => ?_⟩
    show block.cells[j]? = _
    rw [Block.getElem?_store hstore, if_neg (by omega)]
  align := by
    intro base w x x' hrun
    rw [alignWriter, EStateM.run_modify] at hrun
    cases hrun
    exact ⟨Nat.le_add_right _ _, fun _ _ => rfl⟩

/-- **No value changes a byte that was written before it**, whatever its size. -/
theorem platchWriteValueToBufferStd_appends (base : Nat) (v : StdValue) :
    Appends (platchWriteValueToBufferStd base v) := by
  refine appends.value base v (.inr fun type w w' hrun => ?_)
  -- the type byte is written before the error, so there is no success to speak of
  obtain ⟨_, _, -, hthrow⟩ := run_bind_eq_ok.mp hrun
  exact (run_throw_eq_ok.mp hthrow).elim

end FlutterWlroots.PlatformChannel
