/-
  FlutterWlroots.Codec.PlatchPasses — the size pass and the write pass of `platch_encode`.

  `platch_encode` allocates what the size pass has added up and lets the write pass fill it without
  looking at the end, so a byte of disagreement would be a heap overflow.  Here any value is compared,
  also one with unknown types, in any buffer, also one that is too small:

    • known values     — both passes go as far as the format is long (PlatchEncodeWire), in a fresh
                         block; what a block holds and how long it is does not matter (`Lockstep`),
    • unknown values   — both stop with EINVAL, whatever the sizes are (`Rejects`),
    • `passes_agree`   — the comparison, and with it: an allocated block is filled to its last byte.
-/
import FlutterWlroots.Codec.PlatchRoundTrip

namespace FlutterWlroots.PlatformChannel

open Lib.LittleEndian Lib.Mem Lib.StateRun
open FlutterWlroots.Codec

/-! ## §1. Longer blocks. -/

/-- In a block that is not shorter, at the same offset, the pass does the same, unless it has left
    the shorter one. -/
def Lockstep (m : WriteM Unit) : Prop :=
  ∀ w x : Writer, w.pos = x.pos → w.block.size ≤ x.block.size →
    match m.run w with
    | .ok _ w' => ∃ x', m.run x = .ok () x' ∧ w'.pos = x'.pos ∧ w'.block.size = w.block.size
        ∧ x'.block.size = x.block.size
    | .error .outOfBounds _ => True
    | .error e _ => ∃ x', m.run x = .error e x'

theorem write_run_ok {src : List UInt8} {w : Writer} (h : w.pos + src.length ≤ w.block.size) :
    ∃ block, (write src).run w = .ok () ⟨block, w.pos + src.length⟩
      ∧ block.size = w.block.size := by
  obtain ⟨block, hstore⟩ := Block.exists_store h
  refine ⟨block, ?_, Block.size_store hstore⟩
  rw [write, run_get_bind, hstore]
  rfl

theorem write_run_error {src : List UInt8} {w : Writer} (h : w.block.size < w.pos + src.length) :
    (write src).run w = .error .outOfBounds w := by
  have hstore : w.block.store w.pos src = none := if_neg (by omega)
  rw [write, run_get_bind, hstore]
  rfl

theorem lockstep : WriteRule Lockstep where
  pure := fun w x hpos _ => ⟨x, rfl, hpos, rfl, rfl⟩
  bind := by
    intro m m' h h' w x hpos hsize
    have hm := h w x hpos hsize
    rw [EStateM.run_bind]
    cases hrun : m.run w with
    | ok u w1 =>
        rw [hrun] at hm
        obtain ⟨x1, hx, hpos1, hw1, hx1⟩ := hm
        have hm' := h' w1 x1 hpos1 (by omega)
        simp only [run_bind_ok hx]
        cases hrun' : m'.run w1 with
        | ok u' w2 =>
            rw [hrun'] at hm'
            obtain ⟨x2, hx', hpos2, hw2, hx2⟩ := hm'
            exact ⟨x2, hx', hpos2, by omega, by omega⟩
        | error e w2 =>
            rw [hrun'] at hm'
            cases e with
            | outOfBounds => trivial
            | nullString | errno => exact hm'
    | error e w1 =>
        rw [hrun] at hm
        cases e with
        | outOfBounds => trivial
        | nullString | errno =>
            obtain ⟨x', hx⟩ := hm
            exact ⟨x', run_bind_error hx⟩
  write := by
    intro src w x hpos hsize
    rcases Nat.lt_or_ge w.block.size (w.pos + src.length) with hlt | hle
    · rw [write_run_error hlt]
      trivial
    · obtain ⟨block, hrun, hblock⟩ := write_run_ok hle
      obtain ⟨block', hrun', hblock'⟩ := write_run_ok
        (show x.pos + src.length ≤ x.block.size by omega)
      rw [hrun]
      exact ⟨_, hrun', congrArg (· + src.length) hpos, hblock, hblock'⟩
  align := by
    intro base n w x hpos hsize
    refine ⟨_, rfl, ?_, rfl, rfl⟩
    simp only [hpos]

theorem platchWriteValueToBufferStd_lockstep (base : Nat) (v : StdValue) :
    Lockstep (platchWriteValueToBufferStd base v) := by
  refine lockstep.value base v (.inr fun type => ?_)
  refine lockstep.bind (lockstep.write _) fun w x hpos hsize => ?_
  exact ⟨x, rfl⟩

/-! ## §2. Unknown values. -/

/-- The pass ends well or leaves the block. -/
def Unfailing (m : WriteM Unit) : Prop :=
  ∀ w, (∃ w', m.run w = .ok () w') ∨ ∃ w', m.run w = .error .outOfBounds w'

/-- The pass ends with EINVAL or leaves the block. -/
def Rejects (m : WriteM Unit) : Prop :=
  ∀ w, (∃ w', m.run w = .error (.errno .EINVAL) w') ∨ ∃ w', m.run w = .error .outOfBounds w'

theorem Rejects.bind {m m' : WriteM Unit} (h : Rejects m) : Rejects (m >>= fun _ => m') := by
  intro w
  rcases h w with ⟨w', hrun⟩ | ⟨w', hrun⟩
  · exact .inl ⟨w', run_bind_error hrun⟩
  · exact .inr ⟨w', run_bind_error hrun⟩

theorem Unfailing.bind_rejects {m m' : WriteM Unit} (h : Unfailing m) (h' : Rejects m') :
    Rejects (m >>= fun _ => m') := by
  intro w
  rcases h w with ⟨w', hrun⟩ | ⟨w', hrun⟩
  · rw [run_bind_ok hrun]
    exact h' w'
  · exact .inr ⟨w', run_bind_error hrun⟩

theorem unfailing : WriteRule Unfailing where
  pure := fun w => .inl ⟨w, rfl⟩
  bind := by
    intro m m' h h' w
    rcases h w with ⟨w', hrun⟩ | ⟨w', hrun⟩
    · rw [run_bind_ok hrun]
      exact h' w'
    · exact .inr ⟨w', run_bind_error hrun⟩
  write := by
    intro src w
    rcases Nat.lt_or_ge w.block.size (w.pos + src.length) with hlt | hle
    · exact .inr ⟨w, write_run_error hlt⟩
    · obtain ⟨block, hrun, -⟩ := write_run_ok hle
      exact .inl ⟨_, hrun⟩
  align := fun base n w => .inl ⟨_, rfl⟩

theorem unfailing_value (base : Nat) {v : StdValue} (h : v.Known) :
    Unfailing (platchWriteValueToBufferStd base v) := unfailing.value base v (.inl h)

/-- The first unknown member of a list is where the pass ends. -/
theorem rejects_writeList {base : Nat} : ∀ {xs : List StdValue},
    (∀ x ∈ xs, ¬ x.Known → Rejects (platchWriteValueToBufferStd base x)) →
    (¬ ∀ x ∈ xs, x.Known) → Rejects (writeList base xs)
  | [], _, h => absurd (fun x hx => nomatch hx) h
  | x :: xs, hall, h => by
      by_cases hx : x.Known
      · refine (unfailing_value base hx).bind_rejects (rejects_writeList
          (fun y hy => hall y (List.mem_cons_of_mem x hy)) fun hxs => h ?_)
        exact List.forall_mem_cons.mpr ⟨hx, hxs⟩
      · exact (hall x List.mem_cons_self hx).bind

theorem rejects_writeEntries {base : Nat} : ∀ {es : List (StdValue × StdValue)},
    (∀ e ∈ es, (¬ e.1.Known → Rejects (platchWriteValueToBufferStd base e.1)) ∧
      (¬ e.2.Known → Rejects (platchWriteValueToBufferStd base e.2))) →
    (¬ ∀ e ∈ es, e.1.Known ∧ e.2.Known) → Rejects (writeEntries base es)
  | [], _, h => absurd (fun e he => nomatch he) h
  | e :: es, hall, h => by
      obtain ⟨hkey, hvalue⟩ := hall e List.mem_cons_self
      by_cases h1 : e.1.Known
      · refine (unfailing_value base h1).bind_rejects ?_
        by_cases h2 : e.2.Known
        · refine (unfailing_value base h2).bind_rejects (rejects_writeEntries
            (fun e' he => hall e' (List.mem_cons_of_mem e he)) fun hes => h ?_)
          exact List.forall_mem_cons.mpr ⟨⟨h1, h2⟩, hes⟩
        · exact (hvalue h2).bind
      · exact (hkey h1).bind

/-- **The write pass of a tree with an unknown type** ends with EINVAL. -/
theorem platchWriteValueToBufferStd_rejects (base : Nat) (v : StdValue) (h : ¬ v.Known) :
    Rejects (platchWriteValueToBufferStd base v) := by
  induction v using StdTree.induct
  all_goals rw [platchWriteValueToBufferStd]
  case kStdList xs ih =>
    rw [StdTree.known_list] at h
    exact (unfailing.write _).bind_rejects ((unfailing.writeSize _).bind_rejects
      (rejects_writeList ih h))
  case kStdMap es ih =>
    rw [StdTree.known_map] at h
    exact (unfailing.write _).bind_rejects ((unfailing.writeSize _).bind_rejects
      (rejects_writeEntries ih h))
  case unknown t ht => exact (unfailing.write _).bind_rejects fun w => .inl ⟨w, rfl⟩
  all_goals exact absurd rfl h

/-- Whatever the size is, it is computed for a known value only. -/
def SizeRejects (v : StdValue) : Prop := ∀ size, platchCalcValueSizeStd size v = .error .EINVAL

theorem calcValue_total (v : StdValue) (h : v.Known) : ∀ size,
    ∃ n, platchCalcValueSizeStd size v = .ok n := by
  induction v using StdTree.induct
  all_goals intro size
  case kStdList xs ih =>
    rw [StdTree.known_list] at h
    rw [platchCalcValueSizeStd]
    generalize advanceSizeBytes (advanceSize size 1) xs.length = start
    induction xs generalizing start with
    | nil => exact ⟨start, rfl⟩
    | cons x xs ihxs =>
        obtain ⟨hx, hxs⟩ := List.forall_mem_cons.mp h
        obtain ⟨n, hn⟩ := ih x List.mem_cons_self hx start
        rw [calcList, hn]
        exact ihxs (fun y hy => ih y (List.mem_cons_of_mem x hy)) hxs n
  case kStdMap es ih =>
    rw [StdTree.known_map] at h
    rw [platchCalcValueSizeStd]
    generalize advanceSizeBytes (advanceSize size 1) es.length = start
    induction es generalizing start with
    | nil => exact ⟨start, rfl⟩
    | cons e es ihes =>
        obtain ⟨⟨hkey, hvalue⟩, hes⟩ := List.forall_mem_cons.mp h
        obtain ⟨n, hn⟩ := (ih e List.mem_cons_self).1 hkey start
        obtain ⟨n', hn'⟩ := (ih e List.mem_cons_self).2 hvalue n
        obtain ⟨k, v⟩ := e
        rw [calcEntries, hn]
        change ∃ n, (platchCalcValueSizeStd _ v >>= fun size => calcEntries size es) = .ok n
        rw [hn']
        exact ihes (fun e' he => ih e' (List.mem_cons_of_mem _ he)) hes n'
  case unknown t ht => cases h
  all_goals exact ⟨_, rfl⟩

theorem sizeRejects_calcList : ∀ {xs : List StdValue}, (∀ x ∈ xs, ¬ x.Known → SizeRejects x) →
    (¬ ∀ x ∈ xs, x.Known) → ∀ size, calcList size xs = .error .EINVAL
  | [], _, h, _ => absurd (fun x hx => nomatch hx) h
  | x :: xs, hall, h, size => by
      rw [calcList]
      by_cases hx : x.Known
      · obtain ⟨n, hn⟩ := calcValue_total x hx size
        rw [hn]
        exact sizeRejects_calcList (fun y hy => hall y (List.mem_cons_of_mem x hy))
          (fun hxs => h (List.forall_mem_cons.mpr ⟨hx, hxs⟩)) n
      · rw [hall x List.mem_cons_self hx size]
        rfl

theorem sizeRejects_calcEntries : ∀ {es : List (StdValue × StdValue)},
    (∀ e ∈ es, (¬ e.1.Known → SizeRejects e.1) ∧ (¬ e.2.Known → SizeRejects e.2)) →
    (¬ ∀ e ∈ es, e.1.Known ∧ e.2.Known) → ∀ size, calcEntries size es = .error .EINVAL
  | [], _, h, _ => absurd (fun e he => nomatch he) h
  | (k, v) :: es, hall, h, size => by
      obtain ⟨hkey, hvalue⟩ := hall (k, v) List.mem_cons_self
      rw [calcEntries]
      by_cases h1 : k.Known
      · obtain ⟨n, hn⟩ := calcValue_total k h1 size
        rw [hn]
        change (platchCalcValueSizeStd n v >>= fun size => calcEntries size es) = _
        by_cases h2 : v.Known
        · obtain ⟨n', hn'⟩ := calcValue_total v h2 n
          rw [hn']
          exact sizeRejects_calcEntries (fun e he => hall e (List.mem_cons_of_mem _ he))
            (fun hes => h (List.forall_mem_cons.mpr ⟨⟨h1, h2⟩, hes⟩)) n'
        · rw [hvalue h2 n]
          rfl
      · rw [hkey h1 size]
        rfl

/-- **The size pass of a tree with an unknown type** ends with EINVAL. -/
theorem platchCalcValueSizeStd_rejects (v : StdValue) (h : ¬ v.Known) : SizeRejects v := by
  induction v using StdTree.induct
  all_goals intro size
  case kStdList xs ih =>
    rw [StdTree.known_list] at h
    rw [platchCalcValueSizeStd, sizeRejects_calcList ih h]
  case kStdMap es ih =>
    rw [StdTree.known_map] at h
    rw [platchCalcValueSizeStd, sizeRejects_calcEntries ih h]
  case unknown t ht => rw [platchCalcValueSizeStd]; rfl
  all_goals exact absurd rfl h

/-! ## §3. Values. -/

/-- The write pass has ended as the size pass says, or the block was shorter than the size. -/
def Agree (size : Except Errno Nat) (room : Nat) : EStateM.Result EncodeStop Writer Unit → Prop
  | .ok _ w => size = .ok w.pos
  | .error (.errno e) _ => size = .error e
  | .error .outOfBounds _ => ∀ n, size = .ok n → room < n
  | .error .nullString _ => False

/-- A fresh block with the cursor at `pos`. -/
theorem filledTo_replicate (pos n : Nat) :
    (filledTo (List.replicate pos none) n).pos = pos ∧
      (filledTo (List.replicate pos none) n).block.size = pos + n := by
  simp only [filledTo, Block.size, List.length_append, List.length_replicate, and_self]

/-- A pass that writes `cells` where there is room for them goes on by their length everywhere. -/
theorem agree_of_emits {m : WriteM Unit} {w : Writer} {cells : List (Option UInt8)}
    (hlock : Lockstep m) (hemits : Emits w.pos m cells) :
    Agree (.ok (w.pos + cells.length)) w.block.size (m.run w) := by
  -- a fresh block at the same offset that is long enough
  have hfresh := hemits (List.replicate w.pos none) (w.block.size + cells.length)
    List.length_replicate (by omega)
  obtain ⟨hpos, hsize⟩ := filledTo_replicate w.pos (w.block.size + cells.length)
  have hlong := hlock w (filledTo (List.replicate w.pos none) (w.block.size + cells.length))
    hpos.symm (by omega)
  rw [hfresh] at hlong
  cases hrun : m.run w with
  | ok u w' =>
      rw [hrun] at hlong
      obtain ⟨x', hx, hpos', -⟩ := hlong
      cases hx
      rw [Agree, hpos', filledTo, List.length_append, List.length_replicate]
  | error e w' =>
      rw [hrun] at hlong
      cases e with
      | outOfBounds =>
          -- with room for all cells the pass would have stayed within the block
          intro n hn
          cases hn
          by_contra hroom
          obtain ⟨hpos2, hsize2⟩ := filledTo_replicate w.pos (w.block.size - w.pos)
          have hshort := hlock (filledTo (List.replicate w.pos none) (w.block.size - w.pos)) w
            hpos2 (by omega)
          rw [hemits _ _ List.length_replicate (by omega), hrun] at hshort
          obtain ⟨x', hx, -⟩ := hshort
          cases hx
      | errno | nullString =>
          obtain ⟨x', hx⟩ := hlong
          cases hx

theorem agree_value {base : Nat} (hb : base % 8 = 0) (v : StdValue) (w : Writer)
    (hsize : v.Known → w.pos + (wire w.pos v).length < 2 ^ 31) :
    Agree (platchCalcValueSizeStd w.pos v) w.block.size
      ((platchWriteValueToBufferStd base v).run w) := by
  by_cases hknown : v.Known
  · have hlt := hsize hknown
    rw [platchCalcValueSizeStd_wire v hknown w.pos hlt]
    have hfits := fits_of_length_wire v hknown w.pos (by omega)
    exact agree_of_emits (platchWriteValueToBufferStd_lockstep base v)
      (platchWriteValueToBufferStd_emits hb v hfits w.pos)
  · have hcalc := platchCalcValueSizeStd_rejects v hknown w.pos
    rcases platchWriteValueToBufferStd_rejects base v hknown w with ⟨w', hrun⟩ | ⟨w', hrun⟩
    · rw [hrun]
      exact hcalc
    · rw [hrun, hcalc]
      intro n hn
      cases hn

/-! ## §4. Objects. -/

namespace PlatchObj

/-- The objects of the standard codecs. -/
def IsStandard (object : PlatchObj List) : Prop :=
  object.codec = .kStandardMessageCodec ∨ object.codec = .kStandardMethodCall ∨
    object.codec = .kStandardMethodCallResponse

/-- The envelope byte and the values of a message; without an error message there is none. -/
def parts : PlatchObj List → Option (List UInt8 × List StdValue)
  | kStandardMessageCodec v => some ([], [v])
  | kStandardMethodCall method arg => some ([], [.kStdString method, arg])
  | kStandardMethodCallResponse (.success result) => some ([0x00], [result])
  | kStandardMethodCallResponse (.failure code (some msg) details) =>
      some ([0x01], [.kStdString code, .kStdString msg, details])
  | _ => none

/-- The first switch of `platch_encode`: the size of the message. -/
def sizePass (parts : List UInt8 × List StdValue) : Except Errno Nat :=
  calcList parts.1.length parts.2

/-- The second switch of `platch_encode`. -/
def writePass (base : Nat) (parts : List UInt8 × List StdValue) : WriteM Unit := do
  PlatformChannel.writeBytes parts.1
  writeList base parts.2

/-- The bytes of the message. -/
def format (parts : List UInt8 × List StdValue) : List (Option UInt8) :=
  fixed parts.1 ++ wireList parts.1.length parts.2

/-- All types of a message are known. -/
def Known (parts : List UInt8 × List StdValue) : Prop := ∀ v ∈ parts.2, v.Known

/-- The block that `malloc` gives is as long as the size pass says, and the write pass ends at its
    end; an error of the size pass comes before `malloc`. -/
def FillsExactly (base : Nat) (object : PlatchObj List) : Prop :=
  match object.parts with
  | none => platchEncode base object = .error .nullString
  | some parts =>
      match sizePass parts with
      | .error e => platchEncode base object = .error (.errno e)
      | .ok n => ∃ block, (writePass base parts).run ⟨Block.alloc n, 0⟩ = .ok () ⟨block, n⟩ ∧
          block.size = n ∧ platchEncode base object = .ok (some block)

variable {base : Nat} {object : PlatchObj List} {parts : List UInt8 × List StdValue}

theorem platchEncode_parts (h : object.parts = some parts) :
    platchEncode base object = allocAndWrite (sizePass parts) (writePass base parts) := by
  cases object with
  | kStandardMessageCodec v =>
      cases h
      simp [platchEncode, sizePass, writePass, calcList, PlatformChannel.writeBytes, writeList]
  | kStandardMethodCall method arg =>
      cases h
      simp [platchEncode, sizePass, writePass, calcList, PlatformChannel.writeBytes, writeList]
  | kStandardMethodCallResponse response =>
      cases response with
      | success result =>
          cases h
          simp [platchEncode, sizePass, writePass, calcList, PlatformChannel.writeBytes, writeList]
      | failure code msg details =>
          cases msg with
          | none => cases h
          | some msg =>
              cases h
              simp [platchEncode, sizePass, writePass, calcList, PlatformChannel.writeBytes,
                writeList]
  | kNotImplemented | kStringCodec | kBinaryCodec => cases h

/-- An error without a message is all that `platch_encode` cannot take apart. -/
theorem platchEncode_noParts (hstandard : object.IsStandard) (h : object.parts = none) :
    platchEncode base object = .error .nullString := by
  cases object with
  | kStandardMethodCallResponse response =>
      cases response with
      | success result => cases h
      | failure code msg details =>
          cases msg with
          | none => rfl
          | some msg => cases h
  | kStandardMessageCodec | kStandardMethodCall => cases h
  | kNotImplemented | kStringCodec | kBinaryCodec => rcases hstandard with h | h | h <;> cases h

theorem sizePass_known (hknown : Known parts) (hsize : (format parts).length < 2 ^ 31) :
    sizePass parts = .ok (format parts).length := by
  rw [format, List.length_append, length_fixed] at hsize ⊢
  exact calcList_wireList (fun v hv => platchCalcValueSizeStd_wire v (hknown v hv)) hsize

theorem writePass_known (hb : base % 8 = 0) (hknown : Known parts)
    (hsize : (format parts).length < 2 ^ 31) : Emits 0 (writePass base parts) (format parts) := by
  rw [format, List.length_append, length_fixed] at hsize
  refine (emits_writeBytes 0 parts.1).bind ?_
  rw [length_fixed, Nat.zero_add]
  refine emits_writeList fun v hv => platchWriteValueToBufferStd_emits hb v ?_
  obtain ⟨q, hq⟩ := length_le_of_mem_wireList (p := parts.1.length) hv
  exact fits_of_length_wire v (hknown v hv) q (by omega)

theorem fillsExactly (hb : base % 8 = 0) (hstandard : object.IsStandard)
    (hsize : ∀ parts, object.parts = some parts → Known parts → (format parts).length < 2 ^ 31) :
    object.FillsExactly base := by
  unfold FillsExactly
  cases hparts : object.parts with
  | none => exact platchEncode_noParts hstandard hparts
  | some parts =>
      simp only [platchEncode_parts hparts]
      by_cases hknown : Known parts
      · have hlt := hsize parts hparts hknown
        have hrun := writePass_known hb hknown hlt [] (format parts).length rfl (Nat.le_refl _)
        rw [List.nil_append, Nat.sub_self] at hrun
        have hblock : (filledTo (format parts) 0) = ⟨⟨format parts⟩, (format parts).length⟩ := by
          rw [filledTo, List.replicate_zero, List.append_nil]
        rw [hblock] at hrun
        rw [sizePass_known hknown hlt]
        exact ⟨_, hrun, rfl, allocAndWrite_emits rfl (writePass_known hb hknown hlt)⟩
      · have hcalc : sizePass parts = .error .EINVAL :=
          sizeRejects_calcList (fun v _ => platchCalcValueSizeStd_rejects v) hknown _
        rw [hcalc]
        rfl

end PlatchObj

/-- **Size pass and write pass agree.**  From any offset of any block, a value with unknown types is
    refused by both, and for any other the size pass ends where the write pass does.  So the block
    that `platch_encode` allocates for an object is filled to its end. -/
theorem passes_agree (base : Nat) (hb : base % 8 = 0) :
    (∀ (v : StdValue) (w : Writer), (v.Known → w.pos + (wire w.pos v).length < 2 ^ 31) →
      Agree (platchCalcValueSizeStd w.pos v) w.block.size
        ((platchWriteValueToBufferStd base v).run w)) ∧
    ∀ object : PlatchObj List, object.IsStandard →
      (∀ parts, object.parts = some parts → PlatchObj.Known parts →
        (PlatchObj.format parts).length < 2 ^ 31) →
      object.FillsExactly base :=
  ⟨fun v w => agree_value hb v w, fun _ => PlatchObj.fillsExactly hb⟩

/-- A map with an array, behind three bytes of a longer block and as the argument of a call. -/
theorem passes_agree_map :
    Agree (platchCalcValueSizeStd 3 (.kStdMap [(.kStdInt32 1, .kStdFloat64Array [7, 8])]))
      (Block.alloc 33).size
      ((platchWriteValueToBufferStd 16 (.kStdMap [(.kStdInt32 1, .kStdFloat64Array [7, 8])])).run
        ⟨Block.alloc 33, 3⟩) ∧
    PlatchObj.FillsExactly 16 (.kStandardMethodCall ⟨[109], by decide⟩
      (.kStdMap [(.kStdInt32 1, .kStdFloat64Array [7, 8])])) := by
  obtain ⟨hvalue, hobject⟩ := passes_agree 16 (by decide)
  constructor
  · exact hvalue _ ⟨Block.alloc 33, 3⟩ fun _ => by decide
  · refine hobject _ (.inr (.inl rfl)) fun parts hparts _ => ?_
    obtain rfl := Option.some.inj hparts
    decide

end FlutterWlroots.PlatformChannel
