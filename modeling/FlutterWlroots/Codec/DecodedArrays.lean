/-
  FlutterWlroots.Codec.DecodedArrays — typed arrays that the decoder hands out.

  A decoded array is a place in the message.  Its number of bytes is computed in `uint32_t` before it
  is compared with what is left of the message, so a header that announces `2^32` bytes or more is
  compared with the wrong number.

  `valuePositions` lists where the values of a message begin, as a walk from one type byte to the
  next; `Wraps` looks at one type byte and the size behind it.  What the decoder reads from one
  cursor to another is such a walk (`Walks`), and its arrays lie in the message if and only if the
  walk meets no header that wraps (`decodedArrays_inside_iff`).
-/
import FlutterWlroots.Codec.PlatchDecodeWire

namespace FlutterWlroots.PlatformChannel

open Lib.LittleEndian Lib.CInt Lib.StateRun
open FlutterWlroots.Codec

/-! ## §1. The walk over a message. -/

/-- The `n` bytes at `p` as a number. -/
def uintAt (buffer : List UInt8) (p n : Nat) : Nat := leNat ((buffer.drop p).take n)

theorem uintAt_lt (buffer : List UInt8) (p n : Nat) : uintAt buffer p n < 256 ^ n := by
  refine Nat.lt_of_lt_of_le (leNat_lt _) (Nat.pow_le_pow_right (by decide) ?_)
  exact List.length_take_le n _

/-- The size announced at `p`, and the number of bytes that announce it. -/
def sizeAt (buffer : List UInt8) (p : Nat) : Nat × Nat :=
  if uintAt buffer p 1 ≤ 253 then (uintAt buffer p 1, 1)
  else if uintAt buffer p 1 = 254 then (uintAt buffer (p + 1) 2, 3)
  else (uintAt buffer (p + 1) 4, 5)

/-- The width of the elements of `kStdInt32Array`, `kStdInt64Array` and `kStdFloat64Array`. -/
def elementWidth : Nat → Option Nat
  | 9 => some 4
  | 10 | 11 => some 8
  | _ => none

/-- The header at `p` announces an array of `2^32` bytes or more. -/
def Wraps (buffer : List UInt8) (p : Nat) : Prop :=
  ∃ w ∈ elementWidth (uintAt buffer p 1), 2 ^ 32 ≤ (sizeAt buffer (p + 1)).1 * w

instance (buffer : List UInt8) (p : Nat) : Decidable (Wraps buffer p) :=
  inferInstanceAs (Decidable (∃ w ∈ elementWidth (uintAt buffer p 1), _))

/-- The next aligned place. -/
def alignedAt (base p w : Nat) : Nat := p + padding (base + p) w

/-- Where the type byte after the one at `p` is, and how many values the value at `p` has in it. -/
def nextValue (base : Nat) (buffer : List UInt8) (p : Nat) : Nat × Nat :=
  let size := (sizeAt buffer (p + 1)).1
  let start := p + 1 + (sizeAt buffer (p + 1)).2
  match uintAt buffer p 1 with
  | 3 => (p + 1 + 4, 0)
  | 4 => (p + 1 + 8, 0)
  | 6 => (alignedAt base (p + 1) 8 + 8, 0)
  | 5 | 7 | 8 => (start + size, 0)
  | 9 => (alignedAt base start 4 + size * 4 % 2 ^ 32, 0)
  | 10 | 11 => (alignedAt base start 8 + size * 8 % 2 ^ 32, 0)
  | 12 => (start, size)
  | 13 => (start, 2 * size)
  | _ => (p + 1, 0)

/-- The places of the type bytes from `p` on, while values are pending; at most `fuel` of them. -/
def valuePositions (base : Nat) (buffer : List UInt8) : Nat → Nat → Nat → List Nat
  | 0, _, _ => []
  | _ + 1, _, 0 => []
  | fuel + 1, p, pending + 1 =>
      p :: valuePositions base buffer fuel (nextValue base buffer p).1
        (pending + (nextValue base buffer p).2)

/-- The array of this node ends at `stop` or before. -/
def endsBefore (stop : Nat) : DecodedValue → Bool
  | .kStdUInt8Array a => a.offset + a.size ≤ stop
  | .kStdInt32Array a => a.offset + a.size * 4 ≤ stop
  | .kStdInt64Array a | .kStdFloat64Array a => a.offset + a.size * 8 ≤ stop
  | _ => true

/-- Every array of the value ends at `stop` or before. -/
def ArraysInside (stop : Nat) (d : DecodedValue) : Prop := d.everyNode (endsBefore stop) = true

instance (stop : Nat) (d : DecodedValue) : Decidable (ArraysInside stop d) :=
  inferInstanceAs (Decidable (_ = _))

/-! ## §2. What a successful read has done. -/

section Reads

variable {base : Nat} {buffer bs : List UInt8} {c c' : Cursor}

/-- The two variables of the cursor are about the same place. -/
def InStep (buffer : List UInt8) (c : Cursor) : Prop := c.pos + c.remaining = buffer.length

theorem InStep.skip {n : Nat} (h : InStep buffer c) (hn : n ≤ c.remaining) :
    InStep buffer (c.skip n) := by
  unfold InStep at h ⊢
  simp only [Cursor.skip]
  omega

theorem checkRemaining_eq_ok {n : Int} {u : Unit} (h : (checkRemaining n).run c = .ok u c') :
    toSizeT n ≤ c.remaining ∧ c' = c := by
  rw [checkRemaining, run_get_bind] at h
  split at h
  · exact (run_throw_eq_ok.mp h).elim
  next hle => exact ⟨Nat.not_lt.mp hle, (run_pure_eq_ok.mp h).2.symm⟩

theorem read_eq_ok {n : Int} (h : (read buffer n).run c = .ok bs c') :
    toSizeT n ≤ c.remaining ∧ c' = c.skip (toSizeT n)
      ∧ bs = (buffer.drop c.pos).take (toSizeT n) := by
  obtain ⟨_, c1, hcheck, hrest⟩ := run_bind_eq_ok.mp h
  obtain ⟨hle, rfl⟩ := checkRemaining_eq_ok hcheck
  rw [run_get_bind] at hrest
  dsimp only at hrest
  split at hrest
  · rw [run_set_bind] at hrest
    obtain ⟨rfl, rfl⟩ := run_pure_eq_ok.mp hrest
    exact ⟨hle, rfl, rfl⟩
  · exact (run_throw_eq_ok.mp hrest).elim

theorem readUInt_eq_ok {n v : Nat} (hn : n < 2 ^ 64) (h : (readUInt buffer n).run c = .ok v c') :
    n ≤ c.remaining ∧ c' = c.skip n ∧ v = uintAt buffer c.pos n := by
  obtain ⟨bs, c1, hread, h⟩ := run_bind_eq_ok.mp h
  obtain ⟨rfl, rfl⟩ := run_pure_eq_ok.mp h
  obtain ⟨hle, hc, rfl⟩ := read_eq_ok hread
  rw [toSizeT_of_lt hn] at hle hc ⊢
  exact ⟨hle, hc, rfl⟩

theorem advance_eq_ok {n : Int} {u : Unit} (h : (advance n).run c = .ok u c') :
    toSizeT n ≤ c.remaining ∧ c' = c.skip (toSizeT n) := by
  obtain ⟨_, c1, hcheck, hrest⟩ := run_bind_eq_ok.mp h
  obtain ⟨hle, rfl⟩ := checkRemaining_eq_ok hcheck
  rw [EStateM.run_modify] at hrest
  cases hrest
  exact ⟨hle, rfl⟩

theorem align_eq_ok {k : Nat} {u : Unit} (hk : 2 ^ k < 2 ^ 31)
    (h : (align base (2 ^ k)).run c = .ok u c') :
    padding (base + c.pos) (2 ^ k) ≤ c.remaining
      ∧ c' = c.skip (padding (base + c.pos) (2 ^ k)) := by
  rw [align, run_get_bind, alignDiff, alignMask_sub] at h
  have hlt := padding_lt (base + c.pos) (Nat.two_pow_pos k)
  have hadvance := advance_eq_ok h
  rwa [toSizeT_toInt32_of_lt (by omega)] at hadvance

theorem readSize_eq_ok {n : Nat} (h : (readSize buffer).run c = .ok n c') :
    (sizeAt buffer c.pos).2 ≤ c.remaining ∧ c' = c.skip (sizeAt buffer c.pos).2
      ∧ n = (sizeAt buffer c.pos).1 := by
  obtain ⟨size8, c1, hread, h⟩ := run_bind_eq_ok.mp h
  obtain ⟨hle, rfl, rfl⟩ := readUInt_eq_ok (by decide) hread
  unfold sizeAt
  split at h
  next hsmall =>
    obtain ⟨rfl, rfl⟩ := run_pure_eq_ok.mp h
    rw [if_pos hsmall]
    exact ⟨hle, rfl, rfl⟩
  next hsmall =>
    rw [if_neg hsmall]
    split at h
    next hmid =>
      obtain ⟨hle', rfl, rfl⟩ := readUInt_eq_ok (by decide) h
      rw [if_pos hmid, Cursor.skip_skip]
      simp only [Cursor.skip] at hle'
      exact ⟨by omega, rfl, rfl⟩
    next hmid =>
      obtain ⟨hle', rfl, rfl⟩ := readUInt_eq_ok (by decide) h
      rw [if_neg hmid, Cursor.skip_skip]
      simp only [Cursor.skip] at hle'
      exact ⟨by omega, rfl, rfl⟩

/-- The lengths that go through `int`, if they are compared with what is left of a message shorter
    than `2^31`. -/
theorem toSizeT_toInt32_of_le {n m : Nat} (hn : n < 2 ^ 32) (hm : m < 2 ^ 31)
    (h : toSizeT (toInt32 n) ≤ m) : toSizeT (toInt32 n) = n := by
  rcases Nat.lt_or_ge n (2 ^ 31) with hlt | hge
  · exact toSizeT_toInt32_of_lt hlt
  · -- the `int` is negative
    unfold toInt32 toSizeT at h ⊢
    rw [Int.bmod_def] at h ⊢
    norm_num at h hn hm hge ⊢
    omega

end Reads

/-! ## §3. Walks. -/

section Walks

variable {base m n : Nat} {buffer : List UInt8} {c c' c'' : Cursor} {fine fine' : Nat → Prop}

/-- `n` values have been read from `c` to `c'`.  For any place `stop` from `c'` on their arrays are
    `fine` if and only if no header on the way wraps. -/
structure Walks (base : Nat) (buffer : List UInt8) (n : Nat) (c c' : Cursor)
    (fine : Nat → Prop) : Prop where
  inStep : InStep buffer c'
  path : ∃ ps : List Nat, c.pos + ps.length ≤ c'.pos
    ∧ (∀ fuel pending, valuePositions base buffer (ps.length + fuel) c.pos (pending + n)
        = ps ++ valuePositions base buffer fuel c'.pos pending)
    ∧ ∀ stop, c'.pos ≤ stop → stop ≤ buffer.length → (fine stop ↔ ∀ p ∈ ps, ¬ Wraps buffer p)

theorem Walks.nil (h : InStep buffer c) (hfine : ∀ stop, fine stop) :
    Walks base buffer 0 c c fine where
  inStep := h
  path := by
    refine ⟨[], Nat.le_refl _, fun fuel pending => ?_, fun stop _ _ => iff_of_true (hfine stop) ?_⟩
    · rw [List.length_nil, Nat.zero_add]
      rfl
    · intro p hp
      exact absurd hp List.not_mem_nil

/-- Values one after the other. -/
theorem Walks.append (h : Walks base buffer m c c' fine) (h' : Walks base buffer n c' c'' fine') :
    Walks base buffer (n + m) c c'' fun stop => fine stop ∧ fine' stop where
  inStep := h'.inStep
  path := by
    obtain ⟨ps, hps, hpath, hfine⟩ := h.path
    obtain ⟨ps', hps', hpath', hfine'⟩ := h'.path
    refine ⟨ps ++ ps', ?_, fun fuel pending => ?_, fun stop hstop hlen => ?_⟩
    · rw [List.length_append]
      omega
    · rw [List.length_append, Nat.add_assoc, ← Nat.add_assoc pending, hpath, hpath',
        List.append_assoc]
    · rw [hfine stop (by omega) hlen, hfine' stop hstop hlen, List.forall_mem_append]

/-- A value: its header, and the values in it. -/
theorem Walks.value {k : Nat} (hnext : nextValue base buffer c.pos = (c'.pos, k))
    (hlt : c.pos < c'.pos) (h : Walks base buffer k c' c'' fine)
    (hfine : ∀ stop, c'.pos ≤ stop → stop ≤ buffer.length →
      (fine' stop ↔ ¬ Wraps buffer c.pos ∧ fine stop)) :
    Walks base buffer 1 c c'' fine' where
  inStep := h.inStep
  path := by
    obtain ⟨ps, hps, hpath, hinner⟩ := h.path
    refine ⟨c.pos :: ps, ?_, fun fuel pending => ?_, fun stop hstop hlen => ?_⟩
    · rw [List.length_cons]
      omega
    · rw [List.length_cons, Nat.add_right_comm, valuePositions, hnext, hpath]
      rfl
    · rw [hfine stop (by omega) hlen, hinner stop hstop hlen, List.forall_mem_cons]

/-- A value without values in it. -/
theorem Walks.leaf (hnext : nextValue base buffer c.pos = (c'.pos, 0)) (hlt : c.pos < c'.pos)
    (hin : InStep buffer c')
    (hfine : ∀ stop, c'.pos ≤ stop → stop ≤ buffer.length → (fine stop ↔ ¬ Wraps buffer c.pos)) :
    Walks base buffer 1 c c' fine :=
  have hnil : Walks base buffer 0 c' c' fun _ => True := Walks.nil hin fun _ => trivial
  Walks.value hnext hlt hnil fun stop hstop hlen => by rw [and_true, hfine stop hstop hlen]

theorem Walks.congr (h : Walks base buffer n c c' fine) (heq : ∀ stop, fine' stop ↔ fine stop) :
    Walks base buffer n c c' fine' where
  inStep := h.inStep
  path := by
    obtain ⟨ps, hps, hpath, hfine⟩ := h.path
    exact ⟨ps, hps, hpath, fun stop hstop hlen => (heq stop).trans (hfine stop hstop hlen)⟩

/-- A decoder of one value. -/
def WalksOne (base : Nat) (buffer : List UInt8) (decode : DecodeM DecodedValue) : Prop :=
  ∀ ⦃c c' : Cursor⦄ ⦃d : DecodedValue⦄, InStep buffer c → decode.run c = .ok d c' →
    Walks base buffer 1 c c' fun stop => ArraysInside stop d

theorem walks_decodeTimes {decode : DecodeM DecodedValue} (hdecode : WalksOne base buffer decode) :
    ∀ {n : Nat} {c c' : Cursor} {ds : List DecodedValue}, InStep buffer c →
      (decodeTimes decode n).run c = .ok ds c' →
      Walks base buffer n c c' fun stop => ∀ d ∈ ds, ArraysInside stop d
  | 0, c, c', ds, hin, h => by
      obtain ⟨rfl, rfl⟩ := run_pure_eq_ok.mp h
      exact Walks.nil hin fun stop d hd => absurd hd List.not_mem_nil
  | n + 1, c, c', ds, hin, h => by
      obtain ⟨d, c1, hd, h⟩ := run_bind_eq_ok.mp h
      obtain ⟨ds', c2, hds, h⟩ := run_bind_eq_ok.mp h
      obtain ⟨rfl, rfl⟩ := run_pure_eq_ok.mp h
      have hfirst := hdecode hin hd
      have hrest := walks_decodeTimes hdecode hfirst.inStep hds
      exact (hfirst.append hrest).congr fun stop => List.forall_mem_cons

theorem walks_decodePairs {decode : DecodeM DecodedValue} (hdecode : WalksOne base buffer decode) :
    ∀ {n : Nat} {c c' : Cursor} {es : List (DecodedValue × DecodedValue)}, InStep buffer c →
      (decodePairs decode n).run c = .ok es c' →
      Walks base buffer (2 * n) c c' fun stop =>
        ∀ e ∈ es, ArraysInside stop e.1 ∧ ArraysInside stop e.2
  | 0, c, c', es, hin, h => by
      obtain ⟨rfl, rfl⟩ := run_pure_eq_ok.mp h
      exact Walks.nil hin fun stop e he => absurd he List.not_mem_nil
  | n + 1, c, c', es, hin, h => by
      obtain ⟨k, c1, hk, h⟩ := run_bind_eq_ok.mp h
      obtain ⟨v, c2, hv, h⟩ := run_bind_eq_ok.mp h
      obtain ⟨es', c3, hes, h⟩ := run_bind_eq_ok.mp h
      obtain ⟨rfl, rfl⟩ := run_pure_eq_ok.mp h
      have hkey := hdecode hin hk
      have hvalue := hdecode hkey.inStep hv
      have hrest := walks_decodePairs hdecode hvalue.inStep hes
      exact ((hkey.append hvalue).append hrest).congr fun stop => List.forall_mem_cons

/-! ## §4. The decoder walks. -/

theorem wraps_iff {p w : Nat} (h : elementWidth (uintAt buffer p 1) = some w) :
    Wraps buffer p ↔ 2 ^ 32 ≤ (sizeAt buffer (p + 1)).1 * w := by
  simp [Wraps, h]

theorem not_wraps {p : Nat} (h : elementWidth (uintAt buffer p 1) = none) : ¬ Wraps buffer p := by
  simp [Wraps, h]

/-- **A typed array**: what is passed over is the product in 32 bits. -/
theorem decodeArray_eq_ok {k : Nat} (hk : 2 ^ k < 2 ^ 31) (hlen : buffer.length < 2 ^ 31)
    {a : Borrowed (BitVec (8 * 2 ^ k))} (hin : InStep buffer c)
    (h : (decodeArray base buffer (2 ^ k)).run c = .ok a c') :
    a = ⟨alignedAt base (c.pos + (sizeAt buffer c.pos).2) (2 ^ k), (sizeAt buffer c.pos).1⟩
      ∧ c'.pos = a.offset + a.size * 2 ^ k % 2 ^ 32 ∧ InStep buffer c' := by
  obtain ⟨size, c1, hsize, h⟩ := run_bind_eq_ok.mp h
  obtain ⟨hle, rfl, rfl⟩ := readSize_eq_ok hsize
  obtain ⟨_, c2, halign, h⟩ := run_bind_eq_ok.mp h
  obtain ⟨hle', rfl⟩ := align_eq_ok hk halign
  have hin' := (hin.skip hle).skip hle'
  rw [run_get_bind] at h
  split at h
  · obtain ⟨_, _, hthrow, -⟩ := run_bind_eq_ok.mp h
    exact (run_throw_eq_ok.mp hthrow).elim
  next hfits =>
    -- the product is at most what is left, so `int` keeps it
    have hroom := hin'
    unfold InStep at hroom
    obtain ⟨_, c3, hadvance, h⟩ := run_bind_eq_ok.mp h
    obtain ⟨rfl, rfl⟩ := run_pure_eq_ok.mp h
    obtain ⟨hle'', rfl⟩ := advance_eq_ok hadvance
    rw [toSizeT_toInt32_of_lt (by omega)] at hle'' ⊢
    exact ⟨rfl, rfl, hin'.skip hle''⟩

theorem decodeUInt8Array_eq_ok (hlen : buffer.length < 2 ^ 31) {a : Borrowed UInt8}
    (hin : InStep buffer c) (h : (decodeUInt8Array buffer).run c = .ok a c') :
    c'.pos = c.pos + (sizeAt buffer c.pos).2 + (sizeAt buffer c.pos).1
      ∧ c'.pos = a.offset + a.size ∧ InStep buffer c' := by
  obtain ⟨size, c1, hsize, h⟩ := run_bind_eq_ok.mp h
  obtain ⟨hle, rfl, rfl⟩ := readSize_eq_ok hsize
  have hin' := hin.skip hle
  rw [run_get_bind] at h
  split at h
  · obtain ⟨_, _, hthrow, -⟩ := run_bind_eq_ok.mp h
    exact (run_throw_eq_ok.mp hthrow).elim
  next hfits =>
    have hroom := hin'
    unfold InStep at hroom
    obtain ⟨_, c3, hadvance, h⟩ := run_bind_eq_ok.mp h
    obtain ⟨rfl, rfl⟩ := run_pure_eq_ok.mp h
    obtain ⟨hle'', rfl⟩ := advance_eq_ok hadvance
    rw [toSizeT_toInt32_of_lt (by omega)] at hle'' ⊢
    exact ⟨rfl, rfl, hin'.skip hle''⟩

theorem sizeAt_lt (buffer : List UInt8) (p : Nat) : (sizeAt buffer p).1 < 2 ^ 32 := by
  have h1 := uintAt_lt buffer p 1
  have h2 := uintAt_lt buffer (p + 1) 2
  have h4 := uintAt_lt buffer (p + 1) 4
  unfold sizeAt
  split
  · dsimp only
    omega
  · split
    · exact Nat.lt_trans h2 (by decide)
    · exact h4

theorem decodeString_eq_ok (hlen : buffer.length < 2 ^ 31) {s : CString}
    (hin : InStep buffer c) (h : (decodeString buffer).run c = .ok s c') :
    c'.pos = c.pos + (sizeAt buffer c.pos).2 + (sizeAt buffer c.pos).1 ∧ InStep buffer c' := by
  obtain ⟨size, c1, hsize, h⟩ := run_bind_eq_ok.mp h
  obtain ⟨hle, rfl, rfl⟩ := readSize_eq_ok hsize
  have hin' := hin.skip hle
  obtain ⟨bytes, c2, hread, h⟩ := run_bind_eq_ok.mp h
  obtain ⟨-, rfl⟩ := run_pure_eq_ok.mp h
  obtain ⟨hle', rfl, -⟩ := read_eq_ok hread
  have hroom := hin'
  unfold InStep at hroom
  have hexact := toSizeT_toInt32_of_le (sizeAt_lt buffer c.pos) (by omega) hle'
  rw [hexact] at hle' ⊢
  exact ⟨rfl, hin'.skip hle'⟩

/-- An array is inside if and only if its size in bytes has not been cut to 32 bits. -/
theorem end_le_iff {offset size w stop : Nat} (hend : offset + size * w % 2 ^ 32 ≤ stop)
    (hstop : stop < 2 ^ 31) : offset + size * w ≤ stop ↔ ¬ 2 ^ 32 ≤ size * w := by
  rw [Nat.not_le]
  constructor
  · intro h
    omega
  · intro h
    rwa [Nat.mod_eq_of_lt h] at hend

/-- A value without an array, as long as its header says. -/
theorem walks_plain {d : DecodedValue} (hnext : nextValue base buffer c.pos = (c'.pos, 0))
    (hwidth : elementWidth (uintAt buffer c.pos 1) = none) (hlt : c.pos < c'.pos)
    (hin : InStep buffer c') (hd : ∀ stop, c'.pos ≤ stop → ArraysInside stop d) :
    Walks base buffer 1 c c' fun stop => ArraysInside stop d :=
  Walks.leaf hnext hlt hin fun stop hstop _ => iff_of_true (hd stop hstop) (not_wraps hwidth)

/-- A value with an array of `2 ^ k` bytes an element. -/
theorem walks_array {k : Nat} (hk : 2 ^ k < 2 ^ 31) (hlen : buffer.length < 2 ^ 31)
    {a : Borrowed (BitVec (8 * 2 ^ k))} {d : DecodedValue}
    (hwidth : elementWidth (uintAt buffer c.pos 1) = some (2 ^ k))
    (hnext : nextValue base buffer c.pos
      = (alignedAt base (c.pos + 1 + (sizeAt buffer (c.pos + 1)).2) (2 ^ k)
          + (sizeAt buffer (c.pos + 1)).1 * 2 ^ k % 2 ^ 32, 0))
    (hin : InStep buffer (c.skip 1))
    (h : (decodeArray base buffer (2 ^ k)).run (c.skip 1) = .ok a c')
    (hd : ∀ stop, ArraysInside stop d ↔ a.offset + a.size * 2 ^ k ≤ stop) :
    Walks base buffer 1 c c' fun stop => ArraysInside stop d := by
  obtain ⟨rfl, hpos, hin'⟩ := decodeArray_eq_ok hk hlen hin h
  dsimp only [Cursor.skip_pos] at hpos hd
  refine Walks.leaf (hnext.trans (by rw [hpos])) ?_ hin' fun stop hstop hle => ?_
  · rw [hpos, alignedAt]
    omega
  · rw [hd, wraps_iff hwidth]
    exact end_le_iff (by omega) (by omega)

theorem walksOne_platchDecodeValueStd (hlen : buffer.length < 2 ^ 31) : ∀ fuel,
    WalksOne base buffer (platchDecodeValueStd base buffer fuel)
  | 0 => fun _ _ _ _ h => (run_throw_eq_ok.mp h).elim
  | fuel + 1 => by
      intro c c' d hin h
      obtain ⟨type_byte, c1, hread, h⟩ := run_bind_eq_ok.mp h
      obtain ⟨hle, rfl, htype⟩ := readUInt_eq_ok (by decide) hread
      have hin1 := hin.skip hle
      have hnext : nextValue base buffer c.pos = nextValue base buffer c.pos := rfl
      conv at hnext => rhs; unfold nextValue
      have hwidth : elementWidth (uintAt buffer c.pos 1) = elementWidth type_byte := by rw [htype]
      rw [← htype] at hnext
      clear hread
      split at h
      -- `kStdNull`, `kStdTrue` and `kStdFalse`
      case h_1 | h_2 | h_3 =>
        obtain ⟨rfl, rfl⟩ := run_pure_eq_ok.mp h
        exact walks_plain hnext hwidth (Nat.lt_succ_self _) hin1 fun stop _ => rfl
      -- `kStdInt32` and `kStdInt64`
      case h_4 | h_5 =>
        obtain ⟨n, c2, hn, h⟩ := run_bind_eq_ok.mp h
        obtain ⟨rfl, rfl⟩ := run_pure_eq_ok.mp h
        obtain ⟨hle', rfl, -⟩ := readUInt_eq_ok (by decide) hn
        refine walks_plain hnext hwidth ?_ (hin1.skip hle') fun stop _ => rfl
        simp only [Cursor.skip_pos]
        omega
      -- `kStdLargeInt` and `kStdString`
      case h_6 | h_8 =>
        obtain ⟨s, c2, hs, h⟩ := run_bind_eq_ok.mp h
        obtain ⟨rfl, rfl⟩ := run_pure_eq_ok.mp h
        obtain ⟨hpos, hin2⟩ := decodeString_eq_ok hlen hin1 hs
        rw [Cursor.skip_pos] at hpos
        exact walks_plain (hnext.trans (by rw [hpos]; rfl)) hwidth (by omega) hin2 fun stop _ => rfl
      case h_7 =>
        obtain ⟨_, c2, halign, h⟩ := run_bind_eq_ok.mp h
        obtain ⟨n, c3, hn, h⟩ := run_bind_eq_ok.mp h
        obtain ⟨rfl, rfl⟩ := run_pure_eq_ok.mp h
        obtain ⟨hle', rfl⟩ := align_eq_ok (k := 3) (by decide) halign
        obtain ⟨hle'', rfl, -⟩ := readUInt_eq_ok (by decide) hn
        refine walks_plain hnext hwidth ?_ ((hin1.skip hle').skip hle'') fun stop _ => rfl
        simp only [Cursor.skip_pos]
        omega
      case h_9 =>
        obtain ⟨a, c2, ha, h⟩ := run_bind_eq_ok.mp h
        obtain ⟨rfl, rfl⟩ := run_pure_eq_ok.mp h
        obtain ⟨hpos, hend, hin2⟩ := decodeUInt8Array_eq_ok hlen hin1 ha
        rw [Cursor.skip_pos] at hpos
        refine walks_plain (hnext.trans (by rw [hpos]; rfl)) hwidth (by omega) hin2 fun stop hstop => ?_
        exact decide_eq_true (by omega)
      case h_10 =>
        obtain ⟨a, c2, ha, h⟩ := run_bind_eq_ok.mp h
        obtain ⟨rfl, rfl⟩ := run_pure_eq_ok.mp h
        exact walks_array (k := 2) (by decide) hlen hwidth hnext hin1 ha fun stop =>
          decide_eq_true_iff
      case h_11 | h_12 =>
        obtain ⟨a, c2, ha, h⟩ := run_bind_eq_ok.mp h
        obtain ⟨rfl, rfl⟩ := run_pure_eq_ok.mp h
        exact walks_array (k := 3) (by decide) hlen hwidth hnext hin1 ha fun stop =>
          decide_eq_true_iff
      case h_13 =>
        obtain ⟨size, c2, hsize, h⟩ := run_bind_eq_ok.mp h
        obtain ⟨xs, c3, hxs, h⟩ := run_bind_eq_ok.mp h
        obtain ⟨rfl, rfl⟩ := run_pure_eq_ok.mp h
        obtain ⟨hle', rfl, rfl⟩ := readSize_eq_ok hsize
        have hmembers := walks_decodeTimes (walksOne_platchDecodeValueStd hlen fuel)
          (hin1.skip hle') hxs
        refine Walks.value hnext ?_ hmembers fun stop _ _ => ?_
        · simp only [Cursor.skip_pos]
          omega
        · rw [and_iff_right (not_wraps hwidth), ArraysInside, StdTree.everyNode_list]
          exact and_iff_right rfl
      case h_14 =>
        obtain ⟨size, c2, hsize, h⟩ := run_bind_eq_ok.mp h
        obtain ⟨es, c3, hes, h⟩ := run_bind_eq_ok.mp h
        obtain ⟨rfl, rfl⟩ := run_pure_eq_ok.mp h
        obtain ⟨hle', rfl, rfl⟩ := readSize_eq_ok hsize
        have hmembers := walks_decodePairs (walksOne_platchDecodeValueStd hlen fuel)
          (hin1.skip hle') hes
        refine Walks.value hnext ?_ hmembers fun stop _ _ => ?_
        · simp only [Cursor.skip_pos]
          omega
        · rw [and_iff_right (not_wraps hwidth), ArraysInside, StdTree.everyNode_map]
          exact and_iff_right rfl
      case h_15 => exact (run_throw_eq_ok.mp h).elim

/-! ## §5. Whole messages. -/

theorem valuePositions_none : ∀ fuel p, valuePositions base buffer fuel p 0 = []
  | 0, _ => rfl
  | _ + 1, _ => rfl

end Walks

/-- **Decoded arrays lie in the message**, in front of the cursor, if and only if no array header that
    the decoder comes to announces `2^32` bytes or more. -/
theorem decodedArrays_inside_iff (base : Nat) (buffer : List UInt8) (fuel : Nat) (d : DecodedValue)
    (c : Cursor) (hlen : buffer.length < 2 ^ 31)
    (h : (platchDecodeValueStd base buffer fuel).run ⟨0, buffer.length⟩ = .ok d c) :
    (ArraysInside c.pos d ∧ c.pos ≤ buffer.length) ↔
      ∀ p ∈ valuePositions base buffer buffer.length 0 1, ¬ Wraps buffer p := by
  have hstart : InStep buffer ⟨0, buffer.length⟩ := Nat.zero_add _
  have hwalks := walksOne_platchDecodeValueStd hlen fuel hstart h
  have hle : c.pos ≤ buffer.length := Nat.le.intro hwalks.inStep
  obtain ⟨ps, hps, hpath, hfine⟩ := hwalks.path
  dsimp only at hps hpath
  -- the walk ends where the decoder does, with no value pending
  have hall := hpath (buffer.length - ps.length) 0
  rw [valuePositions_none, List.append_nil, Nat.add_sub_cancel' (by omega), Nat.zero_add] at hall
  rw [hall, and_iff_left hle]
  exact hfine c.pos (Nat.le_refl _) hle

/-- An array of two elements. -/
theorem decodedArrays_inside_two :
    (platchDecodeValueStd 0 [9, 2, 0, 0, 7, 0, 0, 0, 8, 0, 0, 0] 1).run ⟨0, 12⟩
        = .ok (.kStdInt32Array ⟨4, 2⟩) ⟨12, 0⟩
      ∧ ArraysInside 12 (.kStdInt32Array ⟨4, 2⟩) := by
  refine ⟨rfl, ?_⟩
  exact ((decodedArrays_inside_iff 0 [9, 2, 0, 0, 7, 0, 0, 0, 8, 0, 0, 0] 1 _ _ (by decide)
    rfl).mpr (by decide)).1

/-- `2^30` elements of four bytes are announced in a message of eight bytes, and accepted. -/
theorem decodedArrays_outside :
    (platchDecodeValueStd 0 [9, 255, 0, 0, 0, 64, 0, 0] 1).run ⟨0, 8⟩
        = .ok (.kStdInt32Array ⟨8, 2 ^ 30⟩) ⟨8, 0⟩
      ∧ ¬ ArraysInside 8 (.kStdInt32Array ⟨8, 2 ^ 30⟩) :=
  ⟨rfl, by decide⟩

end FlutterWlroots.PlatformChannel
