/-
  FlutterWlroots.Lib.CBuffer — text in a buffer of fixed size.

  A buffer is an array of bytes; `memmove`, `write` and `strncpy` have no result if they would leave
  it.  `Starts b t` says that the buffer starts with the text `t` and a NUL, `Holds b t` also that its
  last byte is NUL, so that the text is terminated whatever is copied in front of that byte.

    • `Starts.strlen`          — the length of the text is found,
    • `Starts.delete`          — a range taken out with one `memmove`,
    • `Starts.insert`          — bytes put in with one `memmove` and one copy,
    • `holds_strncpy`          — the text replaced,
    • `strlen_strncpy_ne_none` — when a text that was replaced has an end.
-/
import Mathlib.Data.List.TakeWhile
import Mathlib.Data.List.Infix

namespace Lib

/-- `char bytes[size]`. -/
structure CBuffer (size : Nat) where
  bytes : List UInt8
  length_bytes : bytes.length = size

namespace CBuffer

variable {size : Nat} {b b' : CBuffer size} {t str : List UInt8} {pos start stop n : Nat}

/-! ## §1. Operations. -/

/-- `memset` with 0. -/
def zeros : CBuffer size := ⟨List.replicate size 0, List.length_replicate⟩

/-- `memcpy` into the buffer, from byte `pos` on. -/
def write (b : CBuffer size) (pos : Nat) (data : List UInt8) : Option (CBuffer size) :=
  if h : pos + data.length ≤ size then
    some
      { bytes := b.bytes.take pos ++ data ++ b.bytes.drop (pos + data.length)
        length_bytes := by
          simp only [List.length_append, List.length_take, List.length_drop, b.length_bytes]
          omega }
  else none

/-- `memmove` within the buffer. -/
def memmove (b : CBuffer size) (dst src n : Nat) : Option (CBuffer size) :=
  if src + n ≤ size then b.write dst ((b.bytes.drop src).take n) else none

/-- `strncpy` to the start of the buffer: `n` bytes are written. -/
def strncpy (b : CBuffer size) (str : List UInt8) (n : Nat) : Option (CBuffer size) :=
  b.write 0 ((str ++ List.replicate n 0).take n)

/-- `strlen`; no result if the buffer has no NUL. -/
def strlen (b : CBuffer size) : Option Nat :=
  if 0 ∈ b.bytes then some (b.bytes.takeWhile (· ≠ 0)).length else none

/-! ## §2. Buffers that hold a text. -/

/-- The text `t`, terminated; the last byte is NUL. -/
structure Holds (b : CBuffer size) (t : List UInt8) : Prop where
  nulFree : 0 ∉ t
  prefix_bytes : t ++ [0] <+: b.bytes
  last : b.bytes.getLast? = some 0

/-- The text `t`, terminated. -/
structure Starts (b : CBuffer size) (t : List UInt8) : Prop where
  nulFree : 0 ∉ t
  prefix_bytes : t ++ [0] <+: b.bytes

/-- The last byte is NUL. -/
def EndsNul (b : CBuffer size) : Prop := b.bytes.getLast? = some 0

theorem Holds.starts (h : b.Holds t) : b.Starts t := ⟨h.nulFree, h.prefix_bytes⟩

theorem Starts.holds (h : b.Starts t) (hlast : b.EndsNul) : b.Holds t :=
  ⟨h.nulFree, h.prefix_bytes, hlast⟩

theorem Starts.length_lt (h : b.Starts t) : t.length < size := by
  have hle := h.prefix_bytes.length_le
  rw [List.length_append, List.length_singleton, b.length_bytes] at hle
  exact hle

theorem takeWhile_nulFree (h : 0 ∉ t) (rest : List UInt8) :
    (t ++ 0 :: rest).takeWhile (· ≠ 0) = t := by
  induction t with
  | nil => rfl
  | cons c t ih =>
      have hc : c ≠ 0 := fun h0 => h (h0 ▸ List.mem_cons_self)
      rw [List.cons_append, List.takeWhile_cons_of_pos (by simpa using hc),
        ih fun hmem => h (List.mem_cons_of_mem c hmem)]

/-- **The length of the text.** -/
theorem Starts.strlen (h : b.Starts t) : b.strlen = some t.length := by
  obtain ⟨rest, hrest⟩ := h.prefix_bytes
  rw [List.append_assoc, List.singleton_append] at hrest
  have hmem : 0 ∈ b.bytes := by
    rw [← hrest]
    exact List.mem_append_right t List.mem_cons_self
  rw [CBuffer.strlen, if_pos hmem, ← hrest, takeWhile_nulFree h.nulFree]

theorem strlen_ne_none : b.strlen ≠ none ↔ 0 ∈ b.bytes := by
  unfold CBuffer.strlen
  split
  next h => exact iff_of_true nofun h
  next h => exact iff_of_false (fun hnone => hnone rfl) h

theorem EndsNul.strlen_ne_none (h : b.EndsNul) : b.strlen ≠ none :=
  CBuffer.strlen_ne_none.mpr (List.mem_of_getLast? h)

theorem getLast?_replicate_zero (h : 0 < n) : (List.replicate n (0 : UInt8)).getLast? = some 0 := by
  rw [List.getLast?_replicate, if_neg (Nat.pos_iff_ne_zero.mp h)]

theorem holds_zeros (h : 0 < size) : (zeros : CBuffer size).Holds [] := by
  refine ⟨List.not_mem_nil, ?_, getLast?_replicate_zero h⟩
  show [0] <+: List.replicate size 0
  obtain ⟨n, rfl⟩ := Nat.exists_eq_succ_of_ne_zero (Nat.pos_iff_ne_zero.mp h)
  exact ⟨List.replicate n 0, rfl⟩

theorem Starts.unique (h : b.Starts t) {t' : List UInt8} (h' : b.Starts t') : t = t' := by
  have hlen : t.length = t'.length := Option.some.inj (h.strlen.symm.trans h'.strlen)
  have hfront : t <+: b.bytes := (List.prefix_append t [0]).trans h.prefix_bytes
  have hfront' : t' <+: b.bytes := (List.prefix_append t' [0]).trans h'.prefix_bytes
  exact (List.prefix_of_prefix_length_le hfront hfront' hlen.le).eq_of_length hlen

/-! Writing. -/

theorem write_eq_some (b : CBuffer size) (h : pos + str.length ≤ size) :
    ∃ b', b.write pos str = some b' ∧
      b'.bytes = b.bytes.take pos ++ str ++ b.bytes.drop (pos + str.length) :=
  ⟨_, dif_pos h, rfl⟩

/-- The last byte after a write: that of what is written, if this reaches the end. -/
theorem getLast?_write (hlast : b.bytes.getLast? = some 0) (h : pos + str.length ≤ size)
    (hstr : pos + str.length = size → str.getLast? = some 0) :
    (b.bytes.take pos ++ str ++ b.bytes.drop (pos + str.length)).getLast? = some 0 := by
  by_cases hend : pos + str.length = size
  · rw [List.drop_eq_nil_of_le (by rw [b.length_bytes, hend]), List.append_nil,
      List.getLast?_append, hstr hend]
    rfl
  · rw [List.getLast?_append, List.getLast?_drop, if_neg (by rw [b.length_bytes]; omega), hlast]
    rfl

/-- The text from `pos` on, with its NUL. -/
theorem Starts.take_drop (h : b.Starts t) (hpos : pos ≤ t.length) :
    (b.bytes.drop pos).take (t.length - pos + 1) = t.drop pos ++ [0] := by
  obtain ⟨rest, hrest⟩ := h.prefix_bytes
  rw [← hrest, List.append_assoc, List.drop_append_of_le_length hpos, ← List.append_assoc]
  refine List.take_left' ?_
  rw [List.length_append, List.length_drop, List.length_singleton]

theorem Starts.take (h : b.Starts t) (hpos : pos ≤ t.length) : b.bytes.take pos = t.take pos := by
  obtain ⟨rest, hrest⟩ := h.prefix_bytes
  rw [← hrest, List.append_assoc, List.take_append_of_le_length hpos]

/-- The text from `src` on copied to `dst`. -/
theorem Starts.memmove (h : b.Starts t) (dst : Nat) {src : Nat} (hsrc : src ≤ t.length)
    (hdst : dst + (t.length - src) < size) :
    ∃ b', b.memmove dst src (t.length - src + 1) = some b' ∧ (b.EndsNul → b'.EndsNul) ∧
      b'.bytes = b.bytes.take dst ++ (t.drop src ++ [0]) ++
        b.bytes.drop (dst + (t.drop src ++ [0]).length) := by
  have hlt := h.length_lt
  have hlen : (t.drop src ++ [0]).length = t.length - src + 1 := by
    rw [List.length_append, List.length_drop, List.length_singleton]
  have hfit : dst + (t.drop src ++ [0]).length ≤ size := by omega
  obtain ⟨b', hb', hbytes⟩ := b.write_eq_some hfit
  refine ⟨b', ?_, fun hlast => ?_, hbytes⟩
  · rw [CBuffer.memmove, if_pos (by omega), h.take_drop hsrc, hb']
  · rw [EndsNul, hbytes]
    exact getLast?_write hlast hfit fun _ => List.getLast?_concat

/-- **A range of the text taken out.** -/
theorem Starts.delete (h : b.Starts t) (hle : start ≤ stop) (hstop : stop ≤ t.length) :
    ∃ b', b.memmove start stop (t.length - stop + 1) = some b' ∧
      b'.Starts (t.take start ++ t.drop stop) ∧ (b.EndsNul → b'.EndsNul) := by
  have hlt := h.length_lt
  obtain ⟨b', hb', hlast, hbytes⟩ := h.memmove start hstop (by omega)
  refine ⟨b', hb', ⟨fun hmem => ?_, ?_⟩, hlast⟩
  · rcases List.mem_append.mp hmem with hmem | hmem
    · exact h.nulFree (List.mem_of_mem_take hmem)
    · exact h.nulFree (List.mem_of_mem_drop hmem)
  · rw [hbytes, h.take (Nat.le_trans hle hstop), ← List.append_assoc]
    exact List.prefix_append ..

/-- **Bytes put into the text.** -/
theorem Starts.insert (h : b.Starts t) (hpos : pos ≤ t.length) (hstr : 0 ∉ str)
    (hfit : t.length + str.length < size) :
    ∃ b1 b', b.memmove (pos + str.length) pos (t.length - pos + 1) = some b1 ∧
      b1.write pos str = some b' ∧ b'.Starts (t.take pos ++ str ++ t.drop pos) ∧
      (b.EndsNul → b'.EndsNul) := by
  obtain ⟨b1, hb1, hlast1, hbytes1⟩ := h.memmove (pos + str.length) hpos (by omega)
  have hwrite : pos + str.length ≤ size := by omega
  obtain ⟨b', hb', hbytes⟩ := b1.write_eq_some hwrite
  -- the bytes in front of `pos` are those of the text, the moved ones follow the copied ones
  have hlen : (b.bytes.take (pos + str.length)).length = pos + str.length := by
    rw [List.length_take, b.length_bytes]
    omega
  have htake : b1.bytes.take pos = t.take pos := by
    rw [hbytes1, List.append_assoc, List.take_append_of_le_length (by omega), List.take_take,
      Nat.min_eq_left (Nat.le_add_right ..), h.take hpos]
  have hdrop : b1.bytes.drop (pos + str.length) = t.drop pos ++ [0] ++
      b.bytes.drop (pos + str.length + (t.drop pos ++ [0]).length) := by
    rw [hbytes1, List.append_assoc, List.drop_left' hlen]
  refine ⟨b1, b', hb1, hb', ⟨fun hmem => ?_, ?_⟩, fun hlast => ?_⟩
  · rcases List.mem_append.mp hmem with hmem | hmem
    · rcases List.mem_append.mp hmem with hmem | hmem
      · exact h.nulFree (List.mem_of_mem_take hmem)
      · exact hstr hmem
    · exact h.nulFree (List.mem_of_mem_drop hmem)
  · rw [hbytes, htake, hdrop, ← List.append_assoc, ← List.append_assoc]
    exact List.prefix_append ..
  · rw [EndsNul, hbytes]
    exact getLast?_write (hlast1 hlast) hwrite fun hend => absurd hend (by omega)

theorem exists_strncpy (b : CBuffer size) (str : List UInt8) (hn : n ≤ size) :
    ∃ b', b.strncpy str n = some b' := by
  have hfit : 0 + ((str ++ List.replicate n 0).take n).length ≤ size := by
    rw [List.length_take]
    omega
  obtain ⟨b', hb', -⟩ := b.write_eq_some hfit
  exact ⟨b', hb'⟩

/-- All bytes but the last one are written. -/
theorem bytes_strncpy (hn : n + 1 = size) (h : b.strncpy str n = some b') :
    b'.bytes = (str ++ List.replicate n 0).take n ++ b.bytes.drop n := by
  have hlen : ((str ++ List.replicate n 0).take n).length = n := by
    rw [List.length_take, List.length_append, List.length_replicate]
    omega
  obtain ⟨b₁, hb₁, hbytes⟩ := b.write_eq_some
    (show 0 + ((str ++ List.replicate n 0).take n).length ≤ size by omega)
  cases h.symm.trans hb₁
  rw [hbytes, hlen, List.take_zero, List.nil_append, Nat.zero_add]

theorem getLast?_drop_last (b : CBuffer size) (hn : n + 1 = size) :
    (b.bytes.drop n).getLast? = b.bytes.getLast? := by
  rw [List.getLast?_drop, if_neg (by rw [b.length_bytes]; omega)]

/-- The byte that is left. -/
theorem exists_drop_last (b : CBuffer size) (hn : n + 1 = size) :
    ∃ c, b.bytes.drop n = [c] ∧ b.bytes.getLast? = some c := by
  have hone : (b.bytes.drop n).length = 1 := by
    rw [List.length_drop, b.length_bytes]
    omega
  obtain ⟨c, hc⟩ := List.length_eq_one_iff.mp hone
  refine ⟨c, hc, ?_⟩
  rw [← b.getLast?_drop_last hn, hc, List.getLast?_singleton]

/-- **The text replaced** by as much of `str` as leaves a NUL at the end. -/
theorem holds_strncpy (hstr : 0 ∉ str) (hlast : b.bytes.getLast? = some 0) (hn : n + 1 = size) :
    ∃ b', b.strncpy str n = some b' ∧ b'.Holds (str.take n) := by
  obtain ⟨b', hb'⟩ := b.exists_strncpy str (show n ≤ size by omega)
  obtain ⟨c, hdrop, hc⟩ := b.exists_drop_last hn
  obtain rfl : c = 0 := Option.some.inj (hc.symm.trans hlast)
  have hbytes := bytes_strncpy hn hb'
  rw [hdrop] at hbytes
  refine ⟨b', hb', fun hmem => hstr (List.mem_of_mem_take hmem), ?_, ?_⟩
  · rw [hbytes, List.take_append, List.append_assoc]
    refine (List.prefix_append_right_inj _).mpr ?_
    rw [List.take_replicate]
    cases hmin : min (n - str.length) n with
    | zero => exact List.prefix_rfl
    | succ k => exact ⟨List.replicate k 0 ++ [0], rfl⟩
  · rw [hbytes]
    exact List.getLast?_concat

theorem endsNul_strncpy (hn : n + 1 = size) (h : b.strncpy str n = some b') :
    b'.EndsNul ↔ b.EndsNul := by
  obtain ⟨c, hdrop, hlast⟩ := b.exists_drop_last hn
  unfold EndsNul
  rw [bytes_strncpy hn h, hdrop, hlast, List.getLast?_concat]

/-- **The text is terminated** by the NUL that is left, or by one behind a string that is shorter. -/
theorem strlen_strncpy_ne_none (hn : n + 1 = size) (hstr : 0 ∉ str) (h : b.strncpy str n = some b') :
    b'.strlen ≠ none ↔ b.EndsNul ∨ str.length < n := by
  obtain ⟨c, hdrop, hlast⟩ := b.exists_drop_last hn
  have hend : (0 : UInt8) ∈ [c] ↔ b.EndsNul := by
    unfold EndsNul
    rw [hlast, List.mem_singleton, Option.some.injEq, eq_comm]
  have hfront : 0 ∈ (str ++ List.replicate n 0).take n ↔ str.length < n := by
    rw [List.take_append, List.mem_append, List.take_replicate, List.mem_replicate]
    constructor
    · rintro (hmem | ⟨hne, -⟩)
      · exact absurd (List.mem_of_mem_take hmem) hstr
      · omega
    · intro hlt
      exact .inr ⟨by omega, rfl⟩
  rw [strlen_ne_none, bytes_strncpy hn h, hdrop, List.mem_append, hend, hfront, or_comm]

end CBuffer

end Lib
