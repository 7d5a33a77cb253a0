/-
  FlutterWlroots.Codec.WireFormat — the standard message format, abstractly.

  Neither encoder nor decoder of the repository is mentioned here: `wire p v` is the format itself,
  the bytes of the value `v` in a message in which it starts at offset `p`.  Padding bytes carry no
  information, so the format is a list of cells in which they are indeterminate; a message *shows*
  `v` at `p` when its bytes agree with `wire p v`.

  Encoders are compared with this format from below (what they write agrees with it) and decoders
  from above (what agrees with it they read back), so that the four codec functions of the
  repository need not be compared with each other pairwise.
-/
import FlutterWlroots.Lib.Block
import FlutterWlroots.Lib.CInt
import FlutterWlroots.Codec.StdValue

namespace FlutterWlroots.Codec

open Lib.LittleEndian Lib.Mem Lib.CInt

/-! ## §1. Cells of a message. -/

/-- Bytes that the format fixes. -/
def fixed (bs : List UInt8) : List (Option UInt8) := bs.map some

/-- Padding. -/
def skipped (n : Nat) : List (Option UInt8) := List.replicate n none

@[simp] theorem length_fixed (bs : List UInt8) : (fixed bs).length = bs.length := List.length_map ..

@[simp] theorem length_skipped (n : Nat) : (skipped n).length = n := List.length_replicate

@[simp] theorem agrees_fixed {bs cs : List UInt8} : Agrees (fixed bs) cs ↔ cs = bs :=
  agrees_map_some

@[simp] theorem agrees_skipped {n : Nat} {cs : List UInt8} :
    Agrees (skipped n) cs ↔ cs.length = n :=
  agrees_replicate_none

/-- The size prefix: one byte below 254, else a marker byte and two or four bytes. -/
def sizePrefix (n : Nat) : List UInt8 :=
  if n < 254 then [UInt8.ofNat n]
  else if n ≤ 0xFFFF then 254 :: leBytes 2 n
  else 255 :: leBytes 4 n

theorem length_sizePrefix_pos (n : Nat) : 0 < (sizePrefix n).length := by
  unfold sizePrefix
  split
  · simp
  · split <;> simp

/-- The type byte and the size prefix of a sized value. -/
def header (type n : Nat) : List UInt8 := UInt8.ofNat type :: sizePrefix n

@[simp] theorem length_header (type n : Nat) :
    (header type n).length = 1 + (sizePrefix n).length := by
  rw [header, List.length_cons, Nat.add_comm]

/-- From offset `p` on, the message consists of the bytes `rest`. -/
structure SuffixAt (buffer : List UInt8) (p : Nat) (rest : List UInt8) : Prop where
  drop_eq : buffer.drop p = rest
  add_length : p + rest.length = buffer.length

namespace SuffixAt

variable {buffer xs rest : List UInt8} {p : Nat}

theorem start (buffer : List UInt8) : SuffixAt buffer 0 buffer := ⟨rfl, Nat.zero_add _⟩

theorem skip {l : List UInt8} (h : SuffixAt buffer p (l ++ rest)) :
    SuffixAt buffer (p + l.length) rest where
  drop_eq := by
    rw [← List.drop_drop, h.drop_eq, List.drop_left]
  add_length := by
    have hp := h.add_length
    rw [List.length_append] at hp
    omega

theorem le (h : SuffixAt buffer p (xs ++ rest)) : p + xs.length ≤ buffer.length := by
  have hp := h.add_length
  rw [List.length_append] at hp
  omega

theorem take_drop (h : SuffixAt buffer p (xs ++ rest)) : (buffer.drop p).take xs.length = xs := by
  rw [h.drop_eq, List.take_left]

/-- Bytes that are found one by one. -/
theorem of_getElem? (hp : p + xs.length ≤ buffer.length)
    (h : ∀ i < xs.length, buffer[p + i]? = xs[i]?) :
    SuffixAt buffer p (xs ++ buffer.drop (p + xs.length)) where
  drop_eq := by
    apply List.ext_getElem?
    intro i
    rw [List.getElem?_drop]
    rcases Nat.lt_or_ge i xs.length with hi | hi
    · rw [List.getElem?_append_left hi, h i hi]
    · rw [List.getElem?_append_right hi, List.getElem?_drop]
      congr 1
      omega
  add_length := by
    rw [List.length_append, List.length_drop]
    omega

end SuffixAt

/-! ## §2. The format. -/

/-- An array of `w`-byte elements: header, padding to a multiple of `w`, elements. -/
def wireArray (p type w : Nat) (a : List (BitVec (8 * w))) : List (Option UInt8) :=
  fixed (header type a.length) ++ skipped (padding (p + (header type a.length).length) w)
    ++ fixed (elemBytes w a)

mutual
/-- The value `v` in a message in which it starts at offset `p`. -/
def wire (p : Nat) : StdValue → List (Option UInt8)
  | .kStdNull => fixed [0]
  | .kStdTrue => fixed [1]
  | .kStdFalse => fixed [2]
  | .kStdInt32 v => fixed (3 :: leBytes 4 v.toNat)
  | .kStdInt64 v => fixed (4 :: leBytes 8 v.toNat)
  | .kStdLargeInt s => fixed (header 5 s.strlen ++ s.bytes)
  | .kStdFloat64 v => fixed [6] ++ skipped (padding (p + 1) 8) ++ fixed (leBytes 8 v.toNat)
  | .kStdString s => fixed (header 7 s.strlen ++ s.bytes)
  | .kStdUInt8Array a => fixed (header 8 a.length ++ a)
  | .kStdInt32Array a => wireArray p 9 4 a
  | .kStdInt64Array a => wireArray p 10 8 a
  | .kStdFloat64Array a => wireArray p 11 8 a
  | .kStdList xs =>
      fixed (header 12 xs.length) ++ wireList (p + (header 12 xs.length).length) xs
  | .kStdMap es =>
      fixed (header 13 es.length) ++ wireEntries (p + (header 13 es.length).length) es
  | .unknown _ _ => []
/-- Values one after the other. -/
def wireList (p : Nat) : List StdValue → List (Option UInt8)
  | [] => []
  | x :: xs => wire p x ++ wireList (p + (wire p x).length) xs
/-- Keys and values one after the other. -/
def wireEntries (p : Nat) : List (StdValue × StdValue) → List (Option UInt8)
  | [] => []
  | (k, v) :: es =>
      wire p k ++ (wire (p + (wire p k).length) v ++
        wireEntries (p + (wire p k).length + (wire (p + (wire p k).length) v).length) es)
end

/-! ## §3. Sizes of parts. -/

theorem length_wireArray (p type w : Nat) (a : List (BitVec (8 * w))) :
    (wireArray p type w a).length
      = 1 + (sizePrefix a.length).length + padding (p + (header type a.length).length) w
        + a.length * w := by
  simp only [wireArray, List.length_append, length_fixed, length_skipped, length_header,
    length_elemBytes]

/-- A known value takes at least its type byte. -/
theorem length_wire_pos (p : Nat) {v : StdValue} (h : v.isKnown = true) :
    0 < (wire p v).length := by
  cases v <;> simp [wire, length_wireArray, StdTree.isKnown] at h ⊢

/-- Every member of a list takes at least one byte, so the count is bounded by the bytes. -/
theorem length_le_wireList : ∀ (p : Nat) {xs : List StdValue},
    (∀ x ∈ xs, x.isKnown = true) → xs.length ≤ (wireList p xs).length
  | _, [], _ => Nat.le_refl 0
  | p, x :: xs, h => by
      have hx := length_wire_pos p (h x List.mem_cons_self)
      have hxs := length_le_wireList (p + (wire p x).length)
        (fun y hy => h y (List.mem_cons_of_mem x hy))
      rw [wireList, List.length_append, List.length_cons]
      omega

theorem length_le_wireEntries : ∀ (p : Nat) {es : List (StdValue × StdValue)},
    (∀ e ∈ es, e.1.isKnown = true) → es.length ≤ (wireEntries p es).length
  | _, [], _ => Nat.le_refl 0
  | p, (k, v) :: es, h => by
      have hk : 0 < (wire p k).length := length_wire_pos p (h (k, v) List.mem_cons_self)
      have hes := length_le_wireEntries
        (p + (wire p k).length + (wire (p + (wire p k).length) v).length)
        (fun e he => h e (List.mem_cons_of_mem _ he))
      rw [wireEntries, List.length_append, List.length_append, List.length_cons]
      omega

theorem length_le_of_mem_wireList : ∀ {p : Nat} {xs : List StdValue} {x : StdValue}, x ∈ xs →
    ∃ q, (wire q x).length ≤ (wireList p xs).length
  | p, y :: ys, x, h => by
      rw [wireList, List.length_append]
      rcases List.mem_cons.mp h with rfl | h
      · exact ⟨p, Nat.le_add_right _ _⟩
      · obtain ⟨q, hq⟩ := length_le_of_mem_wireList (p := p + (wire p y).length) h
        exact ⟨q, Nat.le_add_left_of_le hq⟩

theorem length_le_of_mem_wireEntries : ∀ {p : Nat} {es : List (StdValue × StdValue)}
    {e : StdValue × StdValue}, e ∈ es →
    ∃ q r, (wire q e.1).length ≤ (wireEntries p es).length
      ∧ (wire r e.2).length ≤ (wireEntries p es).length
  | p, (k, v) :: es, e, h => by
      rw [wireEntries, List.length_append, List.length_append]
      rcases List.mem_cons.mp h with rfl | h
      · exact ⟨p, _, Nat.le_add_right _ _, Nat.le_add_left_of_le (Nat.le_add_right _ _)⟩
      · obtain ⟨q, r, hq, hr⟩ := length_le_of_mem_wireEntries h
        exact ⟨q, r, Nat.le_add_left_of_le (Nat.le_add_left_of_le hq),
          Nat.le_add_left_of_le (Nat.le_add_left_of_le hr)⟩

/-- **Sizes of a short message are in the range of an `int`.** -/
theorem fits_of_length_wire (v : StdValue) (hknown : v.Known) : ∀ p,
    (wire p v).length < 2 ^ 31 → v.Fits := by
  induction v using StdTree.induct
  all_goals
    intro p h
    rw [wire] at h
  case kStdNull | kStdTrue | kStdFalse | kStdInt32 | kStdInt64 | kStdFloat64 => rfl
  case kStdLargeInt s | kStdString s =>
    rw [length_fixed, List.length_append, ← CString.strlen] at h
    exact decide_eq_true (by omega)
  case kStdUInt8Array a =>
    rw [length_fixed, List.length_append] at h
    exact decide_eq_true (by omega)
  case kStdInt32Array a | kStdInt64Array a | kStdFloat64Array a =>
    rw [length_wireArray] at h
    exact decide_eq_true (by omega)
  case kStdList xs ih =>
    -- the count is bounded by the bytes of the members, and so is each member
    rw [StdTree.known_list] at hknown
    rw [List.length_append] at h
    have hcount := length_le_wireList (p + (header 12 xs.length).length)
      fun x hx => (hknown x hx).isKnown
    refine StdTree.fits_list.mpr ⟨by omega, fun x hx => ?_⟩
    obtain ⟨q, hq⟩ := length_le_of_mem_wireList (p := p + (header 12 xs.length).length) hx
    exact ih x hx (hknown x hx) q (by omega)
  case kStdMap es ih =>
    rw [StdTree.known_map] at hknown
    rw [List.length_append] at h
    have hcount := length_le_wireEntries (p + (header 13 es.length).length)
      fun e he => (hknown e he).1.isKnown
    refine StdTree.fits_map.mpr ⟨by omega, fun e he => ?_⟩
    obtain ⟨q, r, hq, hr⟩ := length_le_of_mem_wireEntries (p := p + (header 13 es.length).length) he
    exact ⟨(ih e he).1 (hknown e he).1 q (by omega), (ih e he).2 (hknown e he).2 r (by omega)⟩
  case unknown t ht => cases hknown

end FlutterWlroots.Codec
