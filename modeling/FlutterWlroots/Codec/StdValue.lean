/-
  FlutterWlroots.Codec.StdValue — the values of the standard message codec.

  `struct std_value` (platform_channel.h) is a tagged union of scalars, C strings, typed arrays,
  lists and maps.  An encoder reads arrays owned by the caller; the decoder does not copy arrays,
  it stores a pointer into the message it was given.  Both are one tree type, `StdTree`, with the
  representation of an array as a parameter:

    • `StdValue`     — arrays by content (what an encoder is given),
    • `DecodedValue` — arrays by place in the message (what the decoder returns),
    • `load`         — the content a decoded value shows while the message is alive.
-/
import Mathlib.Data.List.TakeWhile
import FlutterWlroots.Lib.LittleEndian

namespace FlutterWlroots.Codec

open Lib.LittleEndian

/-! ## §1. C strings. -/

/-- A NUL-terminated string: the bytes before the terminator. -/
structure CString where
  bytes : List UInt8
  nulFree : 0 ∉ bytes
  deriving DecidableEq, Repr

namespace CString

/-- `strlen`. -/
def strlen (s : CString) : Nat := s.bytes.length

/-- The C string that starts a piece of memory followed by a NUL. -/
def ofMemory (bytes : List UInt8) : CString where
  bytes := bytes.takeWhile (· ≠ 0)
  nulFree := fun h => by simpa using List.mem_takeWhile_imp h

@[simp] theorem ofMemory_bytes (s : CString) : ofMemory s.bytes = s := by
  obtain ⟨bytes, h⟩ := s
  have hall : bytes.takeWhile (· ≠ 0) = bytes := by
    rw [List.takeWhile_eq_self_iff]
    intro b hb
    simp only [ne_eq, decide_not, Bool.not_eq_eq_eq_not, Bool.not_true, decide_eq_false_iff_not]
    rintro rfl
    exact h hb
  simp only [ofMemory, hall]

end CString

/-! ## §2. The tagged union. -/

/-- `struct std_value`, one constructor per `enum std_value_type`; a value whose `type` is no
enumerator is `unknown`.  `A α` represents an array of `α`. -/
inductive StdTree (A : Type → Type) where
  | kStdNull
  | kStdTrue
  | kStdFalse
  | kStdInt32 (int32_value : BitVec 32)
  | kStdInt64 (int64_value : BitVec 64)
  | kStdLargeInt (string_value : CString)
  /-- A `double`, as its bits. -/
  | kStdFloat64 (float64_value : BitVec 64)
  | kStdString (string_value : CString)
  | kStdUInt8Array (uint8array : A UInt8)
  | kStdInt32Array (int32array : A (BitVec 32))
  | kStdInt64Array (int64array : A (BitVec 64))
  | kStdFloat64Array (float64array : A (BitVec 64))
  | kStdList (list : List (StdTree A))
  /-- `keys[i]` and `values[i]`, paired. -/
  | kStdMap (entries : List (StdTree A × StdTree A))
  | unknown (type : Nat) (notEnumerated : 13 < type)

/-- A value whose arrays are given by content. -/
abbrev StdValue := StdTree List

/-- An array that stays in the message: `size` elements from byte `offset` on. -/
structure Borrowed (α : Type) where
  offset : Nat
  size : Nat
  deriving DecidableEq, Repr

/-- What the decoder returns: strings are copied, arrays point into the message. -/
abbrev DecodedValue := StdTree Borrowed

namespace StdTree

variable {A : Type → Type}

/-- Structural induction: lists and maps from all their members. -/
@[induction_eliminator, elab_as_elim]
theorem induct {P : StdTree A → Prop}
    (kStdNull : P kStdNull) (kStdTrue : P kStdTrue) (kStdFalse : P kStdFalse)
    (kStdInt32 : ∀ v, P (kStdInt32 v)) (kStdInt64 : ∀ v, P (kStdInt64 v))
    (kStdLargeInt : ∀ s, P (kStdLargeInt s)) (kStdFloat64 : ∀ v, P (kStdFloat64 v))
    (kStdString : ∀ s, P (kStdString s)) (kStdUInt8Array : ∀ a, P (kStdUInt8Array a))
    (kStdInt32Array : ∀ a, P (kStdInt32Array a)) (kStdInt64Array : ∀ a, P (kStdInt64Array a))
    (kStdFloat64Array : ∀ a, P (kStdFloat64Array a))
    (kStdList : ∀ xs, (∀ x ∈ xs, P x) → P (kStdList xs))
    (kStdMap : ∀ es : List (StdTree A × StdTree A), (∀ e ∈ es, P e.1 ∧ P e.2) → P (kStdMap es))
    (unknown : ∀ t h, P (unknown t h)) (v : StdTree A) : P v := by
  refine @StdTree.rec A P (fun xs => ∀ x ∈ xs, P x)
    (fun es => ∀ e ∈ es, P e.1 ∧ P e.2) (fun e => P e.1 ∧ P e.2)
    kStdNull kStdTrue kStdFalse kStdInt32 kStdInt64 kStdLargeInt kStdFloat64 kStdString
    kStdUInt8Array kStdInt32Array kStdInt64Array kStdFloat64Array kStdList kStdMap unknown
    ?_ ?_ ?_ ?_ ?_ v
  -- the members of a list
  · intro x hx
    cases hx
  · intro x xs hx hxs y hy
    rcases List.mem_cons.mp hy with rfl | hy
    · exact hx
    · exact hxs y hy
  -- the entries of a map
  · intro e he
    cases he
  · intro e es he hes f hf
    rcases List.mem_cons.mp hf with rfl | hf
    · exact he
    · exact hes f hf
  · intro k v hk hv
    exact ⟨hk, hv⟩

/-! ## §3. Properties of every node. -/

mutual
/-- `q` holds of the value and of every value below it. -/
def everyNode (q : StdTree A → Bool) : StdTree A → Bool
  | kStdList xs => q (kStdList xs) && everyNodeList q xs
  | kStdMap es => q (kStdMap es) && everyNodeEntries q es
  | v => q v
def everyNodeList (q : StdTree A → Bool) : List (StdTree A) → Bool
  | [] => true
  | x :: xs => everyNode q x && everyNodeList q xs
def everyNodeEntries (q : StdTree A → Bool) : List (StdTree A × StdTree A) → Bool
  | [] => true
  | (k, v) :: es => everyNode q k && everyNode q v && everyNodeEntries q es
end

theorem everyNodeList_iff {q : StdTree A → Bool} :
    ∀ (xs : List (StdTree A)), everyNodeList q xs = true ↔ ∀ x ∈ xs, everyNode q x = true
  | [] => by simp [everyNodeList]
  | x :: xs => by simp [everyNodeList, everyNodeList_iff xs]

theorem everyNodeEntries_iff {q : StdTree A → Bool} :
    ∀ (es : List (StdTree A × StdTree A)), everyNodeEntries q es = true ↔
      ∀ e ∈ es, everyNode q e.1 = true ∧ everyNode q e.2 = true
  | [] => by simp [everyNodeEntries]
  | e :: es => by simp [everyNodeEntries, everyNodeEntries_iff es]

theorem everyNode_list {q : StdTree A → Bool} {xs : List (StdTree A)} :
    everyNode q (kStdList xs) = true ↔ q (kStdList xs) = true ∧ ∀ x ∈ xs, everyNode q x = true := by
  rw [everyNode, Bool.and_eq_true, everyNodeList_iff]

theorem everyNode_map {q : StdTree A → Bool} {es : List (StdTree A × StdTree A)} :
    everyNode q (kStdMap es) = true ↔ q (kStdMap es) = true ∧
      ∀ e ∈ es, everyNode q e.1 = true ∧ everyNode q e.2 = true := by
  rw [everyNode, Bool.and_eq_true, everyNodeEntries_iff]

theorem everyNode_mono {q r : StdTree A → Bool} (h : ∀ v, q v = true → r v = true) (v : StdTree A)
    (hv : v.everyNode q = true) : v.everyNode r = true := by
  induction v using StdTree.induct with
  | kStdList xs ih =>
      obtain ⟨hq, hall⟩ := everyNode_list.mp hv
      exact everyNode_list.mpr ⟨h _ hq, fun x hx => ih x hx (hall x hx)⟩
  | kStdMap es ih =>
      obtain ⟨hq, hall⟩ := everyNode_map.mp hv
      exact everyNode_map.mpr
        ⟨h _ hq, fun e he => ⟨(ih e he).1 (hall e he).1, (ih e he).2 (hall e he).2⟩⟩
  | _ => exact h _ hv

/-- The value's own `type` is an enumerator. -/
def isKnown : StdTree A → Bool
  | unknown _ _ => false
  | _ => true

/-- Every `type` in the tree is an enumerator. -/
def Known (v : StdTree A) : Prop := everyNode isKnown v = true

instance (v : StdTree A) : Decidable v.Known := inferInstanceAs (Decidable (_ = _))

theorem known_list {xs : List (StdTree A)} : (kStdList xs).Known ↔ ∀ x ∈ xs, x.Known := by
  rw [Known, everyNode_list]
  simp only [isKnown, true_and, Known]

theorem known_map {es : List (StdTree A × StdTree A)} :
    (kStdMap es).Known ↔ ∀ e ∈ es, e.1.Known ∧ e.2.Known := by
  rw [Known, everyNode_map]
  simp only [isKnown, true_and, Known]

theorem Known.isKnown {v : StdTree A} (h : v.Known) : v.isKnown = true := by
  cases v with
  | unknown => exact h
  | _ => rfl

/-- The sizes of the node itself are in the range of an `int`. -/
def sizeFits : StdValue → Bool
  | kStdLargeInt s | kStdString s => s.strlen < 2 ^ 31
  | kStdUInt8Array a => a.length < 2 ^ 31
  | kStdInt32Array a => a.length * 4 < 2 ^ 31
  | kStdInt64Array a | kStdFloat64Array a => a.length * 8 < 2 ^ 31
  | kStdList xs => xs.length < 2 ^ 31
  | kStdMap es => es.length < 2 ^ 31
  | unknown _ _ => false
  | _ => true

/-- A known value with no size out of the range of an `int`. -/
def Fits (v : StdValue) : Prop := everyNode sizeFits v = true

instance (v : StdValue) : Decidable v.Fits := inferInstanceAs (Decidable (_ = _))

theorem fits_list {xs : List StdValue} :
    Fits (kStdList xs) ↔ xs.length < 2 ^ 31 ∧ ∀ x ∈ xs, Fits x := by
  rw [Fits, everyNode_list, sizeFits, decide_eq_true_iff]
  rfl

theorem fits_map {es : List (StdValue × StdValue)} :
    Fits (kStdMap es) ↔ es.length < 2 ^ 31 ∧ ∀ e ∈ es, Fits e.1 ∧ Fits e.2 := by
  rw [Fits, everyNode_map, sizeFits, decide_eq_true_iff]
  rfl

theorem Fits.sizeFits {v : StdValue} (h : v.Fits) : v.sizeFits = true := by
  cases v with
  | kStdList xs => exact (everyNode_list.mp h).1
  | kStdMap es => exact (everyNode_map.mp h).1
  | _ => exact h

theorem Fits.isKnown {v : StdValue} (h : v.Fits) : v.isKnown = true := by
  cases v with
  | unknown t ht => exact h.sizeFits
  | _ => rfl

end StdTree

/-! ## §4. Reading borrowed arrays. -/

/-- The first `n` elements of `w` bytes each. -/
def readElems (w : Nat) : Nat → List UInt8 → List (BitVec (8 * w))
  | 0, _ => []
  | n + 1, bs => BitVec.ofNat (8 * w) (leNat (bs.take w)) :: readElems w n (bs.drop w)

/-- The bytes of an array of `w`-byte elements. -/
def elemBytes (w : Nat) (a : List (BitVec (8 * w))) : List UInt8 :=
  a.flatMap fun v => leBytes w v.toNat

@[simp] theorem length_elemBytes (w : Nat) (a : List (BitVec (8 * w))) :
    (elemBytes w a).length = a.length * w := by
  induction a with
  | nil => simp [elemBytes]
  | cons v a ih =>
      have hcons : elemBytes w (v :: a) = leBytes w v.toNat ++ elemBytes w a := rfl
      rw [hcons, List.length_append, ih, length_leBytes, List.length_cons]
      ring

/-- Elements survive being stored and read back, whatever follows them. -/
theorem readElems_elemBytes (w : Nat) (a : List (BitVec (8 * w))) (rest : List UInt8) :
    readElems w a.length (elemBytes w a ++ rest) = a := by
  induction a with
  | nil => rfl
  | cons v a ih =>
      have hcons : elemBytes w (v :: a) = leBytes w v.toNat ++ elemBytes w a := rfl
      have hlen : (leBytes w v.toNat).length = w := length_leBytes w _
      rw [hcons, List.append_assoc, List.length_cons, readElems, List.take_left' hlen,
        List.drop_left' hlen, ofNat_leNat_leBytes, ih]

namespace Borrowed

/-- The elements the borrowed array shows, when it lies inside the message. -/
def load (w : Nat) (buffer : List UInt8) (a : Borrowed (BitVec (8 * w))) :
    Option (List (BitVec (8 * w))) :=
  if a.offset + a.size * w ≤ buffer.length then
    some (readElems w a.size (buffer.drop a.offset))
  else none

/-- A borrowed byte array. -/
def loadBytes (buffer : List UInt8) (a : Borrowed UInt8) : Option (List UInt8) :=
  if a.offset + a.size ≤ buffer.length then some ((buffer.drop a.offset).take a.size) else none

end Borrowed

namespace StdTree

mutual
/-- The value that a decoded value shows while the message `buffer` is alive. -/
def load (buffer : List UInt8) : DecodedValue → Option StdValue
  | kStdNull => some kStdNull
  | kStdTrue => some kStdTrue
  | kStdFalse => some kStdFalse
  | kStdInt32 v => some (kStdInt32 v)
  | kStdInt64 v => some (kStdInt64 v)
  | kStdLargeInt s => some (kStdLargeInt s)
  | kStdFloat64 v => some (kStdFloat64 v)
  | kStdString s => some (kStdString s)
  | kStdUInt8Array a => (a.loadBytes buffer).map kStdUInt8Array
  | kStdInt32Array a => (Borrowed.load 4 buffer a).map kStdInt32Array
  | kStdInt64Array a => (Borrowed.load 8 buffer a).map kStdInt64Array
  | kStdFloat64Array a => (Borrowed.load 8 buffer a).map kStdFloat64Array
  | kStdList xs => (loadList buffer xs).map kStdList
  | kStdMap es => (loadEntries buffer es).map kStdMap
  | unknown t h => some (unknown t h)
def loadList (buffer : List UInt8) : List DecodedValue → Option (List StdValue)
  | [] => some []
  | x :: xs => do
      let v ← load buffer x
      let vs ← loadList buffer xs
      pure (v :: vs)
def loadEntries (buffer : List UInt8) :
    List (DecodedValue × DecodedValue) → Option (List (StdValue × StdValue))
  | [] => some []
  | (k, v) :: es => do
      let k' ← load buffer k
      let v' ← load buffer v
      let es' ← loadEntries buffer es
      pure ((k', v') :: es')
end

/-- Strings are copied out of the message. -/
theorem eq_kStdString_of_load {buffer : List UInt8} {d : DecodedValue} {s : CString}
    (h : d.load buffer = some (kStdString s)) : d = kStdString s := by
  cases d <;> simp [load] at h ⊢
  exact h

end StdTree

end FlutterWlroots.Codec
