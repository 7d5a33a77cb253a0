/-
  FlutterWlroots.Lib.Block — heap blocks with indeterminate bytes.

  A block is a list of cells, one per byte; `none` is a byte that no store has determined yet
  (fresh from an allocator, or skipped as padding).  Stores are partial: a store that would leave
  the block has no result.  What a reader may see of a block is any byte list that agrees with
  every determined cell (`Agrees`): a property of the contents is one that holds of all of them.

    • `store_append`  — two stores that touch are one store,
    • `getElem?_store` — a store changes its own cells and no other,
    • `agrees_append` — agreement splits along concatenation.
-/
import Mathlib.Data.List.Forall2
import Mathlib.Data.List.Basic

namespace Lib.Mem

/-! ## §1. Agreement of bytes with cells. -/

/-- `bs` is a possible content of the cells: every determined cell holds its byte. -/
def Agrees (cells : List (Option UInt8)) (bs : List UInt8) : Prop :=
  List.Forall₂ (fun c b => ∀ x ∈ c, x = b) cells bs

theorem Agrees.length {cells : List (Option UInt8)} {bs : List UInt8} (h : Agrees cells bs) :
    cells.length = bs.length :=
  List.Forall₂.length_eq h

@[simp] theorem agrees_nil : Agrees [] [] := List.Forall₂.nil

theorem agrees_nil_iff {bs : List UInt8} : Agrees [] bs ↔ bs = [] :=
  List.forall₂_nil_left_iff

theorem agrees_cons {c : Option UInt8} {cells : List (Option UInt8)} {bs : List UInt8} :
    Agrees (c :: cells) bs ↔ ∃ b cs, bs = b :: cs ∧ (∀ x ∈ c, x = b) ∧ Agrees cells cs := by
  constructor
  · intro h
    cases h with
    | cons hb hcs => exact ⟨_, _, rfl, hb, hcs⟩
  · rintro ⟨b, cs, rfl, hb, hcs⟩
    exact List.Forall₂.cons hb hcs

/-- Agreement with a concatenation splits the bytes. -/
theorem agrees_append {p q : List (Option UInt8)} :
    ∀ {bs : List UInt8}, Agrees (p ++ q) bs ↔
      ∃ cs ds, bs = cs ++ ds ∧ Agrees p cs ∧ Agrees q ds := by
  induction p with
  | nil =>
      intro bs
      constructor
      · intro h
        exact ⟨[], bs, rfl, agrees_nil, h⟩
      · rintro ⟨cs, ds, rfl, hp, hq⟩
        rw [agrees_nil_iff.mp hp]
        exact hq
  | cons c p ih =>
      intro bs
      rw [List.cons_append, agrees_cons]
      constructor
      · rintro ⟨b, cs, rfl, hb, hcs⟩
        obtain ⟨ds, es, rfl, hp, hq⟩ := ih.mp hcs
        exact ⟨b :: ds, es, rfl, agrees_cons.mpr ⟨b, ds, rfl, hb, hp⟩, hq⟩
      · rintro ⟨cs, ds, rfl, hp, hq⟩
        obtain ⟨b, cs', rfl, hb, hcs⟩ := agrees_cons.mp hp
        exact ⟨b, cs' ++ ds, rfl, hb, ih.mpr ⟨cs', ds, rfl, hcs, hq⟩⟩

/-- Fully determined cells have exactly one content. -/
@[simp] theorem agrees_map_some {bs : List UInt8} :
    ∀ {cs : List UInt8}, Agrees (bs.map some) cs ↔ cs = bs := by
  induction bs with
  | nil => intro cs; exact agrees_nil_iff
  | cons b bs ih =>
      intro cs
      rw [List.map_cons, agrees_cons]
      constructor
      · rintro ⟨b', cs', rfl, hb, hcs⟩
        rw [ih.mp hcs, hb b rfl]
      · rintro rfl
        exact ⟨b, bs, rfl, by simp, ih.mpr rfl⟩

/-- Indeterminate cells constrain only the number of bytes. -/
@[simp] theorem agrees_replicate_none {n : Nat} :
    ∀ {bs : List UInt8}, Agrees (List.replicate n none) bs ↔ bs.length = n := by
  induction n with
  | zero => intro bs; simp [agrees_nil_iff]
  | succ n ih =>
      intro bs
      rw [List.replicate_succ, agrees_cons]
      constructor
      · rintro ⟨b, cs, rfl, -, hcs⟩
        simp [ih.mp hcs]
      · intro hlen
        cases bs with
        | nil => simp at hlen
        | cons b cs => exact ⟨b, cs, rfl, by simp, ih.mpr (by simpa using hlen)⟩

/-- The content that shows `fill` wherever nothing was stored. -/
def filled (fill : UInt8) (cells : List (Option UInt8)) : List UInt8 :=
  cells.map (·.getD fill)

theorem agrees_filled (fill : UInt8) : ∀ cells, Agrees cells (filled fill cells)
  | [] => agrees_nil
  | c :: cells => by
      refine agrees_cons.mpr ⟨c.getD fill, filled fill cells, rfl, ?_, agrees_filled fill cells⟩
      intro x hx
      rw [Option.mem_def.mp hx]
      rfl

/-- A determined cell shows its byte in every content. -/
theorem Agrees.getElem? {cells : List (Option UInt8)} {bs : List UInt8} (h : Agrees cells bs)
    {i : Nat} {x : UInt8} (hx : cells[i]? = some (some x)) : bs[i]? = some x := by
  induction h generalizing i with
  | nil => simp at hx
  | cons hb _ ih =>
      cases i with
      | zero =>
          simp only [List.getElem?_cons_zero, Option.some.injEq] at hx ⊢
          exact (hb x (by rw [hx]; rfl)).symm
      | succ i => exact ih (by simpa using hx)

/-! ## §2. Blocks. -/

/-- A heap block: one cell per byte. -/
structure Block where
  cells : List (Option UInt8)
  deriving DecidableEq, Repr

namespace Block

/-- The number of bytes of the block. -/
def size (m : Block) : Nat := m.cells.length

/-- A fresh block: every byte indeterminate. -/
def alloc (n : Nat) : Block := ⟨List.replicate n none⟩

/-- Resize: the common prefix survives, new bytes are indeterminate. -/
def realloc (m : Block) (n : Nat) : Block :=
  ⟨m.cells.take n ++ List.replicate (n - m.size) none⟩

/-- Store `bs` at offset `i`; no result when that leaves the block. -/
def store (m : Block) (i : Nat) (bs : List UInt8) : Option Block :=
  if i + bs.length ≤ m.size then
    some ⟨m.cells.take i ++ bs.map some ++ m.cells.drop (i + bs.length)⟩
  else none

@[simp] theorem size_realloc (m : Block) (n : Nat) : (m.realloc n).size = n := by
  simp only [size, realloc, List.length_append, List.length_take, List.length_replicate]
  omega

theorem store_eq_some {m m' : Block} {i : Nat} {bs : List UInt8} :
    m.store i bs = some m' ↔ i + bs.length ≤ m.size ∧
      m' = ⟨m.cells.take i ++ bs.map some ++ m.cells.drop (i + bs.length)⟩ := by
  unfold store
  split
  next h => simp [h, eq_comm]
  next h => simp [h]

theorem size_store {m m' : Block} {i : Nat} {bs : List UInt8} (h : m.store i bs = some m') :
    m'.size = m.size := by
  obtain ⟨hle, rfl⟩ := store_eq_some.mp h
  simp only [size, List.length_append, List.length_take, List.length_map, List.length_drop] at hle ⊢
  omega

/-- A store succeeds inside the block. -/
theorem exists_store {m : Block} {i : Nat} {bs : List UInt8} (h : i + bs.length ≤ m.size) :
    ∃ m', m.store i bs = some m' :=
  ⟨_, store_eq_some.mpr ⟨h, rfl⟩⟩

/-- **A store changes its own cells and no other.** -/
theorem getElem?_store {m m' : Block} {i : Nat} {bs : List UInt8} (h : m.store i bs = some m')
    (j : Nat) : m'.cells[j]? =
      if i ≤ j ∧ j < i + bs.length then some bs[j - i]? else m.cells[j]? := by
  obtain ⟨hle, rfl⟩ := store_eq_some.mp h
  have hi : (m.cells.take i).length = i := by
    rw [List.length_take]
    simp only [size] at hle
    omega
  rw [List.append_assoc]
  -- before, inside or behind the stored bytes
  rcases Nat.lt_or_ge j i with hji | hij
  · rw [List.getElem?_append_left (by omega), List.getElem?_take_of_lt hji,
      if_neg (by omega)]
  · rw [List.getElem?_append_right (by omega), hi]
    rcases Nat.lt_or_ge (j - i) bs.length with hin | hout
    · rw [List.getElem?_append_left (by simpa using hin), if_pos (by omega), List.getElem?_map,
        List.getElem?_eq_getElem hin]
      rfl
    · rw [List.getElem?_append_right (by simpa using hout), if_neg (by omega),
        List.getElem?_drop, List.length_map]
      congr 1
      omega

/-- The cells that a store into `pre ++ mid ++ post` leaves when it covers `mid`. -/
theorem store_middle {pre mid post : List (Option UInt8)} {bs : List UInt8} {i : Nat}
    (hi : pre.length = i) (hmid : mid.length = bs.length) :
    store ⟨pre ++ mid ++ post⟩ i bs = some ⟨pre ++ bs.map some ++ post⟩ := by
  subst hi
  rw [store_eq_some]
  refine ⟨by simp [size]; omega, ?_⟩
  congr 1
  rw [List.append_assoc pre mid post, List.take_left, ← hmid, ← List.drop_drop, List.drop_left,
    List.drop_left]

/-- **Two stores that touch are one store.** -/
theorem store_append (m : Block) (i : Nat) (bs cs : List UInt8) :
    (m.store i bs).bind (fun m' => m'.store (i + bs.length) cs) = m.store i (bs ++ cs) := by
  by_cases h : i + (bs ++ cs).length ≤ m.size
  · have hlen : i + bs.length + cs.length ≤ m.size := by
      rw [List.length_append] at h
      omega
    -- the block is cut into the four pieces that the two stores meet
    obtain ⟨cells⟩ := m
    simp only [size] at h hlen
    have hcut : cells = cells.take i ++ (cells.drop i).take bs.length
        ++ ((cells.drop (i + bs.length)).take cs.length
        ++ cells.drop (i + bs.length + cs.length)) := by
      rw [← List.drop_drop (i := cs.length), List.take_append_drop, List.append_assoc,
        ← List.drop_drop (i := bs.length), List.take_append_drop, List.take_append_drop]
    have h1 : store ⟨cells⟩ i bs = some ⟨cells.take i ++ bs.map some
        ++ ((cells.drop (i + bs.length)).take cs.length
        ++ cells.drop (i + bs.length + cs.length))⟩ := by
      conv_lhs => rw [hcut]
      exact store_middle (by rw [List.length_take]; omega)
        (by rw [List.length_take, List.length_drop]; omega)
    rw [h1, Option.bind_some, ← List.append_assoc,
      store_middle (by simp only [List.length_append, List.length_take, List.length_map]; omega)
        (by rw [List.length_take, List.length_drop]; omega),
      eq_comm, store_eq_some]
    exact ⟨h, by simp [Nat.add_assoc]⟩
  · -- the second store leaves the block, since the first one keeps its size
    have hnone : m.store i (bs ++ cs) = none := by
      unfold store
      rw [if_neg h]
    rw [hnone, Option.bind_eq_none_iff]
    intro m' h'
    unfold store
    rw [if_neg]
    rw [size_store h']
    rw [List.length_append] at h
    omega

/-- Resizing upwards keeps every cell. -/
theorem getElem?_realloc_of_lt {m : Block} {n j : Nat} (hn : m.size ≤ n) (hj : j < m.size) :
    (m.realloc n).cells[j]? = m.cells[j]? := by
  unfold realloc
  simp only [size] at hn hj
  rw [List.take_of_length_le hn, List.getElem?_append_left hj]

/-- The bytes a resize adds are indeterminate. -/
theorem getElem?_realloc_of_ge {m : Block} {n j : Nat} (hn : m.size ≤ n) (hj : m.size ≤ j)
    (x : UInt8) : (m.realloc n).cells[j]? ≠ some (some x) := by
  unfold realloc
  simp only [size] at hn hj
  rw [List.take_of_length_le hn, List.getElem?_append_right hj, List.getElem?_replicate]
  split <;> simp

end Block

end Lib.Mem
