/-
  FlutterWlroots.Lib.Positions — a list whose elements are those at distinct positions of another.

  `Picks l is xs` charges every element of `xs` to a position of `l`, in the order of `is`, and no
  position twice.  Nothing is then in `xs` more often than in `l` (`Picks.count_le`).

    • `Picks.grow`   — `l` may grow at its end,
    • `Picks.push`   — by an element that `xs` gets too,
    • `Picks.append` — more elements, at positions that are not used.
-/
import Mathlib.Data.List.Perm.Subperm
import Mathlib.Data.List.Nodup
import Mathlib.Data.List.Count

namespace Lib

variable {α : Type} {l : List α} {is js : List Nat} {xs ys : List α} {i : Nat} {x : α}

/-- The elements of `xs` are those of `l` at the positions `is`. -/
structure Picks (l : List α) (is : List Nat) (xs : List α) : Prop where
  nodup : is.Nodup
  elements : is.map (l[·]?) = xs.map some

namespace Picks

theorem nil : Picks l [] [] := ⟨.nil, rfl⟩

theorem getElem?_of_mem (h : Picks l is xs) (hi : i ∈ is) : ∃ x, l[i]? = some x := by
  have hmem : l[i]? ∈ is.map (l[·]?) := List.mem_map_of_mem hi
  rw [h.elements] at hmem
  obtain ⟨x, -, hx⟩ := List.mem_map.mp hmem
  exact ⟨x, hx.symm⟩

theorem lt_length (h : Picks l is xs) (hi : i ∈ is) : i < l.length := by
  obtain ⟨x, hx⟩ := h.getElem?_of_mem hi
  exact (List.getElem?_eq_some_iff.mp hx).1

/-- The end of a list is at no position in use. -/
theorem length_notMem (h : Picks l is xs) : l.length ∉ is := fun hmem =>
  Nat.lt_irrefl _ (h.lt_length hmem)

theorem grow (h : Picks l is xs) (ys : List α) : Picks (l ++ ys) is xs where
  nodup := h.nodup
  elements := by
    rw [← h.elements]
    refine List.map_congr_left fun i hi => ?_
    exact List.getElem?_append_left (h.lt_length hi)

theorem append (h : Picks l is xs) (hjs : Picks l js ys) (hnew : ∀ j ∈ js, j ∉ is) :
    Picks l (is ++ js) (xs ++ ys) where
  nodup := by
    refine List.nodup_append.mpr ⟨h.nodup, hjs.nodup, fun i hi j hj heq => ?_⟩
    exact hnew j hj (heq ▸ hi)
  elements := by
    rw [List.map_append, List.map_append, h.elements, hjs.elements]

/-- One more element in front, if it is not there yet. -/
theorem cons (h : Picks l is xs) (hx : l[i]? = some x) (hnew : x ∉ xs) :
    Picks l (i :: is) (x :: xs) where
  nodup := by
    refine List.nodup_cons.mpr ⟨fun hmem => hnew ?_, h.nodup⟩
    have hmap : l[i]? ∈ is.map (l[·]?) := List.mem_map_of_mem hmem
    rw [h.elements, hx] at hmap
    obtain ⟨y, hy, heq⟩ := List.mem_map.mp hmap
    rw [← Option.some.inj heq]
    exact hy
  elements := by rw [List.map_cons, List.map_cons, h.elements, hx]

/-- One more element at the end of both. -/
theorem push (h : Picks l is xs) (x : α) : Picks (l ++ [x]) (is ++ [l.length]) (xs ++ [x]) := by
  have hlast : Picks (l ++ [x]) [l.length] [x] :=
    ⟨List.nodup_singleton _, congrArg ([·]) List.getElem?_concat_length⟩
  refine (h.grow [x]).append hlast fun j hj => ?_
  rw [List.mem_singleton.mp hj]
  exact h.length_notMem

/-- **Nothing is picked more often than it is there.** -/
theorem count_le [BEq α] [LawfulBEq α] (h : Picks l is xs) (x : α) : xs.count x ≤ l.count x := by
  have hsub : is.Subperm (List.range l.length) :=
    List.subperm_of_subset h.nodup fun i hi => List.mem_range.mpr (h.lt_length hi)
  obtain ⟨js, hperm, hsublist⟩ := hsub
  have hall : (List.range l.length).map (l[·]?) = l.map some := by
    refine List.ext_getElem? fun i => ?_
    by_cases hi : i < l.length
    · simp [hi]
    · simp [Nat.le_of_not_lt hi]
  have hinj : Function.Injective (some : α → Option α) := fun _ _ => Option.some.inj
  calc xs.count x = (xs.map some).count (some x) := (List.count_map_of_injective xs some hinj x).symm
    _ = (is.map (l[·]?)).count (some x) := by rw [h.elements]
    _ = (js.map (l[·]?)).count (some x) := ((hperm.map _).count_eq _).symm
    _ ≤ ((List.range l.length).map (l[·]?)).count (some x) := (hsublist.map _).count_le _
    _ = (l.map some).count (some x) := by rw [hall]
    _ = l.count x := List.count_map_of_injective l some hinj x

end Picks

end Lib
