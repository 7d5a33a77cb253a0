/-
  FlutterWlroots.Codec.ValueEqualsLoops — what the comparison loops of platform_channel.c decide.

  A sequence is compared member by member (`compareSequence_members`).  The search through the entries
  of a map gives up when it ends at the last index, also if it has found the key there.  As every key
  takes an index of its own, some key is found there if all are found at all: maps with entries are
  never found equal unless they share them (`entriesFrom_false`, `compareEntries_members`).
-/
import Mathlib.Data.List.Forall2
import FlutterWlroots.Codec.ValueEquals

namespace FlutterWlroots.PlatformChannel

open Lib FlutterWlroots.Codec

/-! ## §1. What a computation decides. -/

/-- A computation that has a result, which is true if and only if `p` holds. -/
def Decides (x : Option Bool) (p : Prop) : Prop := ∃ r, x = some r ∧ (r = true ↔ p)

theorem decides_some {b : Bool} {p : Prop} (h : b = true ↔ p) : Decides (some b) p := ⟨b, rfl, h⟩

theorem decides_true {p : Prop} (h : p) : Decides (some true) p := ⟨true, rfl, iff_of_true rfl h⟩

theorem decides_false {p : Prop} (h : ¬ p) : Decides (some false) p :=
  ⟨false, rfl, iff_of_false Bool.false_ne_true h⟩

theorem Decides.congr {x : Option Bool} {p q : Prop} (h : Decides x p) (hpq : p ↔ q) : Decides x q := by
  obtain ⟨r, hr, hiff⟩ := h
  exact ⟨r, hr, hiff.trans hpq⟩

/-! ## §2. Sequences. -/

theorem allFrom_decides {test : Nat → Option Bool} {p : Nat → Prop} : ∀ remaining i,
    (∀ j, i ≤ j → j < i + remaining → Decides (test j) (p j)) →
      Decides (allFrom test remaining i) (∀ j, i ≤ j → j < i + remaining → p j)
  | 0, i, _ => decides_true fun j hle hlt => absurd hle (by omega)
  | remaining + 1, i, h => by
      obtain ⟨r, hr, hp⟩ := h i (Nat.le_refl i) (by omega)
      rw [allFrom, hr]
      cases r with
      | false => exact decides_false fun hall => Bool.false_ne_true (hp.mpr (hall i (Nat.le_refl i) (by omega)))
      | true =>
          refine (allFrom_decides remaining (i + 1) fun j hle hlt => h j (by omega) (by omega)).congr ?_
          constructor
          · intro hall j hle hlt
            rcases Nat.eq_or_lt_of_le hle with rfl | hlt'
            · exact hp.mp rfl
            · exact hall j hlt' (by omega)
          · exact fun hall j hle hlt => hall j (by omega) (by omega)

/-- **Sequences**: the lengths, and then either the same place or equal members. -/
theorem compareSequence_decides {n n' : Nat} {array array' : Addr} {test : Nat → Option Bool}
    {p : Nat → Prop} (h : n = n' → ∀ i < n, Decides (test i) (p i)) :
    Decides (compareSequence n array n' array' test)
      (n = n' ∧ (array = array' ∨ ∀ i < n, p i)) := by
  unfold compareSequence
  split
  next hne => exact decides_false fun hall => hne hall.1
  next heq =>
    rw [not_not] at heq
    split
    next hsame => exact decides_true ⟨heq, .inl hsame⟩
    next hother =>
      refine (allFrom_decides n 0 fun i _ hi => h heq i (by omega)).congr ?_
      rw [and_iff_right heq, or_iff_right hother]
      exact ⟨fun hall i hi => hall i (Nat.zero_le i) (by omega), fun hall i _ hi => hall i (by omega)⟩

/-! ## §3. Entries. -/

/-- As long as the last flag is not set, the skip ends at a flag that is not set. -/
theorem skipFlags_spec : ∀ {flags : List Bool} {j : Nat}, flags.getLast? = some false →
    ∃ k, skipFlags flags j = some (j + k) ∧ flags[k]? = some false
  | [], _, h => absurd h (by decide)
  | false :: _, j, _ => ⟨0, rfl, rfl⟩
  | true :: flags, j, h => by
      have hlast : flags.getLast? = some false := by
        cases flags with
        | nil => exact absurd h (by decide)
        | cons b flags => rwa [List.getLast?_cons_cons] at h
      obtain ⟨k, hk, hflag⟩ := skipFlags_spec (j := j + 1) hlast
      refine ⟨k + 1, ?_, hflag⟩
      rw [skipFlags, hk]
      congr 1
      omega

/-- **The search has a result**, and an entry that it ends with has not been taken before, unless it
    is the last one. -/
theorem findEntry_spec {n : Nat} {flags : List Bool} {keyEq valueEq : Nat → Option Bool}
    (hlen : flags.length = n) (hlast : flags.getLast? = some false)
    (hkey : ∀ j < n, ∃ r, keyEq j = some r) (hvalue : ∀ j < n, ∃ r, valueEq j = some r) :
    ∀ rounds j, j ≤ n → n < rounds + j →
      ∃ r, findEntry n flags keyEq valueEq rounds j = some r ∧
        ∀ j' flags', r = some (j', flags') → j' + 1 < n →
          flags[j']? = some false ∧ flags' = flags.set j' true
  | 0, j, hle, h => absurd hle (by omega)
  | rounds + 1, j, hle, h => by
      rw [findEntry]
      split
      next hlt =>
        have hrest : (flags.drop j).getLast? = some false := by
          rw [List.getLast?_drop, if_neg (by omega), hlast]
        obtain ⟨k, hskip, hflag⟩ := skipFlags_spec (j := j) hrest
        rw [List.getElem?_drop] at hflag
        obtain ⟨hk, -⟩ := List.getElem?_eq_some_iff.mp hflag
        rw [hlen] at hk
        obtain ⟨key, hkey'⟩ := hkey (j + k) hk
        obtain ⟨value, hvalue'⟩ := hvalue (j + k) hk
        rw [skipUsed, hskip]
        simp only [Option.bind_eq_bind, Option.bind_some, hkey']
        cases key with
        | false =>
            exact findEntry_spec hlen hlast hkey hvalue rounds (j + k + 1) (by omega) (by omega)
        | true =>
            simp only [if_true, hvalue', Option.bind_some]
            cases value with
            | false => exact ⟨none, rfl, fun j' flags' h => nomatch h⟩
            | true =>
                refine ⟨_, rfl, fun j' flags' h hlt' => ?_⟩
                cases h
                exact ⟨hflag, rfl⟩
      next hend =>
        refine ⟨_, rfl, fun j' flags' h hlt' => ?_⟩
        cases h
        exact absurd hlt' (by omega)

theorem count_set_true {flags : List Bool} {j : Nat} (h : flags[j]? = some false) :
    (flags.set j true).count true = flags.count true + 1 := by
  obtain ⟨hj, hflag⟩ := List.getElem?_eq_some_iff.mp h
  rw [List.count_set hj, hflag]
  rfl

theorem getLast?_set {flags : List Bool} {j : Nat} (h : j + 1 < flags.length) :
    (flags.set j true).getLast? = flags.getLast? := by
  rw [List.getLast?_eq_getElem?, List.getLast?_eq_getElem?, List.length_set,
    List.getElem?_set_ne (by omega)]

/-- **Maps with entries that are not the same are found unequal.**  `i` entries are used before round
    `i`, and never the last one, so there cannot be as many rounds as entries. -/
theorem entriesFrom_false {n : Nat} {keyEq valueEq : Nat → Nat → Option Bool}
    (hkey : ∀ i < n, ∀ j < n, ∃ r, keyEq i j = some r)
    (hvalue : ∀ i < n, ∀ j < n, ∃ r, valueEq i j = some r) :
    ∀ remaining i (flags : List Bool), i + remaining = n → flags.length = n →
      flags.getLast? = some false → flags.count true = i →
      entriesFrom n keyEq valueEq remaining i flags = some false
  | 0, i, flags, hi, hlen, hlast, hcount => by
      have hall := List.count_eq_length.mp (hcount.trans (by omega))
      exact absurd (hall false (List.mem_of_getLast? hlast)) (by decide)
  | remaining + 1, i, flags, hi, hlen, hlast, hcount => by
      obtain ⟨r, hr, hfound⟩ := findEntry_spec hlen hlast (hkey i (by omega)) (hvalue i (by omega))
        (n + 1) 0 (Nat.zero_le n) (by omega)
      rw [entriesFrom, hr]
      cases r with
      | none => rfl
      | some found =>
          obtain ⟨j, flags'⟩ := found
          simp only [Option.bind_eq_bind, Option.bind_some]
          split
          next => rfl
          next hlt =>
            obtain ⟨hflag, rfl⟩ := hfound j flags' rfl (by omega)
            refine entriesFrom_false hkey hvalue remaining (i + 1) _ (by omega) ?_ ?_ ?_
            · rw [List.length_set, hlen]
            · rw [getLast?_set (by omega), hlast]
            · rw [count_set_true hflag, hcount]

/-- **Maps**: equal only if they are the same ones, or have no entries. -/
theorem compareEntries_decides {n n' : Nat} {keys values keys' values' : Addr}
    {keyEq valueEq : Nat → Nat → Option Bool}
    (hkey : n = n' → ∀ i < n, ∀ j < n, ∃ r, keyEq i j = some r)
    (hvalue : n = n' → ∀ i < n, ∀ j < n, ∃ r, valueEq i j = some r) :
    Decides (compareEntries n keys values n' keys' values' keyEq valueEq)
      (n = n' ∧ ((keys = keys' ∧ values = values') ∨ n = 0)) := by
  unfold compareEntries
  split
  next hne => exact decides_false fun h => hne h.1
  next heq =>
    rw [not_not] at heq
    split
    next hsame => exact decides_true ⟨heq, .inl hsame⟩
    next hother =>
      cases n with
      | zero => exact decides_true ⟨heq, .inr rfl⟩
      | succ n =>
          have hcount : (List.replicate (n + 1) false).count true = 0 := by
            rw [List.count_replicate]
            rfl
          have hlast : (List.replicate (n + 1) false).getLast? = some false := by
            rw [List.getLast?_replicate]
            rfl
          rw [entriesFrom_false (hkey heq) (hvalue heq) (n + 1) 0 _ (Nat.zero_add _)
            List.length_replicate hlast hcount]
          exact decides_false fun h => h.2.elim hother (Nat.succ_ne_zero n)

/-! ## §4. Values. -/

theorem comparePointers_decides {a b : Addr} {type type' : Nat} {rest : Option Bool} {p : Prop}
    (ha : a ≠ 0) (hb : b ≠ 0) (hsame : a = b → p) (htype : type ≠ type' → ¬ p)
    (hrest : a ≠ b → type = type' → Decides rest p) :
    Decides (comparePointers a b type type' rest) p := by
  have hnull : ¬ ((a = 0) ≠ (b = 0)) := by simp [ha, hb]
  unfold comparePointers
  rw [if_neg hnull]
  split
  next heq => exact decides_true (hsame heq)
  next hne =>
    split
    next h => exact decides_false (htype h)
    next h => exact hrest hne (not_not.mp h)

section Members

variable {α : Type} {xs ys : List α} {array array' keys values keys' values' : Addr}

/-- Sequences of given members; `Bad i` is what makes the comparison of the members at `i` fail
    although they are equal. -/
theorem compareSequence_members (E : α → α → Prop) (Bad : Nat → Prop) {test : Nat → Option Bool}
    (h : ∀ i x y, xs[i]? = some x → ys[i]? = some y → Decides (test i) (E x y ∧ ¬ Bad i))
    (hsame : array = array' → xs.length = ys.length → xs.Forall₂ E ys) :
    Decides (compareSequence xs.length array ys.length array' test)
      (xs.Forall₂ E ys ∧ ¬ (array ≠ array' ∧ xs.length = ys.length ∧ ∃ i < xs.length, Bad i)) := by
  have hmember : xs.length = ys.length → ∀ i < xs.length,
      Decides (test i) ((∀ x y, xs[i]? = some x → ys[i]? = some y → E x y) ∧ ¬ Bad i) := by
    intro hlen i hi
    have hx := List.getElem?_eq_getElem hi
    have hy := List.getElem?_eq_getElem (hlen ▸ hi)
    refine (h i _ _ hx hy).congr (and_congr_left' ⟨fun hE x y hx' hy' => ?_, fun hE => hE _ _ hx hy⟩)
    rw [hx, Option.some.injEq] at hx'
    rw [hy, Option.some.injEq] at hy'
    exact hx' ▸ hy' ▸ hE
  refine (compareSequence_decides hmember).congr ⟨?_, ?_⟩
  · rintro ⟨hlen, heq | hall⟩
    · exact ⟨hsame heq hlen, fun hbad => hbad.1 heq⟩
    · refine ⟨List.forall₂_iff_get.mpr ⟨hlen, fun i hi hi' => ?_⟩, ?_⟩
      · exact (hall i hi).1 _ _ (List.getElem?_eq_getElem hi) (List.getElem?_eq_getElem hi')
      · rintro ⟨-, -, i, hi, hbad⟩
        exact (hall i hi).2 hbad
  · rintro ⟨hall, hgood⟩
    refine ⟨hall.length_eq, or_iff_not_imp_left.mpr fun hne i hi => ⟨fun x y hx hy => ?_, fun hbad => ?_⟩⟩
    · obtain ⟨hi, rfl⟩ := List.getElem?_eq_some_iff.mp hx
      obtain ⟨hi', rfl⟩ := List.getElem?_eq_some_iff.mp hy
      exact hall.get hi hi'
    · exact hgood ⟨hne, hall.length_eq, i, hi, hbad⟩

/-- Entries that may come in any order. -/
theorem compareEntries_members (E : α → α → Prop) {keyEq valueEq : Nat → Nat → Option Bool}
    (hkey : xs.length = ys.length → ∀ i < xs.length, ∀ j < xs.length, ∃ r, keyEq i j = some r)
    (hvalue : xs.length = ys.length → ∀ i < xs.length, ∀ j < xs.length, ∃ r, valueEq i j = some r)
    (hsame : keys = keys' → values = values' → xs.length = ys.length → xs.Forall₂ E ys) :
    Decides (compareEntries xs.length keys values ys.length keys' values' keyEq valueEq)
      ((∃ ys', ys.Perm ys' ∧ xs.Forall₂ E ys')
        ∧ ¬ (¬ (keys = keys' ∧ values = values') ∧ xs.length = ys.length ∧ 0 < xs.length)) := by
  refine (compareEntries_decides hkey hvalue).congr ⟨?_, ?_⟩
  · rintro ⟨hlen, ⟨hk, hv⟩ | hempty⟩
    · exact ⟨⟨ys, List.Perm.refl ys, hsame hk hv hlen⟩, fun hbad => hbad.1 ⟨hk, hv⟩⟩
    · obtain rfl := List.length_eq_zero_iff.mp hempty
      obtain rfl := List.length_eq_zero_iff.mp hlen.symm
      exact ⟨⟨[], List.Perm.nil, List.Forall₂.nil⟩, fun hbad => absurd hbad.2.2 (Nat.lt_irrefl 0)⟩
  · rintro ⟨⟨ys', hperm, hall⟩, hgood⟩
    have hlen : xs.length = ys.length := hall.length_eq.trans hperm.length_eq.symm
    refine ⟨hlen, or_iff_not_imp_left.mpr fun hother => ?_⟩
    by_contra hne
    exact hgood ⟨hother, hlen, Nat.pos_of_ne_zero hne⟩

end Members

/-- Bounds for the members of a list make one bound. -/
theorem exists_bound {α : Type} (P : α → Nat → Prop) (hmono : ∀ x n n', P x n → n ≤ n' → P x n') :
    ∀ xs : List α, (∀ x ∈ xs, ∃ n, P x n) → ∃ n, ∀ x ∈ xs, P x n
  | [], _ => ⟨0, fun x hx => absurd hx List.not_mem_nil⟩
  | x :: xs, h => by
      obtain ⟨hx, hxs⟩ := List.forall_mem_cons.mp h
      obtain ⟨n, hn⟩ := hx
      obtain ⟨n', hn'⟩ := exists_bound P hmono xs hxs
      exact ⟨max n n', List.forall_mem_cons.mpr ⟨hmono x n _ hn (Nat.le_max_left n n'),
        fun y hy => hmono y n' _ (hn' y hy) (Nat.le_max_right n n')⟩⟩

/-- And so do bounds for both parts of pairs. -/
theorem exists_bound_pairs {α : Type} (P : α → Nat → Prop)
    (hmono : ∀ x n n', P x n → n ≤ n' → P x n') (es : List (α × α))
    (h : ∀ e ∈ es, (∃ n, P e.1 n) ∧ ∃ n, P e.2 n) : ∃ n, ∀ e ∈ es, P e.1 n ∧ P e.2 n := by
  refine exists_bound (fun (e : α × α) n => P e.1 n ∧ P e.2 n) ?_ es ?_
  · intro e n n' hboth hle
    exact ⟨hmono e.1 n n' hboth.1 hle, hmono e.2 n n' hboth.2 hle⟩
  · intro e he
    obtain ⟨⟨n, hfirst⟩, ⟨n', hsecond⟩⟩ := h e he
    exact ⟨max n n', hmono e.1 n _ hfirst (Nat.le_max_left n n'),
      hmono e.2 n' _ hsecond (Nat.le_max_right n n')⟩

/-- The members of a sequence of `w`-byte elements are read from `p` on. -/
def ReadsArray {α : Type} (read : Addr → α) (w : Nat) (xs : List α) (p : Addr) : Prop :=
  ∀ i x, xs[i]? = some x → read (p + w * i) = x

theorem ReadsArray.unique {α : Type} {read : Addr → α} {w : Nat} {xs ys : List α} {p : Addr}
    (h : ReadsArray read w xs p) (h' : ReadsArray read w ys p) (hlen : xs.length = ys.length) :
    xs = ys := by
  refine List.ext_getElem hlen fun i hi hi' => ?_
  rw [← h i _ (List.getElem?_eq_getElem hi), h' i _ (List.getElem?_eq_getElem hi')]

end FlutterWlroots.PlatformChannel
