/-
  FlutterWlroots.Codec.ValueEqualsStd — what `stdvalue_equals` decides.

  `StdEqual` is equality of trees: lists in order, maps in any order, floats as numbers.  A memory
  shows a tree at an address (`StdShows`), whatever is shared.  The function says that the trees are
  equal if they are, and no maps with entries are met that are not the same ones
  (`exists_stdSettles`).
-/
import FlutterWlroots.Codec.ValueEqualsLoops

namespace FlutterWlroots.PlatformChannel

open Lib FlutterWlroots.Codec

/-! ## §1. Trees. -/

mutual
/-- The memory shows the tree at the address.  Nothing is asked about what is shared. -/
def StdShows (m : Memory) : StdValue → Addr → Prop
  | .kStdNull, p => p ≠ 0 ∧ m.stdValue p = .kStdNull
  | .kStdTrue, p => p ≠ 0 ∧ m.stdValue p = .kStdTrue
  | .kStdFalse, p => p ≠ 0 ∧ m.stdValue p = .kStdFalse
  | .kStdInt32 x, p => p ≠ 0 ∧ m.stdValue p = .kStdInt32 x
  | .kStdInt64 x, p => p ≠ 0 ∧ m.stdValue p = .kStdInt64 x
  | .kStdLargeInt s, p => p ≠ 0 ∧ ∃ q, m.stdValue p = .kStdLargeInt q ∧ m.string q = s
  | .kStdFloat64 x, p => p ≠ 0 ∧ m.stdValue p = .kStdFloat64 x
  | .kStdString s, p => p ≠ 0 ∧ ∃ q, m.stdValue p = .kStdString q ∧ m.string q = s
  | .kStdUInt8Array xs, p => p ≠ 0 ∧ ∃ q, m.stdValue p = .kStdUInt8Array xs.length q
      ∧ ReadsArray m.uint8 1 xs q
  | .kStdInt32Array xs, p => p ≠ 0 ∧ ∃ q, m.stdValue p = .kStdInt32Array xs.length q
      ∧ ReadsArray m.int32 4 xs q
  | .kStdInt64Array xs, p => p ≠ 0 ∧ ∃ q, m.stdValue p = .kStdInt64Array xs.length q
      ∧ ReadsArray m.int64 8 xs q
  | .kStdFloat64Array xs, p => p ≠ 0 ∧ ∃ q, m.stdValue p = .kStdFloat64Array xs.length q
      ∧ ReadsArray m.float64 8 xs q
  | .kStdList xs, p => p ≠ 0 ∧ ∃ q, m.stdValue p = .kStdList xs.length q ∧ StdShowsList m xs q
  | .kStdMap es, p => p ≠ 0 ∧ ∃ k v, m.stdValue p = .kStdMap es.length k v
      ∧ StdShowsEntries m es k v
  | .unknown _ _, _ => False
def StdShowsList (m : Memory) : List StdValue → Addr → Prop
  | [], _ => True
  | x :: xs, q => StdShows m x q ∧ StdShowsList m xs (q + valueSize)
def StdShowsEntries (m : Memory) : List (StdValue × StdValue) → Addr → Addr → Prop
  | [], _, _ => True
  | (key, x) :: es, k, v => StdShows m key k ∧ StdShows m x v
      ∧ StdShowsEntries m es (k + valueSize) (v + valueSize)
end

mutual
/-- Equality of values: the entries of a map may come in any order. -/
def StdEqual : StdValue → StdValue → Prop
  | .kStdNull, .kStdNull | .kStdTrue, .kStdTrue | .kStdFalse, .kStdFalse => True
  | .kStdInt32 x, .kStdInt32 y => x = y
  | .kStdInt64 x, .kStdInt64 y => x = y
  | .kStdLargeInt s, .kStdLargeInt s' => s = s'
  | .kStdFloat64 x, .kStdFloat64 y => Double.equal x y = true
  | .kStdString s, .kStdString s' => s = s'
  | .kStdUInt8Array xs, .kStdUInt8Array ys => xs = ys
  | .kStdInt32Array xs, .kStdInt32Array ys => xs = ys
  | .kStdInt64Array xs, .kStdInt64Array ys => xs = ys
  | .kStdFloat64Array xs, .kStdFloat64Array ys => xs.Forall₂ (fun x y => Double.equal x y = true) ys
  | .kStdList xs, .kStdList ys => StdEqualList xs ys
  | .kStdMap es, .kStdMap fs => ∃ fs', fs.Perm fs' ∧ StdEqualEntries es fs'
  | _, _ => False
def StdEqualList : List StdValue → List StdValue → Prop
  | [], [] => True
  | x :: xs, y :: ys => StdEqual x y ∧ StdEqualList xs ys
  | _, _ => False
def StdEqualEntries : List (StdValue × StdValue) → List (StdValue × StdValue) → Prop
  | [], [] => True
  | (k, v) :: es, (k', v') :: fs => StdEqual k k' ∧ StdEqual v v' ∧ StdEqualEntries es fs
  | _, _ => False
end

/-- Two values of one type. -/
inductive SameType : StdValue → StdValue → Prop
  | kStdNull : SameType .kStdNull .kStdNull
  | kStdTrue : SameType .kStdTrue .kStdTrue
  | kStdFalse : SameType .kStdFalse .kStdFalse
  | kStdInt32 (x y) : SameType (.kStdInt32 x) (.kStdInt32 y)
  | kStdInt64 (x y) : SameType (.kStdInt64 x) (.kStdInt64 y)
  | kStdLargeInt (s s') : SameType (.kStdLargeInt s) (.kStdLargeInt s')
  | kStdFloat64 (x y) : SameType (.kStdFloat64 x) (.kStdFloat64 y)
  | kStdString (s s') : SameType (.kStdString s) (.kStdString s')
  | kStdUInt8Array (xs ys) : SameType (.kStdUInt8Array xs) (.kStdUInt8Array ys)
  | kStdInt32Array (xs ys) : SameType (.kStdInt32Array xs) (.kStdInt32Array ys)
  | kStdInt64Array (xs ys) : SameType (.kStdInt64Array xs) (.kStdInt64Array ys)
  | kStdFloat64Array (xs ys) : SameType (.kStdFloat64Array xs) (.kStdFloat64Array ys)
  | kStdList (xs ys) : SameType (.kStdList xs) (.kStdList ys)
  | kStdMap (es fs) : SameType (.kStdMap es) (.kStdMap fs)

/-- The floats of the node are numbers. -/
def hasNoNaN : StdValue → Bool
  | .kStdFloat64 x => ¬ Double.isNaN x
  | .kStdFloat64Array xs => xs.all fun x => ¬ Double.isNaN x
  | _ => true

/-- Two maps with entries that are not the same map lie at the same place of the two trees, or are
    the two trees; they are reached through lists that are not shared. -/
inductive StdMeetsMaps (m : Memory) : Addr → Addr → Prop
  | map {a b n k v k' v' : Nat} : a ≠ b → m.stdValue a = .kStdMap (n + 1) k v →
      m.stdValue b = .kStdMap (n + 1) k' v' → ¬ (k = k' ∧ v = v') → StdMeetsMaps m a b
  | list {a b n p q i : Nat} : a ≠ b → m.stdValue a = .kStdList n p → m.stdValue b = .kStdList n q →
      p ≠ q → i < n → StdMeetsMaps m (p + valueSize * i) (q + valueSize * i) → StdMeetsMaps m a b

/-! ## §2. What a memory shows. -/

section Shows

variable {m : Memory} {t u : StdValue} {p q : Addr}

theorem StdShowsList.get : ∀ {xs : List StdValue} {q i : Nat} {x : StdValue}, StdShowsList m xs q →
    xs[i]? = some x → StdShows m x (q + valueSize * i)
  | [], _, _, _, _, hi => absurd hi (by simp)
  | x :: xs, q, 0, x', h, hi => by
      rw [List.getElem?_cons_zero, Option.some.injEq] at hi
      exact hi ▸ h.1
  | x :: xs, q, i + 1, x', h, hi => by
      have hrest := StdShowsList.get h.2 (List.getElem?_cons_succ ▸ hi)
      rwa [Nat.add_assoc, Nat.add_comm valueSize, ← Nat.mul_succ] at hrest

theorem StdShowsEntries.get : ∀ {es : List (StdValue × StdValue)} {k v i : Nat}
    {e : StdValue × StdValue}, StdShowsEntries m es k v → es[i]? = some e →
      StdShows m e.1 (k + valueSize * i) ∧ StdShows m e.2 (v + valueSize * i)
  | [], _, _, _, _, _, hi => absurd hi (by simp)
  | (key, x) :: es, k, v, 0, e, h, hi => by
      rw [List.getElem?_cons_zero, Option.some.injEq] at hi
      exact hi ▸ ⟨h.1, h.2.1⟩
  | (key, x) :: es, k, v, i + 1, e, h, hi => by
      have hrest := StdShowsEntries.get h.2.2 (List.getElem?_cons_succ ▸ hi)
      rwa [Nat.add_assoc, Nat.add_comm valueSize, Nat.add_assoc v, Nat.add_comm valueSize,
        ← Nat.mul_succ] at hrest

theorem StdShows.ne_zero (h : StdShows m t p) : p ≠ 0 := by
  cases t
  case unknown => exact h.elim
  all_goals exact h.1

/-- The number of the type of a value. -/
def stdType : StdValue → Nat
  | .kStdNull => 0
  | .kStdTrue => 1
  | .kStdFalse => 2
  | .kStdInt32 _ => 3
  | .kStdInt64 _ => 4
  | .kStdLargeInt _ => 5
  | .kStdFloat64 _ => 6
  | .kStdString _ => 7
  | .kStdUInt8Array _ => 8
  | .kStdInt32Array _ => 9
  | .kStdInt64Array _ => 10
  | .kStdFloat64Array _ => 11
  | .kStdList _ => 12
  | .kStdMap _ => 13
  | .unknown type _ => type

theorem StdShows.type_eq (h : StdShows m t p) : (m.stdValue p).type = stdType t := by
  cases t
  case unknown => exact h.elim
  case kStdNull | kStdTrue | kStdFalse | kStdInt32 | kStdInt64 | kStdFloat64 =>
    rw [h.2]
    rfl
  case kStdMap es =>
    obtain ⟨-, k, v, hnode, -⟩ := h
    rw [hnode]
    rfl
  all_goals
    obtain ⟨-, q, hnode, -⟩ := h
    rw [hnode]
    rfl

theorem sameType_of_eq {t u : StdValue} (ht : t.isKnown = true) (hu : u.isKnown = true)
    (h : stdType t = stdType u) : SameType t u := by
  cases t <;> cases u <;> first
    | constructor
    | exact absurd ht Bool.false_ne_true
    | exact absurd hu Bool.false_ne_true
    | exact absurd h (by simp [stdType])

theorem StdShows.isKnown (h : StdShows m t p) : t.isKnown = true := by
  cases t
  case unknown => exact h.elim
  all_goals rfl

/-- Values of different types are not equal. -/
theorem StdEqual.sameType {t u : StdValue} (h : StdEqual t u) : SameType t u := by
  cases t <;> cases u <;> first
    | constructor
    | exact h.elim

theorem StdShows.sameType (ht : StdShows m t p) (hu : StdShows m u q)
    (h : (m.stdValue p).type = (m.stdValue q).type) : SameType t u := by
  rw [ht.type_eq, hu.type_eq] at h
  exact sameType_of_eq ht.isKnown hu.isKnown h

theorem StdShowsList.unique : ∀ {xs ys : List StdValue} {q : Nat},
    (∀ x ∈ xs, ∀ {y p}, StdShows m x p → StdShows m y p → x = y) →
      StdShowsList m xs q → StdShowsList m ys q → xs.length = ys.length → xs = ys
  | [], [], _, _, _, _, _ => rfl
  | [], _ :: _, _, _, _, _, hlen => absurd hlen (by simp)
  | _ :: _, [], _, _, _, _, hlen => absurd hlen (by simp)
  | x :: xs, y :: ys, q, hx, h, h', hlen => by
      obtain ⟨hhead, htail⟩ := List.forall_mem_cons.mp hx
      rw [hhead h.1 h'.1, StdShowsList.unique htail h.2 h'.2 (Nat.succ.inj hlen)]

theorem StdShowsEntries.unique : ∀ {es fs : List (StdValue × StdValue)} {k v : Nat},
    (∀ e ∈ es, (∀ {y p}, StdShows m e.1 p → StdShows m y p → e.1 = y)
      ∧ ∀ {y p}, StdShows m e.2 p → StdShows m y p → e.2 = y) →
      StdShowsEntries m es k v → StdShowsEntries m fs k v → es.length = fs.length → es = fs
  | [], [], _, _, _, _, _, _ => rfl
  | [], _ :: _, _, _, _, _, _, hlen => absurd hlen (by simp)
  | _ :: _, [], _, _, _, _, _, hlen => absurd hlen (by simp)
  | (key, x) :: es, (key', x') :: fs, k, v, he, h, h', hlen => by
      obtain ⟨⟨hkey, hx⟩, htail⟩ := List.forall_mem_cons.mp he
      have hk : key = key' := hkey h.1 h'.1
      have hv : x = x' := hx h.2.1 h'.2.1
      rw [hk, hv, StdShowsEntries.unique htail h.2.2 h'.2.2 (Nat.succ.inj hlen)]

/-- A memory shows one tree at an address. -/
theorem StdShows.unique (ht : StdShows m t p) (hu : StdShows m u p) : t = u := by
  induction t using StdTree.induct generalizing u p with
  | unknown => exact ht.elim
  | kStdNull | kStdTrue | kStdFalse =>
      cases ht.sameType hu rfl
      rfl
  | kStdInt32 | kStdInt64 | kStdFloat64 =>
      cases ht.sameType hu rfl
      cases ht.2.symm.trans hu.2
      rfl
  | kStdLargeInt | kStdString =>
      cases ht.sameType hu rfl
      obtain ⟨-, q, hnode, rfl⟩ := ht
      obtain ⟨-, q', hnode', rfl⟩ := hu
      cases hnode.symm.trans hnode'
      rfl
  | kStdUInt8Array | kStdInt32Array | kStdInt64Array | kStdFloat64Array =>
      cases ht.sameType hu rfl
      obtain ⟨-, q, hnode, hread⟩ := ht
      obtain ⟨-, q', hnode', hread'⟩ := hu
      have hsize := hnode.symm.trans hnode'
      simp only [StdNode.kStdUInt8Array.injEq, StdNode.kStdInt32Array.injEq,
        StdNode.kStdInt64Array.injEq, StdNode.kStdFloat64Array.injEq] at hsize
      rw [hread.unique (hsize.2 ▸ hread') hsize.1]
  | kStdList xs ih =>
      cases ht.sameType hu rfl with
      | kStdList _ ys =>
          obtain ⟨-, q, hnode, hxs⟩ := ht
          obtain ⟨-, q', hnode', hys⟩ := hu
          obtain ⟨hlen, rfl⟩ := StdNode.kStdList.inj (hnode.symm.trans hnode')
          rw [StdShowsList.unique (fun x hx _ _ => ih x hx) hxs hys hlen]
  | kStdMap es ih =>
      cases ht.sameType hu rfl with
      | kStdMap _ fs =>
          obtain ⟨-, k, v, hnode, hes⟩ := ht
          obtain ⟨-, k', v', hnode', hfs⟩ := hu
          obtain ⟨hlen, rfl, rfl⟩ := StdNode.kStdMap.inj (hnode.symm.trans hnode')
          rw [StdShowsEntries.unique (fun e he => ⟨(ih e he).1, (ih e he).2⟩) hes hfs hlen]

theorem StdShows.known (ht : StdShows m t p) : t.Known := by
  induction t using StdTree.induct generalizing p with
  | unknown => exact ht.elim
  | kStdList xs ih =>
      obtain ⟨-, q, -, hxs⟩ := ht
      refine StdTree.known_list.mpr fun x hx => ?_
      obtain ⟨i, hi⟩ := List.mem_iff_getElem?.mp hx
      exact ih x hx (hxs.get hi)
  | kStdMap es ih =>
      obtain ⟨-, k, v, -, hes⟩ := ht
      refine StdTree.known_map.mpr fun e he => ?_
      obtain ⟨i, hi⟩ := List.mem_iff_getElem?.mp he
      exact ⟨(ih e he).1 (hes.get hi).1, (ih e he).2 (hes.get hi).2⟩
  | _ => rfl

end Shows

/-! ## §3. Equality of trees. -/

theorem stdEqualList_iff : ∀ {xs ys : List StdValue}, StdEqualList xs ys ↔ xs.Forall₂ StdEqual ys
  | [], [] => iff_of_true trivial .nil
  | [], _ :: _ => iff_of_false id nofun
  | _ :: _, [] => iff_of_false id nofun
  | x :: xs, y :: ys => by rw [StdEqualList, List.forall₂_cons, stdEqualList_iff]

theorem stdEqualEntries_iff : ∀ {es fs : List (StdValue × StdValue)},
    StdEqualEntries es fs ↔ es.Forall₂ (fun e f => StdEqual e.1 f.1 ∧ StdEqual e.2 f.2) fs
  | [], [] => iff_of_true trivial .nil
  | [], _ :: _ => iff_of_false id nofun
  | _ :: _, [] => iff_of_false id nofun
  | (k, v) :: es, (k', v') :: fs => by
      rw [StdEqualEntries, List.forall₂_cons, stdEqualEntries_iff, and_assoc]

/-- No float of the tree is a NaN. -/
def NoNaN (t : StdValue) : Prop := t.everyNode hasNoNaN = true

/-- A tree without NaNs is equal to itself. -/
theorem stdEqual_refl {t : StdValue} (hknown : t.Known) (h : NoNaN t) : StdEqual t t := by
  induction t using StdTree.induct with
  | unknown => exact absurd hknown.isKnown Bool.false_ne_true
  | kStdFloat64 x => exact Double.equal_refl (by simpa [NoNaN, StdTree.everyNode, hasNoNaN] using h)
  | kStdFloat64Array xs =>
      simp only [NoNaN, StdTree.everyNode, hasNoNaN, List.all_eq_true, decide_eq_true_eq] at h
      exact List.forall₂_same.mpr fun x hx => Double.equal_refl (Bool.eq_false_iff.mpr (h x hx))
  | kStdList xs ih =>
      rw [NoNaN, StdTree.everyNode_list] at h
      rw [StdTree.known_list] at hknown
      exact stdEqualList_iff.mpr (List.forall₂_same.mpr fun x hx => ih x hx (hknown x hx) (h.2 x hx))
  | kStdMap es ih =>
      rw [NoNaN, StdTree.everyNode_map] at h
      rw [StdTree.known_map] at hknown
      refine ⟨es, List.Perm.refl es, stdEqualEntries_iff.mpr (List.forall₂_same.mpr fun e he => ?_)⟩
      exact ⟨(ih e he).1 (hknown e he).1 (h.2 e he).1, (ih e he).2 (hknown e he).2 (h.2 e he).2⟩
  | _ =>
      first
        | exact rfl
        | exact trivial

/-! ## §4. `stdvalue_equals`. -/

section Std

variable {m : Memory} {a b n n' : Nat} {p q k v k' v' : Addr} {t u : StdValue}

theorem not_stdMeetsMaps (hlist : ∀ n p, m.stdValue a ≠ .kStdList n p)
    (hmap : ∀ n k v, m.stdValue a ≠ .kStdMap n k v) : ¬ StdMeetsMaps m a b := by
  rintro (⟨-, hnode, -, -⟩ | ⟨-, hnode, -, -, -, -⟩)
  · exact hmap _ _ _ hnode
  · exact hlist _ _ hnode

theorem stdMeetsMaps_self : ¬ StdMeetsMaps m a a := by
  rintro (⟨hne, -, -, -⟩ | ⟨hne, -, -, -, -, -⟩) <;> exact hne rfl

theorem stdMeetsMaps_list_iff (hne : a ≠ b) (ha : m.stdValue a = .kStdList n p)
    (hb : m.stdValue b = .kStdList n' q) : StdMeetsMaps m a b ↔
      p ≠ q ∧ n = n' ∧ ∃ i < n, StdMeetsMaps m (p + valueSize * i) (q + valueSize * i) := by
  constructor
  · rintro (⟨-, ha', -, -⟩ | ⟨-, ha', hb', hpq, hi, hmeets⟩)
    · cases ha.symm.trans ha'
    · cases ha.symm.trans ha'
      cases hb.symm.trans hb'
      exact ⟨hpq, rfl, _, hi, hmeets⟩
  · rintro ⟨hpq, rfl, i, hi, hmeets⟩
    exact .list hne ha hb hpq hi hmeets

theorem stdMeetsMaps_map_iff (hne : a ≠ b) (ha : m.stdValue a = .kStdMap n k v)
    (hb : m.stdValue b = .kStdMap n' k' v') : StdMeetsMaps m a b ↔
      ¬ (k = k' ∧ v = v') ∧ n = n' ∧ 0 < n := by
  constructor
  · rintro (⟨-, ha', hb', hother⟩ | ⟨-, ha', -, -, -, -⟩)
    · cases ha.symm.trans ha'
      cases hb.symm.trans hb'
      exact ⟨hother, rfl, Nat.succ_pos _⟩
    · cases ha.symm.trans ha'
  · rintro ⟨hother, rfl, hpos⟩
    obtain ⟨n, rfl⟩ := Nat.exists_eq_succ_of_ne_zero hpos.ne'
    exact .map hne ha hb hother

/-- From `n` on the fuel is enough for the tree, whatever it is compared with. -/
def StdSettles (m : Memory) (t : StdValue) (n : Nat) : Prop :=
  ∀ fuel, n ≤ fuel → ∀ u a b, StdShows m t a → StdShows m u b → NoNaN t → NoNaN u →
    Decides (stdvalueEquals m fuel a b) (StdEqual t u ∧ ¬ StdMeetsMaps m a b)

theorem StdSettles.mono (h : StdSettles m t n) (hle : n ≤ n') : StdSettles m t n' :=
  fun fuel hfuel => h fuel (hle.trans hfuel)

/-- **The pointers and the types**: what is left is the switch, for two values of one type. -/
theorem stdSettles_of_switch (h : ∀ fuel, n ≤ fuel → ∀ u a b, a ≠ b → SameType t u →
    StdShows m t a → StdShows m u b → NoNaN t → NoNaN u →
    Decides (stdSwitch m (stdvalueEquals m fuel) (m.stdValue a) (m.stdValue b))
      (StdEqual t u ∧ ¬ StdMeetsMaps m a b)) : StdSettles m t (n + 1) := by
  intro fuel hfuel u a b ht hu hnt hnu
  obtain ⟨fuel, rfl⟩ : ∃ fuel', fuel = fuel' + 1 := ⟨fuel - 1, by omega⟩
  refine comparePointers_decides ht.ne_zero hu.ne_zero ?_ ?_ ?_
  · rintro rfl
    obtain rfl := ht.unique hu
    exact ⟨stdEqual_refl ht.known hnt, stdMeetsMaps_self⟩
  · rintro htype ⟨heq, -⟩
    rw [ht.type_eq, hu.type_eq] at htype
    cases heq.sameType <;> exact htype rfl
  · intro hne htype
    exact h fuel (Nat.le_of_succ_le_succ hfuel) u a b hne (ht.sameType hu htype) ht hu hnt hnu

/-- Arrays of numbers. -/
theorem array_decides {α : Type} {read : Addr → α} {w : Nat} {xs ys : List α} (eq : α → α → Bool)
    (hx : ReadsArray read w xs p) (hy : ReadsArray read w ys q) (hrefl : ∀ x ∈ xs, eq x x = true) :
    Decides (compareSequence xs.length p ys.length q
      fun i => some (eq (read (p + w * i)) (read (q + w * i))))
      (xs.Forall₂ (fun x y => eq x y = true) ys) := by
  refine (compareSequence_members (fun x y => eq x y = true) (fun _ => False)
    (fun i x y hi hi' => ?_) ?_).congr ?_
  · rw [hx i x hi, hy i y hi']
    exact decides_some (and_iff_left not_false).symm
  · rintro rfl hlen
    rw [← hx.unique hy hlen]
    exact List.forall₂_same.mpr hrefl
  · refine and_iff_left ?_
    rintro ⟨-, -, i, -, hbad⟩
    exact hbad

theorem intArray_decides {α : Type} [DecidableEq α] {read : Addr → α} {w : Nat} {xs ys : List α}
    (hx : ReadsArray read w xs p) (hy : ReadsArray read w ys q) :
    Decides (compareSequence xs.length p ys.length q
      fun i => some (decide (read (p + w * i) = read (q + w * i)))) (xs = ys) := by
  refine (array_decides (fun x y => decide (x = y)) hx hy fun x _ => decide_eq_true rfl).congr ?_
  simp only [decide_eq_true_eq, List.forall₂_eq_eq_eq]

/-- Where no list or map is compared, equality is all there is. -/
theorem decides_leaf {x : Option Bool} {E : Prop} {node : StdNode} (ha : m.stdValue a = node)
    (hlist : ∀ n p, node ≠ .kStdList n p) (hmap : ∀ n k v, node ≠ .kStdMap n k v)
    (h : Decides x E) : Decides x (E ∧ ¬ StdMeetsMaps m a b) := by
  refine h.congr (and_iff_left (not_stdMeetsMaps ?_ ?_)).symm
  · exact fun n p hnode => hlist n p (ha.symm.trans hnode)
  · exact fun n k v hnode => hmap n k v (ha.symm.trans hnode)

theorem noNaN_list {xs : List StdValue} (h : NoNaN (.kStdList xs)) : ∀ x ∈ xs, NoNaN x :=
  (StdTree.everyNode_list.mp h).2

theorem noNaN_map {es : List (StdValue × StdValue)} (h : NoNaN (.kStdMap es)) :
    ∀ e ∈ es, NoNaN e.1 ∧ NoNaN e.2 :=
  (StdTree.everyNode_map.mp h).2

/-- **What `stdvalue_equals` decides**: the trees are equal, and no maps get in the way. -/
theorem exists_stdSettles (m : Memory) (t : StdValue) : ∃ n, StdSettles m t n := by
  induction t using StdTree.induct with
  | unknown => exact ⟨0, fun _ _ _ _ _ ht => ht.elim⟩
  | kStdNull | kStdTrue | kStdFalse =>
      refine ⟨0 + 1, stdSettles_of_switch fun fuel _ u a b _ hsame ht hu _ _ => ?_⟩
      cases hsame
      refine decides_leaf ht.2 nofun nofun ?_
      rw [ht.2, hu.2]
      exact decides_true trivial
  | kStdInt32 | kStdInt64 =>
      refine ⟨0 + 1, stdSettles_of_switch fun fuel _ u a b _ hsame ht hu _ _ => ?_⟩
      cases hsame
      refine decides_leaf ht.2 nofun nofun ?_
      rw [ht.2, hu.2]
      exact decides_some decide_eq_true_iff
  | kStdFloat64 =>
      refine ⟨0 + 1, stdSettles_of_switch fun fuel _ u a b _ hsame ht hu _ _ => ?_⟩
      cases hsame
      refine decides_leaf ht.2 nofun nofun ?_
      rw [ht.2, hu.2]
      exact decides_some Iff.rfl
  | kStdLargeInt | kStdString =>
      refine ⟨0 + 1, stdSettles_of_switch fun fuel _ u a b _ hsame ht hu _ _ => ?_⟩
      cases hsame
      obtain ⟨-, s, ha, rfl⟩ := ht
      obtain ⟨-, s', hb, rfl⟩ := hu
      refine decides_leaf ha nofun nofun ?_
      rw [ha, hb]
      exact decides_some decide_eq_true_iff
  | kStdUInt8Array | kStdInt32Array | kStdInt64Array =>
      refine ⟨0 + 1, stdSettles_of_switch fun fuel _ u a b _ hsame ht hu _ _ => ?_⟩
      cases hsame
      obtain ⟨-, p, ha, hx⟩ := ht
      obtain ⟨-, q, hb, hy⟩ := hu
      refine decides_leaf ha nofun nofun ?_
      rw [ha, hb]
      exact intArray_decides hx hy
  | kStdFloat64Array =>
      refine ⟨0 + 1, stdSettles_of_switch fun fuel _ u a b _ hsame ht hu hnt _ => ?_⟩
      cases hsame
      obtain ⟨-, p, ha, hx⟩ := ht
      obtain ⟨-, q, hb, hy⟩ := hu
      refine decides_leaf ha nofun nofun ?_
      rw [ha, hb]
      refine array_decides Double.equal hx hy fun x hmem => Double.equal_refl ?_
      simp only [NoNaN, StdTree.everyNode, hasNoNaN, List.all_eq_true, decide_eq_true_eq] at hnt
      exact Bool.eq_false_iff.mpr (hnt x hmem)
  | kStdList xs ih =>
      obtain ⟨n, hn⟩ := exists_bound (StdSettles m) (fun _ _ _ => StdSettles.mono) xs ih
      refine ⟨n + 1, stdSettles_of_switch fun fuel hfuel u a b hne hsame ht hu hnt hnu => ?_⟩
      cases hsame with
      | kStdList _ ys =>
          obtain ⟨-, p, ha, hxs⟩ := ht
          obtain ⟨-, q, hb, hys⟩ := hu
          rw [stdMeetsMaps_list_iff hne ha hb, ha, hb, StdEqual, stdEqualList_iff]
          refine compareSequence_members StdEqual _ (fun i x y hi hi' => ?_) fun hpq hlen => ?_
          · have hx := List.mem_of_getElem? hi
            have hy := List.mem_of_getElem? hi'
            exact hn x hx fuel hfuel y _ _ (hxs.get hi) (hys.get hi') (noNaN_list hnt x hx)
              (noNaN_list hnu y hy)
          · obtain rfl := StdShowsList.unique (fun _ _ _ _ => StdShows.unique) hxs (hpq ▸ hys) hlen
            refine List.forall₂_same.mpr fun x hx => ?_
            obtain ⟨i, hi⟩ := List.mem_iff_getElem?.mp hx
            exact stdEqual_refl (hxs.get hi).known (noNaN_list hnt x hx)
  | kStdMap es ih =>
      obtain ⟨n, hn⟩ := exists_bound_pairs (StdSettles m) (fun _ _ _ => StdSettles.mono) es ih
      refine ⟨n + 1, stdSettles_of_switch fun fuel hfuel u a b hne hsame ht hu hnt hnu => ?_⟩
      cases hsame with
      | kStdMap _ fs =>
          obtain ⟨-, k, v, ha, hes⟩ := ht
          obtain ⟨-, k', v', hb, hfs⟩ := hu
          -- every key and every value can be compared with every other one
          have htotal : es.length = fs.length → ∀ i < es.length, ∀ j < es.length,
              (∃ r, stdvalueEquals m fuel (k + valueSize * i) (k' + valueSize * j) = some r)
                ∧ ∃ r, stdvalueEquals m fuel (v + valueSize * i) (v' + valueSize * j) = some r := by
            intro hlen i hi j hj
            have hshow := hes.get (List.getElem?_eq_getElem hi)
            have hshow' := hfs.get (List.getElem?_eq_getElem (hlen ▸ hj))
            have hnt' := noNaN_map hnt _ (List.getElem_mem hi)
            have hnu' := noNaN_map hnu _ (List.getElem_mem (hlen ▸ hj))
            obtain ⟨hkey, hvalue⟩ := hn _ (List.getElem_mem hi)
            obtain ⟨r, hr, -⟩ := hkey fuel hfuel _ _ _ hshow.1 hshow'.1 hnt'.1 hnu'.1
            obtain ⟨r', hr', -⟩ := hvalue fuel hfuel _ _ _ hshow.2 hshow'.2 hnt'.2 hnu'.2
            exact ⟨⟨r, hr⟩, ⟨r', hr'⟩⟩
          rw [stdMeetsMaps_map_iff hne ha hb, ha, hb, StdEqual]
          simp only [stdEqualEntries_iff]
          refine compareEntries_members _ (fun hlen i hi j hj => (htotal hlen i hi j hj).1)
            (fun hlen i hi j hj => (htotal hlen i hi j hj).2) fun hk hv hlen => ?_
          obtain rfl := StdShowsEntries.unique
            (fun _ _ => ⟨StdShows.unique, StdShows.unique⟩) hes (hk ▸ hv ▸ hfs) hlen
          refine List.forall₂_same.mpr fun e he => ?_
          obtain ⟨i, hi⟩ := List.mem_iff_getElem?.mp he
          have hnum := noNaN_map hnt e he
          exact ⟨stdEqual_refl (hes.get hi).1.known hnum.1, stdEqual_refl (hes.get hi).2.known hnum.2⟩

end Std

end FlutterWlroots.PlatformChannel
