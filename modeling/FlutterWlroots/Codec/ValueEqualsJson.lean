/-
  FlutterWlroots.Codec.ValueEqualsJson — what `jsvalue_equals` decides, and both functions together.

  Only the keys of an object are not values.  The functions are right about all trees that are not
  equal, and about equal ones as long as they do not come to two objects or maps with entries that
  are stored twice (`equals_decide_iff`).
-/
import FlutterWlroots.Codec.ValueEqualsStd

namespace FlutterWlroots.PlatformChannel

open Lib FlutterWlroots.Codec

/-! ## §1. Trees. -/

mutual
/-- The memory shows the tree at the address. -/
def JsonShows (m : Memory) : JsonValue → Addr → Prop
  | .kJsonNull, p => p ≠ 0 ∧ m.jsonValue p = .kJsonNull
  | .kJsonTrue, p => p ≠ 0 ∧ m.jsonValue p = .kJsonTrue
  | .kJsonFalse, p => p ≠ 0 ∧ m.jsonValue p = .kJsonFalse
  | .kJsonNumber x, p => p ≠ 0 ∧ m.jsonValue p = .kJsonNumber x
  | .kJsonString s, p => p ≠ 0 ∧ ∃ q, m.jsonValue p = .kJsonString q ∧ m.string q = s
  | .kJsonArray vs, p => p ≠ 0 ∧ ∃ q, m.jsonValue p = .kJsonArray vs.length q ∧ JsonShowsList m vs q
  | .kJsonObject es, p => p ≠ 0 ∧ ∃ k v, m.jsonValue p = .kJsonObject es.length k v
      ∧ JsonShowsEntries m es k v
def JsonShowsList (m : Memory) : List JsonValue → Addr → Prop
  | [], _ => True
  | x :: xs, q => JsonShows m x q ∧ JsonShowsList m xs (q + valueSize)
def JsonShowsEntries (m : Memory) : List (CString × JsonValue) → Addr → Addr → Prop
  | [], _, _ => True
  | (key, x) :: es, k, v => m.string (m.pointer k) = key ∧ JsonShows m x v
      ∧ JsonShowsEntries m es (k + 8) (v + valueSize)
end

mutual
/-- Equality of values: the entries of an object may come in any order. -/
def JsonEqual : JsonValue → JsonValue → Prop
  | .kJsonNull, .kJsonNull | .kJsonTrue, .kJsonTrue | .kJsonFalse, .kJsonFalse => True
  | .kJsonNumber x, .kJsonNumber y => Double.equal x y = true
  | .kJsonString s, .kJsonString s' => s = s'
  | .kJsonArray xs, .kJsonArray ys => JsonEqualList xs ys
  | .kJsonObject es, .kJsonObject fs => ∃ fs', fs.Perm fs' ∧ JsonEqualEntries es fs'
  | _, _ => False
def JsonEqualList : List JsonValue → List JsonValue → Prop
  | [], [] => True
  | x :: xs, y :: ys => JsonEqual x y ∧ JsonEqualList xs ys
  | _, _ => False
def JsonEqualEntries : List (CString × JsonValue) → List (CString × JsonValue) → Prop
  | [], [] => True
  | (k, v) :: es, (k', v') :: fs => k = k' ∧ JsonEqual v v' ∧ JsonEqualEntries es fs
  | _, _ => False
end

/-- Two values of one type. -/
inductive JsonSameType : JsonValue → JsonValue → Prop
  | kJsonNull : JsonSameType .kJsonNull .kJsonNull
  | kJsonTrue : JsonSameType .kJsonTrue .kJsonTrue
  | kJsonFalse : JsonSameType .kJsonFalse .kJsonFalse
  | kJsonNumber (x y) : JsonSameType (.kJsonNumber x) (.kJsonNumber y)
  | kJsonString (s s') : JsonSameType (.kJsonString s) (.kJsonString s')
  | kJsonArray (xs ys) : JsonSameType (.kJsonArray xs) (.kJsonArray ys)
  | kJsonObject (es fs) : JsonSameType (.kJsonObject es) (.kJsonObject fs)

mutual
/-- No number of the tree is a NaN. -/
def JsonNoNaN : JsonValue → Prop
  | .kJsonNumber x => Double.isNaN x = false
  | .kJsonArray xs => JsonNoNaNList xs
  | .kJsonObject es => JsonNoNaNEntries es
  | _ => True
def JsonNoNaNList : List JsonValue → Prop
  | [] => True
  | x :: xs => JsonNoNaN x ∧ JsonNoNaNList xs
def JsonNoNaNEntries : List (CString × JsonValue) → Prop
  | [] => True
  | (_, x) :: es => JsonNoNaN x ∧ JsonNoNaNEntries es
end

/-- Two objects with entries that are not the same object lie at the same place of the two trees, or
    are the two trees; they are reached through arrays that are not shared. -/
inductive JsonMeetsObjects (m : Memory) : Addr → Addr → Prop
  | object {a b n k v k' v' : Nat} : a ≠ b → m.jsonValue a = .kJsonObject (n + 1) k v →
      m.jsonValue b = .kJsonObject (n + 1) k' v' → ¬ (k = k' ∧ v = v') → JsonMeetsObjects m a b
  | array {a b n p q i : Nat} : a ≠ b → m.jsonValue a = .kJsonArray n p →
      m.jsonValue b = .kJsonArray n q → p ≠ q → i < n →
      JsonMeetsObjects m (p + valueSize * i) (q + valueSize * i) → JsonMeetsObjects m a b

theorem jsonNoNaNList_iff : ∀ {xs : List JsonValue}, JsonNoNaNList xs ↔ ∀ x ∈ xs, JsonNoNaN x
  | [] => iff_of_true trivial fun _ h => absurd h List.not_mem_nil
  | x :: xs => by rw [JsonNoNaNList, jsonNoNaNList_iff, List.forall_mem_cons]

theorem jsonNoNaNEntries_iff : ∀ {es : List (CString × JsonValue)},
    JsonNoNaNEntries es ↔ ∀ e ∈ es, JsonNoNaN e.2
  | [] => iff_of_true trivial fun _ h => absurd h List.not_mem_nil
  | (_, x) :: es => by rw [JsonNoNaNEntries, jsonNoNaNEntries_iff, List.forall_mem_cons]

theorem jsonEqualList_iff : ∀ {xs ys : List JsonValue}, JsonEqualList xs ys ↔ xs.Forall₂ JsonEqual ys
  | [], [] => iff_of_true trivial .nil
  | [], _ :: _ => iff_of_false id nofun
  | _ :: _, [] => iff_of_false id nofun
  | x :: xs, y :: ys => by rw [JsonEqualList, List.forall₂_cons, jsonEqualList_iff]

theorem jsonEqualEntries_iff : ∀ {es fs : List (CString × JsonValue)},
    JsonEqualEntries es fs ↔ es.Forall₂ (fun e f => e.1 = f.1 ∧ JsonEqual e.2 f.2) fs
  | [], [] => iff_of_true trivial .nil
  | [], _ :: _ => iff_of_false id nofun
  | _ :: _, [] => iff_of_false id nofun
  | (k, v) :: es, (k', v') :: fs => by
      rw [JsonEqualEntries, List.forall₂_cons, jsonEqualEntries_iff, and_assoc]

/-- A tree without NaNs is equal to itself. -/
theorem jsonEqual_refl {t : JsonValue} (h : JsonNoNaN t) : JsonEqual t t := by
  induction t with
  | kJsonNull | kJsonTrue | kJsonFalse => trivial
  | kJsonNumber x => exact Double.equal_refl h
  | kJsonString s => rfl
  | kJsonArray xs ih =>
      exact jsonEqualList_iff.mpr (List.forall₂_same.mpr fun x hx => ih x hx (jsonNoNaNList_iff.mp h x hx))
  | kJsonObject es ih =>
      refine ⟨es, List.Perm.refl es, jsonEqualEntries_iff.mpr (List.forall₂_same.mpr fun e he => ?_)⟩
      exact ⟨rfl, ih e he (jsonNoNaNEntries_iff.mp h e he)⟩

/-! ## §2. What a memory shows. -/

section Shows

variable {m : Memory} {t u : JsonValue} {p q : Addr}

theorem JsonShowsList.get : ∀ {xs : List JsonValue} {q i : Nat} {x : JsonValue}, JsonShowsList m xs q →
    xs[i]? = some x → JsonShows m x (q + valueSize * i)
  | [], _, _, _, _, hi => absurd hi (by simp)
  | x :: xs, q, 0, x', h, hi => by
      rw [List.getElem?_cons_zero, Option.some.injEq] at hi
      exact hi ▸ h.1
  | x :: xs, q, i + 1, x', h, hi => by
      have hrest := JsonShowsList.get h.2 (List.getElem?_cons_succ ▸ hi)
      rwa [Nat.add_assoc, Nat.add_comm valueSize, ← Nat.mul_succ] at hrest

theorem JsonShowsEntries.get : ∀ {es : List (CString × JsonValue)} {k v i : Nat}
    {e : CString × JsonValue}, JsonShowsEntries m es k v → es[i]? = some e →
      m.string (m.pointer (k + 8 * i)) = e.1 ∧ JsonShows m e.2 (v + valueSize * i)
  | [], _, _, _, _, _, hi => absurd hi (by simp)
  | (key, x) :: es, k, v, 0, e, h, hi => by
      rw [List.getElem?_cons_zero, Option.some.injEq] at hi
      exact hi ▸ ⟨h.1, h.2.1⟩
  | (key, x) :: es, k, v, i + 1, e, h, hi => by
      have hrest := JsonShowsEntries.get h.2.2 (List.getElem?_cons_succ ▸ hi)
      rwa [Nat.add_assoc, Nat.add_comm 8, Nat.add_assoc v, Nat.add_comm valueSize,
        ← Nat.mul_succ, ← Nat.mul_succ] at hrest

theorem JsonShows.ne_zero (h : JsonShows m t p) : p ≠ 0 := by
  cases t
  all_goals exact h.1

/-- The number of the type of a value. -/
def jsonType : JsonValue → Nat
  | .kJsonNull => 0
  | .kJsonTrue => 1
  | .kJsonFalse => 2
  | .kJsonNumber _ => 3
  | .kJsonString _ => 4
  | .kJsonArray _ => 5
  | .kJsonObject _ => 6

theorem JsonShows.type_eq (h : JsonShows m t p) : (m.jsonValue p).type = jsonType t := by
  cases t
  case kJsonNull | kJsonTrue | kJsonFalse | kJsonNumber =>
    rw [h.2]
    rfl
  case kJsonObject es =>
    obtain ⟨-, k, v, hnode, -⟩ := h
    rw [hnode]
    rfl
  all_goals
    obtain ⟨-, q, hnode, -⟩ := h
    rw [hnode]
    rfl

theorem JsonShows.sameType (ht : JsonShows m t p) (hu : JsonShows m u q)
    (h : (m.jsonValue p).type = (m.jsonValue q).type) : JsonSameType t u := by
  rw [ht.type_eq, hu.type_eq] at h
  cases t <;> cases u <;> first
    | constructor
    | exact absurd h (by simp [jsonType])

/-- Values of different types are not equal. -/
theorem JsonEqual.sameType (h : JsonEqual t u) : JsonSameType t u := by
  cases t <;> cases u <;> first
    | constructor
    | exact h.elim

theorem JsonShowsList.unique : ∀ {xs ys : List JsonValue} {q : Nat},
    (∀ x ∈ xs, ∀ {y p}, JsonShows m x p → JsonShows m y p → x = y) →
      JsonShowsList m xs q → JsonShowsList m ys q → xs.length = ys.length → xs = ys
  | [], [], _, _, _, _, _ => rfl
  | [], _ :: _, _, _, _, _, hlen => absurd hlen (by simp)
  | _ :: _, [], _, _, _, _, hlen => absurd hlen (by simp)
  | x :: xs, y :: ys, q, hx, h, h', hlen => by
      obtain ⟨hhead, htail⟩ := List.forall_mem_cons.mp hx
      rw [hhead h.1 h'.1, JsonShowsList.unique htail h.2 h'.2 (Nat.succ.inj hlen)]

theorem JsonShowsEntries.unique : ∀ {es fs : List (CString × JsonValue)} {k v : Nat},
    (∀ e ∈ es, ∀ {y p}, JsonShows m e.2 p → JsonShows m y p → e.2 = y) →
      JsonShowsEntries m es k v → JsonShowsEntries m fs k v → es.length = fs.length → es = fs
  | [], [], _, _, _, _, _, _ => rfl
  | [], _ :: _, _, _, _, _, _, hlen => absurd hlen (by simp)
  | _ :: _, [], _, _, _, _, _, hlen => absurd hlen (by simp)
  | (key, x) :: es, (key', x') :: fs, k, v, he, h, h', hlen => by
      obtain ⟨hx, htail⟩ := List.forall_mem_cons.mp he
      have hk : key = key' := h.1.symm.trans h'.1
      have hv : x = x' := hx h.2.1 h'.2.1
      rw [hk, hv, JsonShowsEntries.unique htail h.2.2 h'.2.2 (Nat.succ.inj hlen)]

/-- A memory shows one tree at an address. -/
theorem JsonShows.unique (ht : JsonShows m t p) (hu : JsonShows m u p) : t = u := by
  induction t generalizing u p with
  | kJsonNull | kJsonTrue | kJsonFalse =>
      cases ht.sameType hu rfl
      rfl
  | kJsonNumber =>
      cases ht.sameType hu rfl
      cases ht.2.symm.trans hu.2
      rfl
  | kJsonString =>
      cases ht.sameType hu rfl
      obtain ⟨-, q, hnode, rfl⟩ := ht
      obtain ⟨-, q', hnode', rfl⟩ := hu
      cases hnode.symm.trans hnode'
      rfl
  | kJsonArray xs ih =>
      cases ht.sameType hu rfl with
      | kJsonArray _ ys =>
          obtain ⟨-, q, hnode, hxs⟩ := ht
          obtain ⟨-, q', hnode', hys⟩ := hu
          obtain ⟨hlen, rfl⟩ := JsonNode.kJsonArray.inj (hnode.symm.trans hnode')
          rw [JsonShowsList.unique (fun x hx _ _ => ih x hx) hxs hys hlen]
  | kJsonObject es ih =>
      cases ht.sameType hu rfl with
      | kJsonObject _ fs =>
          obtain ⟨-, k, v, hnode, hes⟩ := ht
          obtain ⟨-, k', v', hnode', hfs⟩ := hu
          obtain ⟨hlen, rfl, rfl⟩ := JsonNode.kJsonObject.inj (hnode.symm.trans hnode')
          rw [JsonShowsEntries.unique (fun e he _ _ => ih e he) hes hfs hlen]

end Shows

/-! ## §3. `jsvalue_equals`. -/

section Json

variable {m : Memory} {a b n n' : Nat} {p q k v k' v' : Addr} {t u : JsonValue}

theorem not_jsonMeetsObjects (harray : ∀ n p, m.jsonValue a ≠ .kJsonArray n p)
    (hobject : ∀ n k v, m.jsonValue a ≠ .kJsonObject n k v) : ¬ JsonMeetsObjects m a b := by
  rintro (⟨-, hnode, -, -⟩ | ⟨-, hnode, -, -, -, -⟩)
  · exact hobject _ _ _ hnode
  · exact harray _ _ hnode

theorem jsonMeetsObjects_self : ¬ JsonMeetsObjects m a a := by
  rintro (⟨hne, -, -, -⟩ | ⟨hne, -, -, -, -, -⟩) <;> exact hne rfl

theorem jsonMeetsObjects_array_iff (hne : a ≠ b) (ha : m.jsonValue a = .kJsonArray n p)
    (hb : m.jsonValue b = .kJsonArray n' q) : JsonMeetsObjects m a b ↔
      p ≠ q ∧ n = n' ∧ ∃ i < n, JsonMeetsObjects m (p + valueSize * i) (q + valueSize * i) := by
  constructor
  · rintro (⟨-, ha', -, -⟩ | ⟨-, ha', hb', hpq, hi, hmeets⟩)
    · cases ha.symm.trans ha'
    · cases ha.symm.trans ha'
      cases hb.symm.trans hb'
      exact ⟨hpq, rfl, _, hi, hmeets⟩
  · rintro ⟨hpq, rfl, i, hi, hmeets⟩
    exact .array hne ha hb hpq hi hmeets

theorem jsonMeetsObjects_object_iff (hne : a ≠ b) (ha : m.jsonValue a = .kJsonObject n k v)
    (hb : m.jsonValue b = .kJsonObject n' k' v') : JsonMeetsObjects m a b ↔
      ¬ (k = k' ∧ v = v') ∧ n = n' ∧ 0 < n := by
  constructor
  · rintro (⟨-, ha', hb', hother⟩ | ⟨-, ha', -, -, -, -⟩)
    · cases ha.symm.trans ha'
      cases hb.symm.trans hb'
      exact ⟨hother, rfl, Nat.succ_pos _⟩
    · cases ha.symm.trans ha'
  · rintro ⟨hother, rfl, hpos⟩
    obtain ⟨n, rfl⟩ := Nat.exists_eq_succ_of_ne_zero hpos.ne'
    exact .object hne ha hb hother

/-- From `n` on the fuel is enough for the tree, whatever it is compared with. -/
def JsonSettles (m : Memory) (t : JsonValue) (n : Nat) : Prop :=
  ∀ fuel, n ≤ fuel → ∀ u a b, JsonShows m t a → JsonShows m u b → JsonNoNaN t → JsonNoNaN u →
    Decides (jsvalueEquals m fuel a b) (JsonEqual t u ∧ ¬ JsonMeetsObjects m a b)

theorem JsonSettles.mono (h : JsonSettles m t n) (hle : n ≤ n') : JsonSettles m t n' :=
  fun fuel hfuel => h fuel (hle.trans hfuel)

/-- **The pointers and the types**: what is left is the switch, for two values of one type. -/
theorem jsonSettles_of_switch (h : ∀ fuel, n ≤ fuel → ∀ u a b, a ≠ b → JsonSameType t u →
    JsonShows m t a → JsonShows m u b → JsonNoNaN t → JsonNoNaN u →
    Decides (jsonSwitch m (jsvalueEquals m fuel) (m.jsonValue a) (m.jsonValue b))
      (JsonEqual t u ∧ ¬ JsonMeetsObjects m a b)) : JsonSettles m t (n + 1) := by
  intro fuel hfuel u a b ht hu hnt hnu
  obtain ⟨fuel, rfl⟩ : ∃ fuel', fuel = fuel' + 1 := ⟨fuel - 1, by omega⟩
  refine comparePointers_decides ht.ne_zero hu.ne_zero ?_ ?_ ?_
  · rintro rfl
    obtain rfl := ht.unique hu
    exact ⟨jsonEqual_refl hnt, jsonMeetsObjects_self⟩
  · rintro htype ⟨heq, -⟩
    rw [ht.type_eq, hu.type_eq] at htype
    cases heq.sameType <;> exact htype rfl
  · intro hne htype
    exact h fuel (Nat.le_of_succ_le_succ hfuel) u a b hne (ht.sameType hu htype) ht hu hnt hnu

/-- Where no array or object is compared, equality is all there is. -/
theorem decides_jsonLeaf {x : Option Bool} {E : Prop} {node : JsonNode} (ha : m.jsonValue a = node)
    (harray : ∀ n p, node ≠ .kJsonArray n p) (hobject : ∀ n k v, node ≠ .kJsonObject n k v)
    (h : Decides x E) : Decides x (E ∧ ¬ JsonMeetsObjects m a b) := by
  refine h.congr (and_iff_left (not_jsonMeetsObjects ?_ ?_)).symm
  · exact fun n p hnode => harray n p (ha.symm.trans hnode)
  · exact fun n k v hnode => hobject n k v (ha.symm.trans hnode)

/-- **What `jsvalue_equals` decides**: the trees are equal, and no objects get in the way. -/
theorem exists_jsonSettles (m : Memory) (t : JsonValue) : ∃ n, JsonSettles m t n := by
  induction t with
  | kJsonNull | kJsonTrue | kJsonFalse =>
      refine ⟨0 + 1, jsonSettles_of_switch fun fuel _ u a b _ hsame ht hu _ _ => ?_⟩
      cases hsame
      refine decides_jsonLeaf ht.2 nofun nofun ?_
      rw [ht.2, hu.2]
      exact decides_true trivial
  | kJsonNumber =>
      refine ⟨0 + 1, jsonSettles_of_switch fun fuel _ u a b _ hsame ht hu _ _ => ?_⟩
      cases hsame
      refine decides_jsonLeaf ht.2 nofun nofun ?_
      rw [ht.2, hu.2]
      exact decides_some Iff.rfl
  | kJsonString =>
      refine ⟨0 + 1, jsonSettles_of_switch fun fuel _ u a b _ hsame ht hu _ _ => ?_⟩
      cases hsame
      obtain ⟨-, s, ha, rfl⟩ := ht
      obtain ⟨-, s', hb, rfl⟩ := hu
      refine decides_jsonLeaf ha nofun nofun ?_
      rw [ha, hb]
      exact decides_some decide_eq_true_iff
  | kJsonArray xs ih =>
      obtain ⟨n, hn⟩ := exists_bound (JsonSettles m) (fun _ _ _ => JsonSettles.mono) xs ih
      refine ⟨n + 1, jsonSettles_of_switch fun fuel hfuel u a b hne hsame ht hu hnt hnu => ?_⟩
      cases hsame with
      | kJsonArray _ ys =>
          obtain ⟨-, p, ha, hxs⟩ := ht
          obtain ⟨-, q, hb, hys⟩ := hu
          rw [JsonNoNaN, jsonNoNaNList_iff] at hnt hnu
          rw [jsonMeetsObjects_array_iff hne ha hb, ha, hb, JsonEqual, jsonEqualList_iff]
          refine compareSequence_members JsonEqual _ (fun i x y hi hi' => ?_) fun hpq hlen => ?_
          · have hx := List.mem_of_getElem? hi
            have hy := List.mem_of_getElem? hi'
            exact hn x hx fuel hfuel y _ _ (hxs.get hi) (hys.get hi') (hnt x hx) (hnu y hy)
          · obtain rfl := JsonShowsList.unique (fun _ _ _ _ => JsonShows.unique) hxs (hpq ▸ hys) hlen
            exact List.forall₂_same.mpr fun x hx => jsonEqual_refl (hnt x hx)
  | kJsonObject es ih =>
      obtain ⟨n, hn⟩ := exists_bound (fun (e : CString × JsonValue) n => JsonSettles m e.2 n)
        (fun _ _ _ => JsonSettles.mono) es ih
      refine ⟨n + 1, jsonSettles_of_switch fun fuel hfuel u a b hne hsame ht hu hnt hnu => ?_⟩
      cases hsame with
      | kJsonObject _ fs =>
          obtain ⟨-, k, v, ha, hes⟩ := ht
          obtain ⟨-, k', v', hb, hfs⟩ := hu
          rw [JsonNoNaN, jsonNoNaNEntries_iff] at hnt hnu
          have htotal : es.length = fs.length → ∀ i < es.length, ∀ j < es.length,
              ∃ r, jsvalueEquals m fuel (v + valueSize * i) (v' + valueSize * j) = some r := by
            intro hlen i hi j hj
            have hshow := hes.get (List.getElem?_eq_getElem hi)
            have hshow' := hfs.get (List.getElem?_eq_getElem (hlen ▸ hj))
            obtain ⟨r, hr, -⟩ := hn _ (List.getElem_mem hi) fuel hfuel _ _ _ hshow.2 hshow'.2
              (hnt _ (List.getElem_mem hi)) (hnu _ (List.getElem_mem (hlen ▸ hj)))
            exact ⟨r, hr⟩
          rw [jsonMeetsObjects_object_iff hne ha hb, ha, hb, JsonEqual]
          simp only [jsonEqualEntries_iff]
          refine compareEntries_members _ (fun _ i _ j _ => ⟨_, rfl⟩) htotal fun hk hv hlen => ?_
          obtain rfl := JsonShowsEntries.unique (fun _ _ _ _ => JsonShows.unique) hes
            (hk ▸ hv ▸ hfs) hlen
          exact List.forall₂_same.mpr fun e he => ⟨rfl, jsonEqual_refl (hnt e he)⟩

end Json

/-! ## §4. Both functions. -/

/-- Where a function decides one thing from some fuel on, it has one result. -/
theorem exists_result {f : Nat → Option Bool} {E M : Prop} {n : Nat}
    (h : ∀ fuel, n ≤ fuel → Decides (f fuel) (E ∧ ¬ M)) :
    ∃ n r, (∀ fuel, n ≤ fuel → f fuel = some r) ∧ ((r = true ↔ E) ↔ (E → ¬ M)) := by
  obtain ⟨r, -, hr⟩ := h n (Nat.le_refl n)
  refine ⟨n, r, fun fuel hfuel => ?_, ?_⟩
  · obtain ⟨r', hr', hiff⟩ := h fuel hfuel
    rw [hr', Bool.eq_iff_iff.mpr (hiff.trans hr.symm)]
  · rw [hr]
    constructor
    · exact fun hiff hE => (hiff.mpr hE).2
    · exact fun hgood => ⟨And.left, fun hE => ⟨hE, hgood hE⟩⟩

/-- **`stdvalue_equals` and `jsvalue_equals`**, for trees without NaNs: the answer is right if and only
    if the trees are different, or no maps (objects) with entries are met that are stored twice. -/
theorem equals_decide_iff (m : Memory) (a b : Addr) :
    (∀ t u : StdValue, StdShows m t a → StdShows m u b → NoNaN t → NoNaN u →
      ∃ n r, (∀ fuel, n ≤ fuel → stdvalueEquals m fuel a b = some r)
        ∧ ((r = true ↔ StdEqual t u) ↔ (StdEqual t u → ¬ StdMeetsMaps m a b)))
    ∧ (∀ t u : JsonValue, JsonShows m t a → JsonShows m u b → JsonNoNaN t → JsonNoNaN u →
      ∃ n r, (∀ fuel, n ≤ fuel → jsvalueEquals m fuel a b = some r)
        ∧ ((r = true ↔ JsonEqual t u) ↔ (JsonEqual t u → ¬ JsonMeetsObjects m a b))) := by
  constructor
  · intro t u ht hu hnt hnu
    obtain ⟨n, hn⟩ := exists_stdSettles m t
    exact exists_result fun fuel hfuel => hn fuel hfuel u a b ht hu hnt hnu
  · intro t u ht hu hnt hnu
    obtain ⟨n, hn⟩ := exists_jsonSettles m t
    exact exists_result fun fuel hfuel => hn fuel hfuel u a b ht hu hnt hnu

/-- Two lists of two values, at 100 and at 132. -/
def listsTwice : Memory where
  stdValue p :=
    if p = 100 then .kStdList 2 200 else if p = 132 then .kStdList 2 300 else .kStdInt32 7
  jsonValue p :=
    if p = 100 then .kJsonArray 2 200 else if p = 132 then .kJsonArray 2 300 else .kJsonTrue
  pointer _ := 0
  string _ := CString.ofLiteral ""
  uint8 _ := 0
  int32 _ := 0
  int64 _ := 0
  float64 _ := 0

theorem equals_decide_iff_lists :
    (∃ n r, (∀ fuel, n ≤ fuel → stdvalueEquals listsTwice fuel 100 132 = some r)
      ∧ ((r = true ↔ StdEqual (.kStdList [.kStdInt32 7, .kStdInt32 7])
            (.kStdList [.kStdInt32 7, .kStdInt32 7]))
        ↔ (StdEqual (.kStdList [.kStdInt32 7, .kStdInt32 7]) (.kStdList [.kStdInt32 7, .kStdInt32 7])
          → ¬ StdMeetsMaps listsTwice 100 132)))
    ∧ ∃ n r, (∀ fuel, n ≤ fuel → jsvalueEquals listsTwice fuel 100 132 = some r)
      ∧ ((r = true ↔ JsonEqual (.kJsonArray [.kJsonTrue, .kJsonTrue])
            (.kJsonArray [.kJsonTrue, .kJsonTrue]))
        ↔ (JsonEqual (.kJsonArray [.kJsonTrue, .kJsonTrue]) (.kJsonArray [.kJsonTrue, .kJsonTrue])
          → ¬ JsonMeetsObjects listsTwice 100 132)) := by
  constructor
  · refine (equals_decide_iff listsTwice 100 132).1 _ _ ?_ ?_ rfl rfl
    · exact ⟨by decide, 200, rfl, ⟨by decide, rfl⟩, ⟨by decide, rfl⟩, trivial⟩
    · exact ⟨by decide, 300, rfl, ⟨by decide, rfl⟩, ⟨by decide, rfl⟩, trivial⟩
  · refine (equals_decide_iff listsTwice 100 132).2 _ _ ?_ ?_ ⟨trivial, trivial, trivial⟩
      ⟨trivial, trivial, trivial⟩
    · exact ⟨by decide, 200, rfl, ⟨by decide, rfl⟩, ⟨by decide, rfl⟩, trivial⟩
    · exact ⟨by decide, 300, rfl, ⟨by decide, rfl⟩, ⟨by decide, rfl⟩, trivial⟩

/-- A map (an object) with one entry, at 100 and once more at 132. -/
def entryTwice : Memory where
  stdValue p :=
    if p = 100 then .kStdMap 1 200 300 else if p = 132 then .kStdMap 1 400 500 else .kStdInt32 7
  jsonValue p :=
    if p = 100 then .kJsonObject 1 200 300 else if p = 132 then .kJsonObject 1 400 500 else .kJsonTrue
  pointer _ := 600
  string _ := CString.ofLiteral "a"
  uint8 _ := 0
  int32 _ := 0
  int64 _ := 0
  float64 _ := 0

/-- Equal trees without NaNs whose maps have one key each, and still the answer is no. -/
theorem equal_entries_not_found :
    (∃ t u, StdShows entryTwice t 100 ∧ StdShows entryTwice u 132 ∧ NoNaN t ∧ NoNaN u ∧ StdEqual t u
      ∧ ∀ fuel, stdvalueEquals entryTwice (fuel + 2) 100 132 = some false)
    ∧ ∃ t u, JsonShows entryTwice t 100 ∧ JsonShows entryTwice u 132 ∧ JsonNoNaN t ∧ JsonNoNaN u
      ∧ JsonEqual t u ∧ ∀ fuel, jsvalueEquals entryTwice (fuel + 2) 100 132 = some false := by
  constructor
  · refine ⟨.kStdMap [(.kStdInt32 7, .kStdInt32 7)], .kStdMap [(.kStdInt32 7, .kStdInt32 7)],
      ?_, ?_, rfl, rfl, ⟨_, List.Perm.refl _, rfl, rfl, trivial⟩, fun fuel => rfl⟩
    · exact ⟨by decide, 200, 300, rfl, ⟨by decide, rfl⟩, ⟨by decide, rfl⟩, trivial⟩
    · exact ⟨by decide, 400, 500, rfl, ⟨by decide, rfl⟩, ⟨by decide, rfl⟩, trivial⟩
  · refine ⟨.kJsonObject [(CString.ofLiteral "a", .kJsonTrue)],
      .kJsonObject [(CString.ofLiteral "a", .kJsonTrue)], ?_, ?_, ⟨trivial, trivial⟩,
      ⟨trivial, trivial⟩, ⟨_, List.Perm.refl _, rfl, trivial, trivial⟩, fun fuel => rfl⟩
    · exact ⟨by decide, 200, 300, rfl, rfl, ⟨by decide, rfl⟩, trivial⟩
    · exact ⟨by decide, 400, 500, rfl, rfl, ⟨by decide, rfl⟩, trivial⟩

end FlutterWlroots.PlatformChannel
