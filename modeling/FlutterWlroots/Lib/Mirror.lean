/-
  FlutterWlroots.Lib.Mirror — a table of entries that mirrors members.

  Members have keys, and some of them are shown; the table is to have an entry for each member that
  is shown, under its key.  An entry says something about its member (`R`).  The table is only told
  of single changes, by key, and stays faithful as long as a new member gets a key that no other has:

    • `Faithful.enter`    — a member that comes with a key not in use,
    • `Faithful.publish`  — an entry for a member, `Faithful.withdraw` — an entry taken back,
    • `Faithful.revise`   — an entry changed,
    • `Faithful.leave`    — a member that goes, when it is not shown,
    • `Faithful.relation` — what the table says of a member.
-/
import Mathlib.Logic.Function.Basic

namespace Lib

/-- Members with keys, and the table. -/
structure Mirror (Member Key Entry : Type) where
  keyOf : Member → Option Key
  shown : Member → Bool
  table : Key → Option Entry

namespace Mirror

variable {Member Key Entry : Type} [DecidableEq Member] [DecidableEq Key]

/-! ## §1. Changes. -/

section Changes

variable (m : Mirror Member Key Entry)

/-- A new member, not shown. -/
def enter (p : Member) (k : Key) : Mirror Member Key Entry where
  keyOf := Function.update m.keyOf p (some k)
  shown := Function.update m.shown p false
  table := m.table

/-- A member shown, with its entry. -/
def publish (p : Member) (k : Key) (e : Entry) : Mirror Member Key Entry where
  keyOf := m.keyOf
  shown := Function.update m.shown p true
  table := Function.update m.table k (some e)

/-- A member no longer shown, nor its entry. -/
def withdraw (p : Member) (k : Key) : Mirror Member Key Entry where
  keyOf := m.keyOf
  shown := Function.update m.shown p false
  table := Function.update m.table k none

/-- An entry changed, if there is one. -/
def revise (k : Key) (f : Entry → Entry) : Mirror Member Key Entry :=
  { m with table := Function.update m.table k ((m.table k).map f) }

/-- A member gone. -/
def leave (p : Member) : Mirror Member Key Entry :=
  { m with keyOf := Function.update m.keyOf p none }

end Changes

/-! ## §2. The invariant. -/

variable {m : Mirror Member Key Entry} {R R' : Member → Entry → Prop} {p q : Member} {k : Key}
  {e : Entry}

/-- No two members have one key, the entries belong to members that are shown and say `R` of them,
    and every member that is shown has its entry. -/
structure Faithful (m : Mirror Member Key Entry) (R : Member → Entry → Prop) : Prop where
  distinct : ∀ p q k, m.keyOf p = some k → m.keyOf q = some k → p = q
  owned : ∀ k e, m.table k = some e → ∃ p, m.keyOf p = some k ∧ m.shown p = true ∧ R p e
  present : ∀ p k, m.keyOf p = some k → m.shown p = true → ∃ e, m.table k = some e

namespace Faithful

variable (h : m.Faithful R)

include h

omit [DecidableEq Member] [DecidableEq Key] in
/-- **What the table says of a member.** -/
theorem relation (hk : m.keyOf p = some k) (he : m.table k = some e) : R p e := by
  obtain ⟨q, hq, -, hR⟩ := h.owned k e he
  obtain rfl : q = p := h.distinct q p k hq hk
  exact hR

omit [DecidableEq Member] [DecidableEq Key] in
theorem ne_key {k' : Key} (hp : m.keyOf p = some k) (hq : m.keyOf q = some k') (hne : q ≠ p) :
    k' ≠ k := fun heq => hne (h.distinct q p k (heq ▸ hq) hp)

omit h [DecidableEq Member] [DecidableEq Key] in
theorem ne_of_key {k' : Key} (hp : m.keyOf p = some k) (hq : m.keyOf q = some k') (hk : k' ≠ k) :
    q ≠ p := by
  rintro rfl
  exact hk (Option.some.inj (hq.symm.trans hp))

omit h [DecidableEq Key] in
/-- Who is still shown when one member is not, is another one. -/
theorem shown_of_hidden (hshown : Function.update m.shown p false q = true) :
    q ≠ p ∧ m.shown q = true := by
  have hqp : q ≠ p := by
    rintro rfl
    rw [Function.update_self] at hshown
    cases hshown
  rw [Function.update_of_ne hqp] at hshown
  exact ⟨hqp, hshown⟩

omit [DecidableEq Member] [DecidableEq Key] in
/-- Only what is said of members that are shown matters. -/
theorem mono_shown (hR : ∀ q e, m.shown q = true → R q e → R' q e) : m.Faithful R' where
  distinct := h.distinct
  owned k e he := by
    obtain ⟨q, hq, hshown, hqe⟩ := h.owned k e he
    exact ⟨q, hq, hshown, hR q e hshown hqe⟩
  present := h.present

omit [DecidableEq Member] [DecidableEq Key] in
theorem mono (hR : ∀ q e, R q e → R' q e) : m.Faithful R' := h.mono_shown fun q e _ => hR q e

omit [DecidableEq Key] in
theorem enter (hnew : m.keyOf p = none) (hunused : ∀ q, m.keyOf q ≠ some k)
    (hR : ∀ q e, q ≠ p → R q e → R' q e) : (m.enter p k).Faithful R' where
  distinct q r k' hq hr := by
    have hq' : Function.update m.keyOf p (some k) q = some k' := hq
    have hr' : Function.update m.keyOf p (some k) r = some k' := hr
    by_cases hqp : q = p
    · by_cases hrp : r = p
      · rw [hqp, hrp]
      · rw [hqp, Function.update_self] at hq'
        cases hq'
        rw [Function.update_of_ne hrp] at hr'
        exact absurd hr' (hunused r)
    · rw [Function.update_of_ne hqp] at hq'
      by_cases hrp : r = p
      · rw [hrp, Function.update_self] at hr'
        cases hr'
        exact absurd hq' (hunused q)
      · rw [Function.update_of_ne hrp] at hr'
        exact h.distinct q r k' hq' hr'
  owned k' e he := by
    obtain ⟨q, hq, hshown, hqe⟩ := h.owned k' e he
    have hqp : q ≠ p := by
      rintro rfl
      rw [hnew] at hq
      cases hq
    refine ⟨q, ?_, ?_, hR q e hqp hqe⟩
    · show Function.update m.keyOf p (some k) q = some k'
      rwa [Function.update_of_ne hqp]
    · show Function.update m.shown p false q = true
      rwa [Function.update_of_ne hqp]
  present q k' hq hshown := by
    obtain ⟨hqp, hshown'⟩ := shown_of_hidden (m := m) hshown
    have hq' : Function.update m.keyOf p (some k) q = some k' := hq
    rw [Function.update_of_ne hqp] at hq'
    exact h.present q k' hq' hshown'

theorem publish (hp : m.keyOf p = some k) (he : R' p e) (hR : ∀ q e, q ≠ p → R q e → R' q e) :
    (m.publish p k e).Faithful R' where
  distinct := h.distinct
  owned k' e' he' := by
    have he'' : Function.update m.table k (some e) k' = some e' := he'
    by_cases hk : k' = k
    · subst hk
      rw [Function.update_self] at he''
      cases he''
      exact ⟨p, hp, Function.update_self .., he⟩
    · rw [Function.update_of_ne hk] at he''
      obtain ⟨q, hq, hshown, hqe⟩ := h.owned k' e' he''
      have hqp := ne_of_key hp hq hk
      refine ⟨q, hq, ?_, hR q e' hqp hqe⟩
      show Function.update m.shown p true q = true
      rwa [Function.update_of_ne hqp]
  present q k' hq hshown := by
    show ∃ e', Function.update m.table k (some e) k' = some e'
    by_cases hk : k' = k
    · subst hk
      exact ⟨e, Function.update_self ..⟩
    · rw [Function.update_of_ne hk]
      have hqp : q ≠ p := ne_of_key hp hq hk
      have hshown' : Function.update m.shown p true q = true := hshown
      rw [Function.update_of_ne hqp] at hshown'
      exact h.present q k' hq hshown'

theorem withdraw (hp : m.keyOf p = some k) (hR : ∀ q e, q ≠ p → R q e → R' q e) :
    (m.withdraw p k).Faithful R' where
  distinct := h.distinct
  owned k' e he := by
    have he' : Function.update m.table k none k' = some e := he
    have hk : k' ≠ k := by
      rintro rfl
      rw [Function.update_self] at he'
      cases he'
    rw [Function.update_of_ne hk] at he'
    obtain ⟨q, hq, hshown, hqe⟩ := h.owned k' e he'
    have hqp := ne_of_key hp hq hk
    refine ⟨q, hq, ?_, hR q e hqp hqe⟩
    show Function.update m.shown p false q = true
    rwa [Function.update_of_ne hqp]
  present q k' hq hshown := by
    obtain ⟨hqp, hshown'⟩ := shown_of_hidden (m := m) hshown
    obtain ⟨e, he⟩ := h.present q k' hq hshown'
    refine ⟨e, ?_⟩
    show Function.update m.table k none k' = some e
    rwa [Function.update_of_ne (h.ne_key hp hq hqp)]

omit [DecidableEq Member] in
theorem revise {f : Entry → Entry} (hp : m.keyOf p = some k) (hf : ∀ e, R p e → R' p (f e))
    (hR : ∀ q e, q ≠ p → R q e → R' q e) : (m.revise k f).Faithful R' where
  distinct := h.distinct
  owned k' e' he := by
    have he' : Function.update m.table k ((m.table k).map f) k' = some e' := he
    by_cases hk : k' = k
    · subst hk
      rw [Function.update_self] at he'
      obtain ⟨e, hentry, rfl⟩ := Option.map_eq_some_iff.mp he'
      obtain ⟨q, hq, hshown, hqe⟩ := h.owned k' e hentry
      obtain rfl : q = p := h.distinct q p k' hq hp
      exact ⟨q, hq, hshown, hf e hqe⟩
    · rw [Function.update_of_ne hk] at he'
      obtain ⟨q, hq, hshown, hqe⟩ := h.owned k' e' he'
      exact ⟨q, hq, hshown, hR q e' (ne_of_key hp hq hk) hqe⟩
  present q k' hq hshown := by
    obtain ⟨e, he⟩ := h.present q k' hq hshown
    show ∃ e', Function.update m.table k ((m.table k).map f) k' = some e'
    by_cases hk : k' = k
    · subst hk
      exact ⟨f e, by rw [Function.update_self, he, Option.map_some]⟩
    · exact ⟨e, by rw [Function.update_of_ne hk, he]⟩

omit [DecidableEq Key] in
theorem leave (hp : m.shown p = false) (hR : ∀ q e, q ≠ p → R q e → R' q e) :
    (m.leave p).Faithful R' where
  distinct q r k hq hr := by
    have hkept : ∀ x, Function.update m.keyOf p none x = some k → m.keyOf x = some k := by
      intro x hx
      by_cases hxp : x = p
      · rw [hxp, Function.update_self] at hx
        cases hx
      · rwa [Function.update_of_ne hxp] at hx
    exact h.distinct q r k (hkept q hq) (hkept r hr)
  owned k e he := by
    obtain ⟨q, hq, hshown, hqe⟩ := h.owned k e he
    have hqp : q ≠ p := by
      rintro rfl
      rw [hp] at hshown
      cases hshown
    refine ⟨q, ?_, hshown, hR q e hqp hqe⟩
    show Function.update m.keyOf p none q = some k
    rwa [Function.update_of_ne hqp]
  present q k hq hshown := by
    have hq' : Function.update m.keyOf p none q = some k := hq
    by_cases hqp : q = p
    · rw [hqp, Function.update_self] at hq'
      cases hq'
    · rw [Function.update_of_ne hqp] at hq'
      exact h.present q k hq' hshown

end Faithful

end Mirror

end Lib
