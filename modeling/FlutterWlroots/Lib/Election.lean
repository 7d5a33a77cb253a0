/-
  Lib.Election — one of several candidates drives the others.

  Candidates have rates and are kept in a list.  A candidate can be named; without a named one the
  driver is to be one with the highest rate.  The choice is made by a search for the first candidate
  with the highest rate that counts only positive rates (`Automatic`), and it is not made again at
  every change.

    • `Leads`                 — the first candidate with the highest rate,
    • `Elected`               — what the driver should be,
    • `Automatic.elected_iff` — when the search finds what the driver should be,
    • `Elected.erase`, `Elected.retune_iff` — when a driver remains right without a search.
-/
import Mathlib.Data.List.Basic

namespace Lib

variable {α : Type} [DecidableEq α] {rate rate' : α → Int} {l : List α} {a b : α}
  {asked driver : Option α}

/-! ## §1. Leaders. -/

/-- No candidate has a higher rate, and those with the same rate come later. -/
def Leads (rate : α → Int) (l : List α) (a : α) : Prop :=
  a ∈ l ∧ ∀ b ∈ l, rate b < rate a ∨ rate b = rate a ∧ l.idxOf a ≤ l.idxOf b

instance (rate : α → Int) (l : List α) (a : α) : Decidable (Leads rate l a) :=
  inferInstanceAs (Decidable (_ ∧ _))

/-- Some candidate has a positive rate. -/
def SomePositive (rate : α → Int) (l : List α) : Prop := ∃ a ∈ l, 0 < rate a

instance (rate : α → Int) (l : List α) : Decidable (SomePositive rate l) :=
  inferInstanceAs (Decidable (∃ a ∈ l, 0 < rate a))

theorem Leads.le (h : Leads rate l a) (hb : b ∈ l) : rate b ≤ rate a := by
  rcases h.2 b hb with hlt | ⟨heq, -⟩
  · exact Int.le_of_lt hlt
  · exact Int.le_of_eq heq

theorem Leads.unique (ha : Leads rate l a) (hb : Leads rate l b) : a = b := by
  have hrate : rate a = rate b := Int.le_antisymm (hb.le ha.1) (ha.le hb.1)
  have hab : l.idxOf a ≤ l.idxOf b := by
    rcases ha.2 b hb.1 with hlt | ⟨-, hidx⟩
    · omega
    · exact hidx
  have hba : l.idxOf b ≤ l.idxOf a := by
    rcases hb.2 a ha.1 with hlt | ⟨-, hidx⟩
    · omega
    · exact hidx
  exact (List.idxOf_inj ha.1).mp (Nat.le_antisymm hab hba)

/-- A candidate in front of the others leads if no rate is higher than its own. -/
theorem leads_cons_self : Leads rate (a :: l) a ↔ ∀ b ∈ l, rate b ≤ rate a := by
  constructor
  · exact fun h b hb => h.le (List.mem_cons_of_mem a hb)
  · refine fun h => ⟨List.mem_cons_self, fun b hb => ?_⟩
    have hle : rate b ≤ rate a := by
      rcases List.mem_cons.mp hb with rfl | hmem
      · exact Int.le_refl _
      · exact h b hmem
    rcases Int.lt_or_eq_of_le hle with hlt | heq
    · exact .inl hlt
    · refine .inr ⟨heq, ?_⟩
      rw [List.idxOf_cons_self]
      exact Nat.zero_le _

/-- Another candidate leads if it led without the one in front and has a higher rate than it. -/
theorem leads_cons_of_ne (hne : a ≠ b) :
    Leads rate (b :: l) a ↔ rate b < rate a ∧ Leads rate l a := by
  have hself : (b :: l).idxOf b = 0 := List.idxOf_cons_self
  have hskip : ∀ {x}, x ≠ b → (b :: l).idxOf x = l.idxOf x + 1 :=
    fun hx => List.idxOf_cons_ne l hx.symm
  constructor
  · rintro ⟨hmem, h⟩
    have hlt : rate b < rate a := by
      rcases h b List.mem_cons_self with hlt | ⟨-, hidx⟩
      · exact hlt
      · rw [hself, hskip hne] at hidx
        omega
    refine ⟨hlt, (List.mem_cons.mp hmem).resolve_left hne, fun x hx => ?_⟩
    rcases h x (List.mem_cons_of_mem b hx) with hxlt | ⟨hxeq, hidx⟩
    · exact .inl hxlt
    · have hxb : x ≠ b := by
        rintro rfl
        omega
      rw [hskip hne, hskip hxb] at hidx
      exact .inr ⟨hxeq, Nat.le_of_succ_le_succ hidx⟩
  · rintro ⟨hlt, hmem, h⟩
    refine ⟨List.mem_cons_of_mem b hmem, fun x hx => ?_⟩
    by_cases hxb : x = b
    · rw [hxb]
      exact .inl hlt
    · rcases h x ((List.mem_cons.mp hx).resolve_left hxb) with hxlt | ⟨hxeq, hidx⟩
      · exact .inl hxlt
      · rw [hskip hne, hskip hxb]
        exact .inr ⟨hxeq, Nat.succ_le_succ hidx⟩

theorem exists_leads (rate : α → Int) (hne : l ≠ []) : ∃ a, Leads rate l a := by
  induction l with
  | nil => exact absurd rfl hne
  | cons b l ih =>
      by_cases hle : ∀ x ∈ l, rate x ≤ rate b
      · exact ⟨b, leads_cons_self.mpr hle⟩
      · simp only [not_forall] at hle
        obtain ⟨x, hx, hlt⟩ := hle
        obtain ⟨a, ha⟩ := ih (List.ne_nil_of_mem hx)
        have hlt : rate b < rate a := Int.lt_of_lt_of_le (Int.not_le.mp hlt) (ha.le hx)
        have hab : a ≠ b := by
          rintro rfl
          exact Int.lt_irrefl _ hlt
        exact ⟨a, (leads_cons_of_ne hab).mpr ⟨hlt, ha⟩⟩

theorem leads_congr (h : ∀ b ∈ l, rate' b = rate b) : Leads rate' l a ↔ Leads rate l a := by
  unfold Leads
  refine and_congr_right fun ha => forall₂_congr fun b hb => ?_
  rw [h a ha, h b hb]

omit [DecidableEq α] in
theorem somePositive_congr (h : ∀ b ∈ l, rate' b = rate b) :
    SomePositive rate' l ↔ SomePositive rate l := by
  unfold SomePositive
  refine exists_congr fun b => and_congr_right fun hb => ?_
  rw [h b hb]

/-! ## §2. Drivers. -/

/-- The driver is the named candidate while it is there, and otherwise one with the highest rate;
    there is none just if there are no candidates. -/
structure Elected (rate : α → Int) (l : List α) (asked driver : Option α) : Prop where
  none_iff : driver = none ↔ l = []
  named : ∀ a, asked = some a → a ∈ l → driver = some a
  highest : (∀ a, asked = some a → a ∉ l) → ∀ a, driver = some a →
    a ∈ l ∧ ∀ b ∈ l, rate b ≤ rate a

/-- What the search finds: the leader, if its rate is positive. -/
def Automatic (rate : α → Int) (l : List α) (driver : Option α) : Prop :=
  ∀ a, driver = some a ↔ Leads rate l a ∧ 0 < rate a

theorem Elected.mem (h : Elected rate l asked driver) (hd : driver = some a) : a ∈ l := by
  by_cases hn : ∀ n, asked = some n → n ∉ l
  · exact (h.highest hn a hd).1
  · push Not at hn
    obtain ⟨n, hn, hmem⟩ := hn
    have heq : some a = some n := hd.symm.trans (h.named n hn hmem)
    cases heq
    exact hmem

/-- **When the search is right**: if it can find anything, and what is named leads. -/
theorem Automatic.elected_iff (h : Automatic rate l driver) :
    Elected rate l asked driver ↔
      (l = [] ∨ SomePositive rate l) ∧ ∀ a, asked = some a → a ∈ l → Leads rate l a := by
  constructor
  · intro he
    refine ⟨?_, fun a ha hmem => ((h a).mp (he.named a ha hmem)).1⟩
    cases hd : driver with
    | none => exact .inl (he.none_iff.mp hd)
    | some a =>
        obtain ⟨hleads, hpos⟩ := (h a).mp hd
        exact .inr ⟨a, hleads.1, hpos⟩
  · rintro ⟨hsome, hnamed⟩
    have hfound : ∀ a, Leads rate l a → driver = some a := by
      intro a ha
      rcases hsome with rfl | ⟨b, hb, hpos⟩
      · cases ha.1
      · exact (h a).mpr ⟨ha, Int.lt_of_lt_of_le hpos (ha.le hb)⟩
    refine ⟨⟨fun hnone => ?_, ?_⟩, fun a ha hmem => hfound a (hnamed a ha hmem), fun _ a hd => ?_⟩
    · by_contra hne
      obtain ⟨a, ha⟩ := exists_leads rate hne
      rw [hfound a ha] at hnone
      cases hnone
    · rintro rfl
      cases hd : driver with
      | none => rfl
      | some a => cases ((h a).mp hd).1.1
    · have hleads := ((h a).mp hd).1
      exact ⟨hleads.1, fun b hb => hleads.le hb⟩

/-- A candidate that does not drive can go. -/
theorem Elected.erase (h : Elected rate l asked driver) (hne : driver ≠ some a) :
    Elected rate (l.erase a) asked driver := by
  have hkept : ∀ d, driver = some d → d ∈ l.erase a := by
    intro d hd
    have hda : d ≠ a := by
      rintro rfl
      exact hne hd
    exact (List.mem_erase_of_ne hda).mpr (h.mem hd)
  refine ⟨⟨fun hnone => ?_, fun hnil => ?_⟩, fun n hn hmem => ?_, fun hn d hd => ?_⟩
  · rw [h.none_iff.mp hnone]
    rfl
  · cases hd : driver with
    | none => rfl
    | some d =>
        have hmem := hkept d hd
        rw [hnil] at hmem
        cases hmem
  · exact h.named n hn (List.mem_of_mem_erase hmem)
  · -- what is named is not there, since it would drive
    have hgone : ∀ n, asked = some n → n ∉ l :=
      fun n hname hmem => hn n hname (hkept n (h.named n hname hmem))
    exact ⟨hkept d hd, fun b hb => (h.highest hgone d hd).2 b (List.mem_of_mem_erase hb)⟩

/-- If the driver goes, nothing that is named remains. -/
theorem Elected.named_notMem_erase (h : Elected rate l asked (some a)) (hnodup : l.Nodup) {n : α}
    (hn : asked = some n) : n ∉ l.erase a := by
  intro hmem
  have heq : some a = some n := h.named n hn (List.mem_of_mem_erase hmem)
  cases heq
  exact (List.Nodup.mem_erase_iff hnodup).mp hmem |>.1 rfl

/-- **When a rate may change**: if a named candidate drives, or the driver keeps the highest. -/
theorem Elected.retune_iff (h : Elected rate l asked driver) (ha : a ∈ l)
    (hrate : ∀ b, b ≠ a → rate' b = rate b) :
    Elected rate' l asked driver ↔ ((∀ n, asked = some n → n ∉ l) →
      (driver = some a → ∀ b ∈ l, b ≠ a → rate b ≤ rate' a) ∧
        ∀ d, driver = some d → d ≠ a → rate' a ≤ rate d) := by
  constructor
  · intro he hn
    refine ⟨fun hd b hb hba => ?_, fun d hd hda => ?_⟩
    · rw [← hrate b hba]
      exact (he.highest hn a hd).2 b hb
    · rw [← hrate d hda]
      exact (he.highest hn d hd).2 a ha
  · intro hkeeps
    refine ⟨h.none_iff, h.named, fun hn d hd => ⟨h.mem hd, fun b hb => ?_⟩⟩
    obtain ⟨hdriver, hother⟩ := hkeeps hn
    by_cases hda : d = a
    · by_cases hba : b = a
      · exact Int.le_of_eq (congrArg _ (hba.trans hda.symm))
      · rw [hrate b hba, hda]
        exact hdriver (hda ▸ hd) b hb hba
    · rw [hrate d hda]
      by_cases hba : b = a
      · rw [hba]
        exact hother d hd hda
      · rw [hrate b hba]
        exact (h.highest hn d hd).2 b hb

omit [DecidableEq α] in
theorem Elected.congr (h : Elected rate l asked driver) (hrate : ∀ b ∈ l, rate' b = rate b) :
    Elected rate' l asked driver := by
  refine ⟨h.none_iff, h.named, fun hn d hd => ?_⟩
  obtain ⟨hmem, hle⟩ := h.highest hn d hd
  refine ⟨hmem, fun b hb => ?_⟩
  rw [hrate b hb, hrate d hmem]
  exact hle b hb

end Lib
