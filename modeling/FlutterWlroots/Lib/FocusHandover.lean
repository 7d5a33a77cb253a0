/-
  FlutterWlroots.Lib.FocusHandover — one holder of the focus, and the flags of those that hold it.

  Members stand on places; one place may have the focus, and each member has a flag of its own that
  says whether it is active.  Giving the focus to a member clears the flag of the member on the place
  that had it.  The flags are right (`Exclusive`) as long as the focus is given away by those who
  have it: a focus that is withdrawn leaves a flag behind, which nothing clears (`Exclusive.give`).
-/
import Mathlib.Logic.Function.Basic

namespace Lib

/-- Members on places; `memberOn` is what a place knows of its member. -/
structure FocusState (Member Place : Type) where
  placeOf : Member → Option Place
  active : Member → Bool
  memberOn : Place → Option Member
  focused : Option Place

namespace FocusState

variable {Member Place : Type}

/-! ## §1. Operations. -/

section Operations

variable (s : FocusState Member Place)

/-- Nobody. -/
def empty : FocusState Member Place := ⟨fun _ => none, fun _ => false, fun _ => none, none⟩

/-- A new member. -/
def enter [DecidableEq Member] [DecidableEq Place] (p : Member) (x : Place) :
    FocusState Member Place where
  placeOf := Function.update s.placeOf p (some x)
  active := Function.update s.active p false
  memberOn := Function.update s.memberOn x (some p)
  focused := s.focused

/-- A member gone. -/
def leave [DecidableEq Member] (p : Member) : FocusState Member Place :=
  { s with placeOf := Function.update s.placeOf p none }

/-- The member on the place with the focus. -/
def holder : Option Member := s.focused.bind s.memberOn

/-- The flags when the holder has given the focus away. -/
def released [DecidableEq Member] : Member → Bool :=
  match s.holder with
  | none => s.active
  | some q => Function.update s.active q false

/-- The focus given to `p` on `x`. -/
def give [DecidableEq Member] (p : Member) (x : Place) : FocusState Member Place :=
  { s with active := Function.update s.released p true, focused := some x }

/-- The focus withdrawn. -/
def withdraw : FocusState Member Place := { s with focused := none }

/-- A place without a member that forgets it. -/
def forget [DecidableEq Place] (x : Place) : FocusState Member Place :=
  { s with memberOn := Function.update s.memberOn x none }

end Operations

/-! ## §2. The invariant. -/

variable {s : FocusState Member Place} {p q : Member} {x : Place}

/-- Every place knows its member, at most one member is active, and an active member has the focus
    unless it is withdrawn. -/
structure Exclusive (s : FocusState Member Place) : Prop where
  memberOn : ∀ p x, s.placeOf p = some x → s.memberOn x = some p
  unique : ∀ p q x y, s.placeOf p = some x → s.placeOf q = some y → s.active p = true →
    s.active q = true → p = q
  focused : ∀ p x, s.placeOf p = some x → s.active p = true → s.focused = none ∨ s.focused = some x

/-- **The active member is that of the place with the focus.** -/
theorem Exclusive.eq_of_focused (h : s.Exclusive) {y : Place} (hp : s.placeOf p = some y)
    (hactive : s.active p = true) (hfocus : s.focused = some x) (hq : s.placeOf q = some x) :
    q = p := by
  rcases h.focused p y hp hactive with hnone | hsome
  · rw [hnone] at hfocus
    cases hfocus
  · have hxy : y = x := Option.some.inj (hsome.symm.trans hfocus)
    have heq := h.memberOn q x hq
    rw [← hxy, h.memberOn p y hp] at heq
    exact (Option.some.inj heq).symm

theorem exclusive_empty : (empty : FocusState Member Place).Exclusive :=
  ⟨fun _ _ h => (nomatch h), fun _ _ _ _ h => (nomatch h), fun _ _ h => (nomatch h)⟩

theorem Exclusive.withdraw (h : s.Exclusive) : s.withdraw.Exclusive where
  memberOn := h.memberOn
  unique := h.unique
  focused _ _ _ _ := .inl rfl

theorem Exclusive.forget [DecidableEq Place] (h : s.Exclusive) (hx : ∀ q, s.placeOf q ≠ some x) :
    (s.forget x).Exclusive where
  memberOn q y hq := by
    show Function.update s.memberOn x none y = some q
    have hy : y ≠ x := fun heq => hx q (heq ▸ hq)
    rw [Function.update_of_ne hy]
    exact h.memberOn q y hq
  unique := h.unique
  focused := h.focused

/-! ## §3. Members come, go and hand over. -/

variable [DecidableEq Member]

theorem Exclusive.enter [DecidableEq Place] (h : s.Exclusive) (hx : ∀ q, s.placeOf q ≠ some x) :
    (s.enter p x).Exclusive := by
  -- the new member is not active, and the others are as they were
  have hold : ∀ q y, (s.enter p x).placeOf q = some y → (s.enter p x).active q = true →
      s.placeOf q = some y ∧ s.active q = true := by
    intro q y hq hactive
    by_cases hne : q = p
    · subst hne
      have hfalse : Function.update s.active q false q = true := hactive
      rw [Function.update_self] at hfalse
      cases hfalse
    · have hplace : Function.update s.placeOf p (some x) q = some y := hq
      have hflag : Function.update s.active p false q = true := hactive
      rw [Function.update_of_ne hne] at hplace hflag
      exact ⟨hplace, hflag⟩
  refine ⟨fun q y hq => ?_, fun q r y z hq hr hactive hactive' => ?_, fun q y hq hactive => ?_⟩
  · show Function.update s.memberOn x (some p) y = some q
    have hplace : Function.update s.placeOf p (some x) q = some y := hq
    by_cases hne : q = p
    · rw [hne, Function.update_self] at hplace
      cases hplace
      rw [hne, Function.update_self]
    · rw [Function.update_of_ne hne] at hplace
      have hy : y ≠ x := fun heq => hx q (heq ▸ hplace)
      rw [Function.update_of_ne hy]
      exact h.memberOn q y hplace
  · obtain ⟨hq, hactive⟩ := hold q y hq hactive
    obtain ⟨hr, hactive'⟩ := hold r z hr hactive'
    exact h.unique q r y z hq hr hactive hactive'
  · obtain ⟨hq, hactive⟩ := hold q y hq hactive
    exact h.focused q y hq hactive

theorem placeOf_leave {y : Place} (h : (s.leave p).placeOf q = some y) : s.placeOf q = some y := by
  have hplace : Function.update s.placeOf p none q = some y := h
  by_cases hne : q = p
  · rw [hne, Function.update_self] at hplace
    cases hplace
  · rwa [Function.update_of_ne hne] at hplace

theorem Exclusive.leave (h : s.Exclusive) (p : Member) : (s.leave p).Exclusive where
  memberOn q y hq := h.memberOn q y (placeOf_leave hq)
  unique q r y z hq hr := h.unique q r y z (placeOf_leave hq) (placeOf_leave hr)
  focused q y hq := h.focused q y (placeOf_leave hq)

theorem released_of_holder_none (h : s.holder = none) : s.released = s.active := by
  unfold released
  rw [h]

theorem released_of_holder {r : Member} (h : s.holder = some r) :
    s.released = Function.update s.active r false := by
  unfold released
  rw [h]

/-- **Handing the focus over.**  Whoever else is active is the holder, who loses its flag; while
    nobody has the focus, nobody else may be active. -/
theorem Exclusive.give (h : s.Exclusive) (hp : s.placeOf p = some x)
    (hsafe : s.focused = none → ∀ q y, s.placeOf q = some y → s.active q = true → q = p) :
    (s.give p x).Exclusive := by
  have honly : ∀ q y, s.placeOf q = some y → (s.give p x).active q = true → q = p := by
    intro q y hq hactive
    by_contra hne
    have hreleased : Function.update s.released p true q = true := hactive
    rw [Function.update_of_ne hne] at hreleased
    cases hholder : s.holder with
    | none =>
        rw [released_of_holder_none hholder] at hreleased
        -- the place with the focus would know an active member
        rcases h.focused q y hq hreleased with hnone | hsome
        · exact hne (hsafe hnone q y hq hreleased)
        · rw [holder, hsome, Option.bind_some, h.memberOn q y hq] at hholder
          cases hholder
    | some r =>
        rw [released_of_holder hholder] at hreleased
        have hr : q ≠ r := by
          rintro rfl
          rw [Function.update_self] at hreleased
          cases hreleased
        rw [Function.update_of_ne hr] at hreleased
        rcases h.focused q y hq hreleased with hnone | hsome
        · rw [holder, hnone] at hholder
          cases hholder
        · rw [holder, hsome, Option.bind_some, h.memberOn q y hq] at hholder
          exact hr (Option.some.inj hholder)
  refine ⟨h.memberOn, fun q r y z hq hr hactive hactive' => ?_, fun q y hq hactive => ?_⟩
  · rw [honly q y hq hactive, honly r z hr hactive']
  · obtain rfl := honly q y hq hactive
    have heq : s.placeOf q = some y := hq
    rw [hp] at heq
    exact .inr heq

end FocusState

end Lib
