/-
  FlutterWlroots.Lib.Alternation — sequences that go on and off in turn.

  `Alternates b xs` says that the values of `xs` alternate and that `b` is the first.  Where values
  are left out, the rest alternates only if nothing follows what is left out:

    • `alternates_kept_iff` — leaving out some that are on.
-/
import Mathlib.Data.List.Basic

namespace Lib

/-- The values alternate, and the first is `b`. -/
def Alternates : Bool → List Bool → Prop
  | _, [] => True
  | b, x :: xs => x = b ∧ Alternates (!b) xs

instance : (b : Bool) → (xs : List Bool) → Decidable (Alternates b xs)
  | _, [] => .isTrue trivial
  | b, x :: xs =>
      have : Decidable (Alternates (!b) xs) := instDecidableAlternates (!b) xs
      inferInstanceAs (Decidable (x = b ∧ Alternates (!b) xs))

variable {α : Type} {on kept : α → Bool}

/-- **Of an alternation some that are on are left out**: the rest alternates if and only if this can
    be the last only. -/
theorem alternates_kept_iff : ∀ {xs : List α}, Alternates true (xs.map on) →
    (∀ x ∈ xs, kept x = false → on x = true) →
    (Alternates true ((xs.filter kept).map on) ↔ ∀ x ∈ xs.dropLast, kept x = true)
  | [], _, _ => iff_of_true trivial fun _ hx => absurd hx List.not_mem_nil
  | [x], h, _ => by
      refine iff_of_true ?_ fun _ hx => absurd hx List.not_mem_nil
      cases hx : kept x with
      | true => rwa [List.filter_cons_of_pos hx]
      | false =>
          rw [List.filter_cons_of_neg (Bool.eq_false_iff.mp hx)]
          exact trivial
  | x :: y :: xs, h, hleft => by
      obtain ⟨hx, hy, hxs⟩ := h
      -- the second is off, so it is kept
      have hkept : kept y = true := by
        cases hkept : kept y with
        | true => rfl
        | false => exact absurd ((hleft y (by simp) hkept).symm.trans hy) (by decide)
      have ih := alternates_kept_iff hxs fun z hz => hleft z (by simp [hz])
      cases hfirst : kept x with
      | false =>
          rw [List.filter_cons_of_neg (Bool.eq_false_iff.mp hfirst), List.filter_cons_of_pos hkept]
          refine iff_of_false (fun halt => ?_) fun hall => ?_
          · exact absurd (hy.symm.trans halt.1) (by decide)
          · exact absurd (hall x (by simp)) (by rw [hfirst]; decide)
      | true =>
          rw [List.filter_cons_of_pos hfirst, List.filter_cons_of_pos hkept]
          have hrest : Alternates true ((x :: y :: xs.filter kept).map on) ↔
              Alternates true ((xs.filter kept).map on) :=
            ⟨fun halt => halt.2.2, fun halt => ⟨hx, hy, halt⟩⟩
          rw [hrest, ih, List.dropLast_cons_cons, List.forall_mem_cons, and_iff_right hfirst]
          cases xs with
          | nil => exact Iff.rfl
          | cons z zs => rw [List.dropLast_cons_cons, List.forall_mem_cons, and_iff_right hkept]

end Lib
