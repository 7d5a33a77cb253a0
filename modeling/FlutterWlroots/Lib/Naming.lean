/-
  FlutterWlroots.Lib.Naming — names of things that come and go.

  A naming has a name for each thing that is there.  `Apart` says that no two things have the same
  name; of the changes an event may make, only giving a name away can break that.

    • `Change.apart_iff` — it does exactly if the name is one of a thing that is there.
-/
import Mathlib.Logic.Function.Basic

namespace Lib

/-- The names of the things that are there. -/
abbrev Naming (ι κ : Type) := ι → Option κ

namespace Naming

variable {ι κ : Type} {f f' : Naming ι κ} {i : ι} {k : κ}

/-- No two things have the same name. -/
def Apart (f : Naming ι κ) : Prop := ∀ i j k, f i = some k → f j = some k → i = j

/-- Nothing has the name. -/
def Unused (f : Naming ι κ) (k : κ) : Prop := ∀ i, f i ≠ some k

variable [DecidableEq ι]

theorem Apart.release (h : f.Apart) (i : ι) : Apart (Function.update f i none) := by
  intro p q k hp hq
  have hne : ∀ {j}, Function.update f i none j = some k → f j = some k := by
    intro j hj
    by_cases hji : j = i
    · rw [hji, Function.update_self] at hj
      cases hj
    · rw [Function.update_of_ne hji] at hj
      exact hj
  exact h p q k (hne hp) (hne hq)

/-- **A new thing needs an unused name.** -/
theorem apart_assign_iff (h : f.Apart) (hi : f i = none) :
    Apart (Function.update f i (some k)) ↔ f.Unused k := by
  constructor
  · intro happart j hj
    have hji : j ≠ i := fun heq => by
      rw [heq, hi] at hj
      cases hj
    exact hji (happart j i k (by rw [Function.update_of_ne hji, hj]) (Function.update_self ..))
  · intro hunused p q k' hp hq
    by_cases hpi : p = i
    · by_cases hqi : q = i
      · rw [hpi, hqi]
      · rw [hpi, Function.update_self] at hp
        rw [Function.update_of_ne hqi, ← hp] at hq
        exact absurd hq (hunused q)
    · rw [Function.update_of_ne hpi] at hp
      by_cases hqi : q = i
      · rw [hqi, Function.update_self] at hq
        rw [← hq] at hp
        exact absurd hp (hunused p)
      · rw [Function.update_of_ne hqi] at hq
        exact h p q k' hp hq

/-- The naming after an event, by the thing that is new and its name. -/
inductive Change (f : Naming ι κ) : Option (ι × κ) → Naming ι κ → Prop where
  | same : Change f none f
  | release (i : ι) : Change f none (Function.update f i none)
  | assign {i : ι} {k : κ} (hi : f i = none) :
      Change f (some (i, k)) (Function.update f i (some k))

theorem Change.of_eq {new : Option (ι × κ)} {f'' : Naming ι κ} (heq : f' = f'')
    (h : Change f new f'') : Change f new f' := by
  rw [heq]
  exact h

/-- **Names stay apart if new things get unused ones.** -/
theorem Change.apart_iff {new : Option (ι × κ)} (hchange : Change f new f') (h : f.Apart) :
    f'.Apart ↔ ∀ x ∈ new, f.Unused x.2 := by
  cases hchange with
  | same => exact iff_of_true h nofun
  | release i => exact iff_of_true (h.release i) nofun
  | assign hi => simpa using apart_assign_iff h hi

end Naming

end Lib
