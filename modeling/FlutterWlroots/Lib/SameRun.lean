/-
  FlutterWlroots.Lib.SameRun — two `EStateM` programs that run in step.

  `SameRun` compares the runs of two programs from a pair of states: both succeed, or both stop with the
  same error.  It is proved along the programs, step by step (`SameRun.bind`).

  `Follows` compares a program with one that has no state, and no result where the first one stops.
-/
import FlutterWlroots.Lib.StateRun

namespace Lib.StateRun

variable {ε σ τ α β α' β' : Type} {x : EStateM ε σ α} {y : EStateM ε τ β} {f : α → EStateM ε σ α'}
  {g : β → EStateM ε τ β'} {s : σ} {t : τ} {E : σ → τ → Prop}

/-! ## §1. Two programs with a state. -/

/-- Both runs succeed, with `Q`, or stop with one error, with `E`. -/
def SameRun (x : EStateM ε σ α) (y : EStateM ε τ β) (s : σ) (t : τ) (E : σ → τ → Prop)
    (Q : α → β → σ → τ → Prop) : Prop :=
  match x.run s, y.run t with
  | .ok a s', .ok b t' => Q a b s' t'
  | .error e s', .error e' t' => e = e' ∧ E s' t'
  | _, _ => False

variable {Q : α → β → σ → τ → Prop} {Q' : α' → β' → σ → τ → Prop}

theorem sameRun_of_ok {a : α} {b : β} {s' : σ} {t' : τ} (hx : x.run s = .ok a s')
    (hy : y.run t = .ok b t') (h : Q a b s' t') : SameRun x y s t E Q := by
  rw [SameRun, hx, hy]
  exact h

theorem sameRun_of_error {e : ε} {s' : σ} {t' : τ} (hx : x.run s = .error e s')
    (hy : y.run t = .error e t') (h : E s' t') : SameRun x y s t E Q := by
  rw [SameRun, hx, hy]
  exact ⟨rfl, h⟩

theorem sameRun_pure {a : α} {b : β} (h : Q a b s t) :
    SameRun (pure a : EStateM ε σ α) (pure b : EStateM ε τ β) s t E Q :=
  sameRun_of_ok (EStateM.run_pure a s) (EStateM.run_pure b t) h

theorem sameRun_throw {e : ε} (h : E s t) :
    SameRun (throw e : EStateM ε σ α) (throw e : EStateM ε τ β) s t E Q :=
  sameRun_of_error (run_throw e) (run_throw e) h

theorem SameRun.mono {Q₁ : α → β → σ → τ → Prop} (h : SameRun x y s t E Q)
    (himp : ∀ a b s' t', Q a b s' t' → Q₁ a b s' t') : SameRun x y s t E Q₁ := by
  unfold SameRun at *
  cases hx : x.run s <;> cases hy : y.run t <;> simp only [hx, hy] at h ⊢
  · exact himp _ _ _ _ h
  · exact h

/-- Runs that come to the same states are the same. -/
theorem SameRun.congr_run {x₁ : EStateM ε σ α} {y₁ : EStateM ε τ β} {s₁ : σ} {t₁ : τ}
    (hx : x.run s = x₁.run s₁) (hy : y.run t = y₁.run t₁) (h : SameRun x₁ y₁ s₁ t₁ E Q) :
    SameRun x y s t E Q := by
  unfold SameRun
  rw [hx, hy]
  exact h

/-- **Sequencing.** -/
theorem SameRun.bind (h : SameRun x y s t E Q)
    (hrest : ∀ a b s' t', Q a b s' t' → SameRun (f a) (g b) s' t' E Q') :
    SameRun (x >>= f) (y >>= g) s t E Q' := by
  unfold SameRun at h
  cases hx : x.run s <;> cases hy : y.run t <;> simp only [hx, hy] at h
  · have hnext := hrest _ _ _ _ h
    unfold SameRun at hnext ⊢
    rwa [run_bind_ok hx, run_bind_ok hy]
  · obtain ⟨rfl, h⟩ := h
    exact sameRun_of_error (run_bind_error hx) (run_bind_error hy) h

/-- Where the first program succeeds, so does the second one. -/
theorem SameRun.of_ok {a : α} {s' : σ} (h : SameRun x y s t E Q) (hx : x.run s = .ok a s') :
    ∃ b t', y.run t = .ok b t' ∧ Q a b s' t' := by
  unfold SameRun at h
  cases hy : y.run t <;> simp only [hx, hy] at h
  exact ⟨_, _, rfl, h⟩

/-- And where the second one does, the first one. -/
theorem SameRun.of_ok_right {b : β} {t' : τ} (h : SameRun x y s t E Q) (hy : y.run t = .ok b t') :
    ∃ a s', x.run s = .ok a s' ∧ Q a b s' t' := by
  unfold SameRun at h
  cases hx : x.run s <;> simp only [hx, hy] at h
  exact ⟨_, _, rfl, h⟩

theorem SameRun.of_error {e : ε} {s' : σ} (h : SameRun x y s t E Q) (hx : x.run s = .error e s') :
    ∃ t', y.run t = .error e t' ∧ E s' t' := by
  unfold SameRun at h
  cases hy : y.run t <;> simp only [hx, hy] at h
  obtain ⟨rfl, h⟩ := h
  exact ⟨_, rfl, h⟩

/-! ## §2. A program without a state. -/

section Follows

variable {I : σ → Prop} {E : ε → Prop} {P P' : α → Prop} {R : α' → Prop} {y : Option α}
  {g : α → Option α'}

/-- The runs from states with `I` keep it and give what `y` gives, with `P`; where `y` has no result
    they stop with an error that `E` allows. -/
def Follows (I : σ → Prop) (E : ε → Prop) (P : α → Prop) (x : EStateM ε σ α) (y : Option α) :
    Prop :=
  ∀ s, I s → match x.run s with
    | .ok a s' => y = some a ∧ P a ∧ I s'
    | .error e s' => y = none ∧ E e ∧ I s'

theorem follows_pure {a : α} (h : P a) : Follows I E P (pure a) (some a) := fun _ hs => ⟨rfl, h, hs⟩

theorem follows_throw {e : ε} (h : E e) : Follows I E P (throw e) none := fun _ hs => ⟨rfl, h, hs⟩

theorem Follows.mono (h : Follows I E P x y) (hP : ∀ a, P a → P' a) : Follows I E P' x y := by
  intro s hs
  have hrun := h s hs
  cases hx : x.run s with
  | ok a s' =>
      rw [hx] at hrun
      exact ⟨hrun.1, hP a hrun.2.1, hrun.2.2⟩
  | error e s' =>
      rw [hx] at hrun
      exact hrun

/-- **Sequencing.** -/
theorem Follows.bind (h : Follows I E P x y) (hf : ∀ a, P a → Follows I E R (f a) (g a)) :
    Follows I E R (x >>= f) (y >>= g) := by
  intro s hs
  have hrun := h s hs
  cases hx : x.run s with
  | ok a s' =>
      rw [hx] at hrun
      obtain ⟨rfl, hP, hs'⟩ := hrun
      rw [run_bind_ok hx]
      exact hf a hP s' hs'
  | error e s' =>
      rw [hx] at hrun
      obtain ⟨rfl, he, hs'⟩ := hrun
      rw [run_bind_error hx]
      exact ⟨rfl, he, hs'⟩

/-- A step that the program without a state does not have. -/
theorem follows_step {z : Option α'} {a : α} (h : ∀ s, I s → ∃ s', x.run s = .ok a s' ∧ I s')
    (hf : Follows I E R (f a) z) : Follows I E R (x >>= f) z := by
  intro s hs
  obtain ⟨s', hx, hs'⟩ := h s hs
  rw [run_bind_ok hx]
  exact hf s' hs'

theorem Follows.endsIn (h : Follows I E P x y) (hs : I s) :
    EndsIn I (fun e s' => E e ∧ I s') (x.run s) := by
  have hrun := h s hs
  cases hx : x.run s with
  | ok a s' =>
      rw [hx] at hrun
      exact .ok hrun.2.2
  | error e s' =>
      rw [hx] at hrun
      exact .error hrun.2

/-- Where the program without a state has a result, so has the one with a state. -/
theorem Follows.of_some {a : α} (h : Follows I E P x (some a)) (hs : I s) :
    ∃ s', x.run s = .ok a s' := by
  have hrun := h s hs
  cases hx : x.run s with
  | ok b s' =>
      rw [hx] at hrun
      obtain rfl := Option.some.inj hrun.1
      exact ⟨s', rfl⟩
  | error e s' =>
      rw [hx] at hrun
      exact nomatch hrun.1

end Follows

end Lib.StateRun
