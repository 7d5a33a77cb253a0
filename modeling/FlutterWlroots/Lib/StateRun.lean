/-
  FlutterWlroots.Lib.StateRun — sequencing rules for `EStateM` programs.

  A straight-line program is run by rewriting its steps from the left: `run_bind_ok` replaces a
  step by its result, `run_bind_error` ends the run.  In the other direction `run_bind_eq_ok`
  recovers the intermediate state of a run that succeeded.  `Keeps` says that a program leaves a part
  of the state alone, `Stays` that it stays among some states until it ends, and which errors end it.
-/
import Mathlib.Init

namespace Lib.StateRun

variable {ε σ α β : Type} {x : EStateM ε σ α} {f : α → EStateM ε σ β} {s s' : σ}

/-! ## §1. Forwards. -/

theorem run_bind_ok {a : α} (h : x.run s = .ok a s') : (x >>= f).run s = (f a).run s' := by
  rw [EStateM.run_bind, h]

/-- Two steps whose run is known together. -/
theorem run_seq_ok {b : β} {γ : Type} {y : EStateM ε σ β} {g : β → EStateM ε σ γ}
    (h : (x >>= fun _ => y).run s = .ok b s') :
    (x >>= fun _ => y >>= g).run s = (g b).run s' := by
  rw [← run_bind_ok h, bind_assoc]

/-- A step whose result is not used. -/
theorem run_discard {a : α} (h : x.run s = .ok a s') :
    (x >>= fun _ => pure ()).run s = .ok () s' := by
  rw [run_bind_ok h, EStateM.run_pure]

theorem run_bind_error {e : ε} (h : x.run s = .error e s') :
    (x >>= f).run s = .error e s' := by
  rw [EStateM.run_bind, h]

theorem run_throw (e : ε) : (throw e : EStateM ε σ α).run s = .error e s := rfl

theorem run_get_bind {f : σ → EStateM ε σ β} : (get >>= f).run s = (f s).run s :=
  run_bind_ok (EStateM.run_get s)

theorem run_set_bind {f : PUnit → EStateM ε σ β} : (set s' >>= f).run s = (f ⟨⟩).run s' :=
  run_bind_ok (EStateM.run_set s' s)

theorem run_modify_bind {g : σ → σ} {f : PUnit → EStateM ε σ β} :
    (modify g >>= f).run s = (f ⟨⟩).run (g s) :=
  run_bind_ok (EStateM.run_modify g s)

theorem run_tryCatch_ok {a : α} {handler : ε → EStateM ε σ α} (h : x.run s = .ok a s') :
    (tryCatch x handler).run s = .ok a s' := by
  change x s = _ at h
  change EStateM.tryCatch x handler s = _
  delta EStateM.tryCatch
  simp only [h]

/-! ## §2. Backwards. -/

/-- **A sequence succeeds through an intermediate state.** -/
theorem run_bind_eq_ok {b : β} {s'' : σ} :
    (x >>= f).run s = .ok b s'' ↔
      ∃ a s', x.run s = .ok a s' ∧ (f a).run s' = .ok b s'' := by
  constructor
  · intro h
    rw [EStateM.run_bind] at h
    cases hx : x.run s with
    | ok a s' =>
        rw [hx] at h
        exact ⟨a, s', rfl, h⟩
    | error e s' =>
        rw [hx] at h
        cases h
  · rintro ⟨a, s', hx, hf⟩
    rw [run_bind_ok hx, hf]

theorem run_throw_eq_ok {e : ε} {a : α} : (throw e : EStateM ε σ α).run s = .ok a s' ↔ False := by
  rw [run_throw]
  exact ⟨nofun, False.elim⟩

theorem run_pure_eq_ok {a b : α} :
    (pure a : EStateM ε σ α).run s = .ok b s' ↔ a = b ∧ s = s' := by
  rw [EStateM.run_pure]
  constructor
  · intro h
    cases h
    exact ⟨rfl, rfl⟩
  · rintro ⟨rfl, rfl⟩
    rfl

/-- A step whose result is only passed on, run again without its result. -/
theorem run_discard_of_pure {g : α → β} {b : β} (h : (x >>= fun a => pure (g a)).run s = .ok b s') :
    (x >>= fun _ => pure ()).run s = .ok () s' := by
  obtain ⟨a, t, hrun, hrest⟩ := run_bind_eq_ok.mp h
  obtain ⟨-, rfl⟩ := run_pure_eq_ok.mp hrest
  exact run_discard hrun

/-! ## §3. What a program leaves alone. -/

section Keeps

variable {τ : Type} {g : σ → τ}

/-- Every run that succeeds keeps this part of the state. -/
def Keeps (g : σ → τ) (x : EStateM ε σ α) : Prop := ∀ s a s', x.run s = .ok a s' → g s' = g s

theorem keeps_pure (a : α) : Keeps g (pure a : EStateM ε σ α) := by
  intro s b s' h
  rw [(run_pure_eq_ok.mp h).2]

theorem keeps_modify {f : σ → σ} (hf : ∀ s, g (f s) = g s) :
    Keeps g (modify f : EStateM ε σ PUnit) := by
  intro s a s' h
  rw [EStateM.run_modify] at h
  cases h
  exact hf s

theorem Keeps.bind (hx : Keeps g x) (hf : ∀ a, Keeps g (f a)) : Keeps g (x >>= f) := by
  intro s b s' h
  obtain ⟨a, t, hrun, hrest⟩ := run_bind_eq_ok.mp h
  exact (hf a t b s' hrest).trans (hx s a t hrun)

/-- A program that reads the state first. -/
theorem keeps_get {f : σ → EStateM ε σ β}
    (hf : ∀ s b s', (f s).run s = .ok b s' → g s' = g s) : Keeps g (get >>= f) := by
  intro s b s' h
  rw [run_get_bind] at h
  exact hf s b s' h

/-- A program that keeps the part and then returns the value. -/
def KeepsReturning (g : σ → τ) (r : α) (x : EStateM ε σ α) : Prop :=
  ∀ s a s', x.run s = .ok a s' → a = r ∧ g s' = g s

theorem keepsReturning_pure (r : α) : KeepsReturning g r (pure r : EStateM ε σ α) := by
  intro s a s' h
  obtain ⟨rfl, rfl⟩ := run_pure_eq_ok.mp h
  exact ⟨rfl, rfl⟩

theorem Keeps.returning {r : β} (hx : Keeps g x) (hf : ∀ a, KeepsReturning g r (f a)) :
    KeepsReturning g r (x >>= f) := by
  intro s b s' h
  obtain ⟨a, t, hrun, hrest⟩ := run_bind_eq_ok.mp h
  obtain ⟨rfl, hkeep⟩ := hf a t b s' hrest
  exact ⟨rfl, hkeep.trans (hx s a t hrun)⟩

end Keeps

/-! ## §4. Invariants and errors. -/

section Stays

variable {I I' : σ → Prop} {E : ε → σ → Prop}

/-- A run that has ended in a state with `I`, or with an error that `E` allows. -/
inductive EndsIn (I : σ → Prop) (E : ε → σ → Prop) : EStateM.Result ε σ α → Prop where
  | ok {a : α} {s : σ} (h : I s) : EndsIn I E (.ok a s)
  | error {e : ε} {s : σ} (h : E e s) : EndsIn I E (.error e s)

theorem EndsIn.mono {r : EStateM.Result ε σ α} (h : EndsIn I E r) (hI : ∀ s, I s → I' s) :
    EndsIn I' E r := by
  cases h with
  | ok h => exact .ok (hI _ h)
  | error h => exact .error h

theorem EndsIn.cases {r : EStateM.Result ε σ α} (h : EndsIn I E r) :
    (∃ a s, r = .ok a s ∧ I s) ∨ ∃ e s, r = .error e s ∧ E e s := by
  cases h with
  | ok h => exact .inl ⟨_, _, rfl, h⟩
  | error h => exact .inr ⟨_, _, rfl, h⟩

/-- Every run from a state with `I` ends so. -/
def Stays (I : σ → Prop) (E : ε → σ → Prop) (x : EStateM ε σ α) : Prop :=
  ∀ s, I s → EndsIn I E (x.run s)

theorem stays_pure (a : α) : Stays I E (pure a : EStateM ε σ α) := fun _ h => .ok h

theorem stays_throw {e : ε} (h : ∀ s, I s → E e s) : Stays I E (throw e : EStateM ε σ α) :=
  fun s hs => .error (h s hs)

/-- The second step is only run where the first has come to its end. -/
theorem EndsIn.bind (h : EndsIn I E (x.run s)) (hf : ∀ a, Stays I E (f a)) :
    EndsIn I E ((x >>= f).run s) := by
  rcases h.cases with ⟨a, s', hrun, hs'⟩ | ⟨e, s', hrun, he⟩
  · rw [run_bind_ok hrun]
    exact hf a s' hs'
  · rw [run_bind_error hrun]
    exact .error he

/-- **Sequencing.** -/
theorem Stays.bind (h : Stays I E x) (hf : ∀ a, Stays I E (f a)) : Stays I E (x >>= f) :=
  fun s hs => (h s hs).bind hf

theorem stays_get {f : σ → EStateM ε σ β} (hf : ∀ s, Stays I E (f s)) : Stays I E (get >>= f) := by
  intro s hs
  rw [run_get_bind]
  exact hf s s hs

end Stays

/-! ## §5. Without a state. -/

theorem except_bind_eq_ok {x : Except ε α} {f : α → Except ε β} {b : β} :
    (x >>= f) = .ok b ↔ ∃ a, x = .ok a ∧ f a = .ok b := by
  cases x with
  | ok a =>
      constructor
      · intro h
        exact ⟨a, rfl, h⟩
      · rintro ⟨a', ha, h⟩
        cases ha
        exact h
  | error e =>
      constructor
      · intro h
        cases h
      · rintro ⟨a, ha, -⟩
        cases ha

theorem except_bind_eq_error {x : Except ε α} {f : α → Except ε β} {e : ε} :
    (x >>= f) = .error e ↔ x = .error e ∨ ∃ a, x = .ok a ∧ f a = .error e := by
  cases x with
  | ok a =>
      constructor
      · intro h
        exact .inr ⟨a, rfl, h⟩
      · rintro (h | ⟨a', ha, h⟩)
        · cases h
        · cases ha
          exact h
  | error e' =>
      constructor
      · intro h
        cases h
        exact .inl rfl
      · rintro (h | ⟨a, ha, -⟩)
        · cases h
          rfl
        · cases ha

/-- The program does not stop with this error. -/
def Avoids (e : ε) (x : Except ε α) : Prop := x ≠ .error e

theorem avoids_ok (e : ε) (a : α) : Avoids e (.ok a) := nofun

theorem avoids_error {e e' : ε} (h : e' ≠ e) : Avoids e (.error e' : Except ε α) := fun heq =>
  h (Except.error.inj heq)

/-- **Sequencing**: each step avoids the error where it is reached. -/
theorem avoids_bind {e : ε} {x : Except ε α} {f : α → Except ε β} (hx : Avoids e x)
    (hf : ∀ a, x = .ok a → Avoids e (f a)) : Avoids e (x >>= f) := by
  intro h
  rcases except_bind_eq_error.mp h with h | ⟨a, ha, h⟩
  · exact hx h
  · exact hf a ha h

/-- The program comes to its end, with a result of this kind. -/
def Ends (x : Except ε α) (P : α → Prop) : Prop := ∃ a, x = .ok a ∧ P a

section Ends

variable {x : Except ε α} {f : α → Except ε β} {P P' : α → Prop} {Q : β → Prop}

theorem ends_ok {a : α} (h : P a) : Ends (.ok a : Except ε α) P := ⟨a, rfl, h⟩

/-- **Sequencing**: each step comes to its end where it is reached. -/
theorem Ends.bind (hx : Ends x P) (hf : ∀ a, P a → Ends (f a) Q) : Ends (x >>= f) Q := by
  obtain ⟨a, rfl, ha⟩ := hx
  exact hf a ha

theorem Ends.mono (hx : Ends x P) (h : ∀ a, P a → P' a) : Ends x P' := by
  obtain ⟨a, hrun, ha⟩ := hx
  exact ⟨a, hrun, h a ha⟩

end Ends

theorem toOption_eq_some {x : Except ε α} {a : α} : x.toOption = some a ↔ x = .ok a := by
  cases x with
  | ok b =>
      show some b = some a ↔ _
      rw [Option.some.injEq, Except.ok.injEq]
  | error e => exact iff_of_false nofun nofun

/-- The step of a machine that takes an event on a condition and then runs a handler. -/
theorem guarded_eq_some {p : Prop} [Decidable p] {x : Except ε α} {a : α} :
    (if p then x.toOption else none) = some a ↔ p ∧ x = .ok a := by
  split
  next hp => rw [toOption_eq_some, and_iff_right hp]
  next hp => exact iff_of_false nofun fun h => hp h.1

end Lib.StateRun
