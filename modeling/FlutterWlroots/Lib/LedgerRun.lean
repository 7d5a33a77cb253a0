/-
  FlutterWlroots.Lib.LedgerRun — programs that allocate.

  The ledger of live blocks is a part of the state of a program.  `Adds owned x` says that a run of
  `x` that succeeds adds the blocks of its result to the ledger, and `SameRun` compares `x` with the
  program without a ledger:

    • `adds_lift`, `adds_alloc`, `Adds.bind` — along a program,
    • `lift_sameRun`, `alloc_sameRun`        — with the ledger left out.
-/
import FlutterWlroots.Lib.Ledger
import FlutterWlroots.Lib.SameRun

namespace Lib.LedgerRun

open Lib.Ledger Lib.StateRun

/-- A state with the live blocks. -/
structure WithLedger (σ : Type) where
  inner : σ
  live : Finset Nat

abbrev LedgerM (ε σ : Type) := EStateM ε (WithLedger σ)

variable {ε σ α β : Type}

/-- A step that does not allocate. -/
def lift (x : EStateM ε σ α) : LedgerM ε σ α := do
  let h ← get
  match x.run h.inner with
  | .ok v inner => do
      set { h with inner }
      return v
  | .error e inner => do
      set { h with inner }
      throw e

/-- `malloc` or `calloc`. -/
def alloc (a : Allocator) : LedgerM ε σ Nat := do
  let h ← get
  set { h with live := insert (a.next h.live) h.live }
  return a.next h.live

/-- A step after which a block is freed if the step fails. -/
def freeOnError (p : Nat) (x : LedgerM ε σ α) : LedgerM ε σ α := fun h =>
  match x.run h with
  | .ok v h' => .ok v h'
  | .error e h' => .error e { h' with live := h'.live.erase p }

/-- Every run that succeeds allocates the blocks of its result. -/
def Adds (owned : α → List Nat) (x : LedgerM ε σ α) : Prop :=
  ∀ h v h', x.run h = .ok v h' → Allocated (owned v) h.live h'.live

variable {owned : α → List Nat} {owned' : β → List Nat} {x : LedgerM ε σ α}
  {f : α → LedgerM ε σ β} {h h' : WithLedger σ} {v : α}

/-! ## §1. Allocating. -/

theorem run_lift_eq_ok {x : EStateM ε σ α} (hrun : (lift x).run h = .ok v h') :
    x.run h.inner = .ok v h'.inner ∧ h'.live = h.live := by
  unfold lift at hrun
  rw [run_get_bind] at hrun
  cases hx : x.run h.inner with
  | ok w c =>
      rw [hx] at hrun
      cases hrun
      exact ⟨rfl, rfl⟩
  | error e c =>
      rw [hx] at hrun
      cases hrun

theorem adds_lift (x : EStateM ε σ α) : Adds (fun _ => []) (lift x) := by
  intro h v h' hrun
  rw [(run_lift_eq_ok hrun).2]
  exact allocated_nil _

theorem adds_alloc (a : Allocator) :
    Adds (fun p => [p]) (alloc a : LedgerM ε σ Nat) := by
  intro h p h' hrun
  cases hrun
  exact allocated_calloc a h.live

theorem adds_pure (v : α) (hv : owned v = []) :
    Adds owned (pure v : LedgerM ε σ α) := by
  intro h w h' hrun
  obtain ⟨rfl, rfl⟩ := run_pure_eq_ok.mp hrun
  rw [hv]
  exact allocated_nil _

theorem adds_throw (e : ε) : Adds owned (throw e : LedgerM ε σ α) :=
  fun _ _ _ hrun => (run_throw_eq_ok.mp hrun).elim

theorem run_freeOnError (p : Nat) (x : LedgerM ε σ α) (h : WithLedger σ) :
    (freeOnError p x).run h = match x.run h with
      | .ok v h' => .ok v h'
      | .error e h' => .error e { h' with live := h'.live.erase p } := rfl

theorem Adds.freeOnError (hx : Adds owned x) (p : Nat) :
    Adds owned (freeOnError p x) := by
  intro h v h' hrun
  rw [run_freeOnError] at hrun
  cases hx' : x.run h with
  | ok w h₁ =>
      rw [hx'] at hrun
      cases hrun
      exact hx h v h' hx'
  | error e h₁ =>
      rw [hx'] at hrun
      cases hrun

/-- **Sequencing**: the blocks of the first step, and then those of the second one. -/
theorem Adds.bind (hx : Adds owned x)
    (hf : ∀ v h w h', (f v).run h = .ok w h' →
      ∃ more, owned' w = owned v ++ more ∧ Allocated more h.live h'.live) :
    Adds owned' (x >>= f) := by
  intro h w h' hrun
  obtain ⟨v, h₁, hv, hrun⟩ := run_bind_eq_ok.mp hrun
  obtain ⟨more, heq, hmore⟩ := hf v h₁ w h' hrun
  rw [heq]
  exact (hx h v h₁ hv).append hmore

/-! ## §2. The program without a ledger. -/

/-- The states are the same but for the ledger. -/
def SameInner (h : WithLedger σ) (c : σ) : Prop := h.inner = c

theorem lift_sameRun (x : EStateM ε σ α) (h : WithLedger σ) :
    SameRun (lift x) x h h.inner SameInner fun v w h c => v = w ∧ SameInner h c := by
  have hrun : (lift x).run h = match x.run h.inner with
      | .ok v c => .ok v { h with inner := c }
      | .error e c => .error e { h with inner := c } := by
    unfold lift
    rw [run_get_bind]
    cases x.run h.inner with
    | ok v c => rfl
    | error e c => rfl
  cases hx : x.run h.inner with
  | ok v c =>
      rw [hx] at hrun
      exact sameRun_of_ok hrun hx ⟨rfl, rfl⟩
  | error e c =>
      rw [hx] at hrun
      exact sameRun_of_error hrun hx rfl

/-- Allocating leaves the rest alone. -/
theorem alloc_sameRun {a : Allocator} {g : Nat → LedgerM ε σ α} {y : EStateM ε σ β}
    {Q : α → β → WithLedger σ → σ → Prop}
    (hg : ∀ p h', SameRun (g p) y h' h'.inner SameInner Q) :
    SameRun (alloc a >>= g) y h h.inner SameInner Q :=
  SameRun.congr_run rfl rfl
    (hg (a.next h.live) { h with live := insert (a.next h.live) h.live })

theorem freeOnError_sameRun {y : EStateM ε σ β} {Q : α → β → WithLedger σ → σ → Prop} {p : Nat}
    (hx : SameRun x y h h.inner SameInner Q) :
    SameRun (freeOnError p x) y h h.inner SameInner Q := by
  unfold SameRun at *
  rw [run_freeOnError]
  cases hx' : x.run h <;> cases hy : y.run h.inner <;> simp only [hx', hy] at hx ⊢
  · exact hx
  · exact hx

end Lib.LedgerRun
