/-
  FlutterWlroots.Lib.Scanner — readers that walk over a buffer.

  A reader is a program for every buffer; its state is the offset it has come to.  `Scans` collects
  what makes a reader safe on input that nobody has checked:

    • `moves`, `stops` — it only goes forward, never past the end, and stops only by refusing,
    • `locally`        — bytes before its start do not matter,
    • `whole`, `cut`   — what it has read it reads again, whatever follows; cut short, it refuses.

  A value can have a cost, a number of bytes that reading it takes at least.  A recursive reader with
  fuel is safe while the rest of the buffer is within its budget, and what is read is paid for from
  the budget.  `Scans.bind` is the rule for sequences; all properties go through it together.
-/
import FlutterWlroots.Lib.StateRun

namespace Lib.Scanner

open Lib.StateRun

/-- The buffers have the same bytes from `o` to `o'`. -/
def AgreeOn (b b' : List UInt8) (o o' : Nat) : Prop := ∀ i, o ≤ i → i < o' → b'[i]? = b[i]?

theorem AgreeOn.mono {b b' : List UInt8} {o o' p p' : Nat} (h : AgreeOn b b' o o') (hp : o ≤ p)
    (hp' : p' ≤ o') : AgreeOn b b' p p' := fun i hi hi' => h i (by omega) (by omega)

theorem AgreeOn.symm {b b' : List UInt8} {o o' : Nat} (h : AgreeOn b b' o o') :
    AgreeOn b' b o o' := fun i hi hi' => (h i hi hi').symm

theorem AgreeOn.refl (b : List UInt8) (o o' : Nat) : AgreeOn b b o o' := fun _ _ _ => rfl

/-- The bytes read from where two buffers agree. -/
theorem AgreeOn.take_drop {b b' : List UInt8} {o n : Nat} (h : AgreeOn b b' o (o + n)) :
    (b'.drop o).take n = (b.drop o).take n := by
  apply List.ext_getElem?
  intro i
  rw [List.getElem?_take, List.getElem?_take]
  split
  next hi => rw [List.getElem?_drop, List.getElem?_drop, h (o + i) (by omega) (by omega)]
  next => rfl

/-- A program for every buffer. -/
abbrev Reader (ε α : Type) := List UInt8 → EStateM ε Nat α

/-! ## §1. Safe readers. -/

section Scans

variable {ε α β : Type} {refuse : ε} {budget : Nat} {cost : α → Nat} {m : Reader ε α}

structure Scans (refuse : ε) (budget : Nat) (cost : α → Nat) (m : Reader ε α) : Prop where
  moves : ∀ b o a o', o ≤ b.length → (m b).run o = .ok a o' → o + cost a ≤ o' ∧ o' ≤ b.length
  stops : ∀ b o e o', o ≤ b.length → b.length < o + budget → (m b).run o = .error e o' →
    e = refuse ∧ o ≤ o' ∧ o' ≤ b.length
  locally : ∀ b b' o, o ≤ b.length → b'.length = b.length → AgreeOn b b' o b.length →
    (m b').run o = (m b).run o
  whole : ∀ b b' o a o', o ≤ b.length → (m b).run o = .ok a o' → o' ≤ b'.length →
    AgreeOn b b' o o' → (m b').run o = .ok a o'
  cut : ∀ b b' o a o', o ≤ b.length → (m b).run o = .ok a o' → o ≤ b'.length → b'.length < o' →
    AgreeOn b b' o b'.length → ∃ o'', (m b').run o = .error refuse o''

namespace Scans

/-- A smaller budget and lower costs. -/
theorem weaken {budget' : Nat} {cost' : α → Nat} (h : Scans refuse budget cost m)
    (hbudget : budget' ≤ budget) (hcost : ∀ a, cost' a ≤ cost a) :
    Scans refuse budget' cost' m where
  moves := fun b o a o' ho hm => by
    obtain ⟨hle, hlen⟩ := h.moves b o a o' ho hm
    exact ⟨Nat.le_trans (Nat.add_le_add_left (hcost a) o) hle, hlen⟩
  stops := fun b o e o' ho hb hm => h.stops b o e o' ho (by omega) hm
  locally := h.locally
  whole := h.whole
  cut := h.cut

/-- Readers that do the same from every offset within the buffer. -/
theorem congr {m' : Reader ε α} (h : Scans refuse budget cost m)
    (heq : ∀ b o, o ≤ b.length → (m' b).run o = (m b).run o) : Scans refuse budget cost m' where
  moves := fun b o a o' ho hm => h.moves b o a o' ho (by rw [← heq b o ho, hm])
  stops := fun b o e o' ho hb hm => h.stops b o e o' ho hb (by rw [← heq b o ho, hm])
  locally := fun b b' o ho hlen hagree => by
    rw [heq b o ho, heq b' o (by omega), h.locally b b' o ho hlen hagree]
  whole := fun b b' o a o' ho hm hlen hagree => by
    rw [heq b o ho] at hm
    obtain ⟨hle, -⟩ := h.moves b o a o' ho hm
    rw [heq b' o (by omega), h.whole b b' o a o' ho hm hlen hagree]
  cut := fun b b' o a o' ho hm hb' hlt hagree => by
    rw [heq b o ho] at hm
    rw [heq b' o hb']
    exact h.cut b b' o a o' ho hm hb' hlt hagree

/-- Nothing read. -/
theorem pure (a : α) (h : cost a = 0) : Scans refuse budget cost fun _ => Pure.pure a where
  moves := fun b o a' o' ho hm => by
    obtain ⟨rfl, rfl⟩ := run_pure_eq_ok.mp hm
    rw [h]
    exact ⟨Nat.le_refl o, ho⟩
  stops := fun b o e o' ho hb hm => by
    rw [EStateM.run_pure] at hm
    cases hm
  locally := fun _ _ _ _ _ _ => rfl
  whole := fun b b' o a' o' ho hm hlen hagree => hm
  cut := fun b b' o a' o' ho hm hb' hlt hagree => by
    obtain ⟨-, rfl⟩ := run_pure_eq_ok.mp hm
    omega

/-- The input refused. -/
theorem throw (e : ε) (h : 0 < budget → e = refuse) :
    Scans refuse budget cost fun _ => MonadExcept.throw e where
  moves := fun b o a o' ho hm => (run_throw_eq_ok.mp hm).elim
  stops := fun b o e' o' ho hb hm => by
    rw [run_throw] at hm
    cases hm
    exact ⟨h (by omega), Nat.le_refl o, ho⟩
  locally := fun _ _ _ _ _ _ => rfl
  whole := fun b b' o a o' ho hm hlen hagree => (run_throw_eq_ok.mp hm).elim
  cut := fun b b' o a o' ho hm hb' hlt hagree => (run_throw_eq_ok.mp hm).elim

/-- **Sequencing.**  The second reader has what the first one has left of the budget, and both
    together pay for the value. -/
theorem bind {cost' : β → Nat} {f : α → Reader ε β} (h : Scans refuse budget cost m)
    (hf : ∀ a, Scans refuse (budget - cost a) (fun b => cost' b - cost a) (f a)) :
    Scans refuse budget cost' fun b => m b >>= fun a => f a b where
  moves := fun b o v o' ho hm => by
    obtain ⟨a, o1, h1, h2⟩ := run_bind_eq_ok.mp hm
    obtain ⟨hle1, hlen1⟩ := h.moves b o a o1 ho h1
    obtain ⟨hle2, hlen2⟩ := (hf a).moves b o1 v o' hlen1 h2
    exact ⟨by omega, hlen2⟩
  stops := fun b o e o' ho hb hm => by
    rw [EStateM.run_bind] at hm
    cases h1 : (m b).run o with
    | ok a o1 =>
        rw [h1] at hm
        obtain ⟨hle1, hlen1⟩ := h.moves b o a o1 ho h1
        obtain ⟨he, hle2, hlen2⟩ := (hf a).stops b o1 e o' hlen1 (by omega) hm
        exact ⟨he, by omega, hlen2⟩
    | error e1 o1 =>
        rw [h1] at hm
        cases hm
        exact h.stops b o e o' ho hb h1
  locally := fun b b' o ho hlen hagree => by
    rw [EStateM.run_bind, EStateM.run_bind, h.locally b b' o ho hlen hagree]
    cases h1 : (m b).run o with
    | ok a o1 =>
        obtain ⟨hle1, hlen1⟩ := h.moves b o a o1 ho h1
        exact (hf a).locally b b' o1 hlen1 hlen (hagree.mono (by omega) (Nat.le_refl _))
    | error e1 o1 => rfl
  whole := fun b b' o v o' ho hm hlen hagree => by
    obtain ⟨a, o1, h1, h2⟩ := run_bind_eq_ok.mp hm
    obtain ⟨hle1, hlen1⟩ := h.moves b o a o1 ho h1
    obtain ⟨hle2, -⟩ := (hf a).moves b o1 v o' hlen1 h2
    rw [run_bind_ok (h.whole b b' o a o1 ho h1 (by omega)
      (hagree.mono (Nat.le_refl _) (by omega)))]
    exact (hf a).whole b b' o1 v o' hlen1 h2 hlen (hagree.mono (by omega) (Nat.le_refl _))
  cut := fun b b' o v o' ho hm hb' hlt hagree => by
    obtain ⟨a, o1, h1, h2⟩ := run_bind_eq_ok.mp hm
    obtain ⟨hle1, hlen1⟩ := h.moves b o a o1 ho h1
    by_cases hcut : b'.length < o1
    -- the first reader is cut already
    · obtain ⟨o'', hrefused⟩ := h.cut b b' o a o1 ho h1 hb' hcut hagree
      exact ⟨o'', run_bind_error hrefused⟩
    -- the first reader is done, so the second one is
    · have hfirst := h.whole b b' o a o1 ho h1 (by omega)
        (hagree.mono (Nat.le_refl _) (by omega))
      rw [run_bind_ok hfirst]
      exact (hf a).cut b b' o1 v o' hlen1 h2 (by omega) hlt
        (hagree.mono (by omega) (Nat.le_refl _))

end Scans

end Scans

/-! ## §2. Bytes. -/

section Take

variable {ε α : Type} {refuse : ε} {budget : Nat}

/-- The next bytes, if there are enough; how many may depend on the offset. -/
def take (refuse : ε) (n : Nat → Nat) : Reader ε (List UInt8) := fun b => do
  let o ← get
  if b.length - o < n o then throw refuse
  else do
    set (o + n o)
    return (b.drop o).take (n o)

variable {n : Nat → Nat} {b : List UInt8} {o : Nat}

theorem take_run_ok (h : o + n o ≤ b.length) :
    (take refuse n b).run o = .ok ((b.drop o).take (n o)) (o + n o) := by
  rw [take, run_get_bind, if_neg (by omega), run_set_bind, EStateM.run_pure]

theorem take_run_error (h : b.length < o + n o) (ho : o ≤ b.length) :
    (take refuse n b).run o = .error refuse o := by
  rw [take, run_get_bind, if_pos (by omega), run_throw]

theorem take_eq_ok {bs : List UInt8} {o' : Nat} (ho : o ≤ b.length)
    (h : (take refuse n b).run o = .ok bs o') :
    o + n o ≤ b.length ∧ bs = (b.drop o).take (n o) ∧ o' = o + n o := by
  rcases Nat.lt_or_ge b.length (o + n o) with hlt | hle
  · rw [take_run_error hlt ho] at h
    cases h
  · rw [take_run_ok hle] at h
    cases h
    exact ⟨hle, rfl, rfl⟩

/-- **Taking bytes is safe**, and pays for the bytes taken. -/
theorem scans_take (refuse : ε) {n : Nat → Nat} {c : Nat} (hc : ∀ o, c ≤ n o) :
    Scans refuse budget (fun _ => c) (take refuse n) where
  moves := fun b o bs o' ho hm => by
    obtain ⟨hle, rfl, rfl⟩ := take_eq_ok ho hm
    exact ⟨Nat.add_le_add_left (hc o) o, hle⟩
  stops := fun b o e o' ho hb hm => by
    rcases Nat.lt_or_ge b.length (o + n o) with hlt | hle
    · rw [take_run_error hlt ho] at hm
      cases hm
      exact ⟨rfl, Nat.le_refl o, ho⟩
    · rw [take_run_ok hle] at hm
      cases hm
  locally := fun b b' o ho hlen hagree => by
    rcases Nat.lt_or_ge b.length (o + n o) with hlt | hle
    · rw [take_run_error hlt ho, take_run_error (by omega) (by omega)]
    · rw [take_run_ok hle, take_run_ok (by omega),
        (hagree.mono (Nat.le_refl o) hle).take_drop]
  whole := fun b b' o bs o' ho hm hlen hagree => by
    obtain ⟨hle, rfl, rfl⟩ := take_eq_ok ho hm
    rw [take_run_ok hlen, hagree.take_drop]
  cut := fun b b' o bs o' ho hm hb' hlt hagree => by
    obtain ⟨hle, rfl, rfl⟩ := take_eq_ok ho hm
    exact ⟨o, take_run_error hlt hb'⟩

end Take

/-! ## §3. Fuel. -/

section Fuel

variable {ε σ α β : Type} {stuck : ε}

/-- `m'` does what `m` does unless `m` is stuck. -/
def Continues (stuck : ε) (m m' : EStateM ε σ α) : Prop :=
  ∀ o, m'.run o = m.run o ∨ ∃ o', m.run o = .error stuck o'

theorem Continues.refl (m : EStateM ε σ α) : Continues stuck m m := fun _ => .inl rfl

theorem Continues.of_stuck (m : EStateM ε σ α) : Continues stuck (throw stuck) m :=
  fun o => .inr ⟨o, rfl⟩

theorem Continues.bind {m m' : EStateM ε σ α} {f f' : α → EStateM ε σ β}
    (h : Continues stuck m m') (hf : ∀ a, Continues stuck (f a) (f' a)) :
    Continues stuck (m >>= f) (m' >>= f') := by
  intro o
  rw [EStateM.run_bind, EStateM.run_bind]
  rcases h o with heq | ⟨o', hstuck⟩
  · rw [heq]
    cases m.run o with
    | ok a o1 => exact hf a o1
    | error e o1 => exact .inl rfl
  · rw [hstuck]
    exact .inr ⟨o', rfl⟩

theorem Continues.trans {m m' m'' : EStateM ε σ α} (h : Continues stuck m m')
    (h' : Continues stuck m' m'') : Continues stuck m m'' := by
  intro o
  rcases h o with heq | hstuck
  · rcases h' o with heq' | hstuck'
    · exact .inl (heq'.trans heq)
    · rw [heq] at hstuck'
      exact .inr hstuck'
  · exact .inr hstuck

/-- More fuel does not change a run that had enough. -/
theorem Continues.of_le {m : Nat → EStateM ε σ α} (h : ∀ n, Continues stuck (m n) (m (n + 1)))
    {n n' : Nat} (hle : n ≤ n') : Continues stuck (m n) (m n') := by
  induction hle with
  | refl => exact .refl _
  | step _ ih => exact ih.trans (h _)

end Fuel

end Lib.Scanner
