/-
  FlutterWlroots.Lib.FreshMap — finite maps that choose their own keys.

  The caller of such a map hands in values and gets keys back.  `Step` says what the map may answer
  to a call: a key it gives out is not the null key and not in use, a key in use leads to the value
  it was given out for, and any other key leads to nothing and changes nothing.  `Accepts` extends
  this to runs.

    • `Step.unique`  — the answer determines the entries after the call,
    • `accepts_iff`  — an implementation whose calls are right exactly when `ok` holds of them is
      accepted in exactly the runs whose calls all meet `ok`.
-/
import Mathlib.Logic.Function.Basic

namespace Lib.FreshMap

/-! ## §1. The specification. -/

/-- Calls. -/
inductive Op (K α : Type) where
  | add (value : α)
  | remove (key : K)
  | get (key : K)
  deriving DecidableEq, Repr

/-- Answers. -/
inductive Answer (K α : Type) where
  | added (key : K)
  | removed (found : Bool)
  | got (value : Option α)
  deriving DecidableEq, Repr

variable {K α : Type} [DecidableEq K] {null : K} {m m' m'' : K → Option α} {op : Op K α}
  {a : Answer K α}

/-- A right answer to a call in a map with the entries `m`, and the entries after it. -/
inductive Step (null : K) (m : K → Option α) : Op K α → Answer K α → (K → Option α) → Prop where
  | add {v : α} {k : K} (hnull : k ≠ null) (hfree : m k = none) :
      Step null m (.add v) (.added k) (Function.update m k (some v))
  | remove {k : K} {v : α} (hk : m k = some v) :
      Step null m (.remove k) (.removed true) (Function.update m k none)
  | removeOther {k : K} (hk : m k = none) : Step null m (.remove k) (.removed false) m
  | get {k : K} {v : α} (hk : m k = some v) : Step null m (.get k) (.got (some v)) m
  | getOther {k : K} (hk : m k = none) : Step null m (.get k) (.got none) m

/-- **The answer determines what is in the map afterwards.** -/
theorem Step.unique (h : Step null m op a m') (h' : Step null m op a m'') : m' = m'' := by
  cases h <;> cases h' <;> rfl

/-- Right answers to all calls of a run. -/
inductive Accepts (null : K) : (K → Option α) → List (Op K α) → List (Answer K α) → Prop where
  | nil {m : K → Option α} : Accepts null m [] []
  | cons {m m' : K → Option α} {op : Op K α} {a : Answer K α} {ops : List (Op K α)}
      {as : List (Answer K α)} (h : Step null m op a m') (hs : Accepts null m' ops as) :
      Accepts null m (op :: ops) (a :: as)

/-! ## §2. Implementations. -/

variable {S : Type} (call : S → Op K α → Answer K α × S)

/-- The answers to the calls of a run. -/
def answers : S → List (Op K α) → List (Answer K α)
  | _, [] => []
  | s, op :: ops => (call s op).1 :: answers (call s op).2 ops

/-- The state after a run. -/
def after : S → List (Op K α) → S
  | s, [] => s
  | s, op :: ops => after (call s op).2 ops

/-- Every call of a run meets `ok` in the state it is made in. -/
def Along (ok : S → Op K α → Prop) : S → List (Op K α) → Prop
  | _, [] => True
  | s, op :: ops => ok s op ∧ Along ok (call s op).2 ops

variable {call} {ok : S → Op K α → Prop}

/-- **Refinement rule.**  `ok` is the exact condition for one call, so it is for a run. -/
theorem accepts_iff (entries : S → K → Option α)
    (hright : ∀ s op, ok s op → Step null (entries s) op (call s op).1 (entries (call s op).2))
    (honly : ∀ s op m, Step null (entries s) op (call s op).1 m → ok s op)
    (ops : List (Op K α)) :
    ∀ s, Accepts null (entries s) ops (answers call s ops) ↔ Along call ok s ops := by
  induction ops with
  | nil => exact fun s => ⟨fun _ => trivial, fun _ => .nil⟩
  | cons op ops ih =>
      intro s
      constructor
      · intro h
        cases h with
        | cons h hs =>
            have hok := honly s op _ h
            -- the specification and the implementation agree on the entries after the call
            rw [h.unique (hright s op hok)] at hs
            exact ⟨hok, (ih _).mp hs⟩
      · rintro ⟨hok, hs⟩
        exact .cons (hright s op hok) ((ih _).mpr hs)

omit [DecidableEq K] in
theorem along_append (ops ops' : List (Op K α)) : ∀ s, Along call ok s (ops ++ ops') ↔
    Along call ok s ops ∧ Along call ok (after call s ops) ops' := by
  induction ops with
  | nil => exact fun s => ⟨fun h => ⟨trivial, h⟩, And.right⟩
  | cons op ops ih =>
      intro s
      show _ ∧ Along call ok (call s op).2 (ops ++ ops') ↔ (_ ∧ _) ∧ _
      rw [ih, and_assoc]
      rfl

end Lib.FreshMap
