/-
  FlutterWlroots.Lib.Announcements — a table that is announced entry by entry.

  The table of a receiver changes with announcements: an entry is put under its key, or dropped.
  What comes of the announcements under way is `settle`.

    • `settle_lost` — without the oldest announcements an empty table comes to have less, but
                      nothing else.
-/
import Mathlib.Logic.Function.Basic

namespace Lib

/-- A change of a table. -/
inductive Announcement (Key Value : Type) where
  | put (k : Key) (v : Value)
  | drop (k : Key)

namespace Announcement

variable {Key Value : Type} [DecidableEq Key]

def apply (t : Key → Option Value) : Announcement Key Value → Key → Option Value
  | .put k v => Function.update t k (some v)
  | .drop k => Function.update t k none

/-- The table after a list of announcements. -/
def settle (t : Key → Option Value) (as : List (Announcement Key Value)) : Key → Option Value :=
  as.foldl apply t

variable {t u : Key → Option Value} {as : List (Announcement Key Value)} {k : Key} {v : Value}

theorem settle_append (t : Key → Option Value) (as bs : List (Announcement Key Value)) :
    settle t (as ++ bs) = settle (settle t as) bs := List.foldl_append

theorem apply_mono (h : ∀ k v, t k = some v → u k = some v) (a : Announcement Key Value) :
    ∀ k v, apply t a k = some v → apply u a k = some v := by
  intro k v hk
  cases a with
  | put k' v' =>
      by_cases heq : k = k'
      · subst heq
        rw [apply, Function.update_self] at hk ⊢
        exact hk
      · rw [apply, Function.update_of_ne heq] at hk ⊢
        exact h k v hk
  | drop k' =>
      by_cases heq : k = k'
      · subst heq
        rw [apply, Function.update_self] at hk ⊢
        exact hk
      · rw [apply, Function.update_of_ne heq] at hk ⊢
        exact h k v hk

/-- What a smaller table comes to have, a larger one comes to have. -/
theorem settle_mono (h : ∀ k v, t k = some v → u k = some v) :
    ∀ k v, settle t as k = some v → settle u as k = some v := by
  induction as generalizing t u with
  | nil => exact h
  | cons a as ih => exact ih (apply_mono h a)

/-- **Lost announcements.** -/
theorem settle_lost (t : Key → Option Value) (n : Nat)
    (h : settle (fun _ => none) (as.drop n) k = some v) : settle t as k = some v := by
  rw [← List.take_append_drop n as, settle_append]
  exact settle_mono nofun k v h

end Announcement

end Lib
