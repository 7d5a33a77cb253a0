/-
  FlutterWlroots.Tasks.TaskSchedule — what the scheduler wakes up for.

  `enginePlatformTaskQueueSchedule_eq` is the specification of the loop: on any list it computes the
  minimum of the target times.  `schedules_iff` then says exactly when the wake-up requested is the
  one the queue needs.  Three things go wrong, none of them on a short queue of near tasks:

    • a first task at 65535 ns is taken for "no task",
    • a delay of 2^31 ms or more does not fit the `int` of the timer,
    • for an empty queue the sentinel is treated as a target time, so that a timer may be armed.
-/
import FlutterWlroots.Tasks.TaskQueue

namespace FlutterWlroots.Tasks

open Lib Lib.CInt Lib.LinkedList

/-! ## §1. The first target time. -/

/-- The fold the loop computes. -/
def firstTime (tasks : List FwrRenderTask) (first : UInt64) : UInt64 :=
  tasks.foldl (fun first r => if r.targetTime < first then r.targetTime else first) first

@[simp] theorem firstTime_nil (first : UInt64) : firstTime [] first = first := rfl

@[simp] theorem firstTime_cons (r : FwrRenderTask) (tasks : List FwrRenderTask) (first : UInt64) :
    firstTime (r :: tasks) first =
      firstTime tasks (if r.targetTime < first then r.targetTime else first) := rfl

/-- The loop on a list. -/
theorem firstTaskNs_eq {heap : Heap FwrRenderTask} {a : Option Nat}
    {cells : List (Nat × FwrRenderTask)} (h : IsList heap a cells) {fuel : Nat}
    (hfuel : cells.length ≤ fuel) (first : UInt64) :
    firstTaskNs heap fuel a first = some (firstTime (values cells) first) := by
  induction cells generalizing a fuel first with
  | nil =>
      cases h
      cases fuel <;> rfl
  | cons cell cells ih =>
      cases h with
      | @cons p n _ _ hp hs =>
          cases fuel with
          | zero => cases hfuel
          | succ fuel =>
              rw [firstTaskNs, hp]
              exact ih hs (Nat.le_of_succ_le_succ hfuel) _

/-- **The scheduler on a list of tasks.** -/
theorem enginePlatformTaskQueueSchedule_eq {heap : Heap FwrRenderTask} {a : Option Nat}
    {cells : List (Nat × FwrRenderTask)} (h : IsList heap a cells) (now : UInt64) :
    enginePlatformTaskQueueSchedule heap a now =
      some (wakeupFor (firstTime (values cells) 0xFFFFFFFFFFFFFFFF) now) := by
  rw [enginePlatformTaskQueueSchedule, firstTaskNs_eq h h.length_le]
  rfl

/-- `m` is the smallest target time. -/
def IsFirstTime (tasks : List FwrRenderTask) (m : UInt64) : Prop :=
  (∃ r ∈ tasks, r.targetTime = m) ∧ ∀ r ∈ tasks, m ≤ r.targetTime

theorem firstTime_le (tasks : List FwrRenderTask) (first : UInt64) :
    firstTime tasks first ≤ first ∧ ∀ r ∈ tasks, firstTime tasks first ≤ r.targetTime := by
  induction tasks generalizing first with
  | nil => exact ⟨UInt64.le_refl _, nofun⟩
  | cons r tasks ih =>
      rw [firstTime_cons]
      obtain ⟨hle, hall⟩ := ih (if r.targetTime < first then r.targetTime else first)
      split at hle
      case isTrue hlt =>
        rw [if_pos hlt] at hall ⊢
        refine ⟨UInt64.le_trans hle (UInt64.le_of_lt hlt), fun x hx => ?_⟩
        rcases List.mem_cons.mp hx with rfl | hx
        · exact hle
        · exact hall x hx
      case isFalse hge =>
        rw [if_neg hge] at hall ⊢
        refine ⟨hle, fun x hx => ?_⟩
        rcases List.mem_cons.mp hx with rfl | hx
        · exact UInt64.le_trans hle (UInt64.not_lt.mp hge)
        · exact hall x hx

theorem firstTime_mem (tasks : List FwrRenderTask) (first : UInt64) :
    firstTime tasks first = first ∨ ∃ r ∈ tasks, r.targetTime = firstTime tasks first := by
  induction tasks generalizing first with
  | nil => exact .inl rfl
  | cons r tasks ih =>
      rw [firstTime_cons]
      rcases ih (if r.targetTime < first then r.targetTime else first) with heq | ⟨x, hx, heq⟩
      · rw [heq]
        split
        · exact .inr ⟨r, List.mem_cons_self, rfl⟩
        · exact .inl rfl
      · exact .inr ⟨x, List.mem_cons_of_mem r hx, heq⟩

/-- From the sentinel the fold computes the minimum. -/
theorem IsFirstTime.firstTime_eq {tasks : List FwrRenderTask} {m : UInt64}
    (h : IsFirstTime tasks m) : firstTime tasks 0xFFFFFFFFFFFFFFFF = m := by
  obtain ⟨⟨r, hr, rfl⟩, hmin⟩ := h
  apply UInt64.le_antisymm ((firstTime_le _ _).2 r hr)
  rcases firstTime_mem tasks 0xFFFFFFFFFFFFFFFF with heq | ⟨x, hx, heq⟩
  · rw [heq, UInt64.le_iff_toNat_le]
    exact Nat.le_of_lt_succ r.targetTime.toNat_lt
  · rw [← heq]
    exact hmin x hx

theorem exists_isFirstTime {tasks : List FwrRenderTask} (h : tasks ≠ []) :
    ∃ m, IsFirstTime tasks m := by
  obtain ⟨r, tasks, rfl⟩ := List.exists_cons_of_ne_nil h
  refine ⟨firstTime tasks r.targetTime, ?_, ?_⟩
  · rcases firstTime_mem tasks r.targetTime with heq | ⟨x, hx, heq⟩
    · exact ⟨r, List.mem_cons_self, heq.symm⟩
    · exact ⟨x, List.mem_cons_of_mem r hx, heq⟩
  · intro x hx
    rcases List.mem_cons.mp hx with rfl | hx
    · exact (firstTime_le _ _).1
    · exact (firstTime_le _ _).2 x hx

/-! ## §2. The wake-up. -/

/-- The wake-up a queue needs at a clock reading: the eventfd for a task whose time has come, the
    timer with the right number of milliseconds for one whose time has not, and nothing for an
    empty queue. -/
structure Wakes (tasks : List FwrRenderTask) (now : UInt64) (w : Wakeup) : Prop where
  reached : ∀ m, IsFirstTime tasks m → m ≤ now → w.notified = true
  ahead : ∀ m, IsFirstTime tasks m → now < m →
    ∃ d, w.Armed d ∧ d < 2 ^ 31 ∧ (m.toNat : Int) < now.toNat + d * 1000000 ∧
      now.toNat + (d - 1) * 1000000 ≤ (m.toNat : Int)
  empty : tasks = [] → w.notified = false ∧ ∀ d, ¬ w.Armed d

/-- A first target time that is not mistaken for "no task" and whose delay fits the timer. -/
def TimeFits (now m : UInt64) : Prop :=
  m ≠ 65535 ∧ (now < m → (m.toNat - now.toNat) / 1000000 + 1 < 2 ^ 31)

instance (now m : UInt64) : Decidable (TimeFits now m) := inferInstanceAs (Decidable (_ ∧ _))

/-- The clock readings at which the delay from now to the sentinel happens to disarm the timer. -/
def SentinelDisarms (now : UInt64) : Prop :=
  if now.toNat < 2 ^ 63 then
    1 ≤ (now.toNat + 1) / 1000000 ∧ ((now.toNat + 1) / 1000000 - 1) % 2 ^ 32 ≤ 2 ^ 31
  else
    now.toNat ≠ 2 ^ 64 - 1 ∧
      (((2 ^ 64 - 1 - now.toNat) / 1000000 + 1) % 2 ^ 32 = 0 ∨
        2 ^ 31 ≤ ((2 ^ 64 - 1 - now.toNat) / 1000000 + 1) % 2 ^ 32)

/-- The condition under which the scheduler serves a queue. -/
structure Schedulable (tasks : List FwrRenderTask) (now : UInt64) : Prop where
  first : ∀ m, IsFirstTime tasks m → TimeFits now m
  empty : tasks = [] → SentinelDisarms now

theorem wakeupFor_reached {first now : UInt64} (h : first ≠ 65535) (hle : first ≤ now) :
    wakeupFor first now = ⟨true, some 0⟩ := by
  rw [wakeupFor, if_pos h, if_pos hle]

/-- The timer update for a target time ahead. -/
theorem wakeupFor_ahead {first now : UInt64} (h : first ≠ 65535) (hlt : now < first) :
    wakeupFor first now =
      ⟨false, some (toInt32
        (Int.tdiv (toInt64 ((first.toNat - now.toNat : Nat) : Int)) 1000000 + 1))⟩ := by
  rw [wakeupFor, if_pos h, if_neg (UInt64.not_le.mpr hlt),
    UInt64.toNat_sub_of_le _ _ (UInt64.le_of_lt hlt)]

theorem wakeupFor_notime (now : UInt64) : wakeupFor 65535 now = .none :=
  if_neg (not_not_intro rfl)

theorem not_armed_none (d : Int) : ¬ Wakeup.none.Armed d := nofun

theorem not_armed_update_iff (notified : Bool) (x : Int) :
    (∀ d, ¬ (Wakeup.mk notified (some x)).Armed d) ↔ x ≤ 0 := by
  constructor
  · intro h
    exact Int.not_lt.mp fun hpos => h x ⟨rfl, hpos⟩
  · rintro h d ⟨heq, hpos⟩
    cases heq
    exact Int.not_lt.mpr h hpos

/-- For a target time ahead, the delay is right exactly if it fits. -/
theorem armed_ahead_iff {m now : UInt64} (h : m ≠ 65535) (hlt : now < m) :
    (∃ d, (wakeupFor m now).Armed d ∧ d < 2 ^ 31 ∧ (m.toNat : Int) < now.toNat + d * 1000000 ∧
      now.toNat + (d - 1) * 1000000 ≤ (m.toNat : Int)) ↔
    (m.toNat - now.toNat) / 1000000 + 1 < 2 ^ 31 := by
  have hlt' : now.toNat < m.toNat := UInt64.lt_iff_toNat_lt.mp hlt
  constructor
  · -- there is only one delay with these bounds
    rintro ⟨d, -, hd, hub, hlb⟩
    omega
  · intro hfits
    have hdelay : toInt32 (Int.tdiv (toInt64 ((m.toNat - now.toNat : Nat) : Int)) 1000000 + 1) =
        ((m.toNat - now.toNat) / 1000000 + 1 : Nat) := by
      rw [toInt64_of_lt (by omega), ← toInt32_of_lt hfits]
      rfl
    refine ⟨((m.toNat - now.toNat) / 1000000 + 1 : Nat), ⟨?_, ?_⟩, ?_, ?_, ?_⟩
    · rw [wakeupFor_ahead h hlt, hdelay]
    all_goals omega

/-- The delay to the sentinel is no delay exactly at the clock readings `SentinelDisarms`. -/
theorem sentinel_disarms_iff {now : UInt64} (hlt : now < 0xFFFFFFFFFFFFFFFF) :
    (∀ d, ¬ (wakeupFor 0xFFFFFFFFFFFFFFFF now).Armed d) ↔ SentinelDisarms now := by
  have hne : now.toNat ≠ 2 ^ 64 - 1 := Nat.ne_of_lt (UInt64.lt_iff_toNat_lt.mp hlt)
  have hlt64 : now.toNat < 2 ^ 64 := now.toNat_lt
  have hmax : (0xFFFFFFFFFFFFFFFF : UInt64).toNat = 2 ^ 64 - 1 := rfl
  rw [wakeupFor_ahead (by decide) hlt, hmax, not_armed_update_iff, toInt32_nonpos_iff,
    SentinelDisarms]
  -- in the first half of the range the distance to the sentinel is negative as an `int64_t`
  split
  case isTrue h =>
    rw [toInt64_of_ge (by omega) (by omega), Int.neg_tdiv]
    have hdiv : Int.tdiv ((2 ^ 64 - (2 ^ 64 - 1 - now.toNat) : Nat) : Int) 1000000 =
        ((now.toNat + 1) / 1000000 : Nat) := by
      rw [show 2 ^ 64 - (2 ^ 64 - 1 - now.toNat) = now.toNat + 1 by omega]
      rfl
    rw [hdiv]
    omega
  case isFalse h =>
    rw [toInt64_of_lt (by omega)]
    have hdiv : Int.tdiv ((2 ^ 64 - 1 - now.toNat : Nat) : Int) 1000000 =
        ((2 ^ 64 - 1 - now.toNat) / 1000000 : Nat) := rfl
    rw [hdiv]
    omega

/-! ## §3. When the wake-up is right. -/

variable {heap : Heap FwrRenderTask} {a : Option Nat} {cells : List (Nat × FwrRenderTask)}

theorem not_isFirstTime_nil (m : UInt64) : ¬ IsFirstTime [] m := nofun

/-- A queue with a first task. -/
theorem wakes_iff_timeFits {tasks : List FwrRenderTask} {m : UInt64} (hm : IsFirstTime tasks m)
    (now : UInt64) : Wakes tasks now (wakeupFor m now) ↔ TimeFits now m := by
  by_cases hne : m = 65535
  · -- taken for "no task"
    subst hne
    rw [wakeupFor_notime]
    refine ⟨fun h => ?_, fun h => absurd rfl h.1⟩
    by_cases hle : (65535 : UInt64) ≤ now
    · cases h.reached _ hm hle
    · obtain ⟨d, harmed, -⟩ := h.ahead _ hm (UInt64.not_le.mp hle)
      exact absurd harmed (not_armed_none d)
  · constructor
    · exact fun h => ⟨hne, fun hlt => (armed_ahead_iff hne hlt).mp (h.ahead _ hm hlt)⟩
    · intro h
      have hunique : ∀ m', IsFirstTime tasks m' → m' = m := fun m' hm' =>
        hm'.firstTime_eq.symm.trans hm.firstTime_eq
      refine ⟨fun m' hm' hle => ?_, fun m' hm' hlt => ?_, fun hnil => ?_⟩
      · rw [hunique m' hm'] at hle
        rw [wakeupFor_reached hne hle]
      · rw [hunique m' hm'] at hlt ⊢
        exact (armed_ahead_iff hne hlt).mpr (h.2 hlt)
      · subst hnil
        exact absurd hm (not_isFirstTime_nil m)

/-- An empty queue. -/
theorem wakes_nil_iff (now : UInt64) :
    Wakes [] now (wakeupFor 0xFFFFFFFFFFFFFFFF now) ↔ SentinelDisarms now := by
  have hiff : Wakes [] now (wakeupFor 0xFFFFFFFFFFFFFFFF now) ↔
      (wakeupFor 0xFFFFFFFFFFFFFFFF now).notified = false ∧
        ∀ d, ¬ (wakeupFor 0xFFFFFFFFFFFFFFFF now).Armed d :=
    ⟨fun h => h.empty rfl, fun h =>
      ⟨fun m hm => absurd hm (not_isFirstTime_nil m), fun m hm => absurd hm (not_isFirstTime_nil m),
        fun _ => h⟩⟩
  rw [hiff]
  by_cases hle : (0xFFFFFFFFFFFFFFFF : UInt64) ≤ now
  · -- the sentinel itself is reached
    have hmax : 2 ^ 64 - 1 ≤ now.toNat := UInt64.le_iff_toNat_le.mp hle
    have hlt64 : now.toNat < 2 ^ 64 := now.toNat_lt
    rw [wakeupFor_reached (by decide) hle, SentinelDisarms, if_neg (by omega)]
    exact ⟨fun h => (nomatch h.1), fun h => absurd (by omega) h.1⟩
  · have hlt := UInt64.not_le.mp hle
    rw [sentinel_disarms_iff hlt, wakeupFor_ahead (by decide) hlt]
    exact ⟨And.right, fun h => ⟨rfl, h⟩⟩

/-- **When the scheduler requests the wake-up the queue needs.**  Exactly if the first target time
    is not 65535 ns and its delay is below 2^31 ms, or, for an empty queue, if the delay to the
    sentinel is not a positive `int`. -/
theorem schedules_iff (h : IsList heap a cells) (now : UInt64) :
    (∃ w, enginePlatformTaskQueueSchedule heap a now = some w ∧ Wakes (values cells) now w) ↔
      Schedulable (values cells) now := by
  rw [enginePlatformTaskQueueSchedule_eq h]
  simp only [Option.some.injEq, exists_eq_left']
  by_cases hnil : values cells = []
  · rw [hnil, firstTime_nil, wakes_nil_iff]
    exact ⟨fun h => ⟨fun m hm => absurd hm (not_isFirstTime_nil m), fun _ => h⟩,
      fun h => h.empty rfl⟩
  · obtain ⟨m, hm⟩ := exists_isFirstTime hnil
    rw [hm.firstTime_eq, wakes_iff_timeFits hm]
    refine ⟨fun h => ⟨fun m' hm' => ?_, fun h => absurd h hnil⟩, fun h => h.first m hm⟩
    rw [← hm'.firstTime_eq, hm.firstTime_eq]
    exact h

/-- Two tasks, due in half a second and in a fifth of one: the timer is armed with 201 ms. -/
theorem schedules_iff_pair :
    ∃ w, enginePlatformTaskQueueSchedule
        (((∅ : Heap FwrRenderTask).insert 1 ⟨⟨⟨0, 1⟩, 1200000000, ⟨0, 0, 0⟩⟩, none⟩).insert 2
          ⟨⟨⟨0, 2⟩, 1500000000, ⟨0, 0, 0⟩⟩, some 1⟩) (some 2) 1000000000 = some w ∧
      Wakes [⟨⟨0, 2⟩, 1500000000, ⟨0, 0, 0⟩⟩, ⟨⟨0, 1⟩, 1200000000, ⟨0, 0, 0⟩⟩] 1000000000 w := by
  have hlist : IsList
      (((∅ : Heap FwrRenderTask).insert 1 ⟨⟨⟨0, 1⟩, 1200000000, ⟨0, 0, 0⟩⟩, none⟩).insert 2
        ⟨⟨⟨0, 2⟩, 1500000000, ⟨0, 0, 0⟩⟩, some 1⟩) (some 2)
      [(2, ⟨⟨0, 2⟩, 1500000000, ⟨0, 0, 0⟩⟩), (1, ⟨⟨0, 1⟩, 1200000000, ⟨0, 0, 0⟩⟩)] :=
    ((IsSeg.nil none).push List.not_mem_nil _).push (by decide) _
  refine (schedules_iff hlist _).mpr ⟨fun m hm => ?_, nofun⟩
  rw [← hm.firstTime_eq]
  decide

/-- **The timer of an idle system is armed.**  Thirty days after boot, an empty queue asks to be
    woken up in 1702967297 ms. -/
theorem not_schedules_empty :
    ¬ ∃ w, enginePlatformTaskQueueSchedule ∅ none 2592000000000000 = some w ∧
      Wakes [] 2592000000000000 w := by
  rintro ⟨w, hw, h⟩
  have hrun : enginePlatformTaskQueueSchedule ∅ none 2592000000000000 =
      some ⟨false, some 1702967297⟩ := by decide +kernel
  rw [hrun, Option.some.injEq] at hw
  subst hw
  exact (h.empty rfl).2 1702967297 ⟨rfl, by decide⟩

end FlutterWlroots.Tasks
