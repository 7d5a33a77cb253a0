/-
  FlutterWlroots.Tasks.TaskOrder — the order in which tasks are run.

  A posting pushes a task in front of the queue, and every process call that keeps two tasks turns
  them round, so their order depends on how many calls they have both waited through
  (`passes`): of two tasks, the one posted first stands in front exactly if that number is odd.
  `TaskLists.OrderInv` says this of the queue, of the pending tasks and, turned round, of the kept
  ones; from it follows that tasks run in schedule order as long as, whenever a call detaches the
  queue, the due tasks it finds stand in schedule order.
-/
import FlutterWlroots.Tasks.TaskLists

namespace FlutterWlroots.Tasks

open Lib Lib.LinkedList

/-! ## §1. Passes. -/

/-- The task was posted before the other. -/
def PostedBefore (x y : FwrRenderTask) : Prop := x.ticket.seq < y.ticket.seq

/-- How many of the process calls completed so far detached the queue after `x` was posted and
    completed after `y` was posted. -/
def passes (x y : FwrRenderTask) (completed : Nat) : Nat :=
  completed - max x.ticket.detached y.ticket.completed

/-- `x` may stand in front of `y`: it was posted first and they have been turned round an odd number
    of times, or it was posted last and they have been turned round an even number of times. -/
def Front (completed : Nat) (x y : FwrRenderTask) : Prop :=
  (PostedBefore x y ∧ passes x y completed % 2 = 1) ∨
    (PostedBefore y x ∧ passes y x completed % 2 = 0)

/-- A call that keeps both tasks turns them round. -/
theorem Front.turn {c : Nat} {x y : FwrRenderTask} (h : Front c x y)
    (hx : x.ticket.detached ≤ c ∧ x.ticket.completed ≤ c)
    (hy : y.ticket.detached ≤ c ∧ y.ticket.completed ≤ c) : Front (c + 1) y x := by
  unfold Front passes PostedBefore at *
  omega

/-- Tasks posted during a call are not turned round by it. -/
theorem Front.stay {c : Nat} {x y : FwrRenderTask} (h : Front c x y)
    (hx : x.ticket.detached = c + 1) (hy : y.ticket.detached = c + 1) : Front (c + 1) x y := by
  unfold Front passes PostedBefore at *
  omega

/-- A kept task goes in front of those posted during the call. -/
theorem Front.splice {c : Nat} {x y : FwrRenderTask} (h : PostedBefore x y)
    (hx : x.ticket.detached ≤ c) (hy : y.ticket.completed = c) : Front (c + 1) x y := by
  unfold Front passes PostedBefore at *
  omega

/-- A new task goes in front of all tasks there are. -/
theorem Front.post {c : Nat} {x y : FwrRenderTask} (h : PostedBefore y x)
    (hx : x.ticket.completed = c) : Front c x y := by
  unfold Front passes PostedBefore at *
  omega

/-! ## §2. The order of the runs. -/

/-- **Schedule order**: of two tasks that have been run, the one posted first has run first, unless
    its target time is later. -/
def InScheduleOrder (h : History) : Prop :=
  ∀ (i j : Nat) (x y : Execution), h.executed[i]? = some x → h.executed[j]? = some y →
    PostedBefore x.task y.task →
    x.task.targetTime ≤ y.task.targetTime → i < j

/-- A posted task that has not been run. -/
def Waiting (h : History) (r : FwrRenderTask) : Prop :=
  r ∈ h.posted ∧ r ∉ h.executed.map Execution.task

/-- Of the tasks that are due at a clock reading, any two in schedule order have been turned round
    an odd number of times. -/
def DueInOrder (h : History) (now : UInt64) : Prop :=
  ∀ x y, Waiting h x → Waiting h y → PostedBefore x y → x.targetTime ≤ y.targetTime →
    y.targetTime < now → passes x y h.completed % 2 = 1

theorem dueInOrder_iff {h : History} {now : UInt64} : DueInOrder h now ↔
    ∀ x ∈ h.posted, ∀ y ∈ h.posted, ¬ (x ∉ h.executed.map Execution.task ∧
      y ∉ h.executed.map Execution.task ∧ PostedBefore x y ∧ x.targetTime ≤ y.targetTime ∧
      y.targetTime < now ∧ passes x y h.completed % 2 ≠ 1) := by
  constructor
  · rintro h x hx y hy ⟨hx', hy', hxy, hle, hlt, hne⟩
    exact hne (h x y ⟨hx, hx'⟩ ⟨hy, hy'⟩ hxy hle hlt)
  · intro h x y hx hy hxy hle hlt
    by_contra hne
    exact h x hx.1 y hy.1 ⟨hx.2, hy.2, hxy, hle, hlt, hne⟩

instance (x y : FwrRenderTask) : Decidable (PostedBefore x y) := inferInstanceAs (Decidable (_ < _))

instance (h : History) (now : UInt64) : Decidable (DueInOrder h now) :=
  decidable_of_iff _ dueInOrder_iff.symm

/-- The condition on a step: a process call that takes the queue finds the due tasks in order. -/
def DetachesInOrder (s : TaskRunner) (e : TaskEvent) : Prop :=
  ∀ now, e = .detach → s.phase = .entered now → DueInOrder s.history now

instance (s : TaskRunner) : (e : TaskEvent) → Decidable (DetachesInOrder s e)
  | .detach =>
      match hphase : s.phase with
      | .entered now => decidable_of_iff (DueInOrder s.history now)
          ⟨fun h _ _ heq => by cases hphase.symm.trans heq; exact h, fun h => h now rfl hphase⟩
      | .idle => isTrue fun _ _ heq => nomatch hphase.symm.trans heq
      | .scanning _ => isTrue fun _ _ heq => nomatch hphase.symm.trans heq
      | .inRunTask _ => isTrue fun _ _ heq => nomatch hphase.symm.trans heq
  | .post _ _ _ _ => isTrue fun _ he => nomatch he
  | .enter _ => isTrue fun _ he => nomatch he
  | .iterate => isTrue fun _ he => nomatch he
  | .runTaskReturned => isTrue fun _ he => nomatch he
  | .leave _ => isTrue fun _ he => nomatch he

/-- `x` is rightly run while `y` still waits. -/
def Precedes (x y : FwrRenderTask) : Prop := PostedBefore y x → x.targetTime < y.targetTime

/-- The order, between each execution and the later ones. -/
theorem inScheduleOrder_of_pairwise {h : History}
    (hp : (h.executed.map Execution.task).Pairwise Precedes) : InScheduleOrder h := by
  intro i j x y hi hj hbefore htarget
  rcases Nat.lt_trichotomy i j with hlt | rfl | hgt
  · exact hlt
  · rw [hi] at hj
    cases hj
    exact absurd hbefore (Nat.lt_irrefl _)
  · obtain ⟨hi', rfl⟩ := List.getElem?_eq_some_iff.mp hi
    obtain ⟨hj', rfl⟩ := List.getElem?_eq_some_iff.mp hj
    have hlt := List.pairwise_iff_getElem.mp (List.pairwise_map.mp hp) j i hj' hi' hgt hbefore
    exact absurd hlt (UInt64.not_lt.mpr htarget)

namespace TaskLists

/-- The order condition on the tasks a call has still to look at. -/
def PendingInOrder (c : Nat) (now : UInt64) (pending : List FwrRenderTask) : Prop :=
  ∀ x ∈ pending, ∀ y ∈ pending, PostedBefore x y → x.targetTime ≤ y.targetTime →
    y.targetTime < now → passes x y c % 2 = 1

/-- Between two process calls. -/
structure Resting (queue : List FwrRenderTask) (h : History) : Prop where
  calls : h.detached = h.completed
  front : queue.Pairwise (Front h.completed)
  tickets : ∀ r ∈ queue, r.ticket.detached ≤ h.completed ∧ r.ticket.completed ≤ h.completed

/-- During a process call. -/
structure Running (queue : List FwrRenderTask) (h : History) (now : UInt64)
    (pending kept : List FwrRenderTask) : Prop where
  calls : h.detached = h.completed + 1
  front : queue.Pairwise (Front h.completed)
  tickets : ∀ r ∈ queue, r.ticket.detached = h.completed + 1 ∧ r.ticket.completed = h.completed
  heldTickets : ∀ r ∈ pending ++ kept,
    r.ticket.detached ≤ h.completed ∧ r.ticket.completed ≤ h.completed
  heldFirst : ∀ x ∈ pending ++ kept, ∀ y ∈ queue, PostedBefore x y
  pendingFront : pending.Pairwise (Front h.completed)
  keptFront : kept.Pairwise (fun x y => Front h.completed y x)
  keptPending : ∀ x ∈ kept, ∀ y ∈ pending, Front h.completed x y
  due : PendingInOrder h.completed now pending
  notDue : ∀ x ∈ kept, now ≤ x.targetTime

/-- The order of the lists, by the state of the process call. -/
def CallInv (a : TaskLists) : Prop :=
  match a.call with
  | .idle => Resting a.queue a.history
  | .entered _ => Resting a.queue a.history
  | .scanning now pending kept => Running a.queue a.history now pending kept
  | .inRunTask now _ pending kept => Running a.queue a.history now pending kept

/-- The invariant of the order. -/
structure OrderInv (a : TaskLists) : Prop where
  conserved : a.Conserved
  executed : (a.history.executed.map Execution.task).Pairwise Precedes
  waiting : ∀ x ∈ a.history.executed.map Execution.task, ∀ y ∈ a.queue ++ a.call.held, Precedes x y
  call : a.CallInv

/-! ## §3. The invariant is kept. -/

variable {a a' : TaskLists} {queue pending kept : List FwrRenderTask} {h : History} {now : UInt64}
  {r : FwrRenderTask}

/-- The postings are numbered, so that the next one comes after all there are. -/
theorem Conserved.seq_lt (ha : a.Conserved) (hr : r ∈ a.places) :
    r.ticket.seq < a.history.posted.length := by
  have hmem : r.ticket.seq ∈ a.history.posted.map (fun r => r.ticket.seq) :=
    List.mem_map_of_mem (ha.perm.mem_iff.mp hr)
  rw [ha.seqs] at hmem
  exact List.mem_range.mp hmem

theorem Conserved.waiting (ha : a.Conserved) (hr : r ∈ a.queue ++ a.call.held) :
    Waiting a.history r := by
  have hnodup : a.places.Nodup := ha.perm.nodup_iff.mpr ha.nodup
  exact ⟨ha.perm.mem_iff.mp (List.mem_append_left _ hr), fun hx =>
    (List.nodup_append.mp hnodup).2.2 r hr r hx rfl⟩

theorem Resting.post (hq : Resting queue h) (hseq : ∀ x ∈ queue, x.ticket.seq < h.posted.length)
    (hr : r.ticket = h.ticket) : Resting (r :: queue) (h.post r) where
  calls := hq.calls
  front := by
    refine List.pairwise_cons.mpr ⟨fun x hx => Front.post ?_ (by rw [hr]; rfl), hq.front⟩
    rw [PostedBefore, hr]
    exact hseq x hx
  tickets := by
    intro x hx
    rcases List.mem_cons.mp hx with rfl | hx
    · rw [hr]
      exact ⟨Nat.le_of_eq hq.calls, Nat.le_refl _⟩
    · exact hq.tickets x hx

theorem Running.post (hq : Running queue h now pending kept)
    (hseq : ∀ x ∈ queue ++ (pending ++ kept), x.ticket.seq < h.posted.length)
    (hr : r.ticket = h.ticket) : Running (r :: queue) (h.post r) now pending kept where
  calls := hq.calls
  front := by
    refine List.pairwise_cons.mpr ⟨fun x hx => Front.post ?_ (by rw [hr]; rfl), hq.front⟩
    rw [PostedBefore, hr]
    exact hseq x (List.mem_append_left _ hx)
  tickets := by
    intro x hx
    rcases List.mem_cons.mp hx with rfl | hx
    · rw [hr]
      exact ⟨hq.calls, rfl⟩
    · exact hq.tickets x hx
  heldTickets := hq.heldTickets
  heldFirst := by
    intro x hx y hy
    rcases List.mem_cons.mp hy with rfl | hy
    · rw [PostedBefore, hr]
      exact hseq x (List.mem_append_right _ hx)
    · exact hq.heldFirst x hx y hy
  pendingFront := hq.pendingFront
  keptFront := hq.keptFront
  keptPending := hq.keptPending
  due := hq.due
  notDue := hq.notDue

/-- The tasks of the queue become the pending ones. -/
theorem Resting.detach (hq : Resting queue h) (hdue : PendingInOrder h.completed now queue) :
    Running [] h.detach now queue [] where
  calls := congrArg (· + 1) hq.calls
  front := .nil
  tickets := nofun
  heldTickets := by
    rw [List.append_nil]
    exact hq.tickets
  heldFirst := fun _ _ _ hy => nomatch hy
  pendingFront := hq.front
  keptFront := .nil
  keptPending := nofun
  due := hdue
  notDue := nofun

theorem Running.run (hq : Running queue h now (r :: pending) kept) (x : Execution) :
    Running queue (h.execute x) now pending kept where
  calls := hq.calls
  front := hq.front
  tickets := hq.tickets
  heldTickets := fun y hy => hq.heldTickets y (List.mem_cons_of_mem r hy)
  heldFirst := fun y hy => hq.heldFirst y (List.mem_cons_of_mem r hy)
  pendingFront := (List.pairwise_cons.mp hq.pendingFront).2
  keptFront := hq.keptFront
  keptPending := fun y hy z hz => hq.keptPending y hy z (List.mem_cons_of_mem r hz)
  due := fun y hy z hz => hq.due y (List.mem_cons_of_mem r hy) z (List.mem_cons_of_mem r hz)
  notDue := hq.notDue

theorem mem_keep {x : FwrRenderTask} :
    x ∈ pending ++ (r :: kept) ↔ x ∈ r :: pending ++ kept := by
  simp only [List.mem_append, List.mem_cons, List.cons_append]
  tauto

theorem Running.keep (hq : Running queue h now (r :: pending) kept)
    (hdue : ¬ r.targetTime < now) : Running queue h now pending (r :: kept) where
  calls := hq.calls
  front := hq.front
  tickets := hq.tickets
  heldTickets := fun y hy => hq.heldTickets y (mem_keep.mp hy)
  heldFirst := fun y hy => hq.heldFirst y (mem_keep.mp hy)
  pendingFront := (List.pairwise_cons.mp hq.pendingFront).2
  keptFront := List.pairwise_cons.mpr
    ⟨fun x hx => hq.keptPending x hx r List.mem_cons_self, hq.keptFront⟩
  keptPending := by
    intro x hx y hy
    rcases List.mem_cons.mp hx with rfl | hx
    · exact (List.pairwise_cons.mp hq.pendingFront).1 y hy
    · exact hq.keptPending x hx y (List.mem_cons_of_mem r hy)
  due := fun y hy z hz => hq.due y (List.mem_cons_of_mem r hy) z (List.mem_cons_of_mem r hz)
  notDue := by
    intro x hx
    rcases List.mem_cons.mp hx with rfl | hx
    · exact UInt64.not_lt.mp hdue
    · exact hq.notDue x hx

/-- The kept tasks, turned round, go in front of those posted during the call. -/
theorem Running.leave (hq : Running queue h now [] kept) : Resting (kept ++ queue) h.complete where
  calls := hq.calls
  front := by
    refine List.pairwise_append.mpr ⟨?_, ?_, fun x hx y hy => ?_⟩
    · refine List.Pairwise.imp_of_mem (fun hx hy hxy => ?_) hq.keptFront
      exact hxy.turn (hq.heldTickets _ hy) (hq.heldTickets _ hx)
    · refine List.Pairwise.imp_of_mem (fun hx hy hxy => ?_) hq.front
      exact hxy.stay (hq.tickets _ hx).1 (hq.tickets _ hy).1
    · exact Front.splice (hq.heldFirst x hx y hy) (hq.heldTickets x hx).1 (hq.tickets y hy).2
  tickets := by
    intro x hx
    rcases List.mem_append.mp hx with hx | hx
    · have hx := hq.heldTickets x hx
      exact ⟨Nat.le_succ_of_le hx.1, Nat.le_succ_of_le hx.2⟩
    · have hx := hq.tickets x hx
      exact ⟨Nat.le_of_eq hx.1, hx.2 ▸ Nat.le_succ _⟩

/-- **A due task is rightly run** before every task that waits. -/
theorem Running.precedes (hq : Running queue h now (r :: pending) kept) (hdue : r.targetTime < now)
    {y : FwrRenderTask} (hy : y ∈ queue ++ (pending ++ kept)) : Precedes r y := by
  intro hbefore
  rcases List.mem_append.mp hy with hy | hy
  · -- posted during this call
    have hfirst : PostedBefore r y := hq.heldFirst r (List.mem_cons_self) y hy
    unfold PostedBefore at hfirst hbefore
    omega
  rcases List.mem_append.mp hy with hy | hy
  · by_contra hle
    have hodd := hq.due y (List.mem_cons_of_mem r hy) r List.mem_cons_self hbefore
      (UInt64.not_lt.mp hle) hdue
    rcases (List.pairwise_cons.mp hq.pendingFront).1 y hy with ⟨hlt, -⟩ | ⟨-, heven⟩
    · unfold PostedBefore at hlt hbefore
      omega
    · omega
  · exact UInt64.lt_of_lt_of_le hdue (hq.notDue y hy)

/-- The condition on a step of the lists. -/
def DetachesInOrder (a : TaskLists) (e : TaskEvent) : Prop :=
  ∀ now, e = .detach → a.call = .entered now → DueInOrder a.history now

/-- **One step keeps the order**, if a detached queue has its due tasks in order. -/
theorem OrderInv.step {e : TaskEvent} (ha : a.OrderInv) (hstep : Step a e a')
    (hok : a.DetachesInOrder e) : a'.OrderInv := by
  obtain ⟨hconserved, hexecuted, hwaiting, hcall⟩ := ha
  have hconserved' := hconserved.step hstep
  cases hstep with
  | @post q c hist curr task targetTime now hc =>
      refine ⟨hconserved', hexecuted, fun x hx y hy => ?_, ?_⟩
      · rcases List.mem_cons.mp hy with rfl | hy
        · -- the new task has the greatest number
          have hlt : x.ticket.seq < hist.posted.length :=
            hconserved.seq_lt (List.mem_append_right _ hx)
          exact fun hbefore => absurd hbefore (Nat.lt_asymm hlt)
        · exact hwaiting x hx y hy
      · have hseq : ∀ x ∈ q ++ c.held, x.ticket.seq < hist.posted.length := fun x hx =>
          hconserved.seq_lt (List.mem_append_left _ hx)
        cases c with
        | idle => exact Resting.post hcall (fun x hx => hseq x (List.mem_append_left _ hx)) rfl
        | entered t => exact Resting.post hcall (fun x hx => hseq x (List.mem_append_left _ hx)) rfl
        | scanning t pending kept => cases hc
        | inRunTask t r pending kept => exact Running.post hcall hseq rfl
  | enter now => exact ⟨hconserved', hexecuted, hwaiting, hcall⟩
  | @detach q hist now =>
      have hdue : PendingInOrder hist.completed now q := fun x hx y hy =>
        hok now rfl rfl x y (hconserved.waiting (List.mem_append_left _ hx))
          (hconserved.waiting (List.mem_append_left _ hy))
      refine ⟨hconserved', hexecuted, fun x hx y hy => hwaiting x hx y ?_, Resting.detach hcall hdue⟩
      simpa [CallState.held] using hy
  | @run q pending kept hist now r hdue =>
      have hrunning : Running q hist now (r :: pending) kept := hcall
      have hmem : ∀ y ∈ q ++ (pending ++ kept), y ∈ q ++ (r :: pending ++ kept) := fun y hy =>
        (List.mem_append.mp hy).elim (List.mem_append_left _) fun hy =>
          List.mem_append_right _ (List.mem_cons_of_mem r hy)
      refine ⟨hconserved', ?_, fun x hx y hy => ?_, hrunning.run _⟩
      · rw [History.execute, List.map_append]
        refine List.pairwise_append.mpr ⟨hexecuted, List.pairwise_singleton _ _, fun x hx y hy => ?_⟩
        rw [List.mem_singleton.mp hy]
        exact hwaiting x hx r (List.mem_append_right _ List.mem_cons_self)
      · rw [History.execute, List.map_append] at hx
        rcases List.mem_append.mp hx with hx | hx
        · exact hwaiting x hx y (hmem y hy)
        · obtain rfl := List.mem_singleton.mp hx
          exact hrunning.precedes hdue hy
  | @keep q pending kept hist now r hdue =>
      refine ⟨hconserved', hexecuted, fun x hx y hy => hwaiting x hx y ?_, Running.keep hcall hdue⟩
      rcases List.mem_append.mp hy with hy | hy
      · exact List.mem_append_left _ hy
      · exact List.mem_append_right _ (mem_keep.mp hy)
  | returned => exact ⟨hconserved', hexecuted, hwaiting, hcall⟩
  | @leave q kept hist now clock =>
      refine ⟨hconserved', hexecuted, fun x hx y hy => hwaiting x hx y ?_, Running.leave hcall⟩
      simpa [CallState.held, or_comm] using hy

theorem orderInv_init : runner.init.OrderInv :=
  ⟨⟨.nil, rfl, nofun⟩, .nil, nofun, ⟨rfl, .nil, nofun⟩⟩

/-- The invariant in every run whose process calls find the due tasks in order. -/
theorem reach_orderInv (ha : runner.Reach DetachesInOrder a) : a.OrderInv :=
  ha.invariant orderInv_init fun _ _ _ h hok hstep => h.step (step_cases hstep) hok

end TaskLists

/-! ## §4. Schedule order. -/

theorem PhaseRefines.phase_eq_entered {heap : Heap FwrRenderTask} {phase : ProcessPhase}
    {now : UInt64} {pending kept : Cells}
    (h : PhaseRefines heap phase (.entered now) pending kept) : phase = .entered now := by
  cases h
  rfl

theorem DetachesInOrder.refines {s : TaskRunner} {a : TaskLists} {e : TaskEvent}
    (h : DetachesInOrder s e) (hR : Refines s a) : a.DetachesInOrder e := by
  intro now he hcall
  obtain ⟨_, _, _, -, -, hphase, -, hhist⟩ := hR
  rw [hcall] at hphase
  rw [← hhist]
  exact h now he hphase.phase_eq_entered

/-- **Tasks run in schedule order** in every run in which each process call finds the due tasks of
    the queue turned round an odd number of times. -/
theorem reach_inScheduleOrder {s : TaskRunner} (hs : taskRunner.Reach DetachesInOrder s) :
    InScheduleOrder s.history := by
  obtain ⟨a, ha, _, _, _, hR⟩ :
      ∃ a, TaskLists.runner.Reach TaskLists.DetachesInOrder a ∧ Refines s a :=
    hs.simulate refines_init fun _ _ e _ hR hok hstep =>
      let ⟨a', hstep', hR'⟩ := refines_forward hR hstep
      ⟨e, a', hok.refines hR, hstep', hR'⟩
  rw [hR.history]
  exact inScheduleOrder_of_pairwise (TaskLists.reach_orderInv ha).executed

/-- Two tasks posted one after the other, for 20 ns. -/
def twoPosts : List TaskEvent := [.post 1 ⟨0, 1⟩ 20 0, .post 2 ⟨0, 2⟩ 20 0]

/-- A process call that finds two tasks, with the clock at `now`. -/
def processTwo (now : UInt64) : List TaskEvent :=
  if 20 < now then
    [.enter now, .detach, .iterate, .runTaskReturned, .iterate, .runTaskReturned, .leave now]
  else [.enter now, .detach, .iterate, .iterate, .leave now]

/-- A first process call finds neither of two tasks due, and the second one runs them in order. -/
theorem reach_inScheduleOrder_twice :
    ∃ s, taskRunner.execIf DetachesInOrder tasksInit (twoPosts ++ processTwo 10 ++ processTwo 30) =
      some s ∧ InScheduleOrder s.history := by
  have hrun : (taskRunner.execIf DetachesInOrder tasksInit
      (twoPosts ++ processTwo 10 ++ processTwo 30)).isSome = true := by decide +kernel
  obtain ⟨s, hs⟩ := Option.isSome_iff_exists.mp hrun
  exact ⟨s, hs, reach_inScheduleOrder (Machine.reach_execIf _ .init hs)⟩

/-- **Two tasks run in the wrong order**: posted one after the other for 20 ns, the first process
    call after that runs the second one first. -/
theorem not_inScheduleOrder_once :
    ¬ ∀ s, taskRunner.Reachable s → InScheduleOrder s.history := by
  intro hall
  have hrun : (taskRunner.exec tasksInit (twoPosts ++ processTwo 30)).map (·.history.executed) =
      some [⟨⟨⟨0, 2⟩, 20, ⟨1, 0, 0⟩⟩, 30⟩, ⟨⟨⟨0, 1⟩, 20, ⟨0, 0, 0⟩⟩, 30⟩] := by decide +kernel
  obtain ⟨s, hs, hexecuted⟩ := Option.map_eq_some_iff.mp hrun
  have horder := hall s (Machine.reach_exec _ .init hs)
  rw [InScheduleOrder, hexecuted] at horder
  exact absurd (horder 1 0 _ _ rfl rfl (by decide) (by decide)) (by decide)

end FlutterWlroots.Tasks
