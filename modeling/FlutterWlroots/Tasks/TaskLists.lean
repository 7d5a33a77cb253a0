/-
  FlutterWlroots.Tasks.TaskLists — the task runner on lists, and that the linked queue refines it.

  In `TaskLists` the queue, the tasks a process call has still to look at, and the ones it keeps are
  lists.  `refines_step` relates every step of task.c to the step of the lists in both directions:
  the linked code does what the lists do, and it is never stuck at a link to a freed node.  What is
  proved of the lists therefore holds of the code (`exists_refines`).

  Conservation is the first such result: every posted task is in the queue, held by the running
  process call, or executed, once.
-/
import FlutterWlroots.Tasks.TaskSchedule

namespace FlutterWlroots.Tasks

open Lib Lib.LinkedList

/-! ## §1. The task runner on lists. -/

/-- The process call: `pending` are the tasks it has not looked at, `kept` the requeued ones, the
    last requeued first. -/
inductive CallState where
  | idle
  | entered (now : UInt64)
  | scanning (now : UInt64) (pending kept : List FwrRenderTask)
  | inRunTask (now : UInt64) (current : FwrRenderTask) (pending kept : List FwrRenderTask)
deriving DecidableEq, Repr

namespace CallState

def admitsPost : CallState → Bool
  | idle => true
  | entered _ => true
  | scanning _ _ _ => false
  | inRunTask _ _ _ _ => true

/-- The tasks the call holds. -/
def held : CallState → List FwrRenderTask
  | idle => []
  | entered _ => []
  | scanning _ pending kept => pending ++ kept
  | inRunTask _ _ pending kept => pending ++ kept

end CallState

/-- The task runner. -/
structure TaskLists where
  queue : List FwrRenderTask
  call : CallState
  history : History
deriving DecidableEq, Repr

namespace TaskLists

/-- One step; addresses and the clock readings of the scheduler play no part. -/
def step (a : TaskLists) : TaskEvent → Option TaskLists
  | .post _ task targetTime _ =>
      if a.call.admitsPost then
        let posted : FwrRenderTask := ⟨task, targetTime, a.history.ticket⟩
        some { a with queue := posted :: a.queue, history := a.history.post posted }
      else none
  | .enter now =>
      match a.call with
      | .idle => some { a with call := .entered now }
      | _ => none
  | .detach =>
      match a.call with
      | .entered now =>
          some { queue := [], call := .scanning now a.queue [], history := a.history.detach }
      | _ => none
  | .iterate =>
      match a.call with
      | .scanning now (r :: pending) kept =>
          if r.targetTime < now then
            some { a with
              call := .inRunTask now r pending kept, history := a.history.execute ⟨r, now⟩ }
          else some { a with call := .scanning now pending (r :: kept) }
      | _ => none
  | .runTaskReturned =>
      match a.call with
      | .inRunTask now _ pending kept => some { a with call := .scanning now pending kept }
      | _ => none
  | .leave _ =>
      match a.call with
      | .scanning _ [] kept =>
          some { queue := kept ++ a.queue, call := .idle, history := a.history.complete }
      | _ => none

/-- What a step can do. -/
inductive Step : TaskLists → TaskEvent → TaskLists → Prop where
  | post {q : List FwrRenderTask} {c : CallState} {h : History} (curr : Nat) (task : FlutterTask)
      (targetTime now : UInt64) (hc : c.admitsPost = true) :
      Step ⟨q, c, h⟩ (.post curr task targetTime now)
        ⟨⟨task, targetTime, h.ticket⟩ :: q, c, h.post ⟨task, targetTime, h.ticket⟩⟩
  | enter {q : List FwrRenderTask} {h : History} (now : UInt64) :
      Step ⟨q, .idle, h⟩ (.enter now) ⟨q, .entered now, h⟩
  | detach {q : List FwrRenderTask} {h : History} {now : UInt64} :
      Step ⟨q, .entered now, h⟩ .detach ⟨[], .scanning now q [], h.detach⟩
  | run {q pending kept : List FwrRenderTask} {h : History} {now : UInt64} {r : FwrRenderTask}
      (hdue : r.targetTime < now) :
      Step ⟨q, .scanning now (r :: pending) kept, h⟩ .iterate
        ⟨q, .inRunTask now r pending kept, h.execute ⟨r, now⟩⟩
  | keep {q pending kept : List FwrRenderTask} {h : History} {now : UInt64} {r : FwrRenderTask}
      (hdue : ¬ r.targetTime < now) :
      Step ⟨q, .scanning now (r :: pending) kept, h⟩ .iterate
        ⟨q, .scanning now pending (r :: kept), h⟩
  | returned {q pending kept : List FwrRenderTask} {h : History} {now : UInt64} {r : FwrRenderTask} :
      Step ⟨q, .inRunTask now r pending kept, h⟩ .runTaskReturned ⟨q, .scanning now pending kept, h⟩
  | leave {q kept : List FwrRenderTask} {h : History} {now : UInt64} (clock : UInt64) :
      Step ⟨q, .scanning now [] kept, h⟩ (.leave clock) ⟨kept ++ q, .idle, h.complete⟩

/-- The steps the function takes. -/
theorem step_cases {a a' : TaskLists} {e : TaskEvent} (h : a.step e = some a') : Step a e a' := by
  obtain ⟨q, c, hist⟩ := a
  cases e with
  | post curr task targetTime now =>
      simp only [step] at h
      split at h
      · cases h
        exact .post curr task targetTime now ‹_›
      · cases h
  | enter now =>
      cases c with
      | idle =>
          cases h
          exact .enter now
      | _ => cases h
  | detach =>
      cases c with
      | entered now =>
          cases h
          exact .detach
      | _ => cases h
  | iterate =>
      match c, h with
      | .scanning now (r :: pending) kept, h =>
          simp only [step] at h
          split at h
          case isTrue hdue =>
            cases h
            exact .run hdue
          case isFalse hdue =>
            cases h
            exact .keep hdue
  | runTaskReturned =>
      cases c with
      | inRunTask now r pending kept =>
          cases h
          exact .returned
      | _ => cases h
  | leave clock =>
      match c, h with
      | .scanning now [] kept, h =>
          cases h
          exact .leave clock

/-- The lists as a machine. -/
def runner : Machine TaskLists TaskEvent where
  init := ⟨[], .idle, .empty⟩
  step := step

end TaskLists

/-! ## §2. Refinement. -/

/-- Addresses and values of the nodes of a list. -/
abbrev Cells := List (Nat × FwrRenderTask)

/-- The local pointers of a process call, as lists. -/
inductive PhaseRefines (heap : Heap FwrRenderTask) :
    ProcessPhase → CallState → Cells → Cells → Prop where
  | idle : PhaseRefines heap .idle .idle [] []
  | entered (now : UInt64) : PhaseRefines heap (.entered now) (.entered now) [] []
  | scanning {l : ProcessLocals} {pending kept : Cells} (hhead : IsList heap l.head pending)
      (hkept : IsList heap l.newHead kept) (hlast : l.lastRequeued = (addrs kept).getLast?) :
      PhaseRefines heap (.scanning l) (.scanning l.currentTimeNanos (values pending) (values kept))
        pending kept
  | inRunTask {l : ProcessLocals} {p : Nat} {r : FwrRenderTask} {pending kept : Cells}
      (hhead : IsList heap l.head ((p, r) :: pending)) (hkept : IsList heap l.newHead kept)
      (hlast : l.lastRequeued = (addrs kept).getLast?) :
      PhaseRefines heap (.inRunTask l)
        (.inRunTask l.currentTimeNanos r (values pending) (values kept)) ((p, r) :: pending) kept

/-- The nodes of a linked queue and of the process call are those of the lists. -/
structure Shape (s : TaskRunner) (a : TaskLists) (queue pending kept : Cells) : Prop where
  isQueue : IsList s.heap s.queuedPlatformTasks queue
  tasks : values queue = a.queue
  phase : PhaseRefines s.heap s.phase a.call pending kept
  nodup : (addrs queue ++ addrs pending ++ addrs kept).Nodup
  history : s.history = a.history

/-- The refinement relation. -/
def Refines (s : TaskRunner) (a : TaskLists) : Prop :=
  ∃ queue pending kept, Shape s a queue pending kept

theorem refines_init : Refines taskRunner.init TaskLists.runner.init :=
  ⟨[], [], [], .nil none, rfl, .idle, List.nodup_nil, rfl⟩

namespace PhaseRefines

variable {heap heap' : Heap FwrRenderTask} {phase : ProcessPhase} {call : CallState}
  {pending kept : Cells}

theorem admitsPost (h : PhaseRefines heap phase call pending kept) :
    phase.admitsPost = call.admitsPost := by
  cases h <;> rfl

/-- The lists of a call depend on its own nodes only. -/
theorem congr (h : PhaseRefines heap phase call pending kept)
    (heq : ∀ p ∈ addrs pending ++ addrs kept, heap'.lookup p = heap.lookup p) :
    PhaseRefines heap' phase call pending kept := by
  have hpending : ∀ p ∈ addrs pending, heap'.lookup p = heap.lookup p := fun p hp =>
    heq p (List.mem_append_left _ hp)
  have hkept : ∀ p ∈ addrs kept, heap'.lookup p = heap.lookup p := fun p hp =>
    heq p (List.mem_append_right _ hp)
  cases h with
  | idle => exact .idle
  | entered now => exact .entered now
  | scanning hh hk hl => exact .scanning (hh.congr hpending) (hk.congr hkept) hl
  | inRunTask hh hk hl => exact .inRunTask (hh.congr hpending) (hk.congr hkept) hl

theorem mem_heap (h : PhaseRefines heap phase call pending kept) {p : Nat}
    (hp : p ∈ addrs pending ++ addrs kept) : p ∈ heap := by
  have hseg : ∃ a cells, IsList heap a cells ∧ p ∈ addrs cells := by
    cases h with
    | idle => cases hp
    | entered now => cases hp
    | scanning hh hk hl => exact (List.mem_append.mp hp).elim (⟨_, _, hh, ·⟩) (⟨_, _, hk, ·⟩)
    | inRunTask hh hk hl => exact (List.mem_append.mp hp).elim (⟨_, _, hh, ·⟩) (⟨_, _, hk, ·⟩)
  obtain ⟨a, cells, hs, hp⟩ := hseg
  obtain ⟨n, hn⟩ := hs.mem_heap hp
  exact AList.lookup_isSome.mp (by rw [hn]; rfl)

end PhaseRefines

namespace Shape

variable {s : TaskRunner} {a : TaskLists} {queue pending kept : Cells}

theorem mem_heap (h : Shape s a queue pending kept) {p : Nat}
    (hp : p ∈ addrs queue ++ addrs pending ++ addrs kept) : p ∈ s.heap := by
  rw [List.append_assoc, List.mem_append] at hp
  rcases hp with hp | hp
  · obtain ⟨n, hn⟩ := h.isQueue.mem_heap hp
    exact AList.lookup_isSome.mp (by rw [hn]; rfl)
  · exact h.phase.mem_heap hp

end Shape

/-- A posting pushes a node that no list has. -/
theorem refines_post {s : TaskRunner} {a : TaskLists} (h : Refines s a) {curr : Nat}
    (hfresh : curr ∉ s.heap) (task : FlutterTask) (targetTime now : UInt64) :
    Option.Rel Refines (taskRunner.step s (.post curr task targetTime now))
      (TaskLists.runner.step a (.post curr task targetTime now)) := by
  obtain ⟨queue, pending, kept, h⟩ := h
  have hnot : curr ∉ addrs queue ++ addrs pending ++ addrs kept := fun hmem =>
    hfresh (h.mem_heap hmem)
  change Option.Rel Refines (engineCbPlatformPostTask s curr task targetTime now)
    (TaskLists.step a (.post curr task targetTime now))
  rw [engineCbPlatformPostTask, TaskLists.step, h.phase.admitsPost, h.history]
  split
  case isFalse hc =>
    rw [if_neg fun hpost => hc ⟨hpost, hfresh⟩]
    exact .none
  case isTrue hc =>
    rw [if_pos hc.1]
    have hqueue := h.isQueue.push (p := curr)
      (fun hmem => hnot (List.mem_append_left _ (List.mem_append_left _ hmem)))
      (FwrRenderTask.mk task targetTime a.history.ticket)
    simp only [enginePlatformTaskQueueSchedule_eq hqueue, Option.bind_eq_bind, Option.bind_some]
    refine .some ⟨_, pending, kept, hqueue, ?_, ?_, ?_, rfl⟩
    · rw [values_cons, h.tasks]
    · refine h.phase.congr fun p hp => AList.lookup_insert_ne fun heq => hnot ?_
      rw [← heq, List.append_assoc]
      exact List.mem_append_right _ hp
    · rw [addrs_cons, List.cons_append, List.cons_append]
      exact List.nodup_cons.mpr ⟨hnot, h.nodup⟩

theorem refines_enter {s : TaskRunner} {a : TaskLists} (h : Refines s a) (now : UInt64) :
    Option.Rel Refines (taskRunner.step s (.enter now)) (TaskLists.runner.step a (.enter now)) := by
  obtain ⟨heap, queued, phase, wakeup, history⟩ := s
  obtain ⟨q, call, hist⟩ := a
  obtain ⟨queue, pending, kept, hq, htasks, hphase, hnodup, hhist⟩ := h
  cases hphase with
  | idle => exact .some ⟨queue, [], [], hq, htasks, .entered now, hnodup, hhist⟩
  | _ => exact .none

/-- Detaching hands the queue to the call. -/
theorem refines_detach {s : TaskRunner} {a : TaskLists} (h : Refines s a) :
    Option.Rel Refines (taskRunner.step s .detach) (TaskLists.runner.step a .detach) := by
  obtain ⟨heap, queued, phase, wakeup, history⟩ := s
  obtain ⟨q, call, hist⟩ := a
  obtain ⟨queue, pending, kept, hq, htasks, hphase, hnodup, hhist⟩ := h
  cases hphase with
  | entered now =>
      subst hhist htasks
      have hscan := @PhaseRefines.scanning heap ⟨now, queued, none, none⟩ queue [] hq (.nil none) rfl
      exact .some ⟨[], queue, [], .nil none, rfl, hscan, by simpa using hnodup, rfl⟩
  | _ => exact .none

/-- One round of the loop: `RunTask` is entered, or the node moves from one list to the other. -/
theorem refines_iterate {s : TaskRunner} {a : TaskLists} (h : Refines s a) :
    Option.Rel Refines (taskRunner.step s .iterate) (TaskLists.runner.step a .iterate) := by
  obtain ⟨heap, queued, phase, wakeup, history⟩ := s
  obtain ⟨q, call, hist⟩ := a
  obtain ⟨queue, pending, kept, hq, htasks, hphase, hnodup, hhist⟩ := h
  subst hhist
  cases hphase with
  | idle => exact .none
  | entered now => exact .none
  | inRunTask hhead hkept hlast => exact .none
  | @scanning l pending kept hhead hkept hlast =>
      obtain ⟨now, head, newHead, last⟩ := l
      cases hhead with
      | nil => exact .none
      | @cons p n cells _ hp hs =>
          change Option.Rel Refines
            (processIterate ⟨heap, queued, .scanning ⟨now, some p, newHead, last⟩, wakeup, history⟩)
            (TaskLists.step ⟨q, .scanning now (n.value :: values cells) (values kept), history⟩
              .iterate)
          simp only [processIterate, TaskLists.step, hp, Option.bind_eq_bind, Option.bind_some]
          split
          case isTrue hdue =>
            exact .some ⟨queue, _, kept, hq, htasks, .inRunTask (.cons hp hs) hkept hlast, hnodup, rfl⟩
          case isFalse hdue =>
            -- `p` leaves the pending list and becomes the head of the kept one
            have hperm : (addrs queue ++ addrs cells ++ addrs ((p, n.value) :: kept)).Perm
                (addrs queue ++ addrs ((p, n.value) :: cells) ++ addrs kept) := by
              simp only [addrs_cons, List.append_assoc, List.cons_append]
              exact List.perm_middle.append_left _
            obtain ⟨hpq, hpc, hpk⟩ : p ∉ addrs queue ∧ p ∉ addrs cells ∧ p ∉ addrs kept := by
              simp only [addrs_cons, List.append_assoc, List.cons_append] at hnodup
              have hnot := (List.nodup_middle.mp hnodup).notMem
              simpa only [List.mem_append, not_or] using hnot
            have hlast' : (if newHead = none then some p else last) =
                (addrs ((p, n.value) :: kept)).getLast? := by
              cases hkept with
              | nil => rfl
              | cons hp' hs' => simpa [List.getLast?_cons_cons] using hlast
            have hscan := @PhaseRefines.scanning _ ⟨now, n.next, some p, _⟩ cells
              ((p, n.value) :: kept) (hs.insert hpc _) (hkept.push hpk n.value) hlast'
            exact .some ⟨queue, cells, (p, n.value) :: kept, hq.insert hpq _, htasks, hscan,
              hperm.nodup_iff.mpr hnodup, rfl⟩

/-- After `RunTask` the node of the task is freed. -/
theorem refines_runTaskReturned {s : TaskRunner} {a : TaskLists} (h : Refines s a) :
    Option.Rel Refines (taskRunner.step s .runTaskReturned)
      (TaskLists.runner.step a .runTaskReturned) := by
  obtain ⟨heap, queued, phase, wakeup, history⟩ := s
  obtain ⟨q, call, hist⟩ := a
  obtain ⟨queue, pending, kept, hq, htasks, hphase, hnodup, hhist⟩ := h
  subst hhist
  cases hphase with
  | idle => exact .none
  | entered now => exact .none
  | scanning hhead hkept hlast => exact .none
  | @inRunTask l p r cells kept hhead hkept hlast =>
      obtain ⟨now, head, newHead, last⟩ := l
      cases hhead with
      | @cons _ n _ _ hp hs =>
          change Option.Rel Refines
            (processRunTaskReturned
              ⟨heap, queued, .inRunTask ⟨now, some p, newHead, last⟩, wakeup, history⟩)
            (some ⟨q, .scanning now (values cells) (values kept), history⟩)
          simp only [processRunTaskReturned, hp, Option.bind_eq_bind, Option.bind_some]
          simp only [addrs_cons, List.append_assoc, List.cons_append] at hnodup
          have hnodup' := List.nodup_cons.mp (List.nodup_middle.mp hnodup)
          obtain ⟨hpq, hpc, hpk⟩ : p ∉ addrs queue ∧ p ∉ addrs cells ∧ p ∉ addrs kept := by
            simpa only [List.mem_append, not_or] using hnodup'.1
          have hscan := @PhaseRefines.scanning _ ⟨now, n.next, newHead, last⟩ cells kept
            (hs.erase hpc) (hkept.erase hpk) hlast
          refine .some ⟨queue, cells, kept, hq.erase hpq, htasks, hscan, ?_, rfl⟩
          rw [List.append_assoc]
          exact hnodup'.2

/-- The end of a call puts the kept tasks in front of the queue. -/
theorem refines_leave {s : TaskRunner} {a : TaskLists} (h : Refines s a) (clock : UInt64) :
    Option.Rel Refines (taskRunner.step s (.leave clock)) (TaskLists.runner.step a (.leave clock)) := by
  obtain ⟨heap, queued, phase, wakeup, history⟩ := s
  obtain ⟨q, call, hist⟩ := a
  obtain ⟨queue, pending, kept, hq, htasks, hphase, hnodup, hhist⟩ := h
  subst hhist
  cases hphase with
  | idle => exact .none
  | entered now => exact .none
  | inRunTask hhead hkept hlast => exact .none
  | @scanning l pending kept hhead hkept hlast =>
      obtain ⟨now, head, newHead, last⟩ := l
      cases hhead with
      | cons hp hs => exact .none
      | nil =>
          change Option.Rel Refines
            (processLeave
              ⟨heap, queued, .scanning ⟨now, none, newHead, last⟩, wakeup, history⟩ clock)
            (some ⟨values kept ++ q, .idle, history.complete⟩)
          simp only [processLeave, spliceRequeued]
          dsimp only at hlast
          subst hlast htasks
          cases hlast : (addrs kept).getLast? with
          | none =>
              obtain rfl : kept = [] := by simpa [addrs] using hlast
              simp only [Option.bind_eq_bind, Option.bind_some, enginePlatformTaskQueueSchedule_eq hq]
              exact .some ⟨queue, [], [], hq, rfl, .idle, hnodup, rfl⟩
          | some p =>
              obtain ⟨n, hn⟩ := hkept.mem_heap (List.mem_of_getLast? hlast)
              have hnodup' : (addrs kept ++ addrs queue).Nodup := by
                rw [addrs_nil, List.append_nil] at hnodup
                exact List.nodup_append_comm.mp hnodup
              have hspliced := hkept.splice hq hnodup' hlast hn
              simp only [hn, Option.bind_eq_bind, Option.bind_some,
                enginePlatformTaskQueueSchedule_eq hspliced]
              refine .some ⟨kept ++ queue, [], [], hspliced, values_append, .idle, ?_, rfl⟩
              simpa using hnodup'

/-- The event finds what it needs: a fresh address for a posting, and otherwise the process call at
    the right place. -/
def Enabled (s : TaskRunner) : TaskEvent → Prop
  | .post curr _ _ _ => s.phase.admitsPost = true ∧ curr ∉ s.heap
  | .enter _ => s.phase = .idle
  | .detach => ∃ now, s.phase = .entered now
  | .iterate => ∃ l p, s.phase = .scanning l ∧ l.head = some p
  | .runTaskReturned => ∃ l, s.phase = .inRunTask l
  | .leave _ => ∃ l, s.phase = .scanning l ∧ l.head = none

/-- **Refinement.**  The linked queue and the lists take the same steps. -/
theorem refines_step {s : TaskRunner} {a : TaskLists} (h : Refines s a) (e : TaskEvent)
    (hfresh : ∀ curr task targetTime now, e = .post curr task targetTime now → curr ∉ s.heap) :
    Option.Rel Refines (taskRunner.step s e) (TaskLists.runner.step a e) := by
  cases e with
  | post curr task targetTime now => exact refines_post h (hfresh _ _ _ _ rfl) task targetTime now
  | enter now => exact refines_enter h now
  | detach => exact refines_detach h
  | iterate => exact refines_iterate h
  | runTaskReturned => exact refines_runTaskReturned h
  | leave clock => exact refines_leave h clock

theorem post_fresh {s s' : TaskRunner} {curr : Nat} {task : FlutterTask} {targetTime now : UInt64}
    (h : taskRunner.step s (.post curr task targetTime now) = some s') : curr ∉ s.heap := by
  change engineCbPlatformPostTask s curr task targetTime now = some s' at h
  rw [engineCbPlatformPostTask] at h
  split at h
  case isTrue hc => exact hc.2
  case isFalse => cases h

theorem rel_some {State State' : Type} {R : State → State' → Prop} {x : Option State}
    {y : Option State'} {s : State} (h : Option.Rel R x y) (hx : x = some s) :
    ∃ a, y = some a ∧ R s a := by
  subst hx
  cases h with
  | some hR => exact ⟨_, rfl, hR⟩

/-- The lists follow the code. -/
theorem refines_forward {s s' : TaskRunner} {a : TaskLists} {e : TaskEvent} (h : Refines s a)
    (hstep : taskRunner.step s e = some s') :
    ∃ a', TaskLists.runner.step a e = some a' ∧ Refines s' a' := by
  refine rel_some (refines_step h e ?_) hstep
  rintro curr task targetTime now rfl
  exact post_fresh hstep

/-- **Every state of the task runner is a state of the lists.** -/
theorem exists_refines {s : TaskRunner} (hs : taskRunner.Reachable s) :
    ∃ a, TaskLists.runner.Reachable a ∧ Refines s a :=
  hs.simulate refines_init fun _ _ e _ hR _ hstep =>
    let ⟨a', hstep', hR'⟩ := refines_forward hR hstep
    ⟨e, a', trivial, hstep', hR'⟩

/-- The lists can take the step the code is about to take. -/
theorem abstract_step_isSome {s : TaskRunner} {a : TaskLists} (h : Refines s a) {e : TaskEvent}
    (he : Enabled s e) : ∃ a', TaskLists.runner.step a e = some a' := by
  obtain ⟨heap, queued, phase, wakeup, history⟩ := s
  obtain ⟨q, call, hist⟩ := a
  obtain ⟨queue, pending, kept, -, -, hphase, -, -⟩ := h
  cases e with
  | post curr task targetTime now =>
      refine ⟨_, if_pos ?_⟩
      rw [← hphase.admitsPost]
      exact he.1
  | enter now =>
      obtain rfl : phase = .idle := he
      cases hphase
      exact ⟨_, rfl⟩
  | detach =>
      obtain ⟨now, rfl⟩ : ∃ now, phase = .entered now := he
      cases hphase
      exact ⟨_, rfl⟩
  | iterate =>
      obtain ⟨⟨now, head, newHead, last⟩, p, rfl, rfl⟩ :
        ∃ l p, phase = .scanning l ∧ l.head = some p := he
      cases hphase with
      | scanning hhead hkept hlast =>
          cases hhead with
          | @cons _ n cells _ hp hs =>
              change ∃ a', TaskLists.step
                ⟨q, .scanning now (n.value :: values cells) (values kept), hist⟩
                .iterate = some a'
              simp only [TaskLists.step]
              split <;> exact ⟨_, rfl⟩
  | runTaskReturned =>
      obtain ⟨l, rfl⟩ : ∃ l, phase = .inRunTask l := he
      cases hphase
      exact ⟨_, rfl⟩
  | leave clock =>
      obtain ⟨⟨now, head, newHead, last⟩, rfl, rfl⟩ :
        ∃ l, phase = .scanning l ∧ l.head = none := he
      cases hphase with
      | scanning hhead hkept hlast =>
          cases hhead
          exact ⟨_, rfl⟩

/-- **The task runner never follows a link to a freed node**: in every state it reaches, the next
    step succeeds. -/
theorem taskRunner_progress {s : TaskRunner} (hs : taskRunner.Reachable s) {e : TaskEvent}
    (he : Enabled s e) : ∃ s', taskRunner.step s e = some s' := by
  obtain ⟨a, -, hR⟩ := exists_refines hs
  obtain ⟨a', ha'⟩ := abstract_step_isSome hR he
  have hrel := refines_step hR e (by
    rintro curr task targetTime now rfl
    exact he.2)
  rw [ha'] at hrel
  cases hstep : taskRunner.step s e with
  | some s' => exact ⟨s', rfl⟩
  | none =>
      rw [hstep] at hrel
      cases hrel

/-! ## §3. Conservation. -/

namespace TaskLists

/-- The tasks of the task runner, wherever they are. -/
def places (a : TaskLists) : List FwrRenderTask :=
  a.queue ++ a.call.held ++ a.history.executed.map Execution.task

/-- Every posted task is in one place, and only tasks whose time had come have been run. -/
structure Conserved (a : TaskLists) : Prop where
  perm : a.places.Perm a.history.posted
  seqs : a.history.posted.map (fun r => r.ticket.seq) = List.range a.history.posted.length
  due : ∀ x ∈ a.history.executed, x.task.targetTime < x.currentTimeNanos

theorem Conserved.nodup {a : TaskLists} (h : a.Conserved) : a.history.posted.Nodup :=
  List.Nodup.of_map (fun r => r.ticket.seq) (h.seqs ▸ List.nodup_range)

/-- **One step conserves the tasks.** -/
theorem Conserved.step {a a' : TaskLists} {e : TaskEvent} (h : a.Conserved) (hstep : Step a e a') :
    a'.Conserved := by
  obtain ⟨hperm, hseqs, hdue⟩ := h
  cases hstep with
  | post curr task targetTime now hc =>
      refine ⟨?_, ?_, hdue⟩
      · exact (hperm.cons _).trans (List.perm_append_singleton _ _).symm
      · simp only [History.post, History.ticket, List.map_append, List.map_cons, List.map_nil,
          List.length_append, List.length_singleton, List.range_succ]
        exact congrArg (· ++ _) hseqs
  | enter now => exact ⟨hperm, hseqs, hdue⟩
  | detach =>
      refine ⟨?_, hseqs, hdue⟩
      simpa [places, CallState.held, History.detach] using hperm
  | @run q pending kept hist now r hlt =>
      refine ⟨?_, hseqs, fun x hx => ?_⟩
      · -- `r` moves from the pending tasks to the executed ones
        refine List.Perm.trans ?_ hperm
        simp only [places, CallState.held, History.execute, List.map_append, List.map_cons,
          List.map_nil, List.append_assoc, List.cons_append]
        refine List.Perm.append_left q ?_
        rw [← List.append_assoc, ← List.append_assoc, ← List.append_assoc]
        exact List.perm_append_singleton _ _
      · rcases List.mem_append.mp hx with hx | hx
        · exact hdue x hx
        · obtain rfl := List.mem_singleton.mp hx
          exact hlt
  | @keep q pending kept hist now r hge =>
      refine ⟨List.Perm.trans ?_ hperm, hseqs, hdue⟩
      simp only [places, CallState.held, List.append_assoc, List.cons_append]
      exact List.perm_middle.append_left q
  | returned => exact ⟨hperm, hseqs, hdue⟩
  | @leave q kept hist now clock =>
      refine ⟨List.Perm.trans ?_ hperm, hseqs, hdue⟩
      simp only [places, CallState.held, History.complete, List.nil_append, List.append_nil]
      exact List.perm_append_comm.append_right _

theorem reachable_conserved {a : TaskLists} (ha : runner.Reachable a) : a.Conserved :=
  ha.invariant ⟨.nil, rfl, nofun⟩ fun _ _ _ h _ hstep => h.step (step_cases hstep)

end TaskLists

/-- The tasks a running process call holds: those the loop has not come to and those it keeps.  The
    task `RunTask` is running has been passed on. -/
inductive CallHolds (heap : Heap FwrRenderTask) : ProcessPhase → List FwrRenderTask → Prop where
  | idle : CallHolds heap .idle []
  | entered (now : UInt64) : CallHolds heap (.entered now) []
  | scanning {l : ProcessLocals} {pending kept : Cells} (hhead : IsList heap l.head pending)
      (hkept : IsList heap l.newHead kept) :
      CallHolds heap (.scanning l) (values pending ++ values kept)
  | inRunTask {l : ProcessLocals} {p : Nat} {r : FwrRenderTask} {pending kept : Cells}
      (hhead : IsList heap l.head ((p, r) :: pending)) (hkept : IsList heap l.newHead kept) :
      CallHolds heap (.inRunTask l) (values pending ++ values kept)

theorem PhaseRefines.callHolds {heap : Heap FwrRenderTask} {phase : ProcessPhase} {call : CallState}
    {pending kept : Cells} (h : PhaseRefines heap phase call pending kept) :
    CallHolds heap phase call.held := by
  cases h with
  | idle => exact .idle
  | entered now => exact .entered now
  | scanning hhead hkept hlast => exact .scanning hhead hkept
  | inRunTask hhead hkept hlast => exact .inRunTask hhead hkept

/-- Each posted task is in the linked queue, held by the process call, or executed, once, and it is
    executed only by a process call whose clock reading is past its target time. -/
def TasksConserved (s : TaskRunner) : Prop :=
  (∃ queue held, IsList s.heap s.queuedPlatformTasks queue ∧ CallHolds s.heap s.phase held ∧
    ∀ r, (values queue).count r + held.count r + (s.history.executed.map Execution.task).count r =
      if r ∈ s.history.posted then 1 else 0) ∧
  s.history.posted.Nodup ∧
  ∀ x ∈ s.history.executed, x.task.targetTime < x.currentTimeNanos

/-- **No platform task is lost or duplicated**, in any run of posts and process calls. -/
theorem reachable_tasksConserved {s : TaskRunner} (hs : taskRunner.Reachable s) :
    TasksConserved s := by
  obtain ⟨a, ha, queue, pending, kept, hq, htasks, hphase, -, hhist⟩ := exists_refines hs
  have hconserved := TaskLists.reachable_conserved ha
  rw [TasksConserved, hhist]
  refine ⟨⟨queue, a.call.held, hq, hphase.callHolds, fun r => ?_⟩, hconserved.nodup, hconserved.due⟩
  rw [htasks, ← List.count_append, ← List.count_append]
  exact (hconserved.perm.count_eq r).trans hconserved.nodup.count

/-- Two posts, and a process call whose first task posts a third one. -/
def reentrantRun : List TaskEvent :=
  [.post 1 ⟨0, 1⟩ 20 10, .post 2 ⟨0, 2⟩ 5 10, .enter 10, .detach, .iterate, .post 3 ⟨0, 3⟩ 30 10,
    .runTaskReturned, .iterate]

theorem reachable_tasksConserved_exec :
    ∃ s, taskRunner.exec tasksInit reentrantRun = some s ∧ TasksConserved s := by
  have hrun : (taskRunner.exec tasksInit reentrantRun).isSome = true := by decide +kernel
  obtain ⟨s, hs⟩ := Option.isSome_iff_exists.mp hrun
  exact ⟨s, hs, reachable_tasksConserved (Machine.reach_exec _ .init hs)⟩

end FlutterWlroots.Tasks
