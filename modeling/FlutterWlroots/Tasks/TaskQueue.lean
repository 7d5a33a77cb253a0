/-
  FlutterWlroots.Tasks.TaskQueue — the platform task runner of task.c.

  The engine posts tasks from any thread; the event loop processes those that are due.  The queue
  is a linked list of `fwr_render_task` nodes and is modelled as one: a heap of nodes, a pointer to
  the first, and the local pointers of the process call that is running.

  The granularity of the steps is the one the mutex gives.  `platform_task_list_mutex` is
  recursive, so a task that `RunTask` runs may post further tasks; other threads may post whenever
  no process call holds the mutex, also between the clock reading of a process call and its
  `pthread_mutex_lock`.  Within the loop of `engine_platform_task_queue_process` nothing else
  happens, except at `RunTask`.
-/
import FlutterWlroots.Lib.LinkedList
import FlutterWlroots.Lib.CInt
import FlutterWlroots.Lib.Machine

namespace FlutterWlroots.Tasks

open Lib Lib.CInt Lib.LinkedList

/-! ## §1. Tasks. -/

/-- What the engine posts; the runner it is meant for and its number. -/
structure FlutterTask where
  runner : UInt64
  task : UInt64
deriving DecidableEq, Repr

/-- The position of a posting in the run: how many tasks had been posted, how many process calls
    had detached the queue, and how many had completed.  The code keeps no such record. -/
structure Ticket where
  seq : Nat
  detached : Nat
  completed : Nat
deriving DecidableEq, Repr

/-- A posted task; `struct fwr_render_task` without its link. -/
structure FwrRenderTask where
  task : FlutterTask
  targetTime : UInt64
  ticket : Ticket
deriving DecidableEq, Repr

/-- A call of `RunTask`: the task, and the clock value its process call had read. -/
structure Execution where
  task : FwrRenderTask
  currentTimeNanos : UInt64
deriving DecidableEq, Repr

/-- What has happened so far. -/
structure History where
  posted : List FwrRenderTask
  executed : List Execution
  detached : Nat
  completed : Nat
deriving DecidableEq, Repr

namespace History

def empty : History := ⟨[], [], 0, 0⟩

/-- The ticket of the next posting. -/
def ticket (h : History) : Ticket := ⟨h.posted.length, h.detached, h.completed⟩

def post (h : History) (r : FwrRenderTask) : History := { h with posted := h.posted ++ [r] }

def execute (h : History) (e : Execution) : History := { h with executed := h.executed ++ [e] }

def detach (h : History) : History := { h with detached := h.detached + 1 }

def complete (h : History) : History := { h with completed := h.completed + 1 }

end History

/-! ## §2. Scheduling. -/

/-- What a call of `engine_platform_task_queue_schedule` does: whether it writes to the notify
    eventfd, and the delay it passes to `wl_event_source_timer_update`, if it does. -/
structure Wakeup where
  notified : Bool
  timerUpdate : Option Int
deriving DecidableEq, Repr

namespace Wakeup

/-- No system call is made. -/
def none : Wakeup := ⟨false, .none⟩

/-- The timer is armed with a delay of `d` milliseconds; a delay of zero disarms it. -/
def Armed (w : Wakeup) (d : Int) : Prop := w.timerUpdate = some d ∧ 0 < d

end Wakeup

/-- The loop over the queue that finds the first target time; no result if a link leads to a node
    that is not there.  `fuel` bounds the number of nodes. -/
def firstTaskNs (heap : Heap FwrRenderTask) : Nat → Option Nat → UInt64 → Option UInt64
  | _, none, first => some first
  | 0, some _, _ => none
  | fuel + 1, some next, first =>
      match heap.lookup next with
      | none => none
      | some node =>
          firstTaskNs heap fuel node.next
            (if node.value.targetTime < first then node.value.targetTime else first)

/-- The system calls made for the first target time at a clock reading. -/
def wakeupFor (firstTaskNs currentTimeNanos : UInt64) : Wakeup :=
  -- the comparison is with UINT16_MAX, not with the UINT64_MAX the minimum starts from
  if firstTaskNs ≠ 65535 then
    if firstTaskNs ≤ currentTimeNanos then
      ⟨true, some 0⟩
    else
      let diffNs := toInt64 (firstTaskNs - currentTimeNanos).toNat
      let diffMs := Int.tdiv diffNs 1000000
      ⟨false, some (toInt32 (diffMs + 1))⟩
  else
    .none

/-- `engine_platform_task_queue_schedule`, reading `currentTimeNanos` off the clock. -/
def enginePlatformTaskQueueSchedule (heap : Heap FwrRenderTask) (queuedPlatformTasks : Option Nat)
    (currentTimeNanos : UInt64) : Option Wakeup := do
  let first ← firstTaskNs heap heap.keys.length queuedPlatformTasks 0xFFFFFFFFFFFFFFFF
  some (wakeupFor first currentTimeNanos)

/-! ## §3. The state. -/

/-- The local variables of a process call. -/
structure ProcessLocals where
  currentTimeNanos : UInt64
  head : Option Nat
  newHead : Option Nat
  lastRequeued : Option Nat
deriving DecidableEq, Repr

/-- Where the process call is: before it, between the clock reading and the lock, at the head of
    the loop, or inside `RunTask(&head->task)`. -/
inductive ProcessPhase where
  | idle
  | entered (currentTimeNanos : UInt64)
  | scanning (locals : ProcessLocals)
  | inRunTask (locals : ProcessLocals)
deriving DecidableEq, Repr

/-- Whether a task can be posted: no process call holds the mutex, or the post comes from the task
    it runs. -/
def ProcessPhase.admitsPost : ProcessPhase → Bool
  | idle => true
  | entered _ => true
  | scanning _ => false
  | inRunTask _ => true

/-- The task runner; `wakeup` is what the last call of the scheduler has done. -/
structure TaskRunner where
  heap : Heap FwrRenderTask
  queuedPlatformTasks : Option Nat
  phase : ProcessPhase
  wakeup : Wakeup
  history : History

/-- The task runner after `fwr_tasks_init`. -/
def tasksInit : TaskRunner := ⟨∅, none, .idle, .none, .empty⟩

/-! ## §4. Operations. -/

/-- `engine_cb_platform_post_task`; `curr` is the address `calloc` returns. -/
def engineCbPlatformPostTask (s : TaskRunner) (curr : Nat) (task : FlutterTask)
    (targetTime currentTimeNanos : UInt64) : Option TaskRunner :=
  if s.phase.admitsPost ∧ curr ∉ s.heap then do
    let posted : FwrRenderTask := ⟨task, targetTime, s.history.ticket⟩
    let heap := s.heap.insert curr ⟨posted, s.queuedPlatformTasks⟩
    let wakeup ← enginePlatformTaskQueueSchedule heap (some curr) currentTimeNanos
    some { s with
      heap := heap, queuedPlatformTasks := some curr, wakeup := wakeup,
      history := s.history.post posted }
  else
    none

/-- The process call reads the clock. -/
def processEnter (s : TaskRunner) (currentTimeNanos : UInt64) : Option TaskRunner :=
  match s.phase with
  | .idle => some { s with phase := .entered currentTimeNanos }
  | _ => none

/-- It takes the lock and the whole queue. -/
def processDetach (s : TaskRunner) : Option TaskRunner :=
  match s.phase with
  | .entered currentTimeNanos =>
      some { s with
        queuedPlatformTasks := none,
        phase := .scanning ⟨currentTimeNanos, s.queuedPlatformTasks, none, none⟩,
        history := s.history.detach }
  | _ => none

/-- The body of the loop, up to `RunTask` if the task is due. -/
def processIterate (s : TaskRunner) : Option TaskRunner :=
  match s.phase with
  | .scanning l =>
      match l.head with
      | none => none
      | some curr => do
          let node ← s.heap.lookup curr
          if node.value.targetTime < l.currentTimeNanos then
            some { s with
              phase := .inRunTask l,
              history := s.history.execute ⟨node.value, l.currentTimeNanos⟩ }
          else
            -- requeue: the kept nodes end up in the opposite order
            some { s with
              heap := s.heap.insert curr ⟨node.value, l.newHead⟩,
              phase := .scanning
                { l with
                  head := node.next,
                  newHead := some curr,
                  lastRequeued := if l.newHead = none then some curr else l.lastRequeued } }
  | _ => none

/-- `RunTask` returns: the rest of the loop body. -/
def processRunTaskReturned (s : TaskRunner) : Option TaskRunner :=
  match s.phase with
  | .inRunTask l =>
      match l.head with
      | none => none
      | some curr => do
          let node ← s.heap.lookup curr
          some { s with
            heap := s.heap.erase curr, phase := .scanning { l with head := node.next } }
  | _ => none

/-- `last_requeued->next = queued_platform_tasks; queued_platform_tasks = new_head`. -/
def spliceRequeued (s : TaskRunner) (l : ProcessLocals) :
    Option (Heap FwrRenderTask × Option Nat) :=
  match l.lastRequeued with
  | none => some (s.heap, s.queuedPlatformTasks)
  | some last => do
      let node ← s.heap.lookup last
      some (s.heap.insert last ⟨node.value, s.queuedPlatformTasks⟩, l.newHead)

/-- The loop has ended: the kept tasks are put back, and the call completes. -/
def processLeave (s : TaskRunner) (currentTimeNanos : UInt64) : Option TaskRunner :=
  match s.phase with
  | .scanning l =>
      match l.head with
      | some _ => none
      | none => do
          let (heap, queued) ← spliceRequeued s l
          let wakeup ← enginePlatformTaskQueueSchedule heap queued currentTimeNanos
          some { s with
            heap := heap, queuedPlatformTasks := queued, phase := .idle, wakeup := wakeup,
            history := s.history.complete }
  | _ => none

/-- The events: a posting, with the address of its node and the clock reading of the scheduler, or
    the next step of `engine_platform_task_queue_process`. -/
inductive TaskEvent where
  | post (curr : Nat) (task : FlutterTask) (targetTime currentTimeNanos : UInt64)
  | enter (currentTimeNanos : UInt64)
  | detach
  | iterate
  | runTaskReturned
  | leave (currentTimeNanos : UInt64)
deriving DecidableEq, Repr

/-- The task runner as a machine. -/
def taskRunner : Machine TaskRunner TaskEvent where
  init := tasksInit
  step := fun s e =>
    match e with
    | .post curr task targetTime now => engineCbPlatformPostTask s curr task targetTime now
    | .enter now => processEnter s now
    | .detach => processDetach s
    | .iterate => processIterate s
    | .runTaskReturned => processRunTaskReturned s
    | .leave now => processLeave s now

end FlutterWlroots.Tasks
