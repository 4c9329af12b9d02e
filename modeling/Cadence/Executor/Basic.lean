import Cadence.Executor.ThreadName
import Cadence.Journal

/-!
# Executors

Serial executors run tasks one at a time in the order in which they were submitted.  A worker has a
thread of its own and can be shut down; an event loop runs its tasks when the loop is given time,
and is gone with it.  A task may submit further tasks to the executor that runs it or shut that
executor down, and it may panic.

A panic ends its task alone: it is caught and reported, and then its payload is dropped.  Nothing
catches what the payload does there.  If that panics as well, the thread ends, and the tasks that
wait in the queue are lost.
-/

set_option autoImplicit false

namespace Cadence

inductive Ending
  | returned
  | panicked (panic : Panic)
  /-- Dropping the payload of the panic panics as well. -/
  | crashed (panic : Panic)
  deriving DecidableEq, Repr

def Ending.isCrash : Ending → Bool
  | crashed _ => true
  | _ => false

/-- A task records that it runs, then panics or not, then submits further tasks in turn, then shuts
its executor down or not. -/
inductive Job
  | mk (id : Int) (panic : Option Panic) (submits : List Job) (shutsDown : Bool)
  | bomb (id : Int) (panic : Panic)
  deriving Inhabited

namespace Job

def id : Job → Int
  | mk id _ _ _ => id
  | bomb id _ => id

def ending : Job → Ending
  | mk _ none _ _ => .returned
  | mk _ (some panic) _ _ => .panicked panic
  | bomb _ panic => .crashed panic

def submits : Job → List Job
  | mk _ _ submits _ => submits
  | bomb _ _ => []

def shutsDown : Job → Bool
  | mk _ _ _ shutsDown => shutsDown
  | bomb _ _ => false

end Job

inductive JobRecord
  | ran (id : Int)
  | submitted (id : Int) (result : Except Refusal Unit)
  | shutDownFrom (id : Int)

inductive ExecutorKind
  | worker
  | eventLoop
  deriving DecidableEq, Repr

structure Executor where
  kind : ExecutorKind
  name : String
  /-- Why no task is taken, if none is. -/
  refusal : Option Refusal
  /-- The accepted tasks that have not yet run, oldest first. -/
  queue : List Job
  /-- Nobody can submit tasks from outside any more. -/
  isReleased : Bool
  /-- It will run no task any more. -/
  isOver : Bool
  /-- A task took with it what runs the tasks. -/
  crashed : Bool
  /-- Nobody has gone to wait for the thread. -/
  joinable : Bool
  records : List JobRecord
  journal : List Notice

namespace Executor

def start (kind : ExecutorKind) (name : String) : Executor where
  kind := kind
  name := name
  refusal := none
  queue := []
  isReleased := false
  isOver := false
  crashed := false
  joinable := true
  records := []
  journal := []

/-- A worker with a thread of its own, which has the worker's name. -/
def spawn (name : String) : Except Panic Executor := (threadName name).map (start .worker)

/-- The event loop of the running caller, who may run in none. -/
def current (name : String) (inEventLoop : Bool) : Except Refusal Executor :=
  if inEventLoop then .ok (start .eventLoop name) else .error .noEventLoop

def submit (e : Executor) (job : Job) : Executor × Except Refusal Unit :=
  match e.refusal with
  | none => ({ e with queue := e.queue ++ [job] }, .ok ())
  | some refusal => (e, .error refusal)

def record (e : Executor) (entry : JobRecord) : Executor :=
  { e with records := e.records ++ [entry] }

def note (e : Executor) (notice : Notice) : Executor :=
  { e with journal := e.journal ++ [notice] }

/-- Submits tasks in turn from inside a running one. -/
def submitAll (e : Executor) : List Job → Executor
  | [] => e
  | job :: rest =>
      let r := e.submit job
      (r.1.record (.submitted job.id r.2)).submitAll rest

/-- A worker takes no task from now on; those that it has taken still run. -/
def refuseAll (e : Executor) : Executor :=
  match e.kind with
  | .worker => { e with refusal := some (.shutDown e.name) }
  | .eventLoop => e

def isShutDown (e : Executor) : Bool := decide (e.refusal = some (.shutDown e.name))

/-- A call that shuts the worker down does not wait for the thread that it runs on. -/
def detach (e : Executor) : Executor :=
  if e.joinable then { e with joinable := false }.note (.ownThread e.name) else e

/-- A task that has not panicked may shut down the worker that runs it before it ends. -/
def finish (e : Executor) (job : Job) : Executor :=
  if job.shutsDown && decide (e.kind = .worker) then
    (e.record (.shutDownFrom job.id)).refuseAll.detach
  else e

/-- Ends the thread or the loop, with the receiving end of the queue.  A worker that has been shut
down goes on to answer that. -/
def crash (e : Executor) : Executor :=
  { e with
    refusal :=
      match e.refusal, e.kind with
      | some refusal, _ => some refusal
      | none, .worker => some (.crashed e.name)
      | none, .eventLoop => some .stopped
    queue := []
    isOver := true
    crashed := true }

def bury (e : Executor) : Ending → Executor
  | .returned => e
  | .panicked panic => e.note (.callbackPanicked e.name panic)
  | .crashed panic => (e.note (.callbackPanicked e.name panic)).crash

def perform (e : Executor) (job : Job) : Executor :=
  let e := e.record (.ran job.id)
  match job.ending with
  | .returned => (e.submitAll job.submits).finish job
  | ending => e.bury ending

def runNext (e : Executor) : Executor :=
  match e.queue with
  | [] => e
  | job :: rest => { e with queue := rest }.perform job

mutual

/-- How many tasks a task amounts to, those that it submits among them. -/
def weight : Job → Nat
  | .mk _ _ submits _ => 1 + weights submits
  | .bomb _ _ => 1

def weights : List Job → Nat
  | [] => 0
  | job :: rest => weight job + weights rest

end

theorem weights_append (xs ys : List Job) : weights (xs ++ ys) = weights xs + weights ys := by
  induction xs with
  | nil => simp [weights]
  | cons x xs ih => simp [weights, ih, Nat.add_assoc]

theorem queue_record (e : Executor) (entry : JobRecord) : (e.record entry).queue = e.queue := rfl

theorem weights_submit (e : Executor) (job : Job) :
    weights (e.submit job).1.queue ≤ weights e.queue + weight job := by
  unfold submit
  split
  · simp [weights_append, weights]
  · simp

theorem weights_submitAll (e : Executor) (jobs : List Job) :
    weights (e.submitAll jobs).queue ≤ weights e.queue + weights jobs := by
  induction jobs generalizing e with
  | nil => simp [submitAll, weights]
  | cons job rest ih =>
      have hone := weights_submit e job
      have hrest := ih ((e.submit job).1.record (.submitted job.id (e.submit job).2))
      rw [queue_record] at hrest
      simp only [submitAll, weights]
      omega

theorem queue_refuseAll (e : Executor) : e.refuseAll.queue = e.queue := by
  unfold refuseAll
  split <;> rfl

theorem queue_detach (e : Executor) : e.detach.queue = e.queue := by
  unfold detach
  split <;> rfl

theorem queue_finish (e : Executor) (job : Job) : (e.finish job).queue = e.queue := by
  unfold finish
  split
  · rw [queue_detach, queue_refuseAll, queue_record]
  · rfl

theorem weights_bury (e : Executor) (ending : Ending) :
    weights (e.bury ending).queue ≤ weights e.queue := by
  cases ending with
  | crashed panic => exact Nat.zero_le _
  | _ => exact Nat.le_refl _

/-- Running a task makes the work that is queued less, whatever the task submits. -/
theorem weights_perform (e : Executor) (job : Job) :
    weights (e.perform job).queue < weights e.queue + weight job := by
  cases job with
  | mk id panic submits shutsDown =>
      have hall := weights_submitAll (e.record (.ran id)) submits
      rw [queue_record] at hall
      cases panic with
      | some panic =>
          have hone := weights_bury (e.record (.ran id)) (.panicked panic)
          rw [queue_record] at hone
          simp only [perform, Job.ending, Job.id, weight]
          omega
      | none =>
          simp only [perform, Job.ending, Job.submits, Job.id, weight, queue_finish]
          omega
  | bomb id panic =>
      have hone := weights_bury (e.record (.ran id)) (.crashed panic)
      rw [queue_record] at hone
      simp only [perform, Job.ending, Job.id, weight]
      omega

def runAll (e : Executor) : Executor :=
  match _queued : e.queue with
  | [] => e
  | job :: rest => ({ e with queue := rest }.perform job).runAll
termination_by weights e.queue
decreasing_by
  rw [_queued, weights, Nat.add_comm]
  exact weights_perform { e with queue := rest } job

/-- Gives the executor time to run everything.  An event loop that nobody can submit to any more
ends then. -/
def settle (e : Executor) : Executor :=
  if e.isOver then e
  else
    let e := e.runAll
    if e.isReleased && !e.isOver then
      let e := { e with isOver := true }
      match e.kind with
      | .worker => e
      | .eventLoop => e.note (.taskStopped e.name)
    else e

/-- Who has waited for the thread reports that it crashed. -/
def join (e : Executor) : Executor :=
  if e.crashed then e.note (.endedAbnormally e.name) else e

/-- Shuts a worker down from outside: the tasks that it has taken run first. -/
def shutDown (e : Executor) : Executor :=
  match e.kind with
  | .worker =>
      let left := { e.refuseAll with joinable := false }.runAll
      if e.joinable then left.join else left
  | .eventLoop => e

/-- The event loop goes away with the tasks that it has not run. -/
def dropLoop (e : Executor) : Executor :=
  match e.kind with
  | .worker => e
  | .eventLoop => { e with refusal := some .stopped, queue := [], isOver := true }

def release (e : Executor) : Executor := { e with isReleased := true }

/-- The journal of the thread that gives the executor time.  A worker reports its tasks from its
own. -/
def visibleJournal (e : Executor) : List Notice :=
  match e.kind with
  | .worker => e.journal.filter fun notice => decide (notice = .endedAbnormally e.name)
  | .eventLoop => e.journal

def cleared (e : Executor) : Executor := { e with records := [], journal := [] }

end Executor

end Cadence
