import Cadence.Rehearsal.Basic

/-!
# Running a rehearsal

A rehearsal is a list of steps, each of which answers a report.  When the instruction of a step is
done, the timers that have been given up end, and the tasks of a worker or an event loop are run.
The task of an event loop ends when nobody is left who could submit to it.  The clock moves by whole
milliseconds; at each of them the timers that are due go off first.
-/

set_option autoImplicit false

namespace Cadence

namespace Rehearsal

variable {α : Type}

/-- The bounds of a rehearsal: how deep listener calls nest, and how many tasks one drain runs. -/
structure Limits where
  depth : Nat
  tasks : Nat

def listen (limits : Limits) : Call α := call limits.tasks limits.depth

/-- Runs every task, each one guarded: a panic is reported and stops nothing. -/
def drain (limits : Limits) (name : String) : Nat → Rehearsal α → Rehearsal α
  | 0, r => r
  | limit + 1, r =>
      match r.runNext (listen limits) with
      | (r, .ok false) => r
      | (r, .ok true) => drain limits name limit r
      | (r, .error panic) =>
          drain limits name limit
            { r with engine := r.engine.note [.callbackPanicked name panic] }

def sweep (r : Rehearsal α) : Rehearsal α := { r with engine := r.engine.cancelTimers }

/-- Ends the task of the event loop if the decoupler that submits to it is gone. -/
def stop (name : String) (r : Rehearsal α) : Rehearsal α :=
  if r.engine.isAlive || r.isStopped then r
  else { r with isStopped := true, engine := r.engine.note [.taskStopped name] }

/-- Lets everything that runs by itself run to its end, at unchanged time.  A decoupler that goes
lets go of its dispatch before its timers, unless it was closed first. -/
def settle (limits : Limits) (r : Rehearsal α) : Rehearsal α :=
  match r.drive with
  | .manual => r.sweep
  | .inline => r.sweep
  | .eventLoop name =>
      let r := if r.engine.closesOnDrop then r.sweep else (r.stop name).sweep
      ((r.drain limits name limits.tasks).stop name).sweep
  | .worker name =>
      let r := r.sweep
      let kept := r.engine.journal
      let r := r.drain limits name limits.tasks
      { r with engine := { r.engine with journal := kept } }.sweep

/-- Sets off the timers that are due, at most `limit` of them.  What an inline dispatch runs then
can panic without anyone noticing. -/
def fireDue (limits : Limits) : Nat → Rehearsal α → Rehearsal α
  | 0, r => r
  | limit + 1, r =>
      match r.engine.timers.findIdx? fun timer => decide (timer.due ≤ r.engine.now) with
      | none => r
      | some index =>
          fireDue limits limit (r.proceed (listen limits) (r.engine.fire index) .none).1

def tick (limits : Limits) (r : Rehearsal α) : Rehearsal α :=
  let r := { r with engine := r.engine.elapse 1000000 }
  (r.fireDue limits r.engine.timers.length).settle limits

def advance (limits : Limits) : Nat → Rehearsal α → Rehearsal α
  | 0, r => r
  | millis + 1, r => advance limits millis (r.tick limits)

inductive Step (α : Type)
  | act (instruction : Instruction α)
  | advance (millis : Nat)

structure Report (α : Type) where
  reply : Except Panic Reply
  heard : List (Heard α)
  parked : Nat
  /-- Absent once the owner has let go. -/
  paused : Option Bool
  closed : Option Bool
  sourceClosed : Bool
  /-- How many tasks wait; absent if they run by themselves. -/
  pending : Option Nat
  journal : List Notice

/-- What can be seen now; it will not be reported again. -/
def report (r : Rehearsal α) (reply : Except Panic Reply) : Rehearsal α × Report α :=
  ({ r with reported := r.heard.size, engine := { r.engine with journal := [] } },
    { reply := reply
      heard := r.heard.toList.drop r.reported
      parked := r.parked.length
      paused := if r.engine.held then some r.engine.decoupler.pacer.paused else none
      closed := if r.engine.held then some r.engine.decoupler.pacer.closed else none
      sourceClosed := r.engine.isClosed
      pending :=
        match r.drive with
        | .manual => some r.engine.queue.length
        | .inline => some r.engine.queue.length
        | _ => none
      journal := r.engine.journal })

def step (limits : Limits) (r : Rehearsal α) : Step α → Rehearsal α × Report α
  | .act instruction =>
      let ((r, reply), _) := r.perform (listen limits) limits.tasks none instruction
      (r.settle limits).report reply
  | .advance millis => ((r.advance limits millis).settle limits).report (.ok .none)

/-- Runs a list of steps: the rehearsal as they leave it, and their reports. -/
def run (limits : Limits) (r : Rehearsal α) : List (Step α) → Rehearsal α × List (Report α)
  | [] => (r, [])
  | step :: rest =>
      let (r, report) := r.step limits step
      let (r, reports) := run limits r rest
      (r, report :: reports)

end Rehearsal

end Cadence
