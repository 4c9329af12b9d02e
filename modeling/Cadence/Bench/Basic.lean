import Cadence.Bench.EventLog
import Cadence.Engine.Action
import Cadence.Engine.Quiet

/-!
# The bench

Engines that share one dispatch, each with an event log for a consumer.  The dispatch only queues
tasks; they run one at a time when asked for, the oldest first, whosever they are.

Running a task never queues another one, so running all of them ends.
-/

set_option autoImplicit false

namespace Cadence

/-- An engine on the bench, with the log that its events go to. -/
structure Member (α : Type) where
  engine : Engine α
  log : EventLog α

namespace Member

variable {α : Type}

/-- The log gets an event, and spends its token at once in automatic mode. -/
def deliver (m : Member α) (event : Event α) : Member α :=
  let log := m.log.keep event
  if log.isManual then ⟨m.engine.returned, log⟩
  else
    let r := m.engine.ready event.cycle
    ⟨r.1.returned, log.answered r.2⟩

def runNext (m : Member α) : Member α :=
  match m.engine.runNext with
  | (engine, some (some event)) => { m with engine := engine }.deliver event
  | (engine, _) => { m with engine := engine }

theorem queue_deliver (m : Member α) (event : Event α)
    (quiet : m.engine.decoupler.pacer.eventWhileBusy = false) :
    (m.deliver event).engine.queue = m.engine.queue := by
  unfold deliver
  simp only
  split
  · rfl
  · exact m.engine.queue_ready_of_quiet event.cycle quiet

/-- Running a task takes it off the queue and queues nothing. -/
theorem queue_runNext (m : Member α) : m.runNext.engine.queue = m.engine.queue.drop 1 := by
  unfold runNext Engine.runNext
  cases waiting : m.engine.queue with
  | nil => exact waiting
  | cons cycle rest =>
      have h := { m.engine with queue := rest }.runTask_quiet cycle
      simp only [List.drop_succ_cons, List.drop_zero]
      split
      · rename_i engine event delivered
        simp only [Prod.mk.injEq, Option.some.injEq] at delivered
        rw [queue_deliver]
        · rw [← delivered.1]
          exact h.1
        · rw [← delivered.1]
          exact h.2 (by rw [delivered.2]; rfl)
      · rename_i engine _ _ left
        simp only [Prod.mk.injEq] at left
        rw [← left.1]
        exact h.1

end Member

structure Bench (α : Type) where
  members : List (Member α)
  /-- Whose task each one in the dispatch's queue is, oldest first. -/
  line : List Nat

namespace Bench

variable {α : Type}

def init (members : List (Member α)) : Bench α := ⟨members, []⟩

/-- Puts a member back at its position.  It had `left` tasks; those beyond are new in the queue. -/
def update (b : Bench α) (position left : Nat) (m : Member α) : Bench α where
  members := b.members.set position m
  line := b.line ++ List.replicate (m.engine.queue.length - left) position

/-- A call into the engine at a position; there is no answer if there is no such engine. -/
def act (b : Bench α) (position : Nat) (action : Engine.Action α) :
    Bench α × Except Panic Engine.Answer :=
  match b.members[position]? with
  | none => (b, .ok .none)
  | some m =>
      let r := m.engine.act action
      (b.update position m.engine.queue.length { m with engine := r.1 }, r.2)

/-- The consumer at a position spends the token that it parked first. -/
def release (b : Bench α) (position : Nat) : Bench α × Option (Except ProtocolViolation Unit) :=
  match b.members[position]? with
  | none => (b, none)
  | some m =>
      match m.log.parked with
      | [] => (b, none)
      | cycle :: rest =>
          let r := m.engine.ready cycle
          (b.update position m.engine.queue.length ⟨r.1, { m.log with parked := rest }⟩, some r.2)

/-- The turn of the member at a position: it runs its oldest task. -/
def turn (b : Bench α) (position : Nat) : Bench α :=
  match b.members[position]? with
  | none => b
  | some m => b.update position (m.engine.queue.length - 1) m.runNext

/-- Runs the oldest task; the answer tells whether there was one. -/
def runNext (b : Bench α) : Bench α × Bool :=
  match b.line with
  | [] => (b, false)
  | position :: rest => ({ b with line := rest }.turn position, true)

theorem line_turn (b : Bench α) (position : Nat) : (b.turn position).line = b.line := by
  unfold turn
  split
  · rfl
  · simp [update, Member.queue_runNext]

def runAll (b : Bench α) : Bench α × Nat :=
  match _waiting : b.line with
  | [] => (b, 0)
  | position :: rest =>
      let r := ({ b with line := rest }.turn position).runAll
      (r.1, r.2 + 1)
termination_by b.line.length
decreasing_by
  rw [line_turn, _waiting]
  exact Nat.lt_succ_self _

end Bench

end Cadence
