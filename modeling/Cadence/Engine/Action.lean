import Cadence.Engine.Basic

/-!
# Calls into an engine

What producers, the consumer and the owner can do with an engine, as data, with the answers that
they get.  An action is one atomic step: it may queue the task of a cycle, but it runs none.
-/

set_option autoImplicit false

namespace Cadence.Engine

inductive Action (α : Type)
  | write (value : Option α)
  /-- A write into the buffer, signalled if it was accepted, whether or not anyone listens. -/
  | post (value : Option α)
  /-- A write into the buffer alone. -/
  | store (value : Option α)
  | collect
  | signal (s : Signal)
  | askClosed
  /-- The source replaces what the cache of the read function holds. -/
  | feed (value : Option α)
  | spend (cycle : Nat)
  | ready (cycle : Nat)
  | pause
  | resume
  | close
  | drop
  deriving DecidableEq

inductive Answer
  | none
  | flag (b : Bool)
  | collected (outcome : CollectOutcome)
  | verdict (result : Except ProtocolViolation Unit)

variable {α : Type}

/-- Carries out one call.  Only the read function behind a collection can panic. -/
def act (e : Engine α) : Action α → Engine α × Except Panic Answer
  | .write value => let r := e.write value; (r.1, .ok (.flag r.2))
  | .post value =>
      let r := e.store value
      (if r.2 then r.1.signal .value else r.1, .ok (.flag r.2))
  | .store value => let r := e.store value; (r.1, .ok (.flag r.2))
  | .collect => let r := e.collect; (r.1, r.2.map .collected)
  | .signal s => (e.signal s, .ok .none)
  | .askClosed => (e, .ok (.flag e.isClosed))
  | .feed value => (e.feed value, .ok .none)
  | .spend cycle => let r := e.ready cycle; (r.1, .ok (.verdict r.2))
  | .ready cycle =>
      if e.held then
        let r := e.ready cycle
        (r.1, .ok (.verdict r.2))
      else (e, .ok .none)
  | .pause => (e.pause, .ok .none)
  | .resume => (e.resume, .ok .none)
  | .close => (e.shut, .ok .none)
  | .drop => (e.drop, .ok .none)

end Cadence.Engine
