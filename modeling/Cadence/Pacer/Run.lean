import Cadence.Pacer.Basic

/-!
# Runs of a pacer

The operations of a pacer as data, with the answers they give, so that a history is a list.
-/

set_option autoImplicit false

namespace Cadence.Pacer

/-- One call, with the instant at which it is made. -/
inductive Operation
  | signal (s : Signal) (now : Nat)
  | begin (cycle now : Nat)
  | markDispatched (cycle : Nat)
  | ready (cycle now : Nat)
  | skip (cycle now : Nat)
  | pause
  | resume (now : Nat)
  | close
  deriving DecidableEq, Repr

inductive Answer
  | transition (t : Transition)
  | snapshot (s : Option Snapshot)
  | flag (b : Bool)
  | violation (v : ProtocolViolation)
  | none
  deriving DecidableEq

def step (p : Pacer) : Operation → Pacer × Answer
  | .signal s now => let r := p.signal s now; (r.1, .transition r.2)
  | .begin cycle now => let r := p.begin cycle now; (r.1, .snapshot r.2)
  | .markDispatched cycle => let r := p.markDispatched cycle; (r.1, .flag r.2)
  | .ready cycle now =>
      match p.ready cycle now with
      | (p, .ok t) => (p, .transition t)
      | (p, .error v) => (p, .violation v)
  | .skip cycle now => let r := p.skip cycle now; (r.1, .transition r.2)
  | .pause => (p.pause, .none)
  | .resume now => let r := p.resume now; (r.1, .transition r.2)
  | .close => let r := p.close; (r.1, .flag r.2)

/-- How a call ends that has this answer.  Scheduling a cycle takes the instant at which the period
is over, and panics if there is none. -/
def ending (p : Pacer) (latest : Nat) : Answer → Except Panic Answer
  | .transition (.schedule cycle delay) =>
      if p.outlasts latest then .error (.instantOverflow false)
      else .ok (.transition (.schedule cycle delay))
  | answer => .ok answer

/-- A call if no instant is later than `latest`.  The state has changed even if it panics. -/
def attempt (p : Pacer) (latest : Nat) (op : Operation) : Pacer × Except Panic Answer :=
  let r := p.step op; (r.1, r.1.ending latest r.2)

def after (p : Pacer) : List Operation → Pacer
  | [] => p
  | op :: rest => (p.step op).1.after rest

def trace (p : Pacer) : List Operation → List (Answer × Pacer)
  | [] => []
  | op :: rest => let r := p.step op; (r.2, r.1) :: r.1.trace rest

/-- How every call of a history ends, with the state that it leaves. -/
def attempts (p : Pacer) (latest : Nat) : List Operation → List (Except Panic Answer × Pacer)
  | [] => []
  | op :: rest => let r := p.attempt latest op; (r.2, r.1) :: r.1.attempts latest rest

end Cadence.Pacer
