import Cadence.Event.Basic
import Cadence.Signal
import Cadence.Text.Record
import Cadence.Time.Delay

/-!
# The pacer

The scheduling state of one decoupler, free of threads, timers and buffers.  A cycle reads the
buffer once and delivers one event.  At most one cycle exists at a time: it is scheduled, then in
flight until its consumer is ready again.  Signals that arrive meanwhile only mark that another
cycle is needed, and a rate cap delays the next cycle until `minPeriod` after the start of the last
one that reached the listener.

Every operation takes the current instant, in nanoseconds, and answers what has to be done next; it
does nothing itself.
-/

set_option autoImplicit false

namespace Cadence

inductive Phase
  | idle
  /-- The cycle waits for its turn, behind other tasks or for the rate cap. -/
  | scheduled (cycle : Nat)
  /-- The cycle has started; `dispatched` once the listener holds its event. -/
  | inFlight (cycle : Nat) (dispatched : Bool)
  deriving DecidableEq, Repr

inductive Transition
  /-- Run `cycle` after `delay` nanoseconds. -/
  | schedule (cycle delay : Nat)
  | coalesced
  /-- Nothing until the pacer is resumed. -/
  | held
  | ignored
  | idle
  deriving DecidableEq, Repr

structure Pacer where
  phase : Phase
  eventWhileBusy : Bool
  paused : Bool
  closed : Bool
  /-- The kinds signalled since the last cycle started. -/
  pending : KindSet
  readFault : Option ProducerFault
  writeFault : Option ProducerFault
  readConnected : Bool
  writeConnected : Bool
  nextCycle : Nat
  /-- When the cycle in flight started, until it is dispatched. -/
  startedAt : Option Nat
  lastDispatchAt : Option Nat
  /-- The rate cap: the least time between the starts of two dispatched cycles. -/
  minPeriod : Option Nat
  deriving DecidableEq

namespace Pacer

def init (minPeriod : Option Nat) : Pacer where
  phase := .idle
  eventWhileBusy := false
  paused := false
  closed := false
  pending := .empty
  readFault := none
  writeFault := none
  readConnected := false
  writeConnected := false
  nextCycle := 1
  startedAt := none
  lastDispatchAt := none
  minPeriod := minPeriod

/-- How long the rate cap still delays a cycle scheduled at `now`, if the period since the last
dispatched start ends at an instant at all. -/
def delayAt (p : Pacer) (now : Nat) : Nat :=
  match p.minPeriod, p.lastDispatchAt with
  | some period, some last => last + period - now
  | _, _ => 0

/-- That period ends after the latest instant there is. -/
def outlasts (p : Pacer) (latest : Nat) : Bool :=
  match p.minPeriod, p.lastDispatchAt with
  | some period, some last => latest < last + period
  | _, _ => false

def schedule (p : Pacer) (now : Nat) : Pacer × Transition :=
  ({ p with phase := .scheduled p.nextCycle, nextCycle := p.nextCycle + 1 },
    .schedule p.nextCycle (p.delayAt now))

/-- Keeps what a signal says.  A connection signal counts only if it changes the flag. -/
def record (p : Pacer) : Signal → Pacer
  | .value => { p with pending := p.pending.insert .value }
  | .readConnection connected =>
      if p.readConnected = connected then p
      else { p with readConnected := connected, pending := p.pending.insert .readConnection }
  | .writeConnection connected =>
      if p.writeConnected = connected then p
      else { p with writeConnected := connected, pending := p.pending.insert .writeConnection }
  | .readException fault =>
      { p with readFault := some fault, pending := p.pending.insert .readException }
  | .writeException fault =>
      { p with writeFault := some fault, pending := p.pending.insert .writeException }
  | .writeSucceeded => { p with pending := p.pending.insert .writeSucceeded }
  | .writeFailed fault =>
      { p with writeFault := some fault, pending := p.pending.insert .writeFailed }

def signal (p : Pacer) (s : Signal) (now : Nat) : Pacer × Transition :=
  if p.closed then (p, .ignored)
  else
    let p := p.record s
    match p.phase with
    | .idle => if p.paused then (p, .held) else p.schedule now
    | .scheduled _ => ({ p with eventWhileBusy := true }, .coalesced)
    | .inFlight _ _ => ({ p with eventWhileBusy := true }, .coalesced)

def snapshot (p : Pacer) : Snapshot where
  kinds := p.pending
  readConnected := p.readConnected
  writeConnected := p.writeConnected
  readFault := p.readFault
  writeFault := p.writeFault

/-- Starts the scheduled cycle and hands over everything pending; a cycle that is not the scheduled
one, or any cycle of a closed pacer, gets nothing. -/
def begin (p : Pacer) (cycle now : Nat) : Pacer × Option Snapshot :=
  if p.closed then ({ p with phase := .idle }, none)
  else if p.phase = .scheduled cycle then
    ({ p with
        phase := .inFlight cycle false
        eventWhileBusy := false
        pending := .empty
        readFault := none
        writeFault := none
        startedAt := some now },
      some p.snapshot)
  else (p, none)

/-- The listener is about to get the event of the cycle in flight.  The rate cap counts from the
start of that cycle; cycles that reach no listener never move it. -/
def markDispatched (p : Pacer) (cycle : Nat) : Pacer × Bool :=
  match p.phase with
  | .inFlight current _ =>
      if current = cycle then
        ({ p with
            phase := .inFlight cycle true
            lastDispatchAt := p.startedAt.or p.lastDispatchAt
            startedAt := none },
          true)
      else (p, false)
  | _ => (p, false)

/-- Ends the cycle in flight and schedules another if signals arrived meanwhile. -/
def finish (p : Pacer) (now : Nat) : Pacer × Transition :=
  let p := { p with phase := .idle, startedAt := none }
  if p.closed then (p, .ignored)
  else if p.eventWhileBusy && !p.paused then { p with eventWhileBusy := false }.schedule now
  else (p, .idle)

def ready (p : Pacer) (cycle now : Nat) : Pacer × Except ProtocolViolation Transition :=
  match p.phase with
  | .idle => (p, .error (.readyWhileIdle cycle))
  | .scheduled current =>
      if current = cycle then (p, .error (.notDispatched cycle))
      else (p, .error (.cycleMismatch current cycle))
  | .inFlight current dispatched =>
      if current = cycle then
        if dispatched then ((p.finish now).1, .ok (p.finish now).2)
        else (p, .error (.notDispatched cycle))
      else (p, .error (.cycleMismatch current cycle))

def skip (p : Pacer) (cycle now : Nat) : Pacer × Transition :=
  match p.phase with
  | .inFlight current _ => if current = cycle then p.finish now else (p, .idle)
  | _ => (p, .idle)

def pause (p : Pacer) : Pacer := { p with paused := true }

/-- Schedules a cycle if there is work that no cycle takes care of. -/
def resume (p : Pacer) (now : Nat) : Pacer × Transition :=
  let p := { p with paused := false }
  if p.closed then (p, .ignored)
  else if p.phase = .idle ∧ (p.eventWhileBusy = true ∨ p.pending.isEmpty = false) then
    { p with eventWhileBusy := false }.schedule now
  else (p, .idle)

/-- Closes the pacer for good; the answer tells whether it was open.  A scheduled cycle is dropped,
a cycle in flight may still finish. -/
def close (p : Pacer) : Pacer × Bool :=
  if p.closed then (p, false)
  else
    ({ p with
        closed := true
        pending := .empty
        eventWhileBusy := false
        phase := match p.phase with
          | .scheduled _ => .idle
          | phase => phase },
      true)

end Pacer

/-! ## Texts -/

namespace Phase

def text : Phase → String
  | idle => "Idle"
  | scheduled cycle => Text.record "Scheduled" [("cycle", toString cycle)]
  | inFlight cycle dispatched =>
      Text.record "InFlight" [("cycle", toString cycle), ("dispatched", toString dispatched)]

end Phase

namespace Transition

def text : Transition → String
  | schedule cycle delay =>
      Text.record "Schedule" [("cycle", toString cycle), ("delay", Delay.text delay)]
  | coalesced => "Coalesced"
  | held => "Held"
  | ignored => "Ignored"
  | idle => "Idle"

end Transition

end Cadence
