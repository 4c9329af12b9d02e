import Cadence.Buffer.Basic
import Cadence.Pacer.Basic

/-!
# Decouplers

A decoupler joins a pacer with the buffer that its cycles read, and keeps a tally of what happened.
It holds no queue and no timer: an operation leaves a transition, and `follow` turns it into an
order, which whoever drives the decoupler carries out.
-/

set_option autoImplicit false

namespace Cadence

structure Tally where
  dispatched : Nat
  /-- Signals that joined a cycle already scheduled or in flight. -/
  coalesced : Nat
  /-- Failures that producers reported. -/
  producerErrors : Nat
  violations : Nat
  evictions : Nat
  /-- The delays that the rate cap imposed, in nanoseconds, oldest first. -/
  deferrals : List Nat
  deriving DecidableEq, Repr

namespace Tally

def zero : Tally := ⟨0, 0, 0, 0, 0, []⟩

end Tally

inductive Order
  /-- Run the cycle as soon as its turn comes. -/
  | submit (cycle : Nat)
  /-- Do so once the delay, in nanoseconds, is over. -/
  | defer (cycle delay : Nat)
  deriving DecidableEq, Repr

structure Decoupler (α : Type) where
  pacer : Pacer
  buffer : Buffer α
  tally : Tally

inductive CycleRun (α : Type)
  /-- The cycle was stale, or the decoupler is closed. -/
  | dropped
  | skipped (transition : Transition)
  | delivered (event : Event α)

namespace Decoupler

variable {α : Type}

def init (buffer : Buffer α) (minPeriod : Option Nat) : Decoupler α :=
  ⟨.init minPeriod, buffer, .zero⟩

/-- Counts a transition and turns it into the order that it stands for. -/
def follow (d : Decoupler α) : Transition → Decoupler α × Option Order
  | .schedule cycle delay =>
      if delay = 0 then (d, some (.submit cycle))
      else
        ({ d with tally := { d.tally with deferrals := d.tally.deferrals ++ [delay] } },
          some (.defer cycle delay))
  | .coalesced =>
      ({ d with tally := { d.tally with coalesced := d.tally.coalesced + 1 } }, none)
  | .held => (d, none)
  | .ignored => (d, none)
  | .idle => (d, none)

def store (d : Decoupler α) (value : Option α) : Decoupler α × Writing :=
  let (buffer, writing) := d.buffer.write value
  ({ d with
      buffer := buffer
      tally := { d.tally with evictions := d.tally.evictions + writing.evictions } },
    writing)

/-- Takes a signal.  A reported failure is counted whether or not the decoupler is open. -/
def signal (d : Decoupler α) (s : Signal) (now : Nat) : Decoupler α × Transition :=
  let (pacer, transition) := d.pacer.signal s now
  let errors := if s.isFault then d.tally.producerErrors + 1 else d.tally.producerErrors
  ({ d with pacer := pacer, tally := { d.tally with producerErrors := errors } }, transition)

/-- The consumer is done with a cycle.  A call that does not match is a violation, which is counted
and closes the decoupler. -/
def ready (d : Decoupler α) (cycle now : Nat) :
    Decoupler α × Except ProtocolViolation Transition :=
  match d.pacer.ready cycle now with
  | (pacer, .ok transition) => ({ d with pacer := pacer }, .ok transition)
  | (pacer, .error violation) =>
      ({ d with
          pacer := pacer.close.1
          tally := { d.tally with violations := d.tally.violations + 1 } },
        .error violation)

def pause (d : Decoupler α) : Decoupler α := { d with pacer := d.pacer.pause }

def resume (d : Decoupler α) (now : Nat) : Decoupler α × Transition :=
  let (pacer, transition) := d.pacer.resume now
  ({ d with pacer := pacer }, transition)

def close (d : Decoupler α) : Decoupler α := { d with pacer := d.pacer.close.1 }

/-- Runs a cycle whose turn has come: reads the buffer, and either skips the cycle or marks it
dispatched, its event being the listener's from then on. -/
def runCycle (d : Decoupler α) (cycle now : Nat) : Decoupler α × CycleRun α :=
  match d.pacer.begin cycle now with
  | (pacer, none) => ({ d with pacer := pacer }, .dropped)
  | (pacer, some snapshot) =>
      let (buffer, values) := d.buffer.read
      let event := Event.classify cycle snapshot values
      if event.kinds.isEmpty then
        let (pacer, transition) := pacer.skip cycle now
        ({ d with pacer := pacer, buffer := buffer }, .skipped transition)
      else
        ({ d with
            pacer := (pacer.markDispatched cycle).1
            buffer := buffer
            tally := { d.tally with dispatched := d.tally.dispatched + 1 } },
          .delivered event)

end Decoupler

end Cadence
