import Cadence.Event.Basic

/-!
# Event logs

A consumer that keeps every event it gets.  In automatic mode it is ready for the next event as soon
as it has kept one; in manual mode it parks the tokens, to be spent one at a time.
-/

set_option autoImplicit false

namespace Cadence

structure EventLog (α : Type) where
  isManual : Bool
  events : List (Event α)
  /-- The cycles whose tokens are parked, oldest first. -/
  parked : List Nat
  /-- The readiness calls of the automatic mode that failed. -/
  readyErrors : List ProtocolViolation

namespace EventLog

variable {α : Type}

def automatic : EventLog α := ⟨false, [], [], []⟩

def manual : EventLog α := ⟨true, [], [], []⟩

def keep (log : EventLog α) (event : Event α) : EventLog α :=
  { log with
    events := log.events ++ [event]
    parked := if log.isManual then log.parked ++ [event.cycle] else log.parked }

/-- Keeps the violation that a readiness call of the automatic mode came to, if it failed. -/
def answered (log : EventLog α) : Except ProtocolViolation Unit → EventLog α
  | .ok () => log
  | .error violation => { log with readyErrors := log.readyErrors ++ [violation] }

def cycles (log : EventLog α) : List Nat := log.events.map (·.cycle)

def values (log : EventLog α) : List α := log.events.flatMap (·.values)

/-- The kinds of the event at a position; asking beyond the last one is a panic. -/
def kinds (log : EventLog α) (position : Nat) : Except Panic KindSet :=
  match log.events[position]? with
  | some event => .ok event.kinds
  | none =>
      .error ⟨some (s!"index out of bounds: the len is {log.events.length} but the index is "
        ++ toString position)⟩

def lines (log : EventLog α) : List String :=
  log.events.map fun event => s!"cycle={event.cycle} " ++ event.kinds.text

end EventLog

end Cadence
