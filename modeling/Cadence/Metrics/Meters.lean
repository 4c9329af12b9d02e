import Cadence.Decoupler.Basic

/-!
# Meters

What is counted over all subscriptions.  Most counts are labelled by subscription; the count of
evicted values is not, since a buffer does not know whose it is.
-/

set_option autoImplicit false

namespace Cadence

inductive Counter
  | coalescedSignals
  | dispatchedEvents
  | producerErrors
  | protocolViolations
  deriving DecidableEq, Repr

namespace Counter

def all : List Counter := [coalescedSignals, dispatchedEvents, producerErrors, protocolViolations]

def name : Counter → String
  | coalescedSignals => "coalesced_signals"
  | dispatchedEvents => "dispatched_events"
  | producerErrors => "producer_errors"
  | protocolViolations => "protocol_violations"

def help : Counter → String
  | coalescedSignals => "Source signals merged into an in-flight cycle"
  | dispatchedEvents => "Events handed to the notification dispatch"
  | producerErrors => "Read or write function failures folded into events"
  | protocolViolations => "Ready signals without a matching dispatch"

end Counter

/-- The counts of all subscriptions. -/
structure Meters where
  counts : List ((Counter × String) × Nat)
  evictions : Nat
  /-- For each subscription, the delays that its rate cap imposed, in milliseconds, oldest first. -/
  deferrals : List (String × List Float)

/-- A delay of so many nanoseconds, in milliseconds.  It is taken to seconds first. -/
def Delay.millis (nanos : Nat) : Float :=
  (Float.ofNat (nanos / 1000000000) + Float.ofNat (nanos % 1000000000) / 1000000000.0) * 1000.0

namespace Meters

def zero : Meters := ⟨[], 0, []⟩

/-- Changes the value of a key, which starts from `initial`. -/
def update {κ β : Type} [BEq κ] (entries : List (κ × β)) (key : κ) (initial : β) (f : β → β) :
    List (κ × β) :=
  if entries.any fun entry => entry.1 == key then
    entries.map fun entry => if entry.1 == key then (entry.1, f entry.2) else entry
  else entries ++ [(key, f initial)]

def add (m : Meters) (counter : Counter) (label : String) (n : Nat) : Meters :=
  { m with counts := update m.counts (counter, label) 0 (· + n) }

def addEvictions (m : Meters) (n : Nat) : Meters := { m with evictions := m.evictions + n }

def addDeferrals (m : Meters) (label : String) (millis : List Float) : Meters :=
  { m with deferrals := update m.deferrals label [] (· ++ millis) }

def ofTally (subject : String) (t : Tally) : Meters :=
  ((((zero.add .coalescedSignals subject t.coalesced).add
      .dispatchedEvents subject t.dispatched).add
      .producerErrors subject t.producerErrors).add
      .protocolViolations subject t.violations).addEvictions t.evictions
    |>.addDeferrals subject (t.deferrals.map Delay.millis)

/-- The labels under which a counter has counted, in order, with their counts. -/
def labelled (m : Meters) (counter : Counter) : List (String × Nat) :=
  let counts := m.counts.filterMap fun entry =>
    if entry.1.1 = counter then some (entry.1.2, entry.2) else none
  counts.mergeSort fun a b => !decide (b.1 < a.1)

/-- The labels under which deferrals were observed, in order, with the delays. -/
def labelledDeferrals (m : Meters) : List (String × List Float) :=
  m.deferrals.mergeSort fun a b => !decide (b.1 < a.1)

end Meters

end Cadence
