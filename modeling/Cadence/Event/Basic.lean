import Cadence.Event.Kind
import Cadence.Failure

/-!
# Events

A `Snapshot` is what has been signalled when a cycle starts; an `Event` is the unit handed to the
consumer: the snapshot's kinds, connection flags and errors together with the batch of values read
from the buffer.  Classification drops the kind `value` of a snapshot whose batch turned out empty
and keeps everything else.
-/

set_option autoImplicit false

namespace Cadence

/-- What was signalled up to the start of a cycle. -/
structure Snapshot where
  kinds : KindSet
  readConnected : Bool
  writeConnected : Bool
  readFault : Option ProducerFault
  writeFault : Option ProducerFault
  deriving DecidableEq

/-- The unit delivered to the consumer. -/
structure Event (α : Type) where
  cycle : Nat
  kinds : KindSet
  values : List α
  readConnected : Bool
  writeConnected : Bool
  readFault : Option ProducerFault
  writeFault : Option ProducerFault
  deriving DecidableEq

namespace Event

variable {α : Type}

/-- The event of a cycle, from what was signalled and the batch that was read. -/
def classify (cycle : Nat) (snapshot : Snapshot) (values : List α) : Event α where
  cycle := cycle
  kinds := if values.isEmpty then snapshot.kinds.erase .value else snapshot.kinds
  values := values
  readConnected := snapshot.readConnected
  writeConnected := snapshot.writeConnected
  readFault := snapshot.readFault
  writeFault := snapshot.writeFault

/-- The most recent value of the batch. -/
def latest? (event : Event α) : Option α := event.values.getLast?

end Event

end Cadence
