import Cadence.Failure
import Cadence.Time.Word

/-!
# Bounded queues

A queue that keeps the last `capacity` values written since it was read.  Writing never waits: a
full queue gives up its oldest value for the new one.
-/

set_option autoImplicit false

namespace Cadence

/-- The values written since the last read, oldest first. -/
structure Queue (α : Type) where
  capacity : Nat
  items : List α
  deriving DecidableEq

namespace Queue

variable {α : Type}

/-- An empty queue; it holds at least one value whatever capacity is asked for. -/
def ofCapacity (capacity : Nat) : Queue α := ⟨max capacity 1, []⟩

/-- An empty queue, with room set aside for all values of `width` bytes that it may hold.  No more
than `2^63 - 1` bytes can be addressed.  That memory may run out before is left out. -/
def allocate (width capacity : Nat) : Except Panic (Queue α) :=
  if wordMax < (max capacity 1 * width : Nat) then .error .capacityOverflow
  else .ok (ofCapacity capacity)

def isFull (q : Queue α) : Bool := decide (q.capacity ≤ q.items.length)

/-- Appends a value, dropping the oldest first if the queue is full. -/
def write (q : Queue α) (value : α) : Queue α :=
  { q with items := (if q.isFull then q.items.drop 1 else q.items) ++ [value] }

/-- Whether the next write drops a value. -/
def evicts (q : Queue α) : Bool := q.isFull && !q.items.isEmpty

/-- Everything in the queue, and the emptied queue. -/
def read (q : Queue α) : Queue α × List α := ({ q with items := [] }, q.items)

end Queue

end Cadence
