import Cadence.Buffer.Latest
import Cadence.Buffer.Queue
import Cadence.Buffer.Window
import Cadence.Journal
import Cadence.Payload.Basic

/-!
# Buffers

The point where the rate of the producers and the rate of the consumer are decoupled: producers
write one value at a time, and a cycle reads the batch that has gathered.  A buffer follows one of
three policies.  A write answers what became of the value; its notices and its count of evictions
follow from that answer.
-/

set_option autoImplicit false

namespace Cadence

inductive Buffer (α : Type)
  | latest (l : Latest α)
  | queue (q : Queue α)
  /-- A time window, with the way to find a value's timestamp. -/
  | window (stampOf : α → Option Timestamp) (w : Window α)

inductive Writing
  | nothing
  /-- The value carries no timestamp, and was dropped. -/
  | unstamped
  /-- The value is in the buffer. -/
  | stored
  /-- The value took the place of an unread one. -/
  | replaced
  /-- The value is in the queue of that capacity, and the oldest was dropped for it. -/
  | evicted (capacity : Nat)
  deriving DecidableEq, Repr

namespace Writing

def accepted : Writing → Bool
  | nothing => false
  | unstamped => false
  | stored => true
  | replaced => true
  | evicted _ => true

def evictions : Writing → Nat
  | evicted _ => 1
  | _ => 0

def notices : Writing → List Notice
  | nothing => []
  | unstamped => [.droppedUnstamped]
  | stored => []
  | replaced => [.overwroteUnread]
  | evicted capacity => [.evictedOldest capacity]

end Writing

namespace Buffer

variable {α : Type}

def store (b : Buffer α) (value : α) : Buffer α × Writing :=
  match b with
  | .latest l => (.latest (l.write value), if l.slot.isSome then .replaced else .stored)
  | .queue q => (.queue (q.write value), if q.evicts then .evicted q.capacity else .stored)
  | .window stampOf w =>
      match stampOf value with
      | none => (b, .unstamped)
      | some stamp => (.window stampOf (w.write value stamp), .stored)

def write (b : Buffer α) : Option α → Buffer α × Writing
  | none => (b, .nothing)
  | some value => b.store value

def read : Buffer α → Buffer α × List α
  | .latest l => (.latest l.read.1, l.read.2)
  | .queue q => (.queue q.read.1, q.read.2)
  | .window stampOf w => (.window stampOf w.read.1, w.read.2)

/-- What the next read reports: how many values a time window prunes, if it prunes any. -/
def readNotices : Buffer α → List Notice
  | .latest _ => []
  | .queue _ => []
  | .window _ w =>
      match w.allowed? with
      | none => []
      | some allowed =>
          let gone := w.entries.length - w.prune.entries.length
          if gone = 0 then [] else [.pruned gone allowed.start]

/-- The buffer that a policy asks for, over values with the given profile. -/
def ofPolicy (profile : Profile α) (policy : Policy) : Except Interruption (Buffer α) :=
  match policy.validate with
  | .error fault => .error (.failure (.config fault))
  | .ok () =>
      match policy with
      | .latest => .ok (.latest .empty)
      | .queue capacity =>
          match Queue.allocate profile.width capacity.toNat with
          | .error panic => .error (.panic panic)
          | .ok q => .ok (.queue q)
      | .timeWindow windowMs =>
          match profile.stampOf with
          | none => .error (.failure (.config (.noTimestampSupport profile.typeName)))
          | some stampOf => .ok (.window stampOf (.empty (.ofWordMillis windowMs)))

/-- The shape of a buffer that an integrator builds without a policy. -/
inductive Shape
  | latest
  | queue (capacity : Nat)
  | window (length : Duration)
  deriving DecidableEq, Repr

/-- A buffer of the given shape.  Over a type without timestamp support a time window drops every
value. -/
def ofShape (profile : Profile α) : Shape → Except Interruption (Buffer α)
  | .latest => .ok (.latest .empty)
  | .queue capacity =>
      match Queue.allocate profile.width capacity with
      | .error panic => .error (.panic panic)
      | .ok q => .ok (.queue q)
  | .window length => .ok (.window profile.timestamp (.empty length))

end Buffer

end Cadence
