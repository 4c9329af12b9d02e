/-!
# Failures

Every way in which an operation of the library can be refused, as a cause.  Causes are grouped by
where they arise: in a producer's function (`ProducerFault`), in a consumer that breaks the
readiness protocol (`ProtocolViolation`), in a configuration (`ConfigFault`), in an executor that
takes no more tasks (`Refusal`).  `Failure` joins them, and each group has one function that words
its causes.

A `Panic` is not a failure that an operation answers: it unwinds through its callers until an
executor catches it.  `Interruption` is the type of an operation that can end either way.
-/

set_option autoImplicit false

namespace Cadence

inductive ProducerFault
  | readFailed (reason : String)
  | writeFailed (reason : String)
  | disconnected (reason : String)
  deriving DecidableEq, Repr

namespace ProducerFault

def message : ProducerFault → String
  | readFailed reason => "Read function failed: " ++ reason
  | writeFailed reason => "Write function failed: " ++ reason
  | disconnected reason => "Source disconnected: " ++ reason

end ProducerFault

inductive ProtocolViolation
  | readyWhileIdle (cycle : Nat)
  /-- Another cycle than the current one was named. -/
  | cycleMismatch (expected received : Nat)
  | notDispatched (cycle : Nat)
  deriving DecidableEq, Repr

namespace ProtocolViolation

def message : ProtocolViolation → String
  | readyWhileIdle cycle => s!"Ready signal for cycle {cycle} received while decoupler is idle"
  | cycleMismatch expected received =>
      s!"Ready signal for cycle {received} does not match in-flight cycle {expected}"
  | notDispatched cycle => s!"Ready signal for cycle {cycle} received before dispatch"

end ProtocolViolation

inductive MillisSetting
  | maxRate
  | timeWindow
  deriving DecidableEq, Repr

def MillisSetting.name : MillisSetting → String
  | maxRate => "max rate"
  | timeWindow => "time window"

inductive ConfigFault
  | zeroRate
  | zeroCapacity
  | zeroWindow
  /-- A duration of `nanos` nanoseconds is no positive whole number of milliseconds. -/
  | notWholeMillis (setting : MillisSetting) (nanos : Int)
  | noTimestampSupport (typeName : String)
  /-- The rate-capped subscription has nothing to run its timers. -/
  | noRuntime (subscription : String)
  /-- A source of settings is missing, malformed, or holds a value of the wrong kind. -/
  | unreadable
  | described (text : String)
  deriving DecidableEq, Repr

namespace ConfigFault

/-- The wording of a fault.  The reader of a settings source words its own faults, so `unreadable`
has none here. -/
def message : ConfigFault → Option String
  | zeroRate => some "max_rate_ms must be greater than 0 when set"
  | zeroCapacity => some "queue capacity must be greater than 0"
  | zeroWindow => some "time window must be greater than 0ms"
  | notWholeMillis setting nanos =>
      some (setting.name ++ " must be a positive whole number of milliseconds, got "
        ++ toString nanos ++ "ns")
  | noTimestampSupport typeName => some ("no timestamp support installed for " ++ typeName)
  | noRuntime subscription =>
      some ("subscription " ++ subscription
        ++ " is rate capped but no tokio runtime is available")
  | unreadable => none
  | described text => some text

end ConfigFault

inductive Refusal
  | shutDown (worker : String)
  /-- A task took the thread of the named worker with it. -/
  | crashed (worker : String)
  | stopped
  | noEventLoop
  | described (text : String)
  deriving DecidableEq, Repr

namespace Refusal

def reason : Refusal → String
  | shutDown worker => worker ++ " is shut down"
  | crashed worker => worker ++ " worker has stopped"
  | stopped => "dispatch task has stopped"
  | noEventLoop =>
      "no tokio runtime available: there is no reactor running, must be called from the context "
        ++ "of a Tokio 1.x runtime"
  | described text => text

def message (refusal : Refusal) : String := "Dispatch failed: " ++ refusal.reason

end Refusal

inductive Failure
  | config (fault : ConfigFault)
  | protocol (violation : ProtocolViolation)
  | producer (fault : ProducerFault)
  | division (nanos : Int)
  | dispatch (refusal : Refusal)
  | fatal (text : String)
  deriving DecidableEq, Repr

namespace Failure

def message : Failure → Option String
  | config fault => fault.message
  | protocol violation => some violation.message
  | producer fault => some fault.message
  | division nanos => some ("Cannot divide duration of " ++ toString nanos ++ "ns by zero")
  | dispatch refusal => some refusal.message
  | fatal text => some ("Fatal error: " ++ text)

end Failure

/-- An unwinding of the running task, with the text it carries if it carries one. -/
structure Panic where
  text : Option String
  deriving DecidableEq, Repr

namespace Panic

def divisionOverflow : Panic := ⟨some "attempt to divide with overflow"⟩

def multiplicationOverflow : Panic := ⟨some "attempt to multiply with overflow"⟩

def subtractionOverflow : Panic := ⟨some "attempt to subtract with overflow"⟩

/-- More room was asked for than memory can address. -/
def capacityOverflow : Panic := ⟨some "capacity overflow"⟩

/-- No clock shows the instant that lies so long before or after the epoch. -/
def instantOverflow (beforeEpoch : Bool) : Panic :=
  ⟨some (if beforeEpoch then "overflow when subtracting duration from instant"
    else "overflow when adding duration to instant")⟩

/-- The bytes of a thread's name hold a zero, first at `position`. -/
def zeroInThreadName (position : Nat) (bytes : List UInt8) : Panic :=
  ⟨some (s!"thread name may not contain interior null bytes: NulError({position}, ["
    ++ ", ".intercalate (bytes.map fun byte => toString byte.toNat) ++ "])")⟩

end Panic

inductive Interruption
  | failure (cause : Failure)
  | panic (cause : Panic)
  deriving DecidableEq, Repr

end Cadence
