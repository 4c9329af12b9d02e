import Cadence.Pacer.Basic
import Cadence.Settings.Basic
import Cadence.Time.Timestamp

/-!
# The journal

What the library reports about its work.  A `Notice` is a cause with its data; its level and its
wording are functions of it.  A journal is a list of notices, oldest first.
-/

set_option autoImplicit false

namespace Cadence

/-- How much a notice matters, most important first. -/
inductive Level
  | error
  | warn
  | info
  | debug
  | trace
  deriving DecidableEq, Repr

namespace Level

def rank : Level → Nat
  | error => 0
  | warn => 1
  | info => 2
  | debug => 3
  | trace => 4

def name : Level → String
  | error => "ERROR"
  | warn => "WARN"
  | info => "INFO"
  | debug => "DEBUG"
  | trace => "TRACE"

end Level

/-- One thing to report.  The `subject` is the subscription that the report is about. -/
inductive Notice
  | overwroteUnread
  | evictedOldest (capacity : Nat)
  | droppedUnstamped
  | pruned (count : Nat) (start : Timestamp)
  | readFunctionFailed (fault : ProducerFault)
  | writeAfterClose
  | collectWithoutFunction
  | signalled (subject : String) (signal : Signal)
  | scheduling (subject : String) (cycle : Nat)
  | deferring (subject : String) (cycle delay : Nat)
  | cannotDefer (subject : String) (cycle delay : Nat)
  | deferralCancelled (cycle : Nat)
  | couldNotSubmit (subject : String) (cycle : Nat) (refusal : Refusal)
  | cycleDropped (subject : String) (cycle : Nat)
  | nothingToDeliver (subject : String) (cycle : Nat)
  | delivering (subject : String) (cycle : Nat) (kinds : KindSet) (count : Nat)
  | violated (subject : String) (violation : ProtocolViolation)
  | paused (subject : String)
  | resumed (subject : String) (transition : Transition)
  | closed (subject : String)
  | closingDropped (subject : String)
  | dedicatedWorker (subject : String)
  | established (subject : String) (settings : Settings)
  | callbackPanicked (executor : String) (panic : Panic)
  | taskStopped (executor : String)
  | ownThread (worker : String)
  | endedAbnormally (worker : String)
  | metricNotRegistered
  deriving DecidableEq

namespace Notice

def level : Notice → Level
  | overwroteUnread => .trace
  | evictedOldest _ => .trace
  | droppedUnstamped => .warn
  | pruned _ _ => .trace
  | readFunctionFailed _ => .debug
  | writeAfterClose => .trace
  | collectWithoutFunction => .debug
  | signalled _ _ => .trace
  | scheduling _ _ => .debug
  | deferring _ _ _ => .debug
  | cannotDefer _ _ _ => .warn
  | deferralCancelled _ => .trace
  | couldNotSubmit _ _ _ => .error
  | cycleDropped _ _ => .trace
  | nothingToDeliver _ _ => .trace
  | delivering _ _ _ _ => .trace
  | violated _ _ => .error
  | paused _ => .debug
  | resumed _ _ => .debug
  | closed _ => .debug
  | closingDropped _ => .debug
  | dedicatedWorker _ => .debug
  | established _ _ => .info
  | callbackPanicked _ _ => .error
  | taskStopped _ => .debug
  | ownThread _ => .warn
  | endedAbnormally _ => .warn
  | metricNotRegistered => .warn

/-- A report that begins with its subject between brackets. -/
def about (subject text : String) : String := "[" ++ subject ++ "] " ++ text

def text : Notice → String
  | overwroteUnread => "LatestValueCollector::write overwrote an unread value"
  | evictedOldest capacity =>
      "QueueCollector::write evicted oldest, capacity=" ++ toString capacity
  | droppedUnstamped => "TimeWindowCollector::write dropped a value without timestamp"
  | pruned count start =>
      "TimeWindowCollector::read pruned " ++ toString count ++ " entries older than " ++ start.text
  | readFunctionFailed fault =>
      "SourceCollector::collect read function failed: " ++ fault.message
  | writeAfterClose => "write after close ignored"
  | collectWithoutFunction => "collect called on a subscription without a read function"
  | signalled subject signal => about subject ("signal " ++ signal.text)
  | scheduling subject cycle => about subject s!"scheduling cycle {cycle}"
  | deferring subject cycle delay =>
      about subject (s!"deferring cycle {cycle} by " ++ Delay.text delay)
  | cannotDefer subject cycle delay =>
      about subject
        (s!"no runtime to defer cycle {cycle} by " ++ Delay.text delay ++ ", running now")
  | deferralCancelled cycle => s!"deferred cycle {cycle} cancelled by close"
  | couldNotSubmit subject cycle refusal =>
      about subject (s!"could not submit cycle {cycle}: " ++ refusal.message)
  | cycleDropped subject cycle => about subject s!"cycle {cycle} dropped"
  | nothingToDeliver subject cycle => about subject s!"cycle {cycle} had nothing to deliver"
  | delivering subject cycle kinds count =>
      about subject
        (s!"delivering cycle {cycle}: " ++ kinds.text ++ s!" with {count} values")
  | violated subject violation => about subject ("protocol violation: " ++ violation.message)
  | paused subject => about subject "paused"
  | resumed subject transition => about subject ("resumed: " ++ transition.text)
  | closed subject => about subject "closed"
  | closingDropped subject => about subject "closing dropped subscription"
  | dedicatedWorker subject => about subject "using a dedicated dispatch worker"
  | established subject settings =>
      about subject ("subscription established: " ++ settings.text)
  | callbackPanicked executor panic =>
      about executor ("notification callback panicked: " ++ panic.text.getD "unknown panic")
  | taskStopped executor => about executor "dispatch task stopped"
  | ownThread worker => about worker "shutdown called from its own worker, not joining"
  | endedAbnormally worker => about worker "dispatch worker terminated abnormally"
  | metricNotRegistered => "collector can not be registered: AlreadyReg"

def line (notice : Notice) : String := notice.level.name ++ ": " ++ notice.text

end Notice

/-- The lines of a journal that matter at least as much as `level`. -/
def journalLines (level : Level) (journal : List Notice) : List String :=
  (journal.filter fun notice => decide (notice.level.rank ≤ level.rank)).map Notice.line

end Cadence
