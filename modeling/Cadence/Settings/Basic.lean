import Cadence.Text.Record
import Cadence.Time.Duration

/-!
# Settings

The settings of one subscription: an optional rate cap, and the policy by which values are buffered
between two notifications.  Both are kept in unsigned 64-bit words; durations are accepted only if
they are a positive whole number of milliseconds.
-/

set_option autoImplicit false

namespace Cadence

inductive Policy
  | latest
  /-- Up to `capacity` values; a full queue gives up its oldest. -/
  | queue (capacity : UInt64)
  /-- Every value whose timestamp lies within `windowMs` of that of the newest. -/
  | timeWindow (windowMs : UInt64)
  deriving DecidableEq, Repr

structure Settings where
  /-- The least time between two notifications, in milliseconds. -/
  maxRateMs : Option UInt64
  buffer : Policy
  deriving DecidableEq, Repr

/-- The milliseconds of a duration, refusing to round. -/
def MillisSetting.wholeMillis (setting : MillisSetting) (d : Duration) :
    Except ConfigFault UInt64 :=
  if d.nanos ≤ 0 ∨ d.nanos.tmod Duration.nanosPerMilli ≠ 0 then
    .error (.notWholeMillis setting d.nanos)
  else .ok (.ofNat (d.nanos.tdiv Duration.nanosPerMilli).toNat)

/-- The duration of a number of milliseconds.  The number is read as a signed word, so the upper
half of its range stands for negative durations. -/
def Duration.ofWordMillis (millis : UInt64) : Duration := .ofMillis millis.toInt64.toInt

namespace Policy

def ofWindow (window : Duration) : Except ConfigFault Policy :=
  (MillisSetting.timeWindow.wholeMillis window).map timeWindow

/-- A queue holds something and a window has a length. -/
def validate : Policy → Except ConfigFault Unit
  | latest => .ok ()
  | queue capacity => if capacity = 0 then .error .zeroCapacity else .ok ()
  | timeWindow windowMs => if windowMs = 0 then .error .zeroWindow else .ok ()

def text : Policy → String
  | latest => "Latest"
  | queue capacity => Text.record "Queue" [("capacity", toString capacity.toNat)]
  | timeWindow windowMs => Text.record "TimeWindow" [("window_ms", toString windowMs.toNat)]

end Policy

namespace Settings

/-- No rate cap, and only the most recent value is kept. -/
def default : Settings := ⟨none, .latest⟩

def withMaxRate (settings : Settings) (period : Duration) : Except ConfigFault Settings :=
  (MillisSetting.maxRate.wholeMillis period).map fun millis =>
    { settings with maxRateMs := some millis }

def withBuffer (settings : Settings) (policy : Policy) : Settings :=
  { settings with buffer := policy }

/-- The settings themselves, if a subscription can run on them. -/
def validate (settings : Settings) : Except ConfigFault Settings :=
  if settings.maxRateMs = some 0 then .error .zeroRate
  else settings.buffer.validate.map fun _ => settings

def minPeriod (settings : Settings) : Option Duration :=
  settings.maxRateMs.map Duration.ofWordMillis

def text (settings : Settings) : String :=
  Text.record "DecouplerConfig"
    [("max_rate_ms", Text.optional (settings.maxRateMs.map fun millis => toString millis.toNat)),
      ("buffer", settings.buffer.text)]

end Settings

end Cadence
