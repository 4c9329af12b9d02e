import Cadence.Time.Timestamp

/-!
# Intervals

A range between two timestamps, and the three ranges that a duration spans at a reference point:
before it, after it, and half on either side.
-/

set_option autoImplicit false

namespace Cadence

structure Interval where
  start : Timestamp
  stop : Timestamp
  deriving DecidableEq, Repr

namespace Interval

/-- Both ends belong to the interval. -/
def contains (i : Interval) (t : Timestamp) : Bool := decide (i.start ≤ t) && decide (t ≤ i.stop)

/-- The start belongs to the interval and the end does not. -/
def containsHalfOpen (i : Interval) (t : Timestamp) : Bool :=
  decide (i.start ≤ t) && decide (t < i.stop)

end Interval

namespace Duration

/-- From `d` before the reference up to the reference. -/
def before (d : Duration) (reference : Timestamp) : Interval := ⟨reference.minus d, reference⟩

/-- From the reference up to `d` after it. -/
def after (d : Duration) (reference : Timestamp) : Interval := ⟨reference, reference.plus d⟩

/-- Half of `d` on either side of the reference. -/
def around (d : Duration) (reference : Timestamp) : Interval :=
  ⟨reference.minus d.half, reference.plus d.half⟩

end Duration

end Cadence
