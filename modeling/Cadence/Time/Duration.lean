import Cadence.Failure
import Cadence.Time.Word

/-!
# Durations

A signed span of time, kept as a count of nanoseconds in a 64-bit word.  Every operation computes
on integers and clamps its result to the word range, division alone excepted: a zero divisor is a
failure, and the one quotient that leaves the range is a panic.
-/

set_option autoImplicit false

namespace Cadence

/-- A signed span of time in nanoseconds. -/
structure Duration where
  nanos : Int
  min_le : wordMin ≤ nanos
  le_max : nanos ≤ wordMax
  deriving DecidableEq, Repr

namespace Duration

/-- The duration nearest to `nanos` nanoseconds. -/
def ofNanos (nanos : Int) : Duration :=
  ⟨clampWord nanos, wordMin_le_clampWord nanos, clampWord_le_wordMax nanos⟩

def zero : Duration := ofNanos 0

def nanosPerMilli : Int := 1000000

def nanosPerSecond : Int := 1000000000

def ofMillis (millis : Int) : Duration := ofNanos (millis * nanosPerMilli)

def ofSeconds (seconds : Int) : Duration := ofNanos (seconds * nanosPerSecond)

/-- Whole milliseconds, a fraction being dropped on either side of zero. -/
def millis (d : Duration) : Int := d.nanos.tdiv nanosPerMilli

def isNegative (d : Duration) : Bool := decide (d.nanos < 0)

def plus (d e : Duration) : Duration := ofNanos (d.nanos + e.nanos)

def times (d : Duration) (factor : Int) : Duration := ofNanos (d.nanos * factor)

def dividedBy (d : Duration) (divisor : Int) : Except Interruption Duration :=
  if divisor = 0 then .error (.failure (.division d.nanos))
  else
    let quotient := d.nanos.tdiv divisor
    if wordMin ≤ quotient ∧ quotient ≤ wordMax then .ok (ofNanos quotient)
    else .error (.panic .divisionOverflow)

/-- Half of the duration, its fraction dropped. -/
def half (d : Duration) : Duration := ofNanos (d.nanos.tdiv 2)

/-- The delay that lasts as long, in nanoseconds; a negative duration is no delay. -/
def toDelay? (d : Duration) : Option Nat :=
  if d.nanos < 0 then none else some d.nanos.toNat

/-- The duration that lasts as long as a delay of `delay` nanoseconds. -/
def ofDelay (delay : Nat) : Duration := ofNanos delay

def compare (d e : Duration) : Ordering := Ord.compare d.nanos e.nanos

def text (d : Duration) : String := toString d.nanos ++ "ns"

@[ext]
theorem ext {d e : Duration} (h : d.nanos = e.nanos) : d = e := by
  cases d; cases e; cases h; rfl

@[simp]
theorem nanos_ofNanos (nanos : Int) : (ofNanos nanos).nanos = clampWord nanos := rfl

theorem ofNanos_nanos (d : Duration) : ofNanos d.nanos = d :=
  ext (clampWord_of_mem d.min_le d.le_max)

end Duration

end Cadence
