/-!
# The text of a delay

A delay is a number of nanoseconds.  Its text takes the largest of the units second, millisecond,
microsecond and nanosecond that is not larger than the delay, and writes the rest as a decimal
fraction without trailing zeros: `0ns`, `98ms`, `1.5s`.
-/

set_option autoImplicit false

namespace Cadence.Delay

/-- The decimals of `part` units of `10^-places`, without trailing zeros. -/
def fraction (part places : Nat) : List Char :=
  let digits := Nat.toDigits 10 part
  let padded := List.replicate (places - digits.length) '0' ++ digits
  (padded.reverse.dropWhile (· == '0')).reverse

/-- A whole number of units, and `part` units of `10^-places` after it. -/
def inUnit (whole part places : Nat) (unit : String) : String :=
  match fraction part places with
  | [] => toString whole ++ unit
  | digits => toString whole ++ "." ++ String.ofList digits ++ unit

def text (nanos : Nat) : String :=
  if 1000000000 ≤ nanos then inUnit (nanos / 1000000000) (nanos % 1000000000) 9 "s"
  else if 1000000 ≤ nanos then inUnit (nanos / 1000000) (nanos % 1000000) 6 "ms"
  else if 1000 ≤ nanos then inUnit (nanos / 1000) (nanos % 1000) 3 "µs"
  else toString nanos ++ "ns"

end Cadence.Delay
