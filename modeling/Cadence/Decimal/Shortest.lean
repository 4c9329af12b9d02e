/-!
# Shortest decimals

The decimal with the fewest digits that reads back as a given double-precision number, and of those
the one nearest to it.  A number is decoded from its bits into a multiple of a power of two, with
the interval of reals that round to it; decimals of one digit, two digits and so on are tried, on
the two points of each grid that enclose the number.
-/

set_option autoImplicit false

namespace Cadence.Decimal

/-- A positive number and the interval of reals that round to it, in units of `2^exponent`. -/
structure Rounding where
  low : Nat
  value : Nat
  high : Nat
  exponent : Int
  /-- The ends of the interval round to the number too. -/
  closed : Bool

structure Numeral where
  digits : Nat
  exponent : Int
  deriving DecidableEq, Repr

/-- How many values the fraction field of a number has: two to the 52nd power. -/
def fractionSize : Nat := 4503599627370496

/-- The rounding interval of a positive finite number with the given exponent and fraction fields.
Below a power of two the neighbouring number is half as far away. -/
def rounding (exponentField fractionField : Nat) : Rounding :=
  let mantissa := if exponentField = 0 then fractionField else fractionField + fractionSize
  { low := if fractionField = 0 ∧ 1 < exponentField then 4 * mantissa - 1 else 4 * mantissa - 2
    value := 4 * mantissa
    high := 4 * mantissa + 2
    exponent := (max exponentField 1 : Nat) - 1077
    closed := decide (mantissa % 2 = 0) }

namespace Rounding

def numerator (r : Rounding) : Nat := Nat.pow 2 r.exponent.toNat

def denominator (r : Rounding) : Nat := Nat.pow 2 (-r.exponent).toNat

def contains (r : Rounding) (n : Numeral) : Bool :=
  let point := n.digits * Nat.pow 10 n.exponent.toNat * r.denominator
  let scale := r.numerator * Nat.pow 10 (-n.exponent).toNat
  if r.closed then decide (r.low * scale ≤ point) && decide (point ≤ r.high * scale)
  else decide (r.low * scale < point) && decide (point < r.high * scale)

/-- The greatest multiple of `10^exponent` that is not above the number, as a count. -/
def floorAt (r : Rounding) (exponent : Int) : Nat :=
  r.value * r.numerator * Nat.pow 10 (-exponent).toNat / (r.denominator * Nat.pow 10 exponent.toNat)

/-- How many digits the number has before its point; below one, the zeros that follow the point
count as negative. -/
def magnitude (r : Rounding) : Int :=
  let whole := r.floorAt 0
  if 0 < whole then (Nat.toDigits 10 whole).length
  else
    match (List.range 400).find? fun places => decide (0 < r.floorAt (-(places + 1 : Nat))) with
    | some places => -places
    | none => -400

/-- The distance from the number to a decimal of the grid `10^exponent`, times a factor that is the
same for all decimals of the grid. -/
def distance (r : Rounding) (n : Numeral) : Nat :=
  let point : Int := n.digits * Nat.pow 10 n.exponent.toNat * r.denominator
  let value : Int := r.value * r.numerator * Nat.pow 10 (-n.exponent).toNat
  (point - value).natAbs

/-- The nearest decimal with that many digits that lies in the interval; of two that are equally
near the one farther from zero. -/
def nearest? (r : Rounding) (count : Nat) : Option Numeral :=
  let exponent := r.magnitude - count
  let below : Numeral := ⟨r.floorAt exponent, exponent⟩
  let above : Numeral := ⟨r.floorAt exponent + 1, exponent⟩
  match r.contains below, r.contains above with
  | true, true => some (if r.distance above ≤ r.distance below then above else below)
  | true, false => some below
  | false, true => some above
  | false, false => none

/-- The shortest decimal in the interval; seventeen digits always suffice. -/
def shortest (r : Rounding) : Numeral :=
  ((List.range 17).findSome? fun count => r.nearest? (count + 1)).getD ⟨0, 0⟩

end Rounding

def Numeral.positional (n : Numeral) : List Char :=
  let digits := Nat.toDigits 10 n.digits
  if 0 ≤ n.exponent then digits ++ List.replicate n.exponent.toNat '0'
  else
    let places := (-n.exponent).toNat
    let padded := List.replicate (places + 1 - digits.length) '0' ++ digits
    let fraction := (padded.drop (padded.length - places)).reverse.dropWhile (· == '0')
    let whole := padded.take (padded.length - places)
    if fraction.isEmpty then whole else whole ++ ['.'] ++ fraction.reverse

/-- The text of a double-precision number, by its bits: its shortest decimal, never with an
exponent, and with a fraction only if it is not whole. -/
def text (bits : UInt64) : String :=
  let fraction := bits.toNat % fractionSize
  let exponent := bits.toNat / fractionSize % 2048
  let sign := if bits < 9223372036854775808 then [] else ['-']
  if exponent = 2047 then
    if fraction = 0 then String.ofList (sign ++ ['i', 'n', 'f']) else "NaN"
  else if exponent = 0 ∧ fraction = 0 then String.ofList (sign ++ ['0'])
  else String.ofList (sign ++ (rounding exponent fraction).shortest.positional)

end Cadence.Decimal
