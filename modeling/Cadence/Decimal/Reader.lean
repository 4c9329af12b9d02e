/-!
# Reading decimals

Texts of numbers: a sign, digits, a fraction and a power of ten.  A reader answers `none` unless the
whole text is a number of its kind.
-/

set_option autoImplicit false

namespace Cadence.Decimal

/-- The number that a list of digits writes, if it holds digits only and is not empty. -/
def natural? (digits : List Char) : Option Nat :=
  if digits.isEmpty || !digits.all Char.isDigit then none
  else some (digits.foldl (fun n c => 10 * n + (c.toNat - 48)) 0)

/-- A sign, if there is one, and what follows it. -/
def splitSign : List Char → Bool × List Char
  | '-' :: rest => (true, rest)
  | '+' :: rest => (false, rest)
  | text => (false, text)

/-- A whole number with an optional sign. -/
def integer? (text : List Char) : Option Int :=
  let (negative, digits) := splitSign text
  (natural? digits).map fun n => if negative then -(n : Int) else n

/-- The double-precision number nearest to `mantissa * 10^exponent`.  Far outside the range of
double precision it is infinite or zero. -/
def toFloat (negative : Bool) (mantissa : Nat) (exponent : Int) : Float :=
  let size := (Nat.toDigits 10 mantissa).length + exponent
  let magnitude :=
    if mantissa = 0 ∨ size < -400 then 0.0
    else if 400 < size then 1.0 / 0.0
    else if 0 ≤ exponent then Float.ofScientific (mantissa * Nat.pow 10 exponent.toNat) false 0
    else Float.ofScientific mantissa true (-exponent).toNat
  if negative then -magnitude else magnitude

/-- A number with an optional sign, fraction and exponent; one side of the point may be empty. -/
def float? (text : List Char) : Option Float :=
  let (negative, unsigned) := splitSign text
  let lower := unsigned.map Char.toLower
  if lower = "inf".toList ∨ lower = "infinity".toList then
    some (if negative then -1.0 / 0.0 else 1.0 / 0.0)
  else if lower = "nan".toList then some (0.0 / 0.0)
  else
    let significand := lower.takeWhile (· != 'e')
    let power := lower.dropWhile (· != 'e')
    let whole := significand.takeWhile (· != '.')
    let fraction := (significand.dropWhile (· != '.')).drop 1
    let exponent := if power.isEmpty then some 0 else integer? (power.drop 1)
    match natural? (whole ++ fraction), exponent with
    | some mantissa, some exponent =>
        some (toFloat negative mantissa (exponent - fraction.length))
    | _, _ => none

end Cadence.Decimal
