import Cadence.Decimal.Reader
import Cadence.Settings.Tree
import Cadence.Time.Word

/-!
# Scalars of a settings document

The unquoted values of a TOML document: truth values, integers in four bases, floats, and dates and
times.  Underscores may part digits.  A date or time counts as text, since no setting is one.
-/

set_option autoImplicit false

namespace Cadence.Document

/-- Digits of a base, in which single underscores may part digits.  The answer has none left. -/
def parted? (isDigit : Char → Bool) : List Char → Option (List Char)
  | [] => none
  | [c] => if isDigit c then some [c] else none
  | c :: '_' :: rest =>
      if isDigit c then (parted? isDigit rest).map (c :: ·) else none
  | c :: rest => if isDigit c then (parted? isDigit rest).map (c :: ·) else none

/-- A whole number without superfluous zeros. -/
def plain? (text : List Char) : Option (List Char) :=
  match parted? Char.isDigit text with
  | some ['0'] => some ['0']
  | some ('0' :: _) => none
  | answer => answer

def digitValue (c : Char) : Nat :=
  if c.isDigit then c.toNat - 48 else c.toLower.toNat - 87

def isHexDigit (c : Char) : Bool :=
  c.isDigit || ('a' ≤ c && c ≤ 'f') || ('A' ≤ c && c ≤ 'F')

def inBase? (base : Nat) (isDigit : Char → Bool) (text : List Char) : Option Int :=
  (parted? isDigit text).map fun digits =>
    (digits.foldl (fun n c => base * n + digitValue c) 0 : Nat)

/-- An integer in decimal with an optional sign, or in hexadecimal, octal or binary without one. -/
def integer? (text : List Char) : Option Int :=
  let value :=
    match text with
    | '0' :: 'x' :: digits => inBase? 16 isHexDigit digits
    | '0' :: 'o' :: digits => inBase? 8 (fun c => '0' ≤ c && c ≤ '7') digits
    | '0' :: 'b' :: digits => inBase? 2 (fun c => c == '0' || c == '1') digits
    | _ =>
        let (negative, unsigned) := Decimal.splitSign text
        ((plain? unsigned).bind Decimal.natural?).map fun n =>
          if negative then -(n : Int) else n
  value.bind fun n => if wordMin ≤ n ∧ n ≤ wordMax then some n else none

/-- A float has a fraction or an exponent, and digits on either side of its point.  Digits that
write a number above all floats write none. -/
def float? (text : List Char) : Option Float :=
  let (negative, unsigned) := Decimal.splitSign text
  if unsigned = "inf".toList then some (if negative then -1.0 / 0.0 else 1.0 / 0.0)
  else if unsigned = "nan".toList then some (0.0 / 0.0)
  else
    let isMark := fun c => c == 'e' || c == 'E'
    let significand := unsigned.takeWhile fun c => !isMark c
    let power := unsigned.dropWhile fun c => !isMark c
    let whole := significand.takeWhile (· != '.')
    let fraction := significand.dropWhile (· != '.')
    if fraction.isEmpty && power.isEmpty then none
    else
      let fractionDigits :=
        if fraction.isEmpty then some [] else parted? Char.isDigit (fraction.drop 1)
      let exponent :=
        if power.isEmpty then some 0
        else
          let (down, digits) := Decimal.splitSign (power.drop 1)
          ((parted? Char.isDigit digits).bind Decimal.natural?).map fun n =>
            if down then -(n : Int) else n
      match plain? whole, fractionDigits, exponent with
      | some whole, some fraction, some exponent =>
          (Decimal.natural? (whole ++ fraction)).bind fun mantissa =>
            let x := Decimal.toFloat negative mantissa (exponent - fraction.length)
            if x == 1.0 / 0.0 then none else some x
      | _, _, _ => none

/-- Two digits that write a number between two bounds. -/
def twoDigits? (low high : Nat) (text : List Char) : Option Nat :=
  if text.length = 2 then
    (Decimal.natural? text).bind fun n => if low ≤ n ∧ n ≤ high then some n else none
  else none

def daysOf (year month : Nat) : Nat :=
  if month = 2 then
    if year % 4 = 0 ∧ (year % 100 ≠ 0 ∨ year % 400 = 0) then 29 else 28
  else if month = 4 ∨ month = 6 ∨ month = 9 ∨ month = 11 then 30
  else 31

def isDate (text : List Char) : Bool :=
  match text.splitOn '-' with
  | [year, month, day] =>
      match Decimal.natural? year, twoDigits? 1 12 month with
      | some y, some m =>
          decide (year.length = 4) && (twoDigits? 1 (daysOf y m) day).isSome
      | _, _ => false
  | _ => false

/-- Hour, minute and second, parted by colons, with an optional fraction of the second. -/
def isTime (text : List Char) : Bool :=
  match text.splitOn ':' with
  | [hour, minute, second] =>
      let fraction := second.dropWhile (· != '.')
      (twoDigits? 0 23 hour).isSome && (twoDigits? 0 59 minute).isSome
        && (twoDigits? 0 60 (second.takeWhile (· != '.'))).isSome
        && (fraction.isEmpty || (Decimal.natural? (fraction.drop 1)).isSome)
  | _ => false

/-- Hours and minutes that a local time is ahead of or behind universal time, without the sign. -/
def isOffset (text : List Char) : Bool :=
  match text.splitOn ':' with
  | [hour, minute] => (twoDigits? 0 23 hour).isSome && (twoDigits? 0 59 minute).isSome
  | _ => false

def isZonedTime (text : List Char) : Bool :=
  let isSign := fun c => c == '+' || c == '-'
  let offset := text.dropWhile fun c => !isSign c
  if offset.isEmpty then
    match text.reverse with
    | 'Z' :: rest => isTime rest.reverse
    | 'z' :: rest => isTime rest.reverse
    | _ => isTime text
  else isTime (text.takeWhile fun c => !isSign c) && isOffset (offset.drop 1)

def isMoment (text : List Char) : Bool :=
  let date := text.take 10
  match text.drop 10 with
  | [] => isDate text || isTime text
  | mark :: time =>
      if mark == 'T' || mark == 't' || mark == ' ' then isDate date && isZonedTime time
      else isTime text

def scalar? (text : List Char) : Option Tree :=
  if text = "true".toList then some (.boolean true)
  else if text = "false".toList then some (.boolean false)
  else
    match integer? text with
    | some n => some (.integer n)
    | none =>
        match float? text with
        | some x => some (.real x)
        | none => if isMoment text then some (.text (String.ofList text)) else none

end Cadence.Document
