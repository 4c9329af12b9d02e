import Cadence.Time.Timestamp

/-!
# Payloads

The kinds of values that sources produce, and what the library needs to know about one of them: its
name, the room a buffered value takes, and how to find the timestamp that its producer assigned to
it.  Floating-point values are kept by their bits, so that every value is equal to itself and
nothing about it is lost.
-/

set_option autoImplicit false

namespace Cadence

/-- A double-precision number, by its bits. -/
structure Binary64 where
  bits : UInt64
  deriving DecidableEq, Repr

/-- A single-precision number, by its bits. -/
structure Binary32 where
  bits : UInt32
  deriving DecidableEq, Repr

/-- A value with the timestamp that its producer assigned to it. -/
structure Stamped (α : Type) where
  value : α
  stamp : Timestamp
  deriving DecidableEq, Repr

/-- An integer with a timestamp that may be missing. -/
structure Reading where
  value : Int64
  stamp : Option Timestamp
  deriving DecidableEq

structure Profile (α : Type) where
  typeName : String
  /-- The bytes that a buffered value takes. -/
  width : Nat
  /-- How to find a value's timestamp, if the type has timestamp support. -/
  stampOf : Option (α → Option Timestamp)

namespace Profile

variable {α : Type}

/-- The timestamp of a value; a type without support has none. -/
def timestamp (profile : Profile α) (value : α) : Option Timestamp :=
  profile.stampOf.bind fun extract => extract value

end Profile

inductive Scalar
  | int32
  | int64
  | float32
  | float64
  | text
  | floats
  deriving DecidableEq, Repr

namespace Scalar

def Carrier : Scalar → Type
  | int32 => Int32
  | int64 => Int64
  | float32 => Binary32
  | float64 => Binary64
  | text => String
  | floats => List Binary64

def typeName : Scalar → String
  | int32 => "i32"
  | int64 => "i64"
  | float32 => "f32"
  | float64 => "f64"
  | text => "alloc::string::String"
  | floats => "alloc::vec::Vec<f64>"

def width : Scalar → Nat
  | int32 => 4
  | int64 => 8
  | float32 => 4
  | float64 => 8
  | text => 24
  | floats => 24

end Scalar

inductive PayloadKind
  | plain (scalar : Scalar)
  | stamped (scalar : Scalar)
  | reading
  deriving DecidableEq, Repr

namespace PayloadKind

def Carrier : PayloadKind → Type
  | plain scalar => scalar.Carrier
  | stamped scalar => Stamped scalar.Carrier
  | reading => Reading

def typeName : PayloadKind → String
  | plain scalar => scalar.typeName
  | stamped scalar => "Timestamped<" ++ scalar.typeName ++ ">"
  | reading => "Reading"

/-- A timestamp takes sixteen bytes, one that may be missing eight more; a value is padded to a
multiple of eight beside them. -/
def width : PayloadKind → Nat
  | plain scalar => scalar.width
  | stamped scalar => 16 + (scalar.width + 7) / 8 * 8
  | reading => 32

end PayloadKind

end Cadence
