import Cadence.Payload.Basic

/-!
# Timestamp support

Buffering by a time window needs the producer's timestamp of a value.  `TypeSupport` holds one
extractor for each kind of payload that has been installed; installing a kind again replaces its
extractor.  `withBasic` installs the stamped scalars.
-/

set_option autoImplicit false

namespace Cadence

structure TypeSupport where
  extractor : (kind : PayloadKind) → Option (kind.Carrier → Option Timestamp)

namespace TypeSupport

def empty : TypeSupport := ⟨fun _ => none⟩

def install (support : TypeSupport) (kind : PayloadKind)
    (extract : kind.Carrier → Option Timestamp) : TypeSupport where
  extractor k := if h : kind = k then some (h ▸ extract) else support.extractor k

def isInstalled (support : TypeSupport) (kind : PayloadKind) : Bool :=
  (support.extractor kind).isSome

/-- The stamped scalars, each with its own timestamp. -/
def withBasic (support : TypeSupport) : TypeSupport :=
  [Scalar.float64, .float32, .int64, .int32, .text, .floats].foldl
    (fun support scalar =>
      support.install (.stamped scalar) fun (value : Stamped scalar.Carrier) => some value.stamp)
    support

/-- Readings, by the timestamp that they may carry. -/
def withReadings (support : TypeSupport) : TypeSupport :=
  support.install .reading fun (value : Reading) => value.stamp

/-- Everything the library knows about a kind of payload. -/
def profile (support : TypeSupport) (kind : PayloadKind) : Profile kind.Carrier where
  typeName := kind.typeName
  width := kind.width
  stampOf := support.extractor kind

end TypeSupport

end Cadence
