/-!
# The latest value

A buffer of one slot: every write overwrites it, and a read empties it.
-/

set_option autoImplicit false

namespace Cadence

/-- A slot for the most recent value. -/
structure Latest (α : Type) where
  slot : Option α
  deriving DecidableEq

namespace Latest

variable {α : Type}

def empty : Latest α := ⟨none⟩

def write (_ : Latest α) (value : α) : Latest α := ⟨some value⟩

/-- The value, if one was written since the last read, and the emptied slot. -/
def read (b : Latest α) : Latest α × List α := (empty, b.slot.toList)

end Latest

end Cadence
