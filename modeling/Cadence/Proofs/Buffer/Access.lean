import Cadence.Buffer.Basic

/-!
# Accesses to a buffer

A buffer is written by producers and read by cycles, one access at a time.  A history is a list of
accesses, the oldest first.
-/

set_option autoImplicit false

namespace Cadence.Buffer

variable {α : Type}

/-- What the two sides do to a buffer. -/
inductive Access (α : Type)
  | write (value : Option α)
  | read
  deriving DecidableEq

def access (b : Buffer α) : Access α → Buffer α
  | .write value => (b.write value).1
  | .read => b.read.1

/-- What has become of the buffer after the accesses of `history`, in order. -/
def after (b : Buffer α) (history : List (Access α)) : Buffer α := history.foldl access b

theorem after_concat (b : Buffer α) (history : List (Access α)) (access : Access α) :
    b.after (history ++ [access]) = (b.after history).access access := by
  simp [after]

end Cadence.Buffer
