import Cadence.Payload.Basic

/-!
# Samples

Series of stamped values at a regular spacing.  The distance of every value from the first one is
a signed word of milliseconds.
-/

set_option autoImplicit false

namespace Cadence.Stamped

variable {α : Type}

/-- A value that many steps of `stepMs` milliseconds after `start`. -/
def sample (start : Timestamp) (stepMs : Int) (value : α) (steps : Nat) :
    Except Panic (Stamped α) :=
  let distance := stepMs * steps
  if wordMin ≤ distance ∧ distance ≤ wordMax then
    .ok ⟨value, start.plus (.ofMillis distance)⟩
  else .error .multiplicationOverflow

/-- The values, the first one at `start` and each one `stepMs` milliseconds after the one before. -/
def samples (start : Timestamp) (stepMs : Int) (values : List α) :
    Except Panic (List (Stamped α)) :=
  values.zipIdx.mapM fun entry => sample start stepMs entry.1 entry.2

end Cadence.Stamped
