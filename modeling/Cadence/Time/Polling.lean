/-!
# Polling

Waiting for a condition by asking again and again.  The condition is asked every two milliseconds
until the time is up, and once more then, so it is asked at least once.
-/

set_option autoImplicit false

namespace Cadence.Polling

/-- Milliseconds between two questions. -/
def period : Nat := 2

/-- How often the condition is asked if it never holds. -/
def questions (timeoutMs : Nat) : Nat := (timeoutMs + period - 1) / period + 1

/-- The number of the question to which a condition first says yes, counted from one.  `condition`
gets the number of the question. -/
def eventually (timeoutMs : Nat) (condition : Nat → Bool) : Option Nat :=
  ((List.range (questions timeoutMs)).find? fun n => condition (n + 1)).map (· + 1)

end Cadence.Polling
