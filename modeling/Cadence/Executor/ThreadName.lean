import Cadence.Failure

/-!
# Names of threads

A worker gives its name to its thread.  The name of a thread ends at its first zero byte, so a text
that holds one cannot be a name.
-/

set_option autoImplicit false

namespace Cadence

/-- The text itself, if a thread can have it for a name. -/
def threadName (text : String) : Except Panic String :=
  let bytes := text.toUTF8.toList
  match bytes.findIdx? (· == 0) with
  | none => .ok text
  | some position => .error (.zeroInThreadName position bytes)

end Cadence
