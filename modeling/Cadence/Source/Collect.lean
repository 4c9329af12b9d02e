import Cadence.Buffer.Basic
import Cadence.Source.ReadFunction

/-!
# Collecting

Calling a source's read function once and buffering the value it answers.  A failing function is an
outcome like any other and is never raised into the caller; only a panic unwinds.
-/

set_option autoImplicit false

namespace Cadence

inductive CollectOutcome
  /-- A new value reached the buffer. -/
  | stored
  /-- The function had nothing new, or the buffer would not take it. -/
  | noUpdate
  /-- The function failed and nothing was buffered. -/
  | failed (cause : ProducerFault)
  deriving DecidableEq, Repr

structure Collection (α : Type) where
  function : ReadFunction α
  buffer : Buffer α
  writing : Writing
  outcome : Except Panic CollectOutcome

namespace Collection

variable {α : Type}

def notices (c : Collection α) : List Notice :=
  c.writing.notices ++
    match c.outcome with
    | .ok (.failed cause) => [.readFunctionFailed cause]
    | _ => []

end Collection

namespace ReadFunction

variable {α : Type}

/-- Calls the function once and writes its value, if it has one, into the buffer. -/
def collect (f : ReadFunction α) (buffer : Buffer α) : Collection α :=
  match f.call with
  | (f, .value value) =>
      let (buffer, writing) := buffer.write value
      ⟨f, buffer, writing, .ok (if writing.accepted then .stored else .noUpdate)⟩
  | (f, .fault cause) => ⟨f, buffer, .nothing, .ok (.failed cause)⟩
  | (f, .panic cause) => ⟨f, buffer, .nothing, .error cause⟩

end ReadFunction

end Cadence
