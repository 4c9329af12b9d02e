import Cadence.Failure

/-!
# Read functions

What a source is read through.  A cache holds the value that was pushed last and answers it as
often as it is asked; a script answers one prepared answer per call, and no update once it is
exhausted.  "No update" is an answer of its own, distinct from a failure.
-/

set_option autoImplicit false

namespace Cadence

inductive ReadAnswer (α : Type)
  | value (value : Option α)
  | fault (cause : ProducerFault)
  | panic (cause : Panic)
  deriving DecidableEq

/-- A function that produces one value per call. -/
inductive ReadFunction (α : Type)
  /-- Answers the value held, if there is one. -/
  | cache (held : Option α)
  | script (answers : List (ReadAnswer α))
  deriving DecidableEq

namespace ReadFunction

variable {α : Type}

/-- One call: the function as the call leaves it, and its answer. -/
def call : ReadFunction α → ReadFunction α × ReadAnswer α
  | cache held => (cache held, .value held)
  | script [] => (script [], .value none)
  | script (answer :: rest) => (script rest, answer)

/-- Replaces what a cache holds.  A script has nothing to replace. -/
def push (f : ReadFunction α) (value : Option α) : ReadFunction α :=
  match f with
  | cache _ => cache value
  | script answers => script answers

def held? : ReadFunction α → Option α
  | cache held => held
  | script _ => none

end ReadFunction

end Cadence
