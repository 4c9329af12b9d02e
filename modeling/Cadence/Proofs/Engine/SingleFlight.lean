import Cadence.Proofs.Engine.Flight

/-!
# Single flight

In any run of a decoupler, whatever its producers, its consumer and its owner do and however their
calls fall between the stages of its tasks, at most one cycle is outstanding, cycles are numbered
without a gap and delivered in order, and no event is delivered before the last one was given back.
-/

set_option autoImplicit false

namespace Cadence.Engine

variable {α : Type}

-- the task of a cycle that was waiting when the decoupler was closed
example :
    let start : Scene Nat := .new "s" (.latest .empty) none none false true
    let e := (start.after [.move (.call (.write (some 5))), .move (.call .close)]).engine
    e.isClosed = true ∧ e.outstanding = [1] := by decide

end Cadence.Engine
