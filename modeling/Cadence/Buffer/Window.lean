import Cadence.Time.Interval

/-!
# Time windows

A buffer that keeps every value whose timestamp lies within `window` before the timestamp of the
value appended last.  That value is the watermark, not the wall clock, so what is kept depends on
the values alone.  Pruning happens on reading, and reading takes nothing else away.
-/

set_option autoImplicit false

namespace Cadence

/-- The values kept, in the order in which they were written, each with its timestamp. -/
structure Window (α : Type) where
  window : Duration
  entries : List (α × Timestamp)
  deriving DecidableEq

namespace Window

variable {α : Type}

def empty (window : Duration) : Window α := ⟨window, []⟩

def write (w : Window α) (value : α) (stamp : Timestamp) : Window α :=
  { w with entries := w.entries ++ [(value, stamp)] }

/-- The timestamp of the value appended last. -/
def watermark? (w : Window α) : Option Timestamp := w.entries.getLast?.map (·.2)

/-- The interval that the watermark allows. -/
def allowed? (w : Window α) : Option Interval := w.watermark?.map w.window.before

/-- Forgets the values outside the allowed interval. -/
def prune (w : Window α) : Window α :=
  match w.allowed? with
  | none => w
  | some allowed => { w with entries := w.entries.filter fun entry => allowed.contains entry.2 }

/-- The values within the window; they stay in the buffer. -/
def read (w : Window α) : Window α × List α := (w.prune, w.prune.entries.map (·.1))

end Window

end Cadence
