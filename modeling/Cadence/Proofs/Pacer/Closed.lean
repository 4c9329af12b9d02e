import Cadence.Proofs.Pacer.Snapshots

/-!
# A closed pacer

A closed pacer schedules nothing, starts nothing and stays closed.  All that is left is that a cycle
in flight may still be dispatched and end.
-/

set_option autoImplicit false

namespace Cadence.Pacer

section

variable {p : Pacer}

theorem signal_of_closed (isClosed : p.closed = true) (s : Signal) (now : Nat) :
    p.signal s now = (p, .ignored) := by
  rw [signal, if_pos isClosed]

theorem begin_of_closed (isClosed : p.closed = true) (cycle now : Nat) :
    p.begin cycle now = ({ p with phase := .idle }, none) := by
  rw [begin, if_pos isClosed]

theorem finish_of_closed (isClosed : p.closed = true) (now : Nat) :
    p.finish now = ({ p with phase := .idle, startedAt := none }, .ignored) := by
  rcases p.finish_cases now with ⟨_, same⟩ | ⟨isOpen, _⟩ | ⟨isOpen, _⟩
  · exact same
  · rw [isClosed] at isOpen
    cases isOpen
  · rw [isClosed] at isOpen
    cases isOpen

theorem resume_of_closed (isClosed : p.closed = true) (now : Nat) :
    p.resume now = ({ p with paused := false }, .ignored) := by
  rcases p.resume_cases now with ⟨_, same⟩ | ⟨isOpen, _⟩ | ⟨isOpen, _⟩
  · exact same
  · rw [isClosed] at isOpen
    cases isOpen
  · rw [isClosed] at isOpen
    cases isOpen

theorem close_of_closed (isClosed : p.closed = true) : p.close = (p, false) := by
  rw [close, if_pos isClosed]

end

/-- The call was answered by a cycle to run, by a snapshot, or by being the one that closed. -/
def grants : Operation × Answer → Bool
  | (_, .transition (.schedule _ _)) => true
  | (_, .snapshot (some _)) => true
  | (.close, .flag true) => true
  | _ => false

/-- A call tells whether it was the one that closed the pacer. -/
theorem step_close (p : Pacer) : p.step .close = (p.close.1, .flag !p.closed) := by
  cases isClosed : p.closed with
  | true => simp only [step, close, isClosed, if_true, Bool.not_true]
  | false => simp only [step, close, isClosed, Bool.false_eq_true, if_false, Bool.not_false]

theorem grants_of_closed {p : Pacer} (isClosed : p.closed = true) (op : Operation) :
    grants (op, (p.step op).2) = false := by
  cases op with
  | signal s now =>
      rw [step, signal_of_closed isClosed]
      rfl
  | begin cycle now =>
      rw [step, begin_of_closed isClosed]
      rfl
  | markDispatched cycle =>
      rw [step]
      cases (p.markDispatched cycle).2 <;> rfl
  | ready cycle now =>
      rcases p.ready_cases cycle now with ⟨_, same⟩ | ⟨_, _, same⟩
      · rw [finish_of_closed isClosed] at same
        rw [step, same]
        rfl
      · rw [step, same]
        rfl
  | skip cycle now =>
      rcases p.skip_cases cycle now with ⟨_, _, same⟩ | ⟨_, same⟩
      · rw [step, same, finish_of_closed isClosed]
        rfl
      · rw [step, same]
        rfl
  | pause => rfl
  | resume now =>
      rw [step, resume_of_closed isClosed]
      rfl
  | close =>
      rw [step, close_of_closed isClosed]
      rfl

theorem closed_of_closed {p : Pacer} (isClosed : p.closed = true) (op : Operation) :
    (p.step op).1.closed = true := by
  by_cases closing : op = .close
  · rw [closing, step_close]
    exact p.closed_close
  · rw [p.closed_step closing]
    exact isClosed

/-- A closed pacer stays closed, and grants nothing. -/
theorem closed_after {p : Pacer} (isClosed : p.closed = true) (later : List Operation) :
    (p.after later).closed = true ∧
      ∀ exchange ∈ p.exchanges later, grants exchange = false := by
  induction later generalizing p with
  | nil => exact ⟨isClosed, by simp [exchanges]⟩
  | cons op rest ih =>
      obtain ⟨stays, nothing⟩ := ih (closed_of_closed isClosed op)
      refine ⟨stays, ?_⟩
      intro exchange member
      rcases List.mem_cons.mp member with first | further
      · rw [first]
        exact grants_of_closed isClosed op
      · exact nothing exchange further

end Cadence.Pacer
