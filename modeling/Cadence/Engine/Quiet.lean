import Cadence.Engine.Basic
import Cadence.Pacer.Quiet

/-!
# Running a task queues nothing

A cycle that starts forgets the signals that arrived before, so it is quiet when its event reaches
the listener.  Neither running its task nor being ready for the next event before another signal
arrives queues a task.
-/

set_option autoImplicit false

namespace Cadence.Engine

variable {α : Type}

theorem queue_apply_of_quiet (e : Engine α) {transition : Transition}
    (quiet : transition = .ignored ∨ transition = .idle) :
    (e.apply transition).queue = e.queue := by
  rcases quiet with h | h <;> subst h <;> rfl

theorem queue_ready_of_quiet (e : Engine α) (cycle : Nat)
    (quiet : e.decoupler.pacer.eventWhileBusy = false) : (e.ready cycle).1.queue = e.queue := by
  unfold ready
  split
  · cases done : e.decoupler.pacer.ready cycle e.now with
    | mk pacer result =>
        cases result with
        | ok transition =>
            have h : transition = .ignored ∨ transition = .idle :=
              Pacer.ready_of_quiet quiet (congrArg Prod.snd done)
            simp only [Decoupler.ready, done]
            exact queue_apply_of_quiet _ h
        | error violation =>
            simp only [Decoupler.ready, done]
            rfl
  · rfl

/-- What a task leaves: the queue as it was and, if there is an event, a quiet cycle. -/
theorem runTask_quiet (e : Engine α) (cycle : Nat) :
    (e.runTask cycle).1.queue = e.queue ∧
      ((e.runTask cycle).2.isSome = true →
        (e.runTask cycle).1.decoupler.pacer.eventWhileBusy = false) := by
  unfold runTask
  split
  · unfold Decoupler.runCycle
    cases started : e.decoupler.pacer.begin cycle e.now with
    | mk pacer snapshot =>
        cases snapshot with
        | none => exact ⟨rfl, fun h => by simp at h⟩
        | some snapshot =>
            have quiet := Pacer.begin_quiet (congrArg Prod.snd started)
            rw [started] at quiet
            simp only
            by_cases empty : (Event.classify cycle snapshot e.decoupler.buffer.read.2).kinds.isEmpty
            · simp only [empty, if_true]
              exact ⟨queue_apply_of_quiet _ (pacer.skip_of_quiet cycle e.now quiet.1),
                fun h => by simp at h⟩
            · simp only [empty]
              refine ⟨rfl, fun _ => ?_⟩
              simp only [note, Pacer.eventWhileBusy_markDispatched, Bool.false_eq_true, if_false]
              exact quiet.1
  · exact ⟨rfl, fun h => by simp at h⟩

end Cadence.Engine
