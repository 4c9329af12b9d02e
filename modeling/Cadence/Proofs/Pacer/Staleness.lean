import Cadence.Proofs.Pacer.Closed

/-!
# Stale calls

A call that names another cycle than the current one, or comes at the wrong time, is turned away.
It leaves the pacer as it was, so the cycle that the consumer holds is the consumer's until it
says that it is done, whatever else is called, and also after the pacer was closed.

There is one exception.  A cycle that is to start once the pacer is closed is turned away too, but
the cycle in flight is lost with it, and its consumer is told that nothing is in flight.
-/

set_option autoImplicit false

namespace Cadence

def Phase.inFlight? : Phase → Option Nat
  | idle => none
  | scheduled _ => none
  | inFlight cycle _ => some cycle

namespace Pacer

def Operation.isStart : Operation → Bool
  | begin _ _ => true
  | _ => false

def Operation.ends (held : Nat) : Operation → Bool
  | ready cycle _ => cycle == held
  | skip cycle _ => cycle == held
  | _ => false

/-- The call is turned away: it starts nothing, marks nothing, breaks the readiness protocol, or
skips a cycle that is not in flight. -/
def refuses (p : Pacer) : Operation → Bool
  | .begin cycle now => (p.begin cycle now).2.isNone
  | .markDispatched cycle => !(p.markDispatched cycle).2
  | .ready cycle now => !(p.ready cycle now).2.toBool
  | .skip cycle _ => p.phase.inFlight? != some cycle
  | _ => false

/-- No cycle is to start once the pacer is closed. -/
def NoLateStart (p : Pacer) : List Operation → Prop
  | [] => True
  | op :: rest => (p.closed = true → op.isStart = false) ∧ (p.step op).1.NoLateStart rest

/-! ## A closed pacer has no cycle scheduled -/

theorem not_scheduled_step {p : Pacer} (op : Operation)
    (none : p.closed = true → ∀ cycle, p.phase ≠ .scheduled cycle)
    (isClosed : (p.step op).1.closed = true) (cycle : Nat) :
    (p.step op).1.phase ≠ .scheduled cycle := by
  by_cases closing : op = .close
  · subst closing
    cases before : p.closed with
    | true =>
        rw [step_close, close_of_closed before]
        exact none before cycle
    | false => cases phase : p.phase <;> simp [step, close, before, phase]
  · have before : p.closed = true := (p.closed_step closing).symm.trans isClosed
    cases op with
    | signal s now =>
        rw [step, signal_of_closed before]
        exact none before cycle
    | begin other now =>
        rw [step, begin_of_closed before]
        exact Phase.noConfusion
    | markDispatched other =>
        rcases p.markDispatched_cases other with ⟨_, _, h⟩ | ⟨_, h⟩ <;> rw [step, h]
        · exact Phase.noConfusion
        · exact none before cycle
    | ready other now =>
        rcases p.ready_cases other now with ⟨_, h⟩ | ⟨_, _, h⟩ <;> rw [step, h]
        · rw [finish_of_closed before]
          exact Phase.noConfusion
        · exact none before cycle
    | skip other now =>
        rcases p.skip_cases other now with ⟨_, _, h⟩ | ⟨_, h⟩ <;> rw [step, h]
        · rw [finish_of_closed before]
          exact Phase.noConfusion
        · exact none before cycle
    | pause => exact none before cycle
    | resume now =>
        rw [step, resume_of_closed before]
        exact none before cycle
    | close => exact absurd rfl closing

theorem not_scheduled_of_closed {p : Pacer} (reachable : p.Reachable) (isClosed : p.closed = true)
    (cycle : Nat) : p.phase ≠ .scheduled cycle := by
  obtain ⟨minPeriod, history, rfl⟩ := reachable
  induction history using List.reverseRecOn generalizing cycle with
  | nil => cases isClosed
  | append_singleton history op ih =>
      rw [after_append] at isClosed ⊢
      exact not_scheduled_step op (fun before other => ih other before) isClosed cycle

/-! ## A call that is turned away -/

/-- A cycle that is to start once the pacer is closed leaves nothing in flight. -/
theorem step_of_refused {p : Pacer} {op : Operation} (refused : p.refuses op = true) :
    (p.step op).1 =
      if p.closed = true ∧ op.isStart = true then { p with phase := .idle } else p := by
  cases op with
  | begin cycle now =>
      rcases p.begin_cases cycle now with ⟨isClosed, h⟩ | ⟨_, _, h⟩ | ⟨isOpen, _, h⟩
      · simp [step, h, isClosed, Operation.isStart]
      · simp [refuses, h] at refused
      · simp [step, h, isOpen]
  | markDispatched cycle =>
      rcases p.markDispatched_cases cycle with ⟨_, _, h⟩ | ⟨_, h⟩
      · simp [refuses, h] at refused
      · simp [step, h, Operation.isStart]
  | ready cycle now =>
      rcases p.ready_cases cycle now with ⟨_, h⟩ | ⟨_, _, h⟩
      · simp [refuses, h, Except.toBool] at refused
      · simp [step, h, Operation.isStart]
  | skip cycle now =>
      rcases p.skip_cases cycle now with ⟨dispatched, phase, _⟩ | ⟨_, h⟩
      · simp [refuses, phase, Phase.inFlight?] at refused
      · simp [step, h, Operation.isStart]
  | signal s now => cases refused
  | pause => cases refused
  | resume now => cases refused
  | close => cases refused

/-! ## The cycle that the consumer holds -/

theorem held_step {p : Pacer} {held : Nat} {op : Operation} (phase : p.phase = .inFlight held true)
    (other : op.ends held = false) (early : p.closed = true → op.isStart = false) :
    (p.step op).1.phase = .inFlight held true := by
  cases op with
  | signal s now =>
      rcases p.signal_cases s now with ⟨_, h⟩ | ⟨_, idle, _⟩ | ⟨_, idle, _⟩ | ⟨_, _, h⟩
      · rw [step, h]
        exact phase
      · rw [phase] at idle
        cases idle
      · rw [phase] at idle
        cases idle
      · rw [step, h]
        exact (p.phase_record s).trans phase
  | begin cycle now =>
      rcases p.begin_cases cycle now with ⟨isClosed, _⟩ | ⟨_, scheduled, _⟩ | ⟨_, _, h⟩
      · cases early isClosed
      · rw [phase] at scheduled
        cases scheduled
      · rw [step, h]
        exact phase
  | markDispatched cycle =>
      rcases p.markDispatched_cases cycle with ⟨dispatched, current, h⟩ | ⟨_, h⟩ <;> rw [step, h]
      · rw [phase] at current
        cases current
        rfl
      · exact phase
  | ready cycle now =>
      rcases p.ready_cases cycle now with ⟨current, _⟩ | ⟨_, _, h⟩
      · rw [phase] at current
        cases current
        simp [Operation.ends] at other
      · rw [step, h]
        exact phase
  | skip cycle now =>
      rcases p.skip_cases cycle now with ⟨_, current, _⟩ | ⟨_, h⟩
      · rw [phase] at current
        cases current
        simp [Operation.ends] at other
      · rw [step, h]
        exact phase
  | pause => exact phase
  | resume now =>
      rcases p.resume_cases now with ⟨_, h⟩ | ⟨_, idle, _⟩ | ⟨_, _, h⟩
      · rw [step, h]
        exact phase
      · rw [phase] at idle
        cases idle
      · rw [step, h]
        exact phase
  | close =>
      cases isClosed : p.closed with
      | true =>
          rw [step_close, close_of_closed isClosed]
          exact phase
      | false => simp [step, close, isClosed, phase]

theorem held_after {p : Pacer} {held : Nat} {later : List Operation}
    (phase : p.phase = .inFlight held true) (others : ∀ op ∈ later, op.ends held = false)
    (early : p.NoLateStart later) : (p.after later).phase = .inFlight held true := by
  induction later generalizing p with
  | nil => exact phase
  | cons op rest ih =>
      have next := held_step phase (others op (List.mem_cons_self ..)) early.1
      exact ih next (fun op member => others op (List.mem_cons_of_mem _ member)) early.2

theorem ready_of_held {p : Pacer} {held : Nat} (phase : p.phase = .inFlight held true) (now : Nat) :
    p.ready held now = ((p.finish now).1, .ok (p.finish now).2) := by
  rcases p.ready_cases held now with ⟨_, h⟩ | ⟨other, _⟩
  · exact h
  · exact absurd phase other

/-- A call that is turned away leaves the pacer as it was, unless it is to start a cycle, the
pacer is closed and a cycle is in flight.  With no such call, the cycle that a consumer holds
stays in flight until the consumer is done with it, and then it ends as it should, in a closed
pacer as well. -/
theorem stale_calls_keep_state {p : Pacer} (reachable : p.Reachable) :
    (∀ op, p.refuses op = true →
      ((p.step op).1 = p ↔
        ¬ (p.closed = true ∧ op.isStart = true ∧ p.phase.inFlight?.isSome = true))) ∧
    (∀ held, p.phase = .inFlight held true → ∀ later, (∀ op ∈ later, op.ends held = false) →
      p.NoLateStart later →
        (p.after later).phase = .inFlight held true ∧
        ∀ now, ∃ transition, ((p.after later).ready held now).2 = .ok transition ∧
          ((p.after later).closed = true → transition = .ignored)) := by
  constructor
  · intro op refused
    rw [step_of_refused refused]
    by_cases late : p.closed = true ∧ op.isStart = true
    · rw [if_pos late]
      have unscheduled := not_scheduled_of_closed reachable late.1
      cases phase : p.phase with
      | idle => simp [Phase.inFlight?, ← phase]
      | scheduled cycle => exact absurd phase (unscheduled cycle)
      | inFlight cycle dispatched =>
          refine iff_of_false (fun same => ?_) (fun kept => kept ⟨late.1, late.2, rfl⟩)
          have idle : Phase.idle = p.phase := congrArg Pacer.phase same
          rw [phase] at idle
          cases idle
    · rw [if_neg late]
      exact ⟨fun _ bad => late ⟨bad.1, bad.2.1⟩, fun _ => rfl⟩
  · intro held phase later others early
    have stillHeld := held_after phase others early
    refine ⟨stillHeld, fun now => ⟨((p.after later).finish now).2, ?_, fun isClosed => ?_⟩⟩
    · rw [ready_of_held stillHeld]
    · rw [finish_of_closed isClosed]

/-- The consumer holds the second cycle.  Calls for the first one and for cycles that never were are
turned away, before and after the pacer is closed, and the second cycle ends as it should. -/
theorem stale_calls_around_close :
    let p := (init none).after
      [.signal .value 0, .begin 1 0, .markDispatched 1, .signal .value 1, .ready 1 2, .begin 2 2,
        .markDispatched 2]
    let later : List Operation :=
      [.begin 1 3, .ready 1 3, .skip 3 4, .close, .markDispatched 1, .skip 1 5, .ready 0 6]
    p.Reachable ∧ p.phase = .inFlight 2 true ∧ p.NoLateStart later ∧
      p.refuses (.ready 1 3) = true ∧ (p.step (.ready 1 3)).1 = p ∧
      ∀ now, ∃ transition, ((p.after later).ready 2 now).2 = .ok transition ∧
        transition = .ignored := by
  intro p later
  have reachable : p.Reachable := ⟨none, _, rfl⟩
  have phase : p.phase = .inFlight 2 true := rfl
  have early : p.NoLateStart later := by simp [later, NoLateStart, Operation.isStart]; decide
  have kept := stale_calls_keep_state reachable
  refine ⟨reachable, phase, early, rfl, ?_, fun now => ?_⟩
  · exact (kept.1 (.ready 1 3) rfl).mpr (by decide)
  · obtain ⟨transition, ends, ignored⟩ := (kept.2 2 phase later (by decide) early).2 now
    exact ⟨transition, ends, ignored rfl⟩

/-- The consumer holds the second cycle when the pacer is closed.  The first cycle is to start once
more and is turned away, but the second is lost, and the consumer breaks the protocol by being
done. -/
theorem late_start_loses_held_cycle :
    let p := (init none).after
      [.signal .value 0, .begin 1 0, .markDispatched 1, .signal .value 1, .ready 1 2, .begin 2 2,
        .markDispatched 2, .close]
    p.Reachable ∧ p.refuses (.begin 1 3) = true ∧ p.phase = .inFlight 2 true ∧
      (p.step (.begin 1 3)).1.phase = .idle ∧ (p.step (.begin 1 3)).1 ≠ p ∧
      ((p.step (.begin 1 3)).1.ready 2 4).2 = .error (.readyWhileIdle 2) := by
  exact ⟨⟨none, _, rfl⟩, rfl, rfl, rfl, by decide, rfl⟩

end Pacer

end Cadence
