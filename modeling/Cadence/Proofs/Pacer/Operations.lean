import Cadence.Pacer.Run
import Cadence.Proofs.Pacer.Marks

/-!
# What the operations of a pacer do

One lemma per operation says everything that the operation can do, with the condition under which
it does so.  Every invariant is derived from these case lemmas, so a change to an operation changes
its case lemma and leaves the arguments about histories alone.
-/

set_option autoImplicit false

namespace Cadence.Pacer

/-! ## Recording a signal -/

/-- Recording touches what the next cycle will take, and nothing else. -/
theorem record_eq (p : Pacer) (s : Signal) :
    p.record s =
      { p with
        pending := (p.record s).pending
        readFault := (p.record s).readFault
        writeFault := (p.record s).writeFault
        readConnected := (p.record s).readConnected
        writeConnected := (p.record s).writeConnected } := by
  cases s with
  | readConnection connected => simp only [record]; split <;> rfl
  | writeConnection connected => simp only [record]; split <;> rfl
  | _ => rfl

@[simp]
theorem phase_record (p : Pacer) (s : Signal) : (p.record s).phase = p.phase := by rw [record_eq]

@[simp]
theorem paused_record (p : Pacer) (s : Signal) : (p.record s).paused = p.paused := by
  rw [record_eq]

@[simp]
theorem closed_record (p : Pacer) (s : Signal) : (p.record s).closed = p.closed := by
  rw [record_eq]

@[simp]
theorem nextCycle_record (p : Pacer) (s : Signal) : (p.record s).nextCycle = p.nextCycle := by
  rw [record_eq]

theorem readConnected_record (p : Pacer) (s : Signal) :
    (p.record s).readConnected = s.readConnection?.getD p.readConnected := by
  cases s with
  | readConnection connected =>
      by_cases same : p.readConnected = connected <;> simp [record, same, Signal.readConnection?]
  | writeConnection connected => simp only [record]; split <;> rfl
  | _ => rfl

theorem writeConnected_record (p : Pacer) (s : Signal) :
    (p.record s).writeConnected = s.writeConnection?.getD p.writeConnected := by
  cases s with
  | readConnection connected => simp only [record]; split <;> rfl
  | writeConnection connected =>
      by_cases same : p.writeConnected = connected <;> simp [record, same, Signal.writeConnection?]
  | _ => rfl

theorem readFault_record (p : Pacer) (s : Signal) :
    (p.record s).readFault = s.readFault?.or p.readFault := by
  cases s with
  | readConnection connected => simp only [record]; split <;> rfl
  | writeConnection connected => simp only [record]; split <;> rfl
  | _ => rfl

theorem writeFault_record (p : Pacer) (s : Signal) :
    (p.record s).writeFault = s.writeFault?.or p.writeFault := by
  cases s with
  | readConnection connected => simp only [record]; split <;> rfl
  | writeConnection connected => simp only [record]; split <;> rfl
  | _ => rfl

theorem has_insert_iff (s : KindSet) (new kind : EventKind) :
    (s.insert new).has kind = true ↔ s.has kind = true ∨ some new = some kind := by
  rw [KindSet.has_insert, Bool.or_eq_true, decide_eq_true_eq, Option.some.injEq, or_comm,
    eq_comm (a := kind)]

/-- A signal adds the kind that it records after the earlier signals, if these left the flags. -/
theorem pending_record_iff {p : Pacer} {earlier : List Signal}
    (readConnected : p.readConnected = Signal.readFlag earlier)
    (writeConnected : p.writeConnected = Signal.writeFlag earlier) (s : Signal)
    (kind : EventKind) :
    (p.record s).pending.has kind = true ↔
      p.pending.has kind = true ∨ s.kindAfter earlier = some kind := by
  cases s with
  | readConnection connected =>
      rw [Signal.kindAfter, ← readConnected, record]
      by_cases same : p.readConnected = connected
      · simp [same]
      · rw [if_neg same, if_neg (Ne.symm same)]
        exact has_insert_iff _ _ kind
  | writeConnection connected =>
      rw [Signal.kindAfter, ← writeConnected, record]
      by_cases same : p.writeConnected = connected
      · simp [same]
      · rw [if_neg same, if_neg (Ne.symm same)]
        exact has_insert_iff _ _ kind
  | _ => exact has_insert_iff _ _ kind

theorem pending_record {p : Pacer} {kind : EventKind} (pending : p.pending.has kind = true)
    (s : Signal) : (p.record s).pending.has kind = true := by
  cases s with
  | readConnection connected => simp only [record]; split <;> simp [pending]
  | writeConnection connected => simp only [record]; split <;> simp [pending]
  | _ => simp [record, pending]

/-! ## The cases of each operation -/

theorem signal_cases (p : Pacer) (s : Signal) (now : Nat) :
    (p.closed = true ∧ p.signal s now = (p, .ignored)) ∨
    (p.closed = false ∧ p.phase = .idle ∧ p.paused = true ∧
      p.signal s now = (p.record s, .held)) ∨
    (p.closed = false ∧ p.phase = .idle ∧ p.paused = false ∧
      p.signal s now = (p.record s).schedule now) ∨
    (p.closed = false ∧ p.phase ≠ .idle ∧
      p.signal s now = ({ p.record s with eventWhileBusy := true }, .coalesced)) := by
  cases isClosed : p.closed with
  | true => exact .inl ⟨rfl, by simp [signal, isClosed]⟩
  | false =>
      right
      cases phase : p.phase with
      | idle =>
          cases paused : p.paused with
          | true => exact .inl ⟨rfl, rfl, rfl, by simp [signal, isClosed, phase, paused]⟩
          | false => exact .inr (.inl ⟨rfl, rfl, rfl, by simp [signal, isClosed, phase, paused]⟩)
      | scheduled cycle =>
          exact .inr (.inr ⟨rfl, Phase.noConfusion, by simp [signal, isClosed, phase]⟩)
      | inFlight cycle dispatched =>
          exact .inr (.inr ⟨rfl, Phase.noConfusion, by simp [signal, isClosed, phase]⟩)

def started (p : Pacer) (cycle now : Nat) : Pacer :=
  { p with
    phase := .inFlight cycle false
    eventWhileBusy := false
    pending := .empty
    readFault := none
    writeFault := none
    startedAt := some now }

theorem begin_cases (p : Pacer) (cycle now : Nat) :
    (p.closed = true ∧ p.begin cycle now = ({ p with phase := .idle }, none)) ∨
    (p.closed = false ∧ p.phase = .scheduled cycle ∧
      p.begin cycle now = (p.started cycle now, some p.snapshot)) ∨
    (p.closed = false ∧ p.phase ≠ .scheduled cycle ∧ p.begin cycle now = (p, none)) := by
  cases isClosed : p.closed with
  | true => exact .inl ⟨rfl, by simp [begin, isClosed]⟩
  | false =>
      right
      by_cases scheduled : p.phase = .scheduled cycle
      · exact .inl ⟨rfl, scheduled, by simp [begin, isClosed, scheduled, started]⟩
      · exact .inr ⟨rfl, scheduled, by simp [begin, isClosed, scheduled]⟩

theorem begin_eq_some {p : Pacer} {cycle now : Nat} {snapshot : Snapshot}
    (success : (p.begin cycle now).2 = some snapshot) :
    p.closed = false ∧ p.phase = .scheduled cycle ∧ p.snapshot = snapshot ∧
      (p.begin cycle now).1 = p.started cycle now := by
  rcases p.begin_cases cycle now with ⟨_, h⟩ | ⟨isOpen, scheduled, h⟩ | ⟨_, _, h⟩
  · rw [h] at success
    cases success
  · rw [h] at success ⊢
    exact ⟨isOpen, scheduled, Option.some.inj success, rfl⟩
  · rw [h] at success
    cases success

/-- Only the phase, the rate cap and its clock move when an event is about to be delivered. -/
theorem markDispatched_cases (p : Pacer) (cycle : Nat) :
    (∃ dispatched, p.phase = .inFlight cycle dispatched ∧
      p.markDispatched cycle =
        ({ p with
            phase := .inFlight cycle true
            lastDispatchAt := p.startedAt.or p.lastDispatchAt
            startedAt := none },
          true)) ∨
    ((∀ dispatched, p.phase ≠ .inFlight cycle dispatched) ∧
      p.markDispatched cycle = (p, false)) := by
  cases phase : p.phase with
  | idle => exact .inr ⟨fun _ => Phase.noConfusion, by simp [markDispatched, phase]⟩
  | scheduled current => exact .inr ⟨fun _ => Phase.noConfusion, by simp [markDispatched, phase]⟩
  | inFlight current dispatched =>
      by_cases same : current = cycle
      · subst same
        exact .inl ⟨dispatched, rfl, by simp [markDispatched, phase]⟩
      · exact .inr ⟨fun _ h => same (Phase.inFlight.inj h).1,
          by simp [markDispatched, phase, same]⟩

theorem finish_cases (p : Pacer) (now : Nat) :
    (p.closed = true ∧
      p.finish now = ({ p with phase := .idle, startedAt := none }, .ignored)) ∨
    (p.closed = false ∧ p.eventWhileBusy = true ∧ p.paused = false ∧
      p.finish now =
        { p with phase := .idle, startedAt := none, eventWhileBusy := false }.schedule now) ∨
    (p.closed = false ∧ (p.eventWhileBusy = false ∨ p.paused = true) ∧
      p.finish now = ({ p with phase := .idle, startedAt := none }, .idle)) := by
  cases isClosed : p.closed with
  | true => exact .inl ⟨rfl, by simp [finish, isClosed]⟩
  | false =>
      right
      cases busy : p.eventWhileBusy with
      | false => exact .inr ⟨rfl, .inl rfl, by simp [finish, isClosed, busy]⟩
      | true =>
          cases paused : p.paused with
          | true => exact .inr ⟨rfl, .inr rfl, by simp [finish, isClosed, busy, paused]⟩
          | false => exact .inl ⟨rfl, rfl, rfl, by simp [finish, isClosed, busy, paused]⟩

theorem skip_cases (p : Pacer) (cycle now : Nat) :
    (∃ dispatched, p.phase = .inFlight cycle dispatched ∧ p.skip cycle now = p.finish now) ∨
    ((∀ dispatched, p.phase ≠ .inFlight cycle dispatched) ∧ p.skip cycle now = (p, .idle)) := by
  cases phase : p.phase with
  | idle => exact .inr ⟨fun _ => Phase.noConfusion, by simp [skip, phase]⟩
  | scheduled current => exact .inr ⟨fun _ => Phase.noConfusion, by simp [skip, phase]⟩
  | inFlight current dispatched =>
      by_cases same : current = cycle
      · subst same
        exact .inl ⟨dispatched, rfl, by simp [skip, phase]⟩
      · exact .inr ⟨fun _ h => same (Phase.inFlight.inj h).1, by simp [skip, phase, same]⟩

theorem ready_cases (p : Pacer) (cycle now : Nat) :
    (p.phase = .inFlight cycle true ∧
      p.ready cycle now = ((p.finish now).1, .ok (p.finish now).2)) ∨
    (p.phase ≠ .inFlight cycle true ∧ ∃ violation, p.ready cycle now = (p, .error violation)) := by
  cases phase : p.phase with
  | idle => exact .inr ⟨Phase.noConfusion, _, by simp only [ready, phase]; rfl⟩
  | scheduled current =>
      refine .inr ⟨Phase.noConfusion, ?_⟩
      by_cases same : current = cycle
      · exact ⟨_, by simp only [ready, phase, if_pos same]; rfl⟩
      · exact ⟨_, by simp only [ready, phase, if_neg same]; rfl⟩
  | inFlight current dispatched =>
      by_cases same : current = cycle
      · subst same
        cases dispatched with
        | true => exact .inl ⟨rfl, by simp [ready, phase]⟩
        | false =>
            exact .inr ⟨fun h => Bool.noConfusion (Phase.inFlight.inj h).2,
              .notDispatched current, by simp [ready, phase]⟩
      · exact .inr ⟨fun h => same (Phase.inFlight.inj h).1, .cycleMismatch current cycle,
          by simp [ready, phase, same]⟩

theorem resume_cases (p : Pacer) (now : Nat) :
    (p.closed = true ∧ p.resume now = ({ p with paused := false }, .ignored)) ∨
    (p.closed = false ∧ p.phase = .idle ∧ (p.eventWhileBusy = true ∨ p.pending ≠ .empty) ∧
      p.resume now = { p with paused := false, eventWhileBusy := false }.schedule now) ∨
    (p.closed = false ∧ (p.phase = .idle → p.eventWhileBusy = false ∧ p.pending = .empty) ∧
      p.resume now = ({ p with paused := false }, .idle)) := by
  cases isClosed : p.closed with
  | true => exact .inl ⟨rfl, by simp [resume, isClosed]⟩
  | false =>
      right
      by_cases work : p.phase = .idle ∧ (p.eventWhileBusy = true ∨ p.pending.isEmpty = false)
      · have pending : p.eventWhileBusy = true ∨ p.pending ≠ .empty :=
          work.2.imp_right fun h e => by rw [(KindSet.isEmpty_iff _).mpr e] at h; cases h
        exact .inl ⟨rfl, work.1, pending, by simp only [resume, isClosed, if_pos work]; rfl⟩
      · refine .inr ⟨rfl, fun phase => ?_, by simp only [resume, isClosed, if_neg work]; rfl⟩
        have none : ¬ (p.eventWhileBusy = true ∨ p.pending.isEmpty = false) :=
          fun h => work ⟨phase, h⟩
        rw [not_or, Bool.not_eq_true, Bool.not_eq_false, KindSet.isEmpty_iff] at none
        exact none

@[simp]
theorem snapshot_finish (p : Pacer) (now : Nat) : (p.finish now).1.snapshot = p.snapshot := by
  rcases p.finish_cases now with ⟨_, h⟩ | ⟨_, _, _, h⟩ | ⟨_, _, h⟩ <;> rw [h] <;> rfl

/-! ## Closing -/

@[simp]
theorem closed_finish (p : Pacer) (now : Nat) : (p.finish now).1.closed = p.closed := by
  rcases p.finish_cases now with ⟨_, h⟩ | ⟨_, _, _, h⟩ | ⟨_, _, h⟩ <;>
    simp [h, schedule]

@[simp]
theorem closed_close (p : Pacer) : p.close.1.closed = true := by
  cases isClosed : p.closed with
  | true => simp only [close, isClosed, if_true]
  | false => simp only [close, isClosed, Bool.false_eq_true, if_false]

theorem closed_step (p : Pacer) {op : Operation} (other : op ≠ .close) :
    (p.step op).1.closed = p.closed := by
  cases op with
  | signal s now =>
      rcases p.signal_cases s now with ⟨_, h⟩ | ⟨_, _, _, h⟩ | ⟨_, _, _, h⟩ | ⟨_, _, h⟩ <;>
        simp [step, h, schedule]
  | begin cycle now =>
      rcases p.begin_cases cycle now with ⟨_, h⟩ | ⟨_, _, h⟩ | ⟨_, _, h⟩ <;>
        simp [step, h, started]
  | markDispatched cycle =>
      rcases p.markDispatched_cases cycle with ⟨_, _, h⟩ | ⟨_, h⟩ <;> simp [step, h]
  | ready cycle now =>
      rcases p.ready_cases cycle now with ⟨_, h⟩ | ⟨_, _, h⟩ <;> simp [step, h]
  | skip cycle now =>
      rcases p.skip_cases cycle now with ⟨_, _, h⟩ | ⟨_, h⟩ <;> simp [step, h]
  | pause => rfl
  | resume now =>
      rcases p.resume_cases now with ⟨_, h⟩ | ⟨_, _, _, h⟩ | ⟨_, _, h⟩ <;>
        simp [step, h, schedule]
  | close => exact absurd rfl other

/-- A pacer that is open after a call was open before it, and the call was not to close it. -/
theorem open_of_step {p : Pacer} {op : Operation} (isOpen : (p.step op).1.closed = false) :
    p.closed = false ∧ op ≠ .close := by
  by_cases closing : op = .close
  · subst closing
    simp only [step, close] at isOpen
    split at isOpen
    · rename_i isClosed
      rw [isClosed] at isOpen
      cases isOpen
    · cases isOpen
  · rw [p.closed_step closing] at isOpen
    exact ⟨isOpen, closing⟩

/-! ## Histories -/

theorem after_append (p : Pacer) (first later : List Operation) :
    p.after (first ++ later) = (p.after first).after later := by
  induction first generalizing p with
  | nil => rfl
  | cons op rest ih => exact ih (p.step op).1

theorem open_of_after {p : Pacer} {later : List Operation}
    (stillOpen : (p.after later).closed = false) : p.closed = false := by
  induction later generalizing p with
  | nil => exact stillOpen
  | cons op rest ih => exact (open_of_step (ih stillOpen)).1

/-- A state that some history of calls on a new pacer leads to. -/
def Reachable (p : Pacer) : Prop :=
  ∃ minPeriod history, p = (init minPeriod).after history

theorem Reachable.after {p : Pacer} (reachable : p.Reachable) (later : List Operation) :
    (p.after later).Reachable := by
  obtain ⟨minPeriod, history, rfl⟩ := reachable
  exact ⟨minPeriod, history ++ later, (after_append _ history later).symm⟩

/-- What holds of a new pacer as long as it is open, and is kept by every call that leaves it open,
holds of every open pacer. -/
theorem Reachable.induct {P : Pacer → Prop} (new : ∀ minPeriod, P (init minPeriod))
    (kept : ∀ p op, p.closed = false → P p → (p.step op).1.closed = false → P (p.step op).1)
    {p : Pacer} (reachable : p.Reachable) (isOpen : p.closed = false) : P p := by
  obtain ⟨minPeriod, history, rfl⟩ := reachable
  induction history using List.reverseRecOn with
  | nil => exact new minPeriod
  | append_singleton history op ih =>
      rw [after_append] at isOpen ⊢
      have wasOpen := (open_of_step isOpen).1
      exact kept _ op wasOpen (ih wasOpen) isOpen

end Cadence.Pacer
