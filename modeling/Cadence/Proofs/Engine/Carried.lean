import Cadence.Proofs.Engine.Places
import Cadence.Proofs.Pacer.Spacing

/-!
# Scheduled cycles between two calls

A pacer numbers the cycles that it schedules, and one that it has scheduled waits until it starts or
the pacer is closed.  `Carries` counts: whatever calls are made, unless one starts a cycle, what
waited before and what was scheduled meanwhile is what waits now, as long as the pacer is open.
-/

set_option autoImplicit false

namespace Cadence

theorem Phase.length_waiting_le (phase : Phase) : phase.waiting.length ≤ 1 := by
  cases phase with
  | scheduled cycle => exact Nat.le_refl 1
  | _ => exact Nat.zero_le 1

namespace Pacer

/-- From one pacer to the other so many cycles were scheduled, and none was started. -/
structure Carries (scheduled : Nat) (p p' : Pacer) : Prop where
  numbered : p'.nextCycle = p.nextCycle + scheduled
  few : p.phase.waiting.length + scheduled ≤ 1
  shut : p.closed = true → p'.closed = true ∧ scheduled = 0
  waits : p'.closed = false → p'.phase.waiting.length = p.phase.waiting.length + scheduled

section

variable {p p' p'' : Pacer} {n m : Nat}

/-- Nothing was scheduled, and what waits may have been given up by a close. -/
theorem carries_none (next : p'.nextCycle = p.nextCycle) (shut : p.closed = true → p'.closed = true)
    (waits : p'.closed = false → p'.phase.waiting = p.phase.waiting) : Carries 0 p p' := by
  constructor
  · exact next
  · exact p.phase.length_waiting_le
  · exact fun closed => ⟨shut closed, rfl⟩
  · exact fun isOpen => congrArg List.length (waits isOpen)

theorem carries_one (isOpen : p.closed = false) (free : p.phase.waiting = [])
    (next : p'.nextCycle = p.nextCycle + 1) (waits : p'.phase.waiting.length = 1) :
    Carries 1 p p' := by
  constructor
  · exact next
  · rw [free]
    exact Nat.le_refl 1
  · intro closed
    rw [isOpen] at closed
    cases closed
  · intro _
    rw [free]
    exact waits

theorem Carries.trans (first : Carries n p p') (later : Carries m p' p'') :
    Carries (n + m) p p'' := by
  have numbered := first.numbered
  have numbered' := later.numbered
  have few := first.few
  have few' := later.few
  constructor
  · omega
  · cases isClosed : p'.closed with
    | true =>
        have none := (later.shut isClosed).2
        omega
    | false =>
        have waits := first.waits isClosed
        omega
  · intro closed
    obtain ⟨closed', none⟩ := first.shut closed
    obtain ⟨closed'', none'⟩ := later.shut closed'
    exact ⟨closed'', by omega⟩
  · intro isOpen
    have wasOpen : p'.closed = false := by
      cases isClosed : p'.closed with
      | false => rfl
      | true =>
          rw [(later.shut isClosed).1] at isOpen
          cases isOpen
    have waits := first.waits wasOpen
    have waits' := later.waits isOpen
    omega

end

theorem nextCycle_close (p : Pacer) : p.close.1.nextCycle = p.nextCycle := by
  rw [close]
  split <;> rfl

theorem carries_close (p : Pacer) : Carries 0 p p.close.1 := by
  refine carries_none p.nextCycle_close (fun _ => p.closed_close) ?_
  intro isOpen
  rw [closed_close] at isOpen
  cases isOpen

theorem carries_finish {p : Pacer} (free : p.phase.waiting = []) (now : Nat) :
    ∃ n, Carries n p (p.finish now).1 := by
  rcases p.finish_cases now with ⟨isClosed, h⟩ | ⟨isOpen, _, _, h⟩ | ⟨_, _, h⟩ <;> rw [h]
  · exact ⟨0, carries_none rfl id fun _ => free.symm⟩
  · exact ⟨1, carries_one isOpen free rfl rfl⟩
  · exact ⟨0, carries_none rfl id fun _ => free.symm⟩

theorem carries_step (p : Pacer) {op : Operation} (noStart : op.begins? = none) :
    ∃ n, Carries n p (p.step op).1 := by
  cases op with
  | signal s now =>
      rcases p.signal_cases s now with
        ⟨_, h⟩ | ⟨_, _, _, h⟩ | ⟨isOpen, idle, _, h⟩ | ⟨_, _, h⟩ <;> simp only [step, h]
      · exact ⟨0, carries_none rfl id fun _ => rfl⟩
      · refine ⟨0, carries_none (p.nextCycle_record s) ?_ fun _ => by rw [phase_record]⟩
        rw [closed_record]
        exact id
      · refine ⟨1, carries_one isOpen (by rw [idle]; rfl) ?_ rfl⟩
        exact congrArg (· + 1) (p.nextCycle_record s)
      · refine ⟨0, carries_none (p.nextCycle_record s) ?_ fun _ => ?_⟩
        · intro closed
          exact (p.closed_record s).trans closed
        · exact congrArg Phase.waiting (p.phase_record s)
  | begin cycle now => cases noStart
  | markDispatched cycle =>
      rcases p.markDispatched_cases cycle with ⟨_, inFlight, h⟩ | ⟨_, h⟩ <;> simp only [step, h]
      · exact ⟨0, carries_none rfl id fun _ => by rw [inFlight]; rfl⟩
      · exact ⟨0, carries_none rfl id fun _ => rfl⟩
  | ready cycle now =>
      rcases p.ready_cases cycle now with ⟨inFlight, h⟩ | ⟨_, _, h⟩ <;> simp only [step, h]
      · exact carries_finish (by rw [inFlight]; rfl) now
      · exact ⟨0, carries_none rfl id fun _ => rfl⟩
  | skip cycle now =>
      rcases p.skip_cases cycle now with ⟨_, inFlight, h⟩ | ⟨_, h⟩ <;> simp only [step, h]
      · exact carries_finish (by rw [inFlight]; rfl) now
      · exact ⟨0, carries_none rfl id fun _ => rfl⟩
  | pause => exact ⟨0, carries_none rfl id fun _ => rfl⟩
  | resume now =>
      rcases p.resume_cases now with ⟨_, h⟩ | ⟨isOpen, idle, _, h⟩ | ⟨_, _, h⟩ <;>
        simp only [step, h]
      · exact ⟨0, carries_none rfl id fun _ => rfl⟩
      · exact ⟨1, carries_one isOpen (by rw [idle]; rfl) rfl rfl⟩
      · exact ⟨0, carries_none rfl id fun _ => rfl⟩
  | close => exact ⟨0, p.carries_close⟩

/-- However many calls are made, as long as none of them starts a cycle. -/
theorem carries_after (p : Pacer) {ops : List Operation}
    (noStart : ∀ op ∈ ops, op.begins? = none) : ∃ n, Carries n p (p.after ops) := by
  induction ops generalizing p with
  | nil => exact ⟨0, carries_none rfl id fun _ => rfl⟩
  | cons op rest ih =>
      obtain ⟨n, first⟩ := p.carries_step (noStart op List.mem_cons_self)
      obtain ⟨m, later⟩ := ih (p.step op).1 fun other member =>
        noStart other (List.mem_cons_of_mem op member)
      exact ⟨n + m, first.trans later⟩

/-! ## What is asked for -/

/-- Whoever asks for a cycle asks for the next one, after the delay that the rate cap imposes; or
nothing is asked for, and nothing scheduled. -/
def Asks (p : Pacer) (now : Nat) (left : Pacer × Transition) : Prop :=
  (left.2 ≠ .coalesced ∧ left.2.cycle? = none ∧ left.1.nextCycle = p.nextCycle) ∨
  (left.2 = .schedule p.nextCycle (p.delayAt now) ∧ left.1.nextCycle = p.nextCycle + 1)

theorem asks_finish (p : Pacer) (now : Nat) : p.Asks now (p.finish now) := by
  rcases p.finish_cases now with ⟨_, h⟩ | ⟨_, _, _, h⟩ | ⟨_, _, h⟩ <;> rw [h]
  · exact .inl ⟨nofun, rfl, rfl⟩
  · exact .inr ⟨rfl, rfl⟩
  · exact .inl ⟨nofun, rfl, rfl⟩

theorem asks_resume (p : Pacer) (now : Nat) : p.Asks now (p.resume now) := by
  rcases p.resume_cases now with ⟨_, h⟩ | ⟨_, _, _, h⟩ | ⟨_, _, h⟩ <;> rw [h]
  · exact .inl ⟨nofun, rfl, rfl⟩
  · exact .inr ⟨rfl, rfl⟩
  · exact .inl ⟨nofun, rfl, rfl⟩

theorem delayAt_record (p : Pacer) (s : Signal) (now : Nat) :
    (p.record s).delayAt now = p.delayAt now := by
  rw [record_eq]
  rfl

/-- A signal joins the cycle that there is, is held back, or asks for a cycle. -/
theorem signal_asks {p : Pacer} (isOpen : p.closed = false) (s : Signal) (now : Nat) :
    (p.phase ≠ .idle ∧ (p.signal s now).2 = .coalesced ∧
      (p.signal s now).1.nextCycle = p.nextCycle) ∨
    (p.phase = .idle ∧ p.paused = true ∧ (p.signal s now).2 = .held ∧
      (p.signal s now).1.nextCycle = p.nextCycle) ∨
    (p.phase = .idle ∧ p.paused = false ∧
      (p.signal s now).2 = .schedule p.nextCycle (p.delayAt now) ∧
      (p.signal s now).1.nextCycle = p.nextCycle + 1) := by
  have numbered := p.nextCycle_record s
  rcases p.signal_cases s now with
    ⟨isClosed, _⟩ | ⟨_, idle, paused, h⟩ | ⟨_, idle, running, h⟩ | ⟨_, busy, h⟩
  · rw [isOpen] at isClosed
    cases isClosed
  · rw [h]
    exact .inr (.inl ⟨idle, paused, rfl, numbered⟩)
  · rw [h, schedule, delayAt_record, numbered]
    exact .inr (.inr ⟨idle, running, rfl, rfl⟩)
  · rw [h]
    exact .inl ⟨busy, rfl, numbered⟩

end Pacer

end Cadence
