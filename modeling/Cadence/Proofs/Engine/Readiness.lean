import Cadence.Proofs.Engine.Flight

/-!
# The verdict on a readiness call

The decoupler judges a readiness call by its current cycle alone, yet the verdict tells exactly
whether the event of that cycle was delivered and not yet given back, whatever went wrong before.
-/

set_option autoImplicit false

namespace Cadence

/-- The cycle that is scheduled or in flight. -/
def Phase.current? : Phase → Option Nat
  | idle => none
  | scheduled cycle => some cycle
  | inFlight cycle _ => some cycle

/-- What is wrong with a readiness call for a cycle, if it is wrong, given the current cycle. -/
def ProtocolViolation.against (cycle : Nat) : Option Nat → ProtocolViolation
  | none => .readyWhileIdle cycle
  | some current => if current = cycle then .notDispatched cycle else .cycleMismatch current cycle

theorem Pacer.violation_eq {p : Pacer} {cycle now : Nat} {violation : ProtocolViolation}
    (refused : (p.ready cycle now).2 = .error violation) :
    violation = .against cycle p.phase.current? := by
  cases phase : p.phase with
  | idle =>
      simp only [Pacer.ready, phase] at refused
      exact (Except.error.inj refused).symm
  | scheduled current =>
      by_cases same : current = cycle
      · simp only [Pacer.ready, phase, if_pos same] at refused
        rw [Phase.current?, ProtocolViolation.against, if_pos same]
        exact (Except.error.inj refused).symm
      · simp only [Pacer.ready, phase, if_neg same] at refused
        rw [Phase.current?, ProtocolViolation.against, if_neg same]
        exact (Except.error.inj refused).symm
  | inFlight current dispatched =>
      by_cases same : current = cycle
      · cases dispatched with
        | true =>
            simp only [Pacer.ready, phase, if_pos same, if_true] at refused
            cases refused
        | false =>
            simp only [Pacer.ready, phase, if_pos same, Bool.false_eq_true, if_false] at refused
            rw [Phase.current?, ProtocolViolation.against, if_pos same]
            exact (Except.error.inj refused).symm
      · simp only [Pacer.ready, phase, if_neg same] at refused
        rw [Phase.current?, ProtocolViolation.against, if_neg same]
        exact (Except.error.inj refused).symm

namespace Engine

variable {α : Type}

/-! ## While the decoupler exists -/

section

variable {turns : List (Turn α)} {begun : List Nat} {e : Engine α} {cycle : Nat}

theorem ready_ok_iff (alive : e.isAlive = true) :
    (e.ready cycle).2 = .ok () ↔ e.decoupler.pacer.phase = .inFlight cycle true := by
  rcases e.ready_effect cycle with
    ⟨gone, _⟩ | ⟨_, inFlight, same⟩ | ⟨_, other, _, _, same⟩
  · rw [alive] at gone
    cases gone
  · rw [same]
    exact ⟨fun _ => inFlight, fun _ => rfl⟩
  · rw [same]
    exact ⟨fun success => (by cases success), fun inFlight => absurd inFlight other⟩

theorem holder_eq_some_iff (phase : Phase) :
    phase.holder = some cycle ↔ phase = .inFlight cycle true := by
  cases phase with
  | idle => exact ⟨fun h => (by cases h), fun h => (by cases h)⟩
  | scheduled current => exact ⟨fun h => (by cases h), fun h => (by cases h)⟩
  | inFlight current dispatched =>
      cases dispatched with
      | false => exact ⟨fun h => (by cases h), fun h => (by cases h)⟩
      | true =>
          rw [Phase.holder, Option.some.injEq, Phase.inFlight.injEq]
          exact ⟨fun same => ⟨same, rfl⟩, fun same => same.1⟩

/-- The event that the consumer holds is the one that was delivered and not yet given back. -/
theorem InStep.holds_iff {waiting announced : List Nat} {phase : Phase} {closed : Bool}
    {next : Nat} (h : InStep turns begun waiting announced phase closed next) :
    phase = .inFlight cycle true ↔ cycle ∈ Turn.deliveries turns ∧ cycle ∉ Turn.ends turns := by
  have delivered := Turn.deliveries_eq_ends turns h.passed
  have distinct : (Turn.ends turns ++ phase.holder.toList).Nodup := by
    have ordered := h.ordered
    rw [List.append_assoc, List.append_assoc, delivered] at ordered
    exact (List.pairwise_append.mp ordered).1.imp Nat.ne_of_lt
  have apart := (List.pairwise_append.mp distinct).2.2
  rw [← holder_eq_some_iff, delivered, List.mem_append, Option.mem_toList]
  constructor
  · intro holds
    refine ⟨.inr holds, fun ended => apart cycle ended cycle ?_ rfl⟩
    rw [holds]
    exact List.mem_singleton_self cycle
  · rintro ⟨ended | holds, still⟩
    · exact absurd ended still
    · exact holds

theorem ready_error {violation : ProtocolViolation}
    (refused : (e.ready cycle).2 = .error violation) :
    violation = .against cycle e.decoupler.pacer.phase.current? ∧
      (e.ready cycle).1.decoupler.tally.violations = e.decoupler.tally.violations + 1 ∧
      (e.ready cycle).1.decoupler.pacer.closed = true := by
  rcases e.ready_effect cycle with
    ⟨_, same⟩ | ⟨_, _, same⟩ | ⟨_, _, found, answered, same⟩
  · rw [same] at refused
    cases refused
  · rw [same] at refused
    cases refused
  · rw [same] at refused ⊢
    obtain rfl : found = violation := Except.error.inj refused
    exact ⟨Pacer.violation_eq (congrArg Prod.snd answered), rfl, Pacer.closed_close _⟩

theorem ready_ok_closed (success : (e.ready cycle).2 = .ok ()) (accepts : e.refusal = none) :
    (e.ready cycle).1.decoupler.pacer.closed = e.decoupler.pacer.closed := by
  rcases e.ready_effect cycle with
    ⟨_, same⟩ | ⟨_, _, same⟩ | ⟨_, _, _, _, same⟩
  · rw [same]
  · obtain ⟨_, _, applied, _⟩ := apply_eq (e := e.paced (e.decoupler.pacer.finish e.now).1) accepts
      (e.decoupler.pacer.finish e.now).2
    rw [same, applied]
    exact e.decoupler.pacer.closed_finish e.now
  · rw [same] at success
    cases success

end

/-! ## Once it is gone -/

theorem gone_call {e : Engine α} (gone : e.isAlive = false) (action : Action α) :
    (e.act action).1.isAlive = false := by
  have unheld : ¬ e.held = true := by
    intro held
    rw [isAlive_of_held held] at gone
    cases gone
  have producer : action.isOfProducer = true → (e.act action).1.isAlive = false := by
    intro producers
    obtain ⟨e', restocked, effect⟩ := e.producer_effect producers
    have gone' : e'.isAlive = false := by
      obtain ⟨_, _, _, _, _, rfl⟩ := restocked
      exact gone
    rcases effect with same | ⟨s, same⟩
    · rw [same]
      exact gone'
    · rw [same, signal, gone', if_neg Bool.false_ne_true]
      exact gone'
  have readied : ∀ cycle, (e.ready cycle).1.isAlive = false := by
    intro cycle
    rw [ready, gone, if_neg Bool.false_ne_true]
    exact gone
  cases action with
  | spend cycle => exact readied cycle
  | ready cycle =>
      rw [act, if_neg unheld]
      exact gone
  | pause =>
      rw [act, pause, if_neg unheld]
      exact gone
  | resume =>
      rw [act, resume, if_neg unheld]
      exact gone
  | close =>
      rw [act, shut, if_neg unheld]
      exact gone
  | drop =>
      rw [act, drop, if_neg unheld]
      exact gone
  | _ => exact producer rfl

theorem startTask_of_gone {e : Engine α} (gone : e.isAlive = false) (cycle : Nat) :
    e.startTask cycle = (e, none) := by
  rw [startTask, gone, if_neg Bool.false_ne_true]

theorem gone_fire {e : Engine α} (gone : e.isAlive = false) (index : Nat) :
    (e.fire index).isAlive = false := by
  cases expires : e.timers[index]? with
  | none =>
      simp only [fire, expires]
      exact gone
  | some timer =>
      have gone' : ({ e with timers := e.timers.eraseIdx index } : Engine α).isAlive = false := gone
      simp only [fire, expires, gone', Bool.false_eq_true, if_false]

theorem gone_cancel {e : Engine α} (gone : e.isAlive = false) :
    e.cancelTimers.isAlive = false := by
  rw [cancelTimers]
  split
  · exact gone
  · exact gone

/-- Nothing brings a decoupler back. -/
theorem gone_kept :
    Scene.Kept fun (_ : List (Turn α)) s => s.engine.isAlive = false ∧ s.tasks = [] where
  stage := by
    intro _ s step stage ⟨gone, idle⟩
    cases step with
    | move m => cases stage
    | start =>
        cases queue : s.engine.queue with
        | nil =>
            simp only [Scene.step, queue]
            exact ⟨gone, idle⟩
        | cons cycle rest =>
            have gone' : ({ s.engine with queue := rest } : Engine α).isAlive = false := gone
            simp only [Scene.step, queue, startTask_of_gone gone' cycle, idle]
            exact ⟨gone', rfl⟩
    | proceed index =>
        have none : s.tasks[index]? = none := by
          rw [idle]
          rfl
        simp only [Scene.step, none]
        exact ⟨gone, idle⟩
  move := by
    intro _ s m other permitted ⟨gone, idle⟩
    refine ⟨?_, idle⟩
    cases m with
    | call action => exact gone_call gone action
    | run => exact absurd rfl other
    | returned =>
        -- a call of the listener that is under way keeps the decoupler alive
        have under : s.tasks.length < s.engine.running := decide_eq_true_iff.mp permitted
        have alive := isAlive_of_running (Nat.zero_lt_of_lt under)
        rw [gone] at alive
        cases alive
    | fire index => exact gone_fire gone index
    | cancel => exact gone_cancel gone
    | refuse refusal => exact gone
    | elapse nanos => exact gone

theorem spend_of_gone {e : Engine α} (gone : e.isAlive = false) (cycle : Nat) :
    e.act (.spend cycle) = (e, .ok (.verdict (.ok ()))) := by
  simp only [act, ready, gone, Bool.false_eq_true, if_false]

-- a call for a cycle that never was closes the decoupler, and the call that is due still succeeds
example :
    let start : Scene Nat := .new "s" (.latest .empty) none none false true
    let e := (start.after
      [.move (.call (.write (some 5))), .move .run, .move (.call (.spend 7))]).engine
    e.isClosed = true ∧ (e.ready 7).2.isOk = false ∧ (e.ready 1).2.isOk = true := by decide

end Engine

end Cadence
