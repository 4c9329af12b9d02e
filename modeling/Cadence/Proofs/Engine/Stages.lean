import Cadence.Proofs.Engine.Effects

/-!
# The stages of a task

A task does not run in one go.  It starts its cycle, reads the buffer, and concludes by delivering
or skipping; between these stages the decoupler is free for everyone else.  In direct succession
the stages are the task (`runTask_eq_stages`).
-/

set_option autoImplicit false

namespace Cadence.Engine

variable {α : Type}

structure CycleTask (α : Type) where
  cycle : Nat
  snapshot : Snapshot
  batch : Option (List α)

/-- The first stage.  A task under way keeps the decoupler alive. -/
def startTask (e : Engine α) (cycle : Nat) : Engine α × Option (CycleTask α) :=
  if e.isAlive then
    match e.decoupler.pacer.begin cycle e.now with
    | (pacer, none) =>
        ({ e with decoupler := { e.decoupler with pacer := pacer } }.note
          [.cycleDropped e.subject cycle], none)
    | (pacer, some snapshot) =>
        ({ e with
            decoupler := { e.decoupler with pacer := pacer }
            running := e.running + 1 },
          some ⟨cycle, snapshot, none⟩)
  else (e, none)

def readTask (e : Engine α) : Engine α × List α :=
  let (buffer, values) := e.decoupler.buffer.read
  ({ e with decoupler := { e.decoupler with buffer := buffer } }.note
    e.decoupler.buffer.readNotices, values)

/-- The last stage of the task of a cycle, with what it has read.  If an event is delivered, the call
of the listener is still under way. -/
def concludeTask (e : Engine α) (cycle : Nat) (snapshot : Snapshot) (values : List α) :
    Engine α × Option (Event α) :=
  let event := Event.classify cycle snapshot values
  if event.kinds.isEmpty then
    let (pacer, transition) := e.decoupler.pacer.skip cycle e.now
    ((({ e with decoupler := { e.decoupler with pacer := pacer } }.note
        [.nothingToDeliver e.subject cycle]).apply transition).returned, none)
  else
    match e.decoupler.pacer.markDispatched cycle with
    | (pacer, true) =>
        ({ e with
            decoupler :=
              { e.decoupler with
                pacer := pacer
                tally :=
                  { e.decoupler.tally with dispatched := e.decoupler.tally.dispatched + 1 } } }.note
          [.delivering e.subject cycle event.kinds event.values.length], some event)
    | (_, false) => (e.returned, none)

theorem startTask_cases (e : Engine α) (cycle : Nat) :
    (e.isAlive = false ∧ e.startTask cycle = (e, none)) ∨
    (e.isAlive = true ∧ e.decoupler.pacer.closed = true ∧
      e.startTask cycle =
        ({ e with
            decoupler := { e.decoupler with pacer := { e.decoupler.pacer with phase := .idle } }
            journal := e.journal ++ [.cycleDropped e.subject cycle] }, none)) ∨
    (e.isAlive = true ∧ e.decoupler.pacer.closed = false ∧
      e.decoupler.pacer.phase ≠ .scheduled cycle ∧
      e.startTask cycle = (e.note [.cycleDropped e.subject cycle], none)) ∨
    (e.isAlive = true ∧ e.decoupler.pacer.closed = false ∧
      e.decoupler.pacer.phase = .scheduled cycle ∧
      e.startTask cycle =
        ({ e with
            decoupler := { e.decoupler with pacer := e.decoupler.pacer.started cycle e.now }
            running := e.running + 1 },
          some ⟨cycle, e.decoupler.pacer.snapshot, none⟩)) := by
  cases alive : e.isAlive with
  | false => exact .inl ⟨rfl, by simp only [startTask, alive, Bool.false_eq_true, if_false]⟩
  | true =>
      right
      rcases e.decoupler.pacer.begin_cases cycle e.now with
        ⟨isClosed, h⟩ | ⟨isOpen, scheduled, h⟩ | ⟨isOpen, other, h⟩
      · exact .inl ⟨rfl, isClosed, by simp only [startTask, alive, if_true, h, note]⟩
      · exact .inr (.inr ⟨rfl, isOpen, scheduled, by simp only [startTask, alive, if_true, h]⟩)
      · exact .inr (.inl ⟨rfl, isOpen, other, by simp only [startTask, alive, if_true, h]⟩)

theorem restocked_read (e : Engine α) : Restocked e e.readTask.1 :=
  ⟨_, _, _, _, e.decoupler.buffer.isAboutValues_readNotices, rfl⟩

/-- A task whose cycle is in flight delivers its event, or ends the cycle if the event says nothing.
Any other task ends without effect. -/
theorem concludeTask_cases (e : Engine α) (cycle : Nat) (snapshot : Snapshot) (values : List α) :
    (∃ dispatched, e.decoupler.pacer.phase = .inFlight cycle dispatched ∧
      e.concludeTask cycle snapshot values =
        ((((e.paced (e.decoupler.pacer.finish e.now).1).note
          [.nothingToDeliver e.subject cycle]).apply (e.decoupler.pacer.finish e.now).2).returned,
          none)) ∨
    (∃ dispatched, e.decoupler.pacer.phase = .inFlight cycle dispatched ∧
      e.concludeTask cycle snapshot values =
        ((e.paced
          { e.decoupler.pacer with
            phase := .inFlight cycle true
            lastDispatchAt := e.decoupler.pacer.startedAt.or e.decoupler.pacer.lastDispatchAt
            startedAt := none }).counted
          { e.decoupler.tally with dispatched := e.decoupler.tally.dispatched + 1 }
          [.delivering e.subject cycle (Event.classify cycle snapshot values).kinds values.length],
          some (.classify cycle snapshot values))) ∨
    ((∀ dispatched, e.decoupler.pacer.phase ≠ .inFlight cycle dispatched) ∧
      ∃ notices, (notices = [] ∨ notices = [.nothingToDeliver e.subject cycle]) ∧
        e.concludeTask cycle snapshot values =
          ((e.note notices).returned, none)) := by
  by_cases silent : (Event.classify cycle snapshot values).kinds.isEmpty
  · rcases e.decoupler.pacer.skip_cases cycle e.now with ⟨dispatched, inFlight, h⟩ | ⟨other, h⟩
    · refine .inl ⟨dispatched, inFlight, ?_⟩
      simp only [concludeTask, if_pos silent, h]
      rfl
    · refine .inr (.inr ⟨other, [.nothingToDeliver e.subject cycle], .inr rfl, ?_⟩)
      simp only [concludeTask, if_pos silent, h]
      rfl
  · rcases e.decoupler.pacer.markDispatched_cases cycle with ⟨dispatched, inFlight, h⟩ | ⟨other, h⟩
    · refine .inr (.inl ⟨dispatched, inFlight, ?_⟩)
      simp only [concludeTask, if_neg silent, h]
      rfl
    · refine .inr (.inr ⟨other, [], .inl rfl, ?_⟩)
      simp only [concludeTask, if_neg silent, h, note, List.append_nil]

def withRunning (e : Engine α) (running : Nat) : Engine α := { e with running := running }

theorem close_withRunning (e : Engine α) (running : Nat) :
    (e.withRunning running).close = e.close.withRunning running := by
  cases isClosed : e.decoupler.pacer.closed with
  | true => simp only [close, withRunning, isClosed, if_true]
  | false =>
      simp only [close, withRunning, isClosed, Bool.false_eq_true, if_false]
      rfl

theorem submit_withRunning (e : Engine α) (cycle running : Nat) :
    (e.withRunning running).submit cycle = (e.submit cycle).withRunning running := by
  cases refused : e.refusal with
  | none =>
      have accepts : (e.withRunning running).refusal = none := refused
      rw [submit_of_accepts accepts, submit_of_accepts refused]
      rfl
  | some refusal =>
      have refused' : (e.withRunning running).refusal = some refusal := refused
      rw [submit_of_refused refused', submit_of_refused refused]
      exact close_withRunning (e.note _) running

/-- Carrying out a transition does not depend on the calls that are under way. -/
theorem apply_withRunning (e : Engine α) (asked : Transition) (running : Nat) :
    (e.withRunning running).apply asked = (e.apply asked).withRunning running := by
  cases asked with
  | schedule cycle delay =>
      rw [apply_schedule, apply_schedule]
      by_cases atOnce : delay = 0
      · rw [if_pos atOnce, if_pos atOnce]
        exact submit_withRunning (e.counted _ _) cycle running
      · rw [if_neg atOnce, if_neg atOnce]
        by_cases runtime : e.hasRuntime = true
        · have runtime' : (e.withRunning running).hasRuntime = true := runtime
          rw [if_pos runtime, if_pos runtime']
          rfl
        · have runtime' : ¬ (e.withRunning running).hasRuntime = true := runtime
          rw [if_neg runtime, if_neg runtime']
          exact submit_withRunning (e.counted _ _) cycle running
  | _ => rfl

theorem running_apply (e : Engine α) (asked : Transition) :
    (e.apply asked).running = e.running := by
  have kept : e.apply asked = (e.apply asked).withRunning e.running :=
    e.apply_withRunning asked e.running
  rw [kept]
  rfl

theorem returned_apply (e : Engine α) (asked : Transition) :
    ((e.withRunning (e.running + 1)).apply asked).returned = e.apply asked :=
  calc ((e.withRunning (e.running + 1)).apply asked).returned
    _ = ((e.apply asked).withRunning (e.running + 1)).returned := by rw [apply_withRunning]
    _ = (e.apply asked).withRunning e.running := rfl
    _ = (e.withRunning e.running).apply asked := (e.apply_withRunning asked e.running).symm
    _ = e.apply asked := rfl

/-- A task is its stages, one right after the other. -/
theorem runTask_eq_stages (e : Engine α) (cycle : Nat) :
    e.runTask cycle =
      match e.startTask cycle with
      | (e, none) => (e, none)
      | (e, some task) =>
          e.readTask.1.concludeTask task.cycle task.snapshot e.readTask.2 := by
  cases alive : e.isAlive with
  | false => simp only [runTask, startTask, alive, Bool.false_eq_true, if_false]
  | true =>
      cases started : e.decoupler.pacer.begin cycle e.now with
      | mk pacer snapshot? =>
          cases snapshot? with
          | none => simp only [runTask, startTask, alive, if_true, Decoupler.runCycle, started]
          | some snapshot =>
              have inFlight : pacer.phase = .inFlight cycle false := by
                obtain ⟨_, _, _, same⟩ := Pacer.begin_eq_some (congrArg Prod.snd started)
                rw [started] at same
                exact congrArg Pacer.phase same
              have marks : pacer.markDispatched cycle = ((pacer.markDispatched cycle).1, true) := by
                simp [Pacer.markDispatched, inFlight]
              simp only [runTask, startTask, alive, if_true, Decoupler.runCycle, started, readTask,
                concludeTask, note]
              by_cases silent :
                  (Event.classify cycle snapshot e.decoupler.buffer.read.2).kinds.isEmpty
              · simp only [if_pos silent, List.append_assoc]
                exact congrArg (fun ended => (ended, none)) (returned_apply _ _).symm
              · rw [marks]
                simp only [if_neg silent, List.append_assoc]

end Cadence.Engine
