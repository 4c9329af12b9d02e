import Cadence.Proofs.Engine.Outline
import Cadence.Proofs.Pacer.Connections

/-!
# How an engine drives its pacer

Whatever happens to an engine, its pacer only ever sees calls of its own.  Apart from the start of a
task none of them starts a cycle, and apart from the signals of producers none of them says anything
of a connection.  So what holds of a pacer through such calls holds of the pacer of an engine.
-/

set_option autoImplicit false

namespace Cadence.Engine

variable {α : Type} {side : Side} {e e' e'' : Engine α}

/-- From one engine to the other the pacer was called, but not to start a cycle; `told` is what it
was told of the side. -/
def Driven (side : Side) (told : List Bool) (e e' : Engine α) : Prop :=
  ∃ ops : List Pacer.Operation, (∀ op ∈ ops, op.begins? = none) ∧
    ops.filterMap (Pacer.Operation.told? side) = told ∧
    e'.decoupler.pacer = e.decoupler.pacer.after ops

theorem driven_still (same : e'.decoupler.pacer = e.decoupler.pacer) : Driven side [] e e' :=
  ⟨[], by simp, rfl, same⟩

theorem driven_once (op : Pacer.Operation) (noStart : op.begins? = none)
    (stepped : e'.decoupler.pacer = (e.decoupler.pacer.step op).1) :
    Driven side (op.told? side).toList e e' := by
  refine ⟨[op], ?_, ?_, stepped⟩
  · intro other member
    rw [List.mem_singleton.mp member]
    exact noStart
  · cases told : op.told? side <;> simp [told]

theorem Driven.trans {told later : List Bool} (h : Driven side told e e')
    (h' : Driven side later e' e'') : Driven side (told ++ later) e e'' := by
  obtain ⟨ops, noStart, rfl, after⟩ := h
  obtain ⟨ops', noStart', rfl, after'⟩ := h'
  refine ⟨ops ++ ops', ?_, List.filterMap_append, ?_⟩
  · intro op member
    rcases List.mem_append.mp member with first | further
    · exact noStart op first
    · exact noStart' op further
  · rw [after', after, Pacer.after_append]

/-- Nothing is told of the side, whether or not there is a decoupler to tell it to. -/
theorem Driven.silent (h : Driven side [] e e') :
    Driven side (if e.isAlive then (none : Option Bool).toList else []) e e' := by
  rw [Option.toList_none, ite_self]
  exact h

/-! ## Carrying out transitions -/

theorem driven_close (e : Engine α) : Driven side [] e e.close := by
  rcases e.close_cases with ⟨_, same⟩ | ⟨_, same⟩
  · rw [same]
    exact driven_still rfl
  · rw [same]
    exact driven_once .close rfl rfl

theorem driven_submit (e : Engine α) (cycle : Nat) : Driven side [] e (e.submit cycle) := by
  cases refused : e.refusal with
  | none =>
      rw [submit_of_accepts refused]
      exact driven_still rfl
  | some refusal =>
      rw [submit_of_refused refused]
      exact driven_close (e.note _)

theorem driven_apply (e : Engine α) (asked : Transition) : Driven side [] e (e.apply asked) := by
  rcases e.apply_cases asked with ⟨_, _, same⟩ | ⟨cycle, tally, notice, _, _, same | ⟨_, same⟩⟩
  · rw [same]
    exact driven_still rfl
  · rw [same]
    exact driven_submit (e.counted tally [notice]) cycle
  · rw [same]
    exact driven_still rfl

/-- A call of the pacer, and what it asks for. -/
theorem driven_ask (op : Pacer.Operation) (noStart : op.begins? = none)
    (stepped : e'.decoupler.pacer = (e.decoupler.pacer.step op).1) (asked : Transition) :
    Driven side (op.told? side).toList e (e'.apply asked) := by
  have called : Driven side (op.told? side).toList e e' := driven_once op noStart stepped
  have moved := called.trans (driven_apply e' asked)
  rw [List.append_nil] at moved
  exact moved

/-! ## Calls -/

theorem driven_restocked (restocked : Restocked e e') : Driven side [] e e' := by
  obtain ⟨_, _, _, _, _, rfl⟩ := restocked
  exact driven_still rfl

theorem driven_signal (e : Engine α) (s : Signal) :
    Driven side (if e.isAlive then (side.told? s).toList else []) e (e.signal s) := by
  by_cases alive : e.isAlive = true
  · rw [signal, if_pos alive, if_pos alive]
    exact driven_ask (.signal s e.now) rfl rfl _
  · rw [signal, if_neg alive, if_neg alive]
    exact driven_still rfl

theorem driven_ready (e : Engine α) (cycle : Nat) : Driven side [] e (e.ready cycle).1 := by
  rcases e.ready_effect cycle with ⟨_, same⟩ | ⟨_, inFlight, same⟩ | ⟨_, _, _, _, same⟩
  · rw [same]
    exact driven_still rfl
  · rw [same]
    refine driven_ask (.ready cycle e.now) rfl ?_ _
    rcases e.decoupler.pacer.ready_cases cycle e.now with ⟨_, h⟩ | ⟨other, _⟩
    · rw [Pacer.step, h]
      rfl
    · exact absurd inFlight other
  · rw [same]
    exact driven_once .close rfl rfl

theorem driven_pause (e : Engine α) : Driven side [] e e.pause := by
  by_cases held : e.held = true
  · rw [pause, if_pos held]
    exact driven_once .pause rfl rfl
  · rw [pause, if_neg held]
    exact driven_still rfl

theorem driven_resume (e : Engine α) : Driven side [] e e.resume := by
  by_cases held : e.held = true
  · rw [resume, if_pos held]
    exact driven_ask (.resume e.now) rfl rfl _
  · rw [resume, if_neg held]
    exact driven_still rfl

theorem driven_shut (e : Engine α) : Driven side [] e e.shut := by
  by_cases held : e.held = true
  · rw [shut, if_pos held]
    exact e.driven_close
  · rw [shut, if_neg held]
    exact driven_still rfl

theorem driven_drop (e : Engine α) : Driven side [] e e.drop := by
  by_cases held : e.held = true
  · rw [drop, if_pos held]
    split
    · exact driven_close (e.note [.closingDropped e.subject])
    · exact driven_still rfl
  · rw [drop, if_neg held]
    exact driven_still rfl

/-- What a call says of the side. -/
def Action.told? (side : Side) : Action α → Option Bool
  | signal s => side.told? s
  | _ => none

theorem driven_producer (e : Engine α) {action : Action α}
    (producers : action.isOfProducer = true) :
    Driven side (if e.isAlive then (action.told? side).toList else []) e (e.act action).1 := by
  cases isSignal : action.told? side with
  | some connected =>
      cases action with
      | signal s =>
          have signalled : Driven side _ e (e.signal s) := e.driven_signal s
          rw [show side.told? s = some connected from isSignal] at signalled
          exact signalled
      | _ => cases isSignal
  | none =>
      rw [Option.toList_none, ite_self]
      obtain ⟨e', restocked, effect⟩ := e.producer_signals producers
      have moved : Driven side [] e e' := driven_restocked restocked
      rcases effect with same | ⟨s, same, which⟩
      · rw [same]
        exact moved
      · -- the signal is the one of the call, which is silent, or it tells of a value
        have silent : side.told? s = none := by
          rcases which with rfl | ofValue
          · exact isSignal
          · cases side <;> cases s <;> first | rfl | cases ofValue
        have signalled : Driven side _ e' (e'.signal s) := e'.driven_signal s
        rw [silent, Option.toList_none, ite_self] at signalled
        rw [same]
        exact moved.trans signalled

theorem driven_call (e : Engine α) (action : Action α) :
    Driven side (if e.isAlive then (action.told? side).toList else []) e (e.act action).1 := by
  cases action with
  | spend cycle => exact (e.driven_ready cycle).silent
  | ready cycle =>
      by_cases held : e.held = true
      · rw [act, if_pos held]
        exact (e.driven_ready cycle).silent
      · rw [act, if_neg held]
        exact Driven.silent (driven_still rfl)
  | pause => exact e.driven_pause.silent
  | resume => exact e.driven_resume.silent
  | close => exact e.driven_shut.silent
  | drop => exact e.driven_drop.silent
  | _ => exact driven_producer e rfl

/-! ## Tasks and timers -/

theorem driven_fire (e : Engine α) (index : Nat) : Driven side [] e (e.fire index) := by
  cases expires : e.timers[index]? with
  | none =>
      simp only [fire, expires]
      exact driven_still rfl
  | some timer =>
      simp only [fire, expires]
      split
      · exact driven_submit { e with timers := e.timers.eraseIdx index } timer.cycle
      · exact driven_still rfl

theorem driven_cancel (e : Engine α) : Driven side [] e e.cancelTimers := by
  rw [cancelTimers]
  split
  · exact driven_still rfl
  · exact driven_still rfl

theorem driven_conclude (e : Engine α) (cycle : Nat) (snapshot : Snapshot) (values : List α) :
    Driven side [] e (e.concludeTask cycle snapshot values).1 := by
  simp only [concludeTask_eq]
  split
  · have ended : Driven side [] e
        (((e.paced (e.decoupler.pacer.skip cycle e.now).1).note
          [.nothingToDeliver e.subject cycle]).apply (e.decoupler.pacer.skip cycle e.now).2) :=
      driven_ask (.skip cycle e.now) rfl rfl _
    exact ended.trans (driven_still rfl)
  · split
    · exact driven_once (.markDispatched cycle) rfl rfl
    · exact driven_still rfl

def Move.told? (side : Side) : Move α → Option Bool
  | call action => action.told? side
  | _ => none

theorem driven_move (e : Engine α) {m : Move α} (other : m ≠ .run) :
    Driven side (if e.isAlive then (m.told? side).toList else []) e (e.move m).1 := by
  cases m with
  | call action => exact e.driven_call action
  | run => exact absurd rfl other
  | returned => exact Driven.silent (driven_still rfl)
  | fire index => exact (e.driven_fire index).silent
  | cancel => exact e.driven_cancel.silent
  | refuse refusal => exact Driven.silent (driven_still rfl)
  | elapse nanos => exact Driven.silent (driven_still rfl)

/-- The start of a task starts its cycle, if anything. -/
theorem startTask_started (e : Engine α) (cycle : Nat) :
    ∃ ops : List Pacer.Operation, ops.filterMap (Pacer.Operation.told? side) = [] ∧
      (e.startTask cycle).1.decoupler.pacer = e.decoupler.pacer.after ops := by
  rw [startTask_eq_opened]
  by_cases alive : e.isAlive = true
  · refine ⟨[.begin cycle e.now], rfl, ?_⟩
    rw [if_pos alive]
    cases (e.decoupler.pacer.begin cycle e.now).2 <;> rfl
  · refine ⟨[], rfl, ?_⟩
    rw [if_neg alive]
    rfl

end Cadence.Engine
