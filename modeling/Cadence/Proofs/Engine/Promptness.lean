import Cadence.Proofs.Engine.Conservation
import Cadence.Proofs.Engine.Inertness

/-!
# Prompt engines

Without a rate cap a cycle that is scheduled goes to the dispatch at once, so no timer is ever set,
and calls only add tasks to the queue.  A consumer that spends its token as soon as it gets it
leaves none out, so between two steps no cycle is in flight.
-/

set_option autoImplicit false

namespace Cadence

def Transition.AtOnce (asked : Transition) : Prop :=
  ∀ cycle delay, asked = .schedule cycle delay → delay = 0

namespace Pacer

/-- The pacer that an operation leaves has no rate cap, and nothing that it asks for is delayed. -/
structure Prompt (left : Pacer × Transition) : Prop where
  period : left.1.minPeriod = none
  atOnce : left.2.AtOnce

section

variable {p : Pacer}

theorem prompt_schedule (period : p.minPeriod = none) (now : Nat) : Prompt (p.schedule now) := by
  refine ⟨period, fun cycle delay asks => ?_⟩
  obtain ⟨_, rfl⟩ := Transition.schedule.inj asks
  rw [delayAt, period]

theorem minPeriod_record (p : Pacer) (s : Signal) : (p.record s).minPeriod = p.minPeriod := by
  rw [record_eq]

theorem prompt_signal (period : p.minPeriod = none) (s : Signal) (now : Nat) :
    Prompt (p.signal s now) := by
  have recorded : (p.record s).minPeriod = none := (p.minPeriod_record s).trans period
  rcases p.signal_cases s now with ⟨_, h⟩ | ⟨_, _, _, h⟩ | ⟨_, _, _, h⟩ | ⟨_, _, h⟩ <;> rw [h]
  · exact ⟨period, nofun⟩
  · exact ⟨recorded, nofun⟩
  · exact prompt_schedule recorded now
  · exact ⟨recorded, nofun⟩

theorem prompt_resume (period : p.minPeriod = none) (now : Nat) : Prompt (p.resume now) := by
  rcases p.resume_cases now with ⟨_, h⟩ | ⟨_, _, _, h⟩ | ⟨_, _, h⟩ <;> rw [h]
  · exact ⟨period, nofun⟩
  · refine prompt_schedule ?_ now
    exact period
  · exact ⟨period, nofun⟩

theorem prompt_finish (period : p.minPeriod = none) (now : Nat) : Prompt (p.finish now) := by
  rcases p.finish_cases now with ⟨_, h⟩ | ⟨_, _, _, h⟩ | ⟨_, _, h⟩ <;> rw [h]
  · exact ⟨period, nofun⟩
  · refine prompt_schedule ?_ now
    exact period
  · exact ⟨period, nofun⟩

theorem minPeriod_close (p : Pacer) : p.close.1.minPeriod = p.minPeriod := by
  rw [close]
  split <;> rfl

end

end Pacer

namespace Engine

variable {α : Type}

/-! ## Without a rate cap -/

/-- No rate cap defers a cycle, no timer is set, and the dispatch takes every task. -/
structure Uncapped (e : Engine α) : Prop where
  period : e.decoupler.pacer.minPeriod = none
  timers : e.timers = []
  accepts : e.refusal = none

structure Queues (e e' : Engine α) : Prop where
  uncapped : Uncapped e'
  queue : e.queue <+: e'.queue
  running : e'.running = e.running

section

variable {e e' e'' : Engine α}

theorem Queues.refl (uncapped : Uncapped e) : Queues e e := ⟨uncapped, List.prefix_rfl, rfl⟩

theorem Queues.trans (first : Queues e e') (later : Queues e' e'') : Queues e e'' :=
  ⟨later.uncapped, first.queue.trans later.queue, later.running.trans first.running⟩

theorem queues_apply (uncapped : Uncapped e) {asked : Transition} (atOnce : asked.AtOnce) :
    Queues e (e.apply asked) := by
  cases asked with
  | schedule cycle delay =>
      have accepts : (e.counted e.decoupler.tally [.scheduling e.subject cycle]).refusal = none :=
        uncapped.accepts
      rw [apply_schedule, if_pos (atOnce cycle delay rfl), submit_of_accepts accepts]
      exact ⟨{ uncapped with }, List.prefix_append _ _, rfl⟩
  | _ => exact ⟨{ uncapped with }, List.prefix_rfl, rfl⟩

theorem queues_close (uncapped : Uncapped e) : Queues e e.close := by
  rcases e.close_cases with ⟨_, same⟩ | ⟨_, same⟩ <;> rw [same]
  · exact .refl uncapped
  · have period := (Pacer.minPeriod_close e.decoupler.pacer).trans uncapped.period
    exact ⟨{ uncapped with period := period }, List.prefix_rfl, rfl⟩

theorem queues_restocked (uncapped : Uncapped e) (restocked : Restocked e e') : Queues e e' := by
  obtain ⟨_, _, _, _, _, rfl⟩ := restocked
  exact ⟨{ uncapped with }, List.prefix_rfl, rfl⟩

theorem queues_signal (uncapped : Uncapped e) (s : Signal) : Queues e (e.signal s) := by
  by_cases alive : e.isAlive = true
  · have prompt := Pacer.prompt_signal uncapped.period s e.now
    rw [signal, if_pos alive]
    obtain ⟨still, queue, running⟩ := queues_apply
      (e := { e with decoupler := (e.decoupler.signal s e.now).1 }.note [.signalled e.subject s])
      { uncapped with period := prompt.period } prompt.atOnce
    exact ⟨still, queue, running⟩
  · rw [signal, if_neg alive]
    exact .refl uncapped

theorem queues_ready (uncapped : Uncapped e) (cycle : Nat) : Queues e (e.ready cycle).1 := by
  rcases e.ready_effect cycle with ⟨_, same⟩ | ⟨_, _, same⟩ | ⟨_, _, _, _, same⟩ <;> rw [same]
  · exact .refl uncapped
  · have prompt := Pacer.prompt_finish uncapped.period e.now
    obtain ⟨still, queue, running⟩ := queues_apply
      (e := e.paced (e.decoupler.pacer.finish e.now).1)
      { uncapped with period := prompt.period } prompt.atOnce
    exact ⟨still, queue, running⟩
  · have period := (Pacer.minPeriod_close e.decoupler.pacer).trans uncapped.period
    exact ⟨{ uncapped with period := period }, List.prefix_rfl, rfl⟩

theorem queues_pause (uncapped : Uncapped e) : Queues e e.pause := by
  rw [pause]
  split
  · exact ⟨{ uncapped with }, List.prefix_rfl, rfl⟩
  · exact .refl uncapped

theorem queues_resume (uncapped : Uncapped e) : Queues e e.resume := by
  by_cases held : e.held = true
  · have prompt := Pacer.prompt_resume uncapped.period e.now
    rw [resume, if_pos held]
    obtain ⟨still, queue, running⟩ := queues_apply
      (e := { e with decoupler := (e.decoupler.resume e.now).1 }.note
        [.resumed e.subject (e.decoupler.resume e.now).2])
      { uncapped with period := prompt.period } prompt.atOnce
    exact ⟨still, queue, running⟩
  · rw [resume, if_neg held]
    exact .refl uncapped

theorem queues_shut (uncapped : Uncapped e) : Queues e e.shut := by
  rw [shut]
  split
  · exact queues_close uncapped
  · exact .refl uncapped

theorem queues_drop (uncapped : Uncapped e) : Queues e e.drop := by
  by_cases held : e.held = true
  · rw [drop, if_pos held]
    by_cases closes : (e.closesOnDrop && !e.decoupler.pacer.closed) = true
    · obtain ⟨still, queue, running⟩ := queues_close
        (e := e.note [.closingDropped e.subject])
        { uncapped with }
      simp only [if_pos closes]
      exact ⟨{ still with }, queue, running⟩
    · simp only [if_neg closes]
      exact ⟨{ uncapped with }, List.prefix_rfl, rfl⟩
  · rw [drop, if_neg held]
    exact .refl uncapped

/-- No call sets a timer, starts a task or takes one off the queue. -/
theorem queues_call (uncapped : Uncapped e) (action : Action α) :
    Queues e (e.act action).1 := by
  have producer : action.isOfProducer = true → Queues e (e.act action).1 := by
    intro producers
    obtain ⟨e', restocked, effect⟩ := e.producer_effect producers
    have moved := queues_restocked uncapped restocked
    rcases effect with same | ⟨s, same⟩ <;> rw [same]
    · exact moved
    · exact moved.trans (queues_signal moved.uncapped s)
  cases action with
  | spend cycle => exact queues_ready uncapped cycle
  | ready cycle =>
      rw [act]
      split
      · exact queues_ready uncapped cycle
      · exact .refl uncapped
  | pause => exact queues_pause uncapped
  | resume => exact queues_resume uncapped
  | close => exact queues_shut uncapped
  | drop => exact queues_drop uncapped
  | _ => exact producer rfl

/-- After a task, a call of the listener is under way if and only if there is an event. -/
theorem uncapped_runTask (uncapped : Uncapped e) (cycle : Nat) :
    Uncapped (e.runTask cycle).1 ∧
      (e.runTask cycle).1.running = e.running + (e.runTask cycle).2.toList.length := by
  rw [runTask_eq_stages]
  rcases e.startTask_cases cycle with
    ⟨_, same⟩ | ⟨_, _, same⟩ | ⟨_, _, _, same⟩ | ⟨_, _, _, same⟩ <;> rw [same]
  · exact ⟨uncapped, rfl⟩
  · exact ⟨{ uncapped with }, rfl⟩
  · exact ⟨{ uncapped with }, rfl⟩
  · -- the cycle has started, and its task keeps the decoupler alive until it ends
    generalize started : ({ e with
      decoupler := { e.decoupler with pacer := e.decoupler.pacer.started cycle e.now }
      running := e.running + 1 } : Engine α).readTask = reads
    have still : Uncapped reads.1 := by
      rw [← started]
      exact { uncapped with }
    have occupied : reads.1.running = e.running + 1 := by
      rw [← started]
      rfl
    simp only [started]
    rcases reads.1.concludeTask_cases cycle e.decoupler.pacer.snapshot reads.2 with
      ⟨_, _, ended⟩ | ⟨_, _, ended⟩ | ⟨_, notices, _, ended⟩ <;> rw [ended]
    · have prompt := Pacer.prompt_finish still.period reads.1.now
      obtain ⟨after, _, running⟩ := queues_apply
        (e := (reads.1.paced (reads.1.decoupler.pacer.finish reads.1.now).1).note
          [.nothingToDeliver reads.1.subject cycle])
        { still with period := prompt.period } prompt.atOnce
      exact ⟨{ after with }, congrArg (· - 1) (running.trans occupied)⟩
    · exact ⟨{ still with }, occupied⟩
    · exact ⟨{ still with }, congrArg (· - 1) occupied⟩

theorem uncapped_runNext (uncapped : Uncapped e) :
    Uncapped e.runNext.1 ∧ e.runNext.1.running = e.running + e.runNext.2.join.toList.length := by
  cases waiting : e.queue with
  | nil =>
      simp only [runNext, waiting]
      exact ⟨uncapped, rfl⟩
  | cons cycle rest =>
      simp only [runNext, waiting]
      exact uncapped_runTask (e := { e with queue := rest }) { uncapped with } cycle

/-! ## Once it is closed -/

theorem isClosed_call (isClosed : e.isClosed = true) (action : Action α) :
    (e.act action).1.isClosed = true := by
  cases alive : e.isAlive with
  | true =>
      rw [isClosed_of_isAlive alive] at isClosed
      exact isClosed_of_closed (drains_call isClosed action).closed
  | false => exact isClosed_of_gone (gone_call alive action)

theorem runTask_of_closed (isClosed : e.isClosed = true) (cycle : Nat) :
    (e.runTask cycle).2 = none ∧ (e.runTask cycle).1.isClosed = true := by
  rw [runTask_eq_stages]
  cases alive : e.isAlive with
  | true =>
      rw [isClosed_of_isAlive alive] at isClosed
      have drained := drains_start isClosed cycle
      cases started : e.startTask cycle with
      | mk left task? =>
          rw [started] at drained
          obtain ⟨rfl, drains⟩ := drained
          exact ⟨rfl, isClosed_of_closed drains.closed⟩
  | false =>
      rw [startTask_of_gone alive]
      exact ⟨rfl, isClosed⟩

theorem runNext_of_closed (isClosed : e.isClosed = true) :
    e.runNext.2.join = none ∧ e.runNext.1.isClosed = true := by
  cases waiting : e.queue with
  | nil =>
      simp only [runNext, waiting]
      exact ⟨rfl, isClosed⟩
  | cons cycle rest =>
      simp only [runNext, waiting]
      exact runTask_of_closed (e := { e with queue := rest }) isClosed cycle

theorem isClosed_drop (uncapped : Uncapped e) (unoccupied : e.running = 0) :
    e.drop.isClosed = true := by
  have released : e.drop.held = false := by
    cases held : e.held with
    | true => rw [drop, if_pos held]
    | false => rw [drop, if_neg (Bool.eq_false_iff.mp held), held]
  have running : e.drop.running = 0 := (queues_drop uncapped).running.trans unoccupied
  exact isClosed_of_gone (by rw [isAlive, released, running]; rfl)

/-! ## While it is open -/

def Action.isOfSubscription : Action α → Bool
  | post _ => false
  | store _ => false
  | spend _ => false
  | ready _ => false
  | _ => true

/-- Since the engine was new, every event that it delivered has been given back. -/
def Settled (e : Engine α) : Prop :=
  ∃ capacity start history,
    Follows capacity [] start ∧ Run Atomic start history e ∧ tokens history = []

theorem Settled.move (settled : Settled e) (m : Move α)
    (atomic : ∀ history, Atomic history m) (none : (e.entry m).tokens [] = []) :
    Settled (e.move m).1 := by
  obtain ⟨capacity, start, history, new, run, spent⟩ := settled
  refine ⟨capacity, start, _, new, run.step (atomic history), ?_⟩
  rw [tokens_concat, spent]
  exact none

theorem Settled.call (settled : Settled e) {action : Action α}
    (atomic : ∀ history, Atomic history (.call action))
    (none : (e.entry (.call action)).tokens [] = []) : Settled (e.act action).1 :=
  settled.move (.call action) atomic none

theorem Settled.held (settled : Settled e) : e.held = true := by
  obtain ⟨_, _, _, new, run, _⟩ := settled
  exact (follows_of_run new run.orderly).held

theorem settled_call (uncapped : Uncapped e) (unoccupied : e.running = 0) (settled : Settled e)
    {action : Action α} (ofSubscription : action.isOfSubscription = true) :
    (e.act action).1.isClosed = true ∨ Settled (e.act action).1 := by
  cases action with
  | close => exact .inl (isClosed_of_closed (closed_shut settled.held))
  | drop => exact .inl (isClosed_drop uncapped unoccupied)
  | post value => cases ofSubscription
  | store value => cases ofSubscription
  | spend cycle => cases ofSubscription
  | ready cycle => cases ofSubscription
  | _ => exact .inr (settled.call (fun _ => ⟨trivial, nofun⟩) rfl)

theorem event_of_run (e : Engine α) : (e.entry .run).event? = e.runNext.2.join := by
  rw [Entry.event?, entry, Engine.move]
  cases e.runNext.2 <;> rfl

theorem Settled.runNext (settled : Settled e) (silent : e.runNext.2.join = none) :
    Settled e.runNext.1 := by
  refine settled.move .run (fun _ => ⟨trivial, nofun⟩) ?_
  rw [Entry.tokens, event_of_run, silent]
  rfl

theorem atomic_spend {history : List (Entry α)} {cycle : Nat} (out : cycle ∈ tokens history) :
    Atomic history (.call (.spend cycle)) := ⟨out, nofun⟩

theorem atomic_returned (history : List (Entry α)) : Atomic history .returned := ⟨trivial, nofun⟩

/-- An event can be given back as soon as it is delivered. -/
theorem Settled.delivers (settled : Settled e) {event : Event α}
    (delivers : e.runNext.2.join = some event) :
    (e.runNext.1.ready event.cycle).2 = .ok () ∧
      Settled (e.runNext.1.ready event.cycle).1.returned := by
  obtain ⟨capacity, start, history, new, run, spent⟩ := settled
  have ran : Run Atomic start (history ++ [e.entry .run]) e.runNext.1 :=
    run.step ⟨trivial, nofun⟩
  have out : tokens (history ++ [e.entry .run]) = [event.cycle] := by
    rw [tokens_concat, spent, Entry.tokens, event_of_run, delivers]
    rfl
  have token : event.cycle ∈ tokens (history ++ [e.entry .run]) := by
    rw [out]
    exact List.mem_singleton_self _
  have follows := follows_of_run new ran.orderly
  have returned := (ran.step (atomic_spend token)).step (atomic_returned _)
  refine ⟨?_, capacity, start, _, new, returned, ?_⟩
  · rw [ready_ok_iff follows.isAlive]
    exact (follows.phase.of_token token).1
  · calc tokens (history ++ [e.entry .run] ++ [_] ++ [_])
      _ = tokens (history ++ [e.entry .run] ++ [_]) := tokens_concat _ _
      _ = (tokens (history ++ [e.entry .run])).erase event.cycle := tokens_concat _ _
      _ = [] := by rw [out, List.erase_cons_head]

/-- With no task and no timer left, there is no cycle, and nothing that one would be for unless the
subscription is paused. -/
theorem Settled.rest (settled : Settled e) (queue : e.queue = []) (timers : e.timers = []) :
    e.decoupler.pacer.phase = .idle ∧
      (e.decoupler.pacer.paused = false →
        e.decoupler.pacer.pending = .empty ∧ e.decoupler.pacer.eventWhileBusy = false ∧
          e.decoupler.buffer.contents = []) := by
  obtain ⟨capacity, start, history, new, run, spent⟩ := settled
  have follows := follows_of_run new run.orderly
  have phase := follows.phase
  rw [outstanding, queue, timers, spent] at phase
  refine ⟨phase.idle_of_nil, fun running => ?_⟩
  obtain ⟨pending, quiet⟩ := follows.informed.wakeful.idle phase.idle_of_nil running
  have rest : AtRest history e := ⟨queue, timers, spent, running⟩
  exact ⟨pending, quiet, rest.contents follows run.announced⟩

end

end Engine

end Cadence
