import Cadence.Proofs.Engine.Driving
import Cadence.Proofs.Engine.Inertness
import Cadence.Proofs.Pacer.Wakeup

/-!
# Connections reach the consumer

However often a source connects and disconnects between two events, an event that shows a side
otherwise than the event before it says so by its kind, and once nothing is left to do the last event
shows what was signalled last.
-/

set_option autoImplicit false

namespace Cadence

namespace Side

variable {α : Type}

def shows : Side → Event α → Bool
  | read, event => event.readConnected
  | write, event => event.writeConnected

/-- What the consumer knows of the side after some events.  Sources start out disconnected. -/
def shown (side : Side) (events : List (Event α)) : Bool :=
  (events.getLast?.map side.shows).getD false

/-- Whenever an event shows the side otherwise than the one before it, its kinds say so. -/
def Reported (side : Side) (events : List (Event α)) : Prop :=
  ∀ before event later, events = before ++ event :: later →
    side.shows event ≠ side.shown before → event.kinds.has side.kind = true

theorem reported_concat {side : Side} {events : List (Event α)} {event : Event α}
    (reported : side.Reported events)
    (told : side.shows event ≠ side.shown events → event.kinds.has side.kind = true) :
    side.Reported (events ++ [event]) := by
  intro before other later split
  rcases concat_eq_append_cons split with ⟨rfl, rfl, _⟩ | ⟨rest, _, rfl⟩
  · exact told
  · exact reported before other rest rfl

theorem shows_classify (side : Side) (cycle : Nat) (snapshot : Snapshot) (values : List α) :
    side.shows (.classify cycle snapshot values) = side.connected snapshot := by
  cases side <;> rfl

/-- Connections are never left out of an event. -/
theorem has_classify (side : Side) (cycle : Nat) (snapshot : Snapshot) (values : List α) :
    (Event.classify cycle snapshot values).kinds.has side.kind = snapshot.kinds.has side.kind := by
  simp only [Event.classify]
  split
  · rw [KindSet.has_erase, decide_eq_true side.kind_ne_value, Bool.true_and]
  · rfl

end Side

namespace Engine

variable {α : Type}

def Turn.event? : Turn α → Option (Event α)
  | delivered event => some event
  | readied _ => none

def Turn.events (turns : List (Turn α)) : List (Event α) := turns.filterMap Turn.event?

theorem Turn.events_concat (turns : List (Turn α)) (turn : Turn α) :
    events (turns ++ [turn]) = events turns ++ turn.event?.toList :=
  filterMap_concat event? turns turn

theorem Turn.deliveries_eq (turns : List (Turn α)) :
    deliveries turns = (events turns).map Event.cycle := by
  rw [deliveries, events, List.map_filterMap]
  congr 1
  funext turn
  cases turn <;> rfl

/-- Only a task delivers events. -/
theorem events_of_move {e : Engine α} {m : Move α} (other : m ≠ .run) (turns : List (Turn α)) :
    Turn.events (turns ++ (e.turn? m).toList) = Turn.events turns := by
  have none : Turn.events (e.turn? m).toList = [] := by
    rw [← List.map_eq_nil_iff, ← Turn.deliveries_eq]
    exact deliveries_of_move other
  rw [Turn.events, List.filterMap_append, ← Turn.events, ← Turn.events, none, List.append_nil]

/-! ## What the consumer is about to know -/

/-- What the consumer knows of the side, or will know when the task under way has delivered. -/
def expected (side : Side) (events : List (Event α)) (tasks : List (CycleTask α)) : Bool :=
  (tasks.head?.map fun task => side.connected task.snapshot).getD (side.shown events)

/-- The consumer is told of every change on the side: so far, by the task under way, and by the one
that will take what is pending. -/
structure Reporting (side : Side) (turns : List (Turn α)) (s : Scene α) : Prop where
  coherent : Coherent turns s.begun [] [] s.engine
  reported : side.Reported (Turn.events turns)
  underWay : ∀ task ∈ s.tasks, task.snapshot.kinds.has side.kind = false →
    side.connected task.snapshot = side.shown (Turn.events turns)
  pending : s.engine.decoupler.pacer.closed = false →
    s.engine.decoupler.pacer.pending.has side.kind = false →
      side.connected s.engine.decoupler.pacer.snapshot =
        expected side (Turn.events turns) s.tasks

section

variable {side : Side} {turns turns' : List (Turn α)} {s : Scene α} {e : Engine α}
  {told : List Bool} {cycle : Nat}

/-- No cycle starts, and no event is delivered. -/
theorem Reporting.drive (h : Reporting side turns s) (driven : Driven side told s.engine e)
    (coherent : Coherent turns' s.begun [] [] e)
    (same : Turn.events turns' = Turn.events turns) : Reporting side turns' ⟨e, s.tasks⟩ := by
  obtain ⟨ops, noStart, _, after⟩ := driven
  refine ⟨coherent, ?_, ?_, ?_⟩
  · rw [same]
    exact h.reported
  · rw [same]
    exact h.underWay
  · -- a flag moves only together with its kind, so a side that is quiet now was quiet before
    intro stillOpen quiet
    have wasOpen : s.engine.decoupler.pacer.closed = false := by
      rw [after] at stillOpen
      exact Pacer.open_of_after stillOpen
    rw [after] at stillOpen quiet ⊢
    obtain ⟨wasQuiet, unchanged⟩ := Pacer.connected_of_not_pending noStart stillOpen quiet
    rw [same, unchanged]
    exact h.pending wasOpen wasQuiet

theorem reporting_start (h : Reporting side turns s) {rest : List Nat} {s' : Scene α}
    (started : s' = ⟨({ s.engine with queue := rest }.startTask cycle).1,
      s.tasks ++ ({ s.engine with queue := rest }.startTask cycle).2.toList⟩)
    (coherent : Coherent turns s'.begun [] [] s'.engine) : Reporting side turns s' := by
  subst started
  rcases startTask_cases { s.engine with queue := rest } cycle with
    ⟨_, same⟩ | ⟨_, isClosed, same⟩ | ⟨_, _, _, same⟩ | ⟨_, isOpen, scheduled, same⟩
  · rw [same, Option.toList_none, List.append_nil] at coherent ⊢
    exact h.drive (driven_still rfl) coherent rfl
  · rw [same, Option.toList_none, List.append_nil] at coherent ⊢
    refine ⟨coherent, h.reported, h.underWay, ?_⟩
    intro stillOpen
    exact absurd (isClosed.symm.trans stillOpen) Bool.noConfusion
  · rw [same, Option.toList_none, List.append_nil] at coherent ⊢
    exact h.drive (driven_still rfl) coherent rfl
  · -- the cycle was scheduled, so no task is under way whose event would come first
    have idle : s.tasks = [] := by
      have placed : s.tasks.map CycleTask.cycle = s.engine.decoupler.pacer.phase.begun :=
        h.coherent.inStep.tasks
      rw [show s.engine.decoupler.pacer.phase = .scheduled cycle from scheduled] at placed
      exact List.map_eq_nil_iff.mp placed
    rw [same, idle, Option.toList_some, List.nil_append] at coherent ⊢
    have due := h.pending isOpen
    rw [idle] at due
    refine ⟨coherent, h.reported, ?_, ?_⟩
    · intro task member quiet
      obtain rfl := List.mem_singleton.mp member
      exact due quiet
    · intro _ _
      cases side <;> rfl

/-- What a task has read has no bearing on connections. -/
theorem reporting_read (h : Reporting side turns s) {index : Nat} {task : CycleTask α}
    (found : s.tasks[index]? = some task) {s' : Scene α}
    (read : s' = ⟨s.engine.readTask.1,
      s.tasks.set index { task with batch := some s.engine.readTask.2 }⟩)
    (coherent : Coherent turns s'.begun [] [] s'.engine) : Reporting side turns s' := by
  subst read
  obtain ⟨only, rfl, _, _⟩ := h.coherent.task found
  refine ⟨coherent, h.reported, ?_, ?_⟩
  · intro other member quiet
    rw [only, List.set_cons_zero, List.mem_singleton] at member
    subst member
    exact h.underWay task (by rw [only]; exact List.mem_singleton_self task) quiet
  · intro isOpen quiet
    have due := h.pending isOpen quiet
    rw [only] at due ⊢
    exact due

theorem event_of_conclude (inFlight : e.decoupler.pacer.phase = .inFlight cycle false)
    (snapshot : Snapshot) (values : List α) :
    (e.concludeTask cycle snapshot values).2 =
      if (Event.classify cycle snapshot values).kinds.isEmpty then none
      else some (.classify cycle snapshot values) := by
  have marked : (e.decoupler.pacer.markDispatched cycle).2 = true := by
    simp [Pacer.markDispatched, inFlight]
  simp only [concludeTask_eq, marked, if_true]
  split <;> rfl

/-- The consumer knows of the side what the task has taken, whether or not there is an event. -/
theorem shown_of_conclude (h : Reporting side turns s) {task : CycleTask α}
    (member : task ∈ s.tasks) (inFlight : e.decoupler.pacer.phase = .inFlight task.cycle false)
    (values : List α) :
    let event? := (e.concludeTask task.cycle task.snapshot values).2
    let events := Turn.events (turns ++ (event?.map Turn.delivered).toList)
    side.Reported events ∧ side.shown events = side.connected task.snapshot := by
  have untold := h.underWay task member
  simp only [event_of_conclude inFlight]
  split
  · -- a task that has nothing to deliver has taken nothing new of the side
    rename_i silent
    rw [Option.map_none, Option.toList_none, List.append_nil]
    refine ⟨h.reported, (untold ?_).symm⟩
    rw [← side.has_classify task.cycle task.snapshot values, (KindSet.isEmpty_iff _).mp silent]
    rfl
  · rw [Option.map_some, Option.toList_some, Turn.events_concat, Turn.event?, Option.toList_some]
    refine ⟨Side.reported_concat h.reported ?_, ?_⟩
    · rw [side.shows_classify, side.has_classify]
      intro differs
      by_contra lacks
      exact differs (untold (Bool.eq_false_iff.mpr lacks))
    · rw [Side.shown, List.getLast?_concat, Option.map_some, Option.getD_some, side.shows_classify]

theorem reporting_conclude (h : Reporting side turns s) {index : Nat} {task : CycleTask α}
    (found : s.tasks[index]? = some task) (values : List α) {s' : Scene α}
    (ended : s' = ⟨(s.engine.concludeTask task.cycle task.snapshot values).1,
      s.tasks.eraseIdx index⟩)
    (coherent : Coherent (turns ++ ((s.engine.concludeTask task.cycle task.snapshot values).2.map
      Turn.delivered).toList) s'.begun [] [] s'.engine) :
    Reporting side (turns ++ ((s.engine.concludeTask task.cycle task.snapshot values).2.map
      Turn.delivered).toList) s' := by
  subst ended
  obtain ⟨only, rfl, inFlight, _⟩ := h.coherent.task found
  have member : task ∈ s.tasks := by
    rw [only]
    exact List.mem_singleton_self task
  obtain ⟨reported, shown⟩ := shown_of_conclude h member inFlight values
  have driven : Driven side [] s.engine _ :=
    s.engine.driven_conclude task.cycle task.snapshot values
  obtain ⟨ops, noStart, _, after⟩ := driven
  refine ⟨coherent, reported, ?_, ?_⟩
  · rw [only]
    intro other none
    cases none
  · intro stillOpen quiet
    rw [after] at stillOpen quiet ⊢
    obtain ⟨wasQuiet, unchanged⟩ := Pacer.connected_of_not_pending noStart stillOpen quiet
    have due := h.pending (Pacer.open_of_after stillOpen) wasQuiet
    rw [only] at due ⊢
    rw [unchanged, due]
    exact shown.symm

theorem reporting_kept (side : Side) :
    Scene.Kept fun (turns : List (Turn α)) s => Reporting side turns s where
  stage := by
    intro turns s step stage h
    have coherent := coherent_kept.stage stage h.coherent
    rcases s.stage_cases stage with same | ⟨cycle, rest, _, same⟩ | ⟨index, task, found, _, same⟩ |
      ⟨index, task, values, found, _, same⟩
    · rw [same, Option.toList_none, List.append_nil]
      exact h
    · rw [same, Option.toList_none, List.append_nil] at coherent ⊢
      exact reporting_start h rfl coherent
    · rw [same, Option.toList_none, List.append_nil] at coherent ⊢
      exact reporting_read h found rfl coherent
    · rw [same] at coherent ⊢
      exact reporting_conclude h found values rfl coherent
  move other permitted h :=
    h.drive (driven_move _ other) (coherent_kept.move other permitted h.coherent)
      (events_of_move other _)

end

/-! ## What the pacer is told -/

namespace Scene

def Step.signal? : Step α → Option Signal
  | .move (.call (.signal s)) => some s
  | _ => none

def signals (steps : List (Step α)) : List Signal := steps.filterMap Step.signal?

section

variable {s : Scene α}

theorem calls_of_stage (side : Side) (s : Scene α) {step : Step α} (stage : step.isStage = true) :
    ∃ ops : List Pacer.Operation, ops.filterMap (Pacer.Operation.told? side) = [] ∧
      (s.step step).1.engine.decoupler.pacer = s.engine.decoupler.pacer.after ops := by
  rcases s.stage_cases stage with same | ⟨cycle, rest, _, same⟩ | ⟨index, task, _, _, same⟩ |
    ⟨index, task, values, _, _, same⟩
  · rw [same]
    exact ⟨[], rfl, rfl⟩
  · rw [same]
    exact startTask_started { s.engine with queue := rest } cycle
  · rw [same]
    exact ⟨[], rfl, rfl⟩
  · have driven : Driven side [] s.engine _ :=
      s.engine.driven_conclude task.cycle task.snapshot values
    obtain ⟨ops, _, silent, after⟩ := driven
    rw [same]
    exact ⟨ops, silent, after⟩

theorem calls_of_stages (side : Side) (s : Scene α) {steps : List (Step α)}
    (stages : ∀ step ∈ steps, step.isStage = true) :
    ∃ ops : List Pacer.Operation, ops.filterMap (Pacer.Operation.told? side) = [] ∧
      (s.after steps).engine.decoupler.pacer = s.engine.decoupler.pacer.after ops := by
  induction steps generalizing s with
  | nil => exact ⟨[], rfl, rfl⟩
  | cons step rest ih =>
      obtain ⟨first, silent, after⟩ := s.calls_of_stage side (stages step List.mem_cons_self)
      obtain ⟨further, silent', after'⟩ := ih (s.step step).1 fun later member =>
        stages later (List.mem_cons_of_mem step member)
      refine ⟨first ++ further, ?_, ?_⟩
      · rw [List.filterMap_append, silent, silent']
        rfl
      · rw [Scene.after, after', after, Pacer.after_append]

/-- As long as there is a decoupler, its pacer is told what producers say, and nothing else. -/
theorem calls_of_step (side : Side) (s : Scene α) (alive : s.engine.isAlive = true)
    (step : Step α) :
    ∃ ops : List Pacer.Operation,
      ops.filterMap (Pacer.Operation.told? side) = (step.signal?.bind side.told?).toList ∧
      (s.step step).1.engine.decoupler.pacer = s.engine.decoupler.pacer.after ops := by
  cases step with
  | start => exact s.calls_of_stage side rfl
  | proceed index => exact s.calls_of_stage side rfl
  | move m =>
      by_cases runs : m = .run
      · subst runs
        rw [(s.step_run).1]
        exact s.calls_of_stages side s.isStage_of_mem_stages
      · have said : m.told? side = (Step.signal? (.move m)).bind side.told? := by
          cases m with
          | call action => cases action <;> rfl
          | _ => rfl
        simp only [step]
        split
        · have driven : Driven side _ s.engine (s.engine.move m).1 := s.engine.driven_move runs
          obtain ⟨ops, _, told, after⟩ := driven
          rw [if_pos alive, said] at told
          exact ⟨ops, told, after⟩
        · rename_i refused
          cases m with
          | returned => exact ⟨[], rfl, rfl⟩
          | _ => exact absurd rfl refused

/-- A decoupler that is open at last has been open all along, so its pacer was told everything. -/
theorem calls_of_open (side : Side) {turns : List (Turn α)}
    (h : Coherent turns s.begun [] [] s.engine) {steps : List (Step α)}
    (stillOpen : (s.after steps).engine.isClosed = false) :
    ∃ ops : List Pacer.Operation,
      ops.filterMap (Pacer.Operation.told? side) = (signals steps).filterMap side.told? ∧
      (s.after steps).engine.decoupler.pacer = s.engine.decoupler.pacer.after ops := by
  induction steps generalizing turns s with
  | nil => exact ⟨[], rfl, rfl⟩
  | cons step rest ih =>
      -- a decoupler that is gone would stay closed to the end
      have alive : s.engine.isAlive = true := by
        by_contra gone
        have isClosed := isClosed_of_gone (Bool.eq_false_iff.mpr gone)
        rw [isClosed_after h isClosed (step :: rest)] at stillOpen
        cases stillOpen
      obtain ⟨first, told, after⟩ := s.calls_of_step side alive step
      obtain ⟨further, told', after'⟩ := ih (coherent_kept.step step h) stillOpen
      refine ⟨first ++ further, ?_, ?_⟩
      · rw [List.filterMap_append, told, told', signals, signals]
        cases said : step.signal? with
        | none => rw [List.filterMap_cons_none said]; rfl
        | some s =>
            rw [List.filterMap_cons_some said, Option.bind_some]
            cases flag : side.told? s with
            | none => rw [List.filterMap_cons_none flag]; rfl
            | some connected => rw [List.filterMap_cons_some flag]; rfl
      · rw [Scene.after, after', after, Pacer.after_append]

end

end Scene

theorem idle_of_rest {turns : List (Turn α)} {s : Scene α}
    (h : Coherent turns s.begun [] [] s.engine) (isOpen : s.engine.isClosed = false)
    (nothingDue : s.engine.outstanding = []) (noTask : s.tasks = [])
    (noToken : Turn.holder? turns = some none) : s.engine.decoupler.pacer.phase = .idle := by
  have waits := h.inStep.queued isOpen
  have under : s.begun = s.engine.decoupler.pacer.phase.begun := h.inStep.tasks
  have holds : some none = some s.engine.decoupler.pacer.phase.holder :=
    noToken.symm.trans h.inStep.passed
  rw [nothingDue] at waits
  rw [Scene.begun, noTask] at under
  cases phase : s.engine.decoupler.pacer.phase with
  | idle => rfl
  | scheduled cycle =>
      rw [phase] at waits
      cases waits
  | inFlight cycle dispatched =>
      rw [phase] at under holds
      cases dispatched with
      | false => cases under
      | true => cases holds

end Engine

end Cadence
