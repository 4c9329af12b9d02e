import Cadence.Proofs.Engine.Stages

/-!
# Scenes

A scene is an engine with the tasks that are under way, and anything may happen between two stages
of a task.  Running a task at once is running its stages (`step_run`), so that the runs of an engine
are among those of a scene, and what is kept by stages and calls is kept by all (`Kept.after`).

The turns of a scene are what its consumer sees: an event comes, and is given back.
-/

set_option autoImplicit false

namespace Cadence.Engine

variable {α : Type}

/-! ## Whose turn it is -/

/-- An event changes hands, or its consumer is done with it. -/
inductive Turn (α : Type)
  | delivered (event : Event α)
  | readied (cycle : Nat)

namespace Turn

def delivered? : Turn α → Option Nat
  | delivered event => some event.cycle
  | readied _ => none

def readied? : Turn α → Option Nat
  | delivered _ => none
  | readied cycle => some cycle

/-- The cycle whose event the consumer holds after a turn, if that is its turn: an event comes when
none is held, and the one that is held goes. -/
def pass : Option Nat → Turn α → Option (Option Nat)
  | none, delivered event => some (some event.cycle)
  | some cycle, readied done => if done = cycle then some none else none
  | _, _ => none

def holder? (turns : List (Turn α)) : Option (Option Nat) := turns.foldlM pass none

def deliveries (turns : List (Turn α)) : List Nat := turns.filterMap delivered?

def ends (turns : List (Turn α)) : List Nat := turns.filterMap readied?

theorem deliveries_concat (turns : List (Turn α)) (turn : Turn α) :
    deliveries (turns ++ [turn]) = deliveries turns ++ turn.delivered?.toList :=
  filterMap_concat delivered? turns turn

theorem ends_concat (turns : List (Turn α)) (turn : Turn α) :
    ends (turns ++ [turn]) = ends turns ++ turn.readied?.toList :=
  filterMap_concat readied? turns turn

theorem holder_concat {turns : List (Turn α)} {held : Option Nat} (passed : holder? turns = some held)
    (turn : Turn α) : holder? (turns ++ [turn]) = pass held turn := by
  rw [holder?, List.foldlM_append, ← holder?, passed]
  exact bind_pure (pass held turn)

/-- In turn, everything delivered has been given back but for the event that is held. -/
theorem deliveries_eq_ends (turns : List (Turn α)) {held : Option Nat}
    (passed : holder? turns = some held) : deliveries turns = ends turns ++ held.toList := by
  induction turns using List.reverseRecOn generalizing held with
  | nil =>
      obtain rfl : none = held := Option.some.inj passed
      rfl
  | append_singleton turns turn ih =>
      rw [holder?, List.foldlM_append, ← holder?] at passed
      cases before : holder? turns with
      | none =>
          rw [before] at passed
          cases passed
      | some earlier =>
          rw [before] at passed
          have now : pass earlier turn = some held := (bind_pure (pass earlier turn)).symm.trans passed
          rw [deliveries_concat, ends_concat, ih before]
          cases earlier with
          | none =>
              cases turn with
              | delivered event =>
                  obtain rfl : some event.cycle = held := Option.some.inj now
                  simp [delivered?, readied?]
              | readied done => cases now
          | some cycle =>
              cases turn with
              | delivered event => cases now
              | readied done =>
                  by_cases same : done = cycle
                  · rw [pass, if_pos same] at now
                    obtain rfl : none = held := Option.some.inj now
                    simp [delivered?, readied?, same]
                  · rw [pass, if_neg same] at now
                    cases now

end Turn

/-- A readiness call that succeeds is a turn.  Of a decoupler that is gone every call succeeds, and
none means anything. -/
def readied? (e : Engine α) (cycle : Nat) : Option (Turn α) :=
  if e.isAlive && (e.ready cycle).2.isOk then some (.readied cycle) else none

def turn? (e : Engine α) : Move α → Option (Turn α)
  | .run => e.runNext.2.join.map .delivered
  | .call (.spend cycle) => e.readied? cycle
  | .call (.ready cycle) => if e.held then e.readied? cycle else none
  | _ => none

/-! ## Scenes -/

structure Scene (α : Type) where
  engine : Engine α
  tasks : List (CycleTask α)

namespace Scene

inductive Step (α : Type)
  | move (m : Move α)
  | start
  /-- The task at a position goes on to its next stage. -/
  | proceed (index : Nat)

def Step.isStage : Step α → Bool
  | move _ => false
  | start => true
  | proceed _ => true

def permits (s : Scene α) : Move α → Bool
  | .returned => decide (s.tasks.length < s.engine.running)
  | _ => true

def step (s : Scene α) : Step α → Scene α × Option (Turn α)
  | .move m =>
      if s.permits m then (⟨(s.engine.move m).1, s.tasks⟩, s.engine.turn? m) else (s, none)
  | .start =>
      match s.engine.queue with
      | [] => (s, none)
      | cycle :: rest =>
          let r := { s.engine with queue := rest }.startTask cycle
          (⟨r.1, s.tasks ++ r.2.toList⟩, none)
  | .proceed index =>
      match s.tasks[index]? with
      | none => (s, none)
      | some task =>
          match task.batch with
          | none =>
              let r := s.engine.readTask
              (⟨r.1, s.tasks.set index { task with batch := some r.2 }⟩, none)
          | some values =>
              let r := s.engine.concludeTask task.cycle task.snapshot values
              (⟨r.1, s.tasks.eraseIdx index⟩, r.2.map .delivered)

def after (s : Scene α) : List (Step α) → Scene α
  | [] => s
  | step :: rest => (s.step step).1.after rest

def turns (s : Scene α) : List (Step α) → List (Turn α)
  | [] => []
  | step :: rest => (s.step step).2.toList ++ (s.step step).1.turns rest

def begun (s : Scene α) : List Nat := s.tasks.map CycleTask.cycle

theorem begun_set {s : Scene α} {index : Nat} {task : CycleTask α}
    (found : s.tasks[index]? = some task) (batch : Option (List α)) :
    (s.tasks.set index { task with batch := batch }).map CycleTask.cycle = s.begun := by
  have there : s.begun[index]? = some task.cycle := by
    rw [begun, List.getElem?_map, found]
    rfl
  obtain ⟨inside, is⟩ := List.getElem?_eq_some_iff.mp there
  calc (s.tasks.set index { task with batch := batch }).map CycleTask.cycle
    _ = s.begun.set index task.cycle := List.map_set
    _ = s.begun.set index s.begun[index] := by rw [is]
    _ = s.begun := List.set_getElem_self inside

/-- What a stage does: a task starts, reads or ends, unless there is none to do so. -/
theorem stage_cases (s : Scene α) {step : Step α} (stage : step.isStage = true) :
    s.step step = (s, none) ∨
    (∃ cycle rest, s.engine.queue = cycle :: rest ∧
      s.step step =
        (⟨({ s.engine with queue := rest }.startTask cycle).1,
          s.tasks ++ ({ s.engine with queue := rest }.startTask cycle).2.toList⟩, none)) ∨
    (∃ index task, s.tasks[index]? = some task ∧ task.batch = none ∧
      s.step step =
        (⟨s.engine.readTask.1,
          s.tasks.set index { task with batch := some s.engine.readTask.2 }⟩, none)) ∨
    (∃ index task values, s.tasks[index]? = some task ∧ task.batch = some values ∧
      s.step step =
        (⟨(s.engine.concludeTask task.cycle task.snapshot values).1, s.tasks.eraseIdx index⟩,
          (s.engine.concludeTask task.cycle task.snapshot values).2.map .delivered)) := by
  cases step with
  | move m => cases stage
  | start =>
      cases queue : s.engine.queue with
      | nil => exact .inl (by simp only [Scene.step, queue])
      | cons cycle rest => exact .inr (.inl ⟨cycle, rest, rfl, by simp only [Scene.step, queue]⟩)
  | proceed index =>
      cases found : s.tasks[index]? with
      | none => exact .inl (by simp only [Scene.step, found])
      | some task =>
          cases batch : task.batch with
          | none =>
              exact .inr (.inr (.inl ⟨index, task, found, batch, by
                simp only [Scene.step, found, batch]⟩))
          | some values =>
              exact .inr (.inr (.inr ⟨index, task, values, found, batch, by
                simp only [Scene.step, found, batch]⟩))

/-- The stages of the oldest task, with nothing in between. -/
def stages (s : Scene α) : List (Step α) :=
  [.start, .proceed s.tasks.length, .proceed s.tasks.length]

theorem isStage_of_mem_stages (s : Scene α) : ∀ step ∈ s.stages, step.isStage = true := by
  simp [stages, Step.isStage]

/-- Running the oldest task is taking it through its stages. -/
theorem step_run (s : Scene α) :
    (s.step (.move .run)).1 = s.after s.stages ∧
      (s.step (.move .run)).2.toList = s.turns s.stages := by
  cases queue : s.engine.queue with
  | nil => simp [stages, after, turns, step, permits, turn?, move, runNext, queue]
  | cons cycle rest =>
      have whole := runTask_eq_stages { s.engine with queue := rest } cycle
      cases started : { s.engine with queue := rest }.startTask cycle with
      | mk e task? =>
          rw [started] at whole
          cases task? with
          | none =>
              simp [stages, after, turns, step, permits, turn?, move, runNext, queue, whole,
                started]
          | some task =>
              have fresh : task.batch = none := by
                rcases startTask_cases { s.engine with queue := rest } cycle with
                  ⟨_, h⟩ | ⟨_, _, h⟩ | ⟨_, _, _, h⟩ | ⟨_, _, _, h⟩
                all_goals
                  have same := (Prod.mk.inj (started.symm.trans h)).2
                  cases same
                rfl
              simp [stages, after, turns, step, permits, turn?, move, runNext, queue, whole,
                started, fresh, List.eraseIdx_append_of_length_le]

theorem stages_induct (P : List (Turn α) → Scene α → Prop)
    (kept : ∀ {turns s step}, Step.isStage step = true → P turns s →
      P (turns ++ (s.step step).2.toList) (s.step step).1)
    {before : List (Turn α)} {s : Scene α} {steps : List (Step α)}
    (stages : ∀ step ∈ steps, step.isStage = true) (holds : P before s) :
    P (before ++ s.turns steps) (s.after steps) := by
  induction steps generalizing before s with
  | nil =>
      rw [turns, List.append_nil]
      exact holds
  | cons step rest ih =>
      have first := kept (stages step List.mem_cons_self) holds
      rw [turns, ← List.append_assoc]
      exact ih (fun later member => stages later (List.mem_cons_of_mem step member)) first

/-- Kept by each stage, and by each move but a run of the oldest task. -/
structure Kept (P : List (Turn α) → Scene α → Prop) : Prop where
  stage : ∀ {turns s step}, Step.isStage step = true → P turns s →
    P (turns ++ (s.step step).2.toList) (s.step step).1
  move : ∀ {turns s m}, m ≠ .run → s.permits m = true → P turns s →
    P (turns ++ (s.engine.turn? m).toList) ⟨(s.engine.move m).1, s.tasks⟩

section

variable {P : List (Turn α) → Scene α → Prop} {before : List (Turn α)} {s : Scene α}

/-- A run of the oldest task needs no argument of its own: its stages make it up. -/
theorem Kept.step (kept : Kept P) (step : Step α) (holds : P before s) :
    P (before ++ (s.step step).2.toList) (s.step step).1 := by
  cases step with
  | start => exact kept.stage rfl holds
  | proceed index => exact kept.stage rfl holds
  | move m =>
      by_cases running : m = .run
      · obtain ⟨same, turns⟩ := s.step_run
        rw [running, same, turns]
        exact stages_induct P kept.stage s.isStage_of_mem_stages holds
      · by_cases permitted : s.permits m = true
        · simp only [Scene.step, if_pos permitted]
          exact kept.move running permitted holds
        · simp only [Scene.step, if_neg permitted, Option.toList_none, List.append_nil]
          exact holds

theorem Kept.after (kept : Kept P) (before : List (Turn α)) (steps : List (Step α))
    (holds : P before s) :
    P (before ++ s.turns steps) (s.after steps) := by
  induction steps generalizing before s with
  | nil =>
      rw [turns, List.append_nil]
      exact holds
  | cons step rest ih =>
      rw [turns, ← List.append_assoc]
      exact ih _ (kept.step step holds)

end

def new (subject : String) (buffer : Buffer α) (minPeriod : Option Nat)
    (source : Option (ReadFunction α)) (hasRuntime closesOnDrop : Bool) : Scene α where
  engine := init subject (.init buffer minPeriod) source hasRuntime closesOnDrop
  tasks := []

end Scene

end Cadence.Engine
