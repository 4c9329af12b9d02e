import Cadence.Proofs.Engine.Outline

/-!
# The capacity of a buffer

How many values a buffer keeps has no bearing on when its consumer is notified.  Two runs of the same
steps that differ in the capacities of their buffers have the same outline, and the events of the
run with the smaller buffer hold the last values of the events of the other.
-/

set_option autoImplicit false

namespace Cadence

theorem rtake_rtake {α : Type} {capacity capacity' : Nat} (le : capacity ≤ capacity') (l : List α) :
    (l.rtake capacity').rtake capacity = l.rtake capacity := by
  rw [List.rtake_eq_reverse_take_reverse, List.rtake_eq_reverse_take_reverse,
    List.rtake_eq_reverse_take_reverse, List.reverse_reverse, List.take_take,
    Nat.min_eq_left le]

def Event.narrow {α : Type} (capacity : Nat) (event : Event α) : Event α :=
  { event with values := event.values.rtake capacity }

theorem Event.narrow_exact {α : Type} {capacity : Nat} (positive : 0 < capacity)
    (event : Event α) :
    (event.narrow capacity).values <:+ event.values ∧
      (event.narrow capacity).values.length = min capacity event.values.length ∧
      (event.narrow capacity).latest? = event.latest? := by
  refine ⟨List.drop_suffix _ _, ?_, ?_⟩
  · simp only [narrow, List.rtake, List.length_drop]
    omega
  · simp only [latest?, narrow, List.rtake_eq_reverse_take_reverse]
    rw [List.getLast?_reverse, List.head?_take, if_neg (Nat.ne_of_gt positive), List.head?_reverse]

theorem Event.narrow_classify {α : Type} {capacity : Nat} (positive : 0 < capacity) (cycle : Nat)
    (snapshot : Snapshot) (values : List α) :
    (classify cycle snapshot values).narrow capacity =
      classify cycle snapshot (values.rtake capacity) := by
  have filled : (values.rtake capacity).isEmpty = values.isEmpty := by
    rw [Bool.eq_iff_iff, List.isEmpty_iff, List.isEmpty_iff, List.rtake, List.drop_eq_nil_iff]
    constructor
    · intro covers
      exact List.length_eq_zero_iff.mp (by omega)
    · rintro rfl
      exact Nat.zero_le _
  simp only [classify, narrow, filled]

namespace Engine

variable {α : Type}

/-! ## Two engines -/

/-- Two buffers that are written and read alike, of which the first keeps less. -/
structure Narrower (capacity capacity' : Nat) (b b' : Buffer α) : Prop where
  positive : 0 < capacity
  le : capacity ≤ capacity'
  bounded : b.capacity? = some capacity
  bounded' : b'.capacity? = some capacity'
  fits : b'.contents.length ≤ capacity'
  contents : b.contents = b'.contents.rtake capacity

/-- Two engines that differ in nothing but how much their buffers keep. -/
structure Alike (capacity capacity' : Nat) (e e' : Engine α) : Prop where
  outline : e.outline = e'.outline
  buffers : Narrower capacity capacity' e.decoupler.buffer e'.decoupler.buffer

section

variable {capacity capacity' : Nat} {b b' : Buffer α} {e e' : Engine α}

theorem Narrower.write (h : Narrower capacity capacity' b b') (value : Option α) :
    Narrower capacity capacity' (b.write value).1 (b'.write value).1 := by
  have positive' : 0 < capacity' := Nat.lt_of_lt_of_le h.positive h.le
  have wider := Buffer.contents_write h.bounded' positive' h.fits value
  have narrower := Buffer.contents_write_of_history h.bounded h.positive h.contents value
  refine ⟨h.positive, h.le, (b.capacity_write value).trans h.bounded,
    (b'.capacity_write value).trans h.bounded', ?_, ?_⟩
  · rw [wider]
    exact Buffer.length_rtake_le _ _
  · rw [wider, rtake_rtake h.le]
    exact narrower

theorem Narrower.read (h : Narrower capacity capacity' b b') :
    Narrower capacity capacity' b.read.1 b'.read.1 := by
  refine ⟨h.positive, h.le, b.capacity_read.trans h.bounded, b'.capacity_read.trans h.bounded',
    ?_, ?_⟩
  · rw [Buffer.contents_read h.bounded']
    exact Nat.zero_le _
  · rw [Buffer.contents_read h.bounded', Buffer.contents_read h.bounded, List.rtake_nil]

theorem Steady.alike {op : Engine α → Engine α} (steady : Steady op)
    (h : Alike capacity capacity' e e') : Alike capacity capacity' (op e) (op e') := by
  refine ⟨?_, ?_⟩
  · rw [steady.outline, steady.outline, h.outline]
  · rw [steady.buffer, steady.buffer]
    exact h.buffers

theorem Alike.sees {β : Type} (h : Alike capacity capacity' e e') (look : Engine α → β)
    (same : ∀ e, look e.outline = look e) : look e = look e' := by
  rw [← same e, ← same e', h.outline]

theorem alike_store (h : Alike capacity capacity' e e') (value : Option α) :
    Alike capacity capacity' (e.store value).1 (e'.store value).1 ∧
      (e.store value).2 = (e'.store value).2 := by
  have unseen : ∀ e : Engine α, (e.store value).1.outline = e.outline := by
    intro e
    simp only [store, note, Engine.outline, Decoupler.store, List.filterMap_append,
      Writing.outline_notices, List.append_nil]
  refine ⟨⟨?_, h.buffers.write value⟩, ?_⟩
  · rw [unseen, unseen, h.outline]
  · have accepted : (e.store value).2 = value.isSome :=
      Buffer.accepted_write h.buffers.bounded value
    have accepted' : (e'.store value).2 = value.isSome :=
      Buffer.accepted_write h.buffers.bounded' value
    rw [accepted, accepted']

theorem alike_post (h : Alike capacity capacity' e e') (value : Option α) :
    Alike capacity capacity'
      (if (e.store value).2 then (e.store value).1.signal .value else (e.store value).1)
      (if (e'.store value).2 then (e'.store value).1.signal .value else (e'.store value).1) := by
  obtain ⟨stored, accepted⟩ := alike_store h value
  rw [← accepted]
  split
  · exact (steady_signal .value).alike stored
  · exact stored

theorem alike_write (h : Alike capacity capacity' e e') (value : Option α) :
    Alike capacity capacity' (e.write value).1 (e'.write value).1 ∧
      (e.write value).2 = (e'.write value).2 := by
  have same := h.sees isClosed fun _ => rfl
  cases isClosed : e.isClosed with
  | true =>
      rw [isClosed] at same
      have told := steady_note (fun _ : Engine α => [.writeAfterClose]) (fun _ => rfl) fun _ => rfl
      simp only [write, isClosed, ← same, if_true]
      exact ⟨told.alike h, trivial⟩
  | false =>
      rw [isClosed] at same
      obtain ⟨stored, accepted⟩ := alike_store h value
      simp only [write, isClosed, ← same, Bool.false_eq_true, if_false, ← accepted]
      split
      · exact ⟨(steady_signal .value).alike stored, rfl⟩
      · exact ⟨stored, rfl⟩

theorem alike_collect (h : Alike capacity capacity' e e') :
    Alike capacity capacity' e.collect.1 e'.collect.1 ∧ e.collect.2 = e'.collect.2 := by
  have same := h.sees isClosed fun _ => rfl
  cases isClosed : e.isClosed with
  | true =>
      rw [isClosed] at same
      simp only [collect, isClosed, ← same, if_true]
      exact ⟨h, trivial⟩
  | false =>
      rw [isClosed] at same
      cases source : e.source with
      | none =>
          have source' : e'.source = none := (h.sees Engine.source fun _ => rfl).symm.trans source
          have told := steady_note (fun _ : Engine α => [.collectWithoutFunction]) (fun _ => rfl)
            fun _ => rfl
          simp only [collect, isClosed, ← same, source, source', Bool.false_eq_true, if_false]
          exact ⟨told.alike h, trivial⟩
      | some f =>
          have source' : e'.source = some f := (h.sees Engine.source fun _ => rfl).symm.trans source
          cases called : f.call with
          | mk left answer =>
              have turns : Steady fun e : Engine α => { e with source := some left } :=
                ⟨fun _ => rfl, fun _ => rfl⟩
              cases answer with
              | value value =>
                  obtain ⟨stored, accepted⟩ := alike_store h value
                  rw [collect_of_value isClosed source called,
                    collect_of_value same.symm source' called, ← accepted]
                  split
                  · exact ⟨(steady_signal .value).alike (turns.alike stored), rfl⟩
                  · exact ⟨turns.alike stored, rfl⟩
              | fault cause =>
                  have told := steady_note (fun _ : Engine α => [.readFunctionFailed cause])
                    (fun _ => rfl) fun _ => rfl
                  rw [collect_of_fault isClosed source called,
                    collect_of_fault same.symm source' called]
                  exact ⟨(steady_signal (.readException cause)).alike (told.alike (turns.alike h)),
                    rfl⟩
              | panic cause =>
                  have silent := steady_note (fun _ : Engine α => []) (fun _ => rfl) fun _ => rfl
                  rw [collect_of_panic isClosed source called,
                    collect_of_panic same.symm source' called]
                  exact ⟨silent.alike (turns.alike h), rfl⟩

theorem alike_ready (h : Alike capacity capacity' e e') (cycle : Nat) :
    Alike capacity capacity' (e.ready cycle).1 (e'.ready cycle).1 ∧
      (e.ready cycle).2 = (e'.ready cycle).2 := by
  exact ⟨(steady_ready cycle).alike h, h.sees (fun e => (e.ready cycle).2) fun e =>
    ready_outline e cycle⟩

theorem alike_act (h : Alike capacity capacity' e e') (action : Action α) :
    Alike capacity capacity' (e.act action).1 (e'.act action).1 ∧
      (e.act action).2 = (e'.act action).2 := by
  cases action with
  | write value =>
      obtain ⟨written, answer⟩ := alike_write h value
      exact ⟨written, congrArg (fun taken => Except.ok (Answer.flag taken)) answer⟩
  | post value =>
      obtain ⟨_, answer⟩ := alike_store h value
      exact ⟨alike_post h value, congrArg (fun taken => Except.ok (Answer.flag taken)) answer⟩
  | store value =>
      obtain ⟨stored, answer⟩ := alike_store h value
      exact ⟨stored, congrArg (fun taken => Except.ok (Answer.flag taken)) answer⟩
  | collect =>
      obtain ⟨collected, answer⟩ := alike_collect h
      exact ⟨collected, congrArg (Except.map Answer.collected) answer⟩
  | signal s => exact ⟨(steady_signal s).alike h, rfl⟩
  | askClosed => exact ⟨h, h.sees (fun e => Except.ok (Answer.flag e.isClosed)) fun _ => rfl⟩
  | feed value =>
      have feeds : Steady fun e : Engine α => e.feed value := ⟨fun _ => rfl, fun _ => rfl⟩
      exact ⟨feeds.alike h, rfl⟩
  | spend cycle =>
      obtain ⟨ended, verdict⟩ := alike_ready h cycle
      exact ⟨ended, congrArg (fun result => Except.ok (Answer.verdict result)) verdict⟩
  | ready cycle =>
      obtain ⟨ended, verdict⟩ := alike_ready h cycle
      simp only [act, ← h.sees Engine.held fun _ => rfl]
      split
      · exact ⟨ended, congrArg (fun result => Except.ok (Answer.verdict result)) verdict⟩
      · exact ⟨h, rfl⟩
  | pause => exact ⟨steady_pause.alike h, rfl⟩
  | resume => exact ⟨steady_resume.alike h, rfl⟩
  | close => exact ⟨steady_shut.alike h, rfl⟩
  | drop => exact ⟨steady_drop.alike h, rfl⟩

end

/-! ## Tasks -/

section

variable {capacity capacity' : Nat} {e e' : Engine α}

theorem alike_start (h : Alike capacity capacity' e e') (cycle : Nat) :
    Alike capacity capacity' (e.startTask cycle).1 (e'.startTask cycle).1 ∧
      (e.startTask cycle).2 = (e'.startTask cycle).2 :=
  ⟨(steady_start cycle).alike h, h.sees (fun e => (e.startTask cycle).2) fun e =>
    start_outline e cycle⟩

theorem alike_read (h : Alike capacity capacity' e e') :
    Alike capacity capacity' e.readTask.1 e'.readTask.1 ∧
      e.readTask.2 = e'.readTask.2.rtake capacity := by
  have unseen : ∀ e : Engine α, e.readTask.1.outline = e.outline := by
    intro e
    simp only [readTask, note, Engine.outline, List.filterMap_append, Buffer.outline_readNotices,
      List.append_nil]
  refine ⟨⟨?_, h.buffers.read⟩, h.buffers.contents⟩
  rw [unseen, unseen, h.outline]

theorem alike_conclude (h : Alike capacity capacity' e e') (cycle : Nat) (snapshot : Snapshot)
    (values : List α) :
    let concluded := e.concludeTask cycle snapshot (values.rtake capacity)
    let concluded' := e'.concludeTask cycle snapshot values
    Alike capacity capacity' concluded.1 concluded'.1 ∧
      concluded.2 = concluded'.2.map (Event.narrow capacity) := by
  -- no batch is cut to nothing, so both events are of the same kinds, or both have none
  have positive := h.buffers.positive
  have marked := h.sees (fun e => (e.decoupler.pacer.markDispatched cycle).2) fun _ => rfl
  have kinds : (Event.classify cycle snapshot (values.rtake capacity)).kinds =
      (Event.classify cycle snapshot values).kinds := by
    rw [← Event.narrow_classify positive]
    rfl
  simp only [concludeTask_eq, kinds, ← marked]
  split
  · exact ⟨(steady_endCycle cycle).alike h, rfl⟩
  · split
    · refine ⟨⟨?_, h.buffers⟩, ?_⟩
      · rw [handOver_outline, handOver_outline, h.outline]
      · rw [Option.map_some, Event.narrow_classify positive]
    · exact ⟨steady_returned.alike h, rfl⟩

end

/-! ## Two scenes -/

def CycleTask.narrow (capacity : Nat) (task : CycleTask α) : CycleTask α :=
  { task with batch := task.batch.map fun values => values.rtake capacity }

def Turn.narrow (capacity : Nat) : Turn α → Turn α
  | delivered event => delivered (event.narrow capacity)
  | readied cycle => readied cycle

namespace Scene

def answer? (s : Scene α) : Step α → Option (Except Panic Answer)
  | .move (.call action) => some (s.engine.act action).2
  | _ => none

def answers (s : Scene α) : List (Step α) → List (Except Panic Answer)
  | [] => []
  | step :: rest => (s.answer? step).toList ++ (s.step step).1.answers rest

/-- Two scenes that differ in nothing but how many values there are. -/
structure Alike (capacity capacity' : Nat) (s s' : Scene α) : Prop where
  engine : Engine.Alike capacity capacity' s.engine s'.engine
  tasks : s.tasks = s'.tasks.map (CycleTask.narrow capacity)

section

variable {capacity capacity' : Nat} {e e' : Engine α} {s s' : Scene α}

theorem alike_stage (h : Alike capacity capacity' s s') {step : Step α}
    (stage : step.isStage = true) :
    Alike capacity capacity' (s.step step).1 (s'.step step).1 ∧
      (s.step step).2.toList = (s'.step step).2.toList.map (Turn.narrow capacity) := by
  cases step with
  | move m => cases stage
  | start =>
      have same := h.engine.sees queue fun _ => rfl
      cases queued : s'.engine.queue with
      | nil =>
          simp only [step, same.trans queued, queued]
          exact ⟨h, rfl⟩
      | cons cycle rest =>
          have takes : Steady fun e : Engine α => { e with queue := rest } :=
            ⟨fun _ => rfl, fun _ => rfl⟩
          obtain ⟨started, task⟩ := alike_start (takes.alike h.engine) cycle
          have fresh : ({ s'.engine with queue := rest }.startTask cycle).2.map
              (CycleTask.narrow capacity) = ({ s'.engine with queue := rest }.startTask cycle).2 := by
            rw [startTask_eq_opened]
            split
            · rw [Option.map_map]
              rfl
            · rfl
          simp only [step, same.trans queued, queued]
          refine ⟨⟨started, ?_⟩, rfl⟩
          rw [List.map_append, ← Option.toList_map, fresh, ← h.tasks, task]
  | proceed index =>
      have found : s.tasks[index]? = s'.tasks[index]?.map (CycleTask.narrow capacity) := by
        rw [h.tasks, List.getElem?_map]
      cases found' : s'.tasks[index]? with
      | none =>
          rw [found', Option.map_none] at found
          simp only [step, found, found']
          exact ⟨h, rfl⟩
      | some task =>
          rw [found', Option.map_some] at found
          cases batch : task.batch with
          | none =>
              obtain ⟨read, values⟩ := alike_read h.engine
              have unread : (task.narrow capacity).batch = none := by
                rw [CycleTask.narrow, batch, Option.map_none]
              simp only [step, found, found', unread, batch]
              refine ⟨⟨read, ?_⟩, rfl⟩
              rw [values, h.tasks, List.map_set]
              rfl
          | some values =>
              obtain ⟨concluded, event⟩ := alike_conclude h.engine task.cycle task.snapshot values
              have read : (task.narrow capacity).batch = some (values.rtake capacity) := by
                rw [CycleTask.narrow, batch, Option.map_some]
              simp only [step, found, found', read, batch]
              refine ⟨⟨concluded, ?_⟩, ?_⟩
              · rw [h.tasks, List.eraseIdx_map]
              · rw [show (s.engine.concludeTask (task.narrow capacity).cycle
                  (task.narrow capacity).snapshot (values.rtake capacity)).2 = _ from event]
                cases (s'.engine.concludeTask task.cycle task.snapshot values).2 <;> rfl

theorem alike_readied (h : Engine.Alike capacity capacity' e e') (cycle : Nat) :
    e.readied? cycle = (e'.readied? cycle).map (Turn.narrow capacity) := by
  have same := h.sees (fun e => e.readied? cycle) fun e => by
    simp only [readied?, ready_outline]
    rfl
  rw [same, readied?]
  split <;> rfl

theorem alike_move (h : Engine.Alike capacity capacity' e e') {m : Move α} (other : m ≠ .run) :
    Engine.Alike capacity capacity' (e.move m).1 (e'.move m).1 ∧
      e.turn? m = (e'.turn? m).map (Turn.narrow capacity) := by
  cases m with
  | call action =>
      obtain ⟨acted, _⟩ := alike_act h action
      refine ⟨acted, ?_⟩
      cases action with
      | spend cycle => exact alike_readied h cycle
      | ready cycle =>
          simp only [turn?, h.sees Engine.held fun _ => rfl]
          split
          · exact alike_readied h cycle
          · rfl
      | _ => rfl
  | run => exact absurd rfl other
  | returned => exact ⟨steady_returned.alike h, rfl⟩
  | fire index => exact ⟨(steady_fire index).alike h, rfl⟩
  | cancel => exact ⟨steady_cancel.alike h, rfl⟩
  | refuse refusal =>
      have refuses : Steady fun e : Engine α => e.setRefusal refusal :=
        ⟨fun _ => rfl, fun _ => rfl⟩
      exact ⟨refuses.alike h, rfl⟩
  | elapse nanos =>
      have elapses : Steady fun e : Engine α => e.elapse nanos := ⟨fun _ => rfl, fun _ => rfl⟩
      exact ⟨elapses.alike h, rfl⟩

/-- Stages keep two scenes alike, one after the other. -/
theorem alike_stages {steps : List (Step α)} (stages : ∀ step ∈ steps, step.isStage = true)
    (h : Alike capacity capacity' s s') :
    Alike capacity capacity' (s.after steps) (s'.after steps) ∧
      s.turns steps = (s'.turns steps).map (Turn.narrow capacity) := by
  induction steps generalizing s s' with
  | nil => exact ⟨h, rfl⟩
  | cons step rest ih =>
      obtain ⟨first, turn⟩ := alike_stage h (stages step List.mem_cons_self)
      obtain ⟨later, turns⟩ := ih (fun later member =>
        stages later (List.mem_cons_of_mem step member)) first
      refine ⟨later, ?_⟩
      rw [Scene.turns, turn, turns, ← List.map_append]
      rfl

theorem alike_step (h : Alike capacity capacity' s s') (step : Step α) :
    Alike capacity capacity' (s.step step).1 (s'.step step).1 ∧
      (s.step step).2.toList = (s'.step step).2.toList.map (Turn.narrow capacity) ∧
      s.answer? step = s'.answer? step := by
  cases step with
  | start =>
      have stage : (Step.start : Step α).isStage = true := rfl
      obtain ⟨later, turn⟩ := alike_stage h stage
      exact ⟨later, turn, rfl⟩
  | proceed index =>
      have stage : (Step.proceed index : Step α).isStage = true := rfl
      obtain ⟨later, turn⟩ := alike_stage h stage
      exact ⟨later, turn, rfl⟩
  | move m =>
      have count : s.tasks.length = s'.tasks.length := by rw [h.tasks, List.length_map]
      by_cases runs : m = .run
      · -- the tasks are alike, so both scenes take the oldest one through the same stages
        have same : s.stages = s'.stages := by rw [Scene.stages, Scene.stages, count]
        obtain ⟨whole, told⟩ := s.step_run
        obtain ⟨whole', told'⟩ := s'.step_run
        subst runs
        rw [whole, whole', told, told', ← same]
        obtain ⟨later, turns⟩ := alike_stages s.isStage_of_mem_stages h
        exact ⟨later, turns, rfl⟩
      · obtain ⟨moved, turn⟩ := alike_move h.engine runs
        have permitted : s.permits m = s'.permits m := by
          have calls := h.engine.sees running fun _ => rfl
          cases m <;> simp only [permits, count, calls]
        have answers : s.answer? (.move m) = s'.answer? (.move m) := by
          cases m with
          | call action => exact congrArg some (alike_act h.engine action).2
          | _ => rfl
        simp only [step, permitted]
        split
        · refine ⟨⟨moved, h.tasks⟩, ?_, answers⟩
          rw [turn]
          cases s'.engine.turn? m <;> rfl
        · exact ⟨h, rfl, answers⟩

theorem alike_after (h : Alike capacity capacity' s s') (steps : List (Step α)) :
    Alike capacity capacity' (s.after steps) (s'.after steps) ∧
      s.turns steps = (s'.turns steps).map (Turn.narrow capacity) ∧
      s.answers steps = s'.answers steps := by
  induction steps generalizing s s' with
  | nil => exact ⟨h, rfl, rfl⟩
  | cons step rest ih =>
      obtain ⟨first, turn, answer⟩ := alike_step h step
      obtain ⟨later, turns, answers⟩ := ih first
      refine ⟨later, ?_, ?_⟩
      · rw [Scene.turns, turn, turns, ← List.map_append]
        rfl
      · rw [Scene.answers, answer, answers]
        rfl

end

theorem alike_new {capacity capacity' : Nat} {b b' : Buffer α} (new : b.New capacity)
    (new' : b'.New capacity') (le : capacity ≤ capacity') (subject : String)
    (minPeriod : Option Nat) (source : Option (ReadFunction α)) (hasRuntime closesOnDrop : Bool) :
    Alike capacity capacity' (.new subject b minPeriod source hasRuntime closesOnDrop)
      (.new subject b' minPeriod source hasRuntime closesOnDrop) := by
  have buffers : Narrower capacity capacity' b b' := by
    refine ⟨new.positive, le, new.bounded, new'.bounded, ?_, ?_⟩
    · rw [new'.empty]
      exact Nat.zero_le _
    · rw [new.empty, new'.empty, List.rtake_nil]
  exact ⟨⟨rfl, buffers⟩, rfl⟩

end Scene

/-- Two decouplers that differ only in how many values their buffers keep answer every call alike,
schedule the same cycles with the same delays, and have their consumers' turns in the same order.
Their events differ in nothing but the batch: the smaller buffer has kept the last values of the
larger one, and the latest value is the same. -/
theorem notified_alike {capacity capacity' : Nat} {b b' : Buffer α} (new : b.New capacity)
    (new' : b'.New capacity') (le : capacity ≤ capacity') (subject : String)
    (minPeriod : Option Nat) (source : Option (ReadFunction α)) (hasRuntime closesOnDrop : Bool)
    (steps : List (Scene.Step α)) :
    let start := Scene.new subject b minPeriod source hasRuntime closesOnDrop
    let start' := Scene.new subject b' minPeriod source hasRuntime closesOnDrop
    start.answers steps = start'.answers steps ∧
      (start.after steps).engine.outline = (start'.after steps).engine.outline ∧
      start.turns steps = (start'.turns steps).map (Turn.narrow capacity) ∧
      ∀ event : Event α, (event.narrow capacity).values <:+ event.values ∧
        (event.narrow capacity).values.length = min capacity event.values.length ∧
        (event.narrow capacity).latest? = event.latest? := by
  intro start start'
  obtain ⟨later, turns, answers⟩ := Scene.alike_after
    (Scene.alike_new new new' le subject minPeriod source hasRuntime closesOnDrop) steps
  exact ⟨answers, later.engine.outline, turns, fun event => event.narrow_exact new.positive⟩

/-- Four values are written while the first event is with its consumer: a slot keeps the last one, a
queue of three the last three.  The rate cap defers the second cycle of both. -/
theorem deferred_overflow_notified_alike :
    let slot : Buffer Nat := .latest .empty
    let queue : Buffer Nat := .queue (.ofCapacity 3)
    let steps : List (Scene.Step Nat) :=
      [.move (.call (.write (some 1))), .start, .proceed 0, .proceed 0,
        .move (.call (.write (some 2))), .move (.call (.write (some 3))),
        .move (.call (.write (some 4))), .move (.call (.write (some 5))),
        .move (.call (.spend 1)), .move (.fire 0), .move .run, .move (.call (.spend 2))]
    let batch? : Turn Nat → Option (List Nat)
      | .delivered event => some event.values
      | .readied _ => none
    let start := Scene.new "gauge" slot (some 10) none true true
    let start' := Scene.new "gauge" queue (some 10) none true true
    slot.New 1 ∧ queue.New 3 ∧
      (start.turns steps).filterMap batch? = [[1], [5]] ∧
      (start'.turns steps).filterMap batch? = [[1], [3, 4, 5]] ∧
      start.turns steps = (start'.turns steps).map (Turn.narrow 1) := by
  intro slot queue steps batch? start start'
  have new : slot.New 1 := Buffer.new_latest
  have new' : queue.New 3 := Buffer.new_queue 3
  exact ⟨new, new', by decide, by decide,
    (notified_alike new new' (by decide) "gauge" (some 10) none true true steps).2.2.1⟩

end Engine

end Cadence
