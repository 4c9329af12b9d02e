import Cadence.Proofs.Engine.Submissions
import Cadence.Proofs.Executor.Progress

/-!
# A decoupler at its worker

A decoupler that delivers on a worker, which others use too.  The worker is the dispatch of the
engine: the cycles that the engine hands over are tasks in the worker's queue, among those of others,
the engine is answered as the worker answers, and the task of a cycle starts when the thread takes it.

`Linked` is what holds of both at any moment.  A submission that the worker refuses leaves the decoupler
closed, and the cycle is never delivered.
-/

set_option autoImplicit false

namespace Cadence

def Job.ofCycle (cycle : Nat) : Job := .mk cycle none [] false

/-- The cycle of a task, unless it is somebody else's; theirs have negative numbers. -/
def Job.cycle? (job : Job) : Option Nat := job.id.toNat?

structure Workplace (α : Type) where
  worker : Worker
  scene : Engine.Scene α

namespace Workplace

open Engine (Scene Turn)

variable {α : Type}

inductive Step (α : Type)
  | worker (act : Worker.Act)
  | scene (step : Scene.Step α)

/-- Others do not submit the tasks of the decoupler, and those do not end as long as a stage of them
or a call of the listener is under way. -/
def permits (s : Workplace α) : Worker.Act → Bool
  | .submit _ job => job.cycle?.isNone
  | .finish _ =>
      match s.worker.current with
      | some job => job.cycle?.isNone || s.scene.engine.running == 0
      | none => true
  | _ => true

def handed (s : Workplace α) (step : Scene.Step α) : List Nat :=
  let later := (s.scene.step step).1.engine
  later.queue.drop s.scene.engine.queue.length ++
    (Engine.refused later.journal).drop (Engine.refused s.scene.engine.journal).length

def submissions (cycles : List Nat) : List Worker.Act :=
  cycles.map fun cycle => .submit .outside (.ofCycle cycle)

def acts (s : Workplace α) : Step α → List Worker.Act
  | .worker act => if s.permits act then [act] else []
  | .scene step => if step.isOfDispatch then [] else submissions (s.handed step)

def starts : Option Worker.Event → List (Scene.Step α)
  | some (.began job) => if job.cycle?.isSome then [.start] else []
  | _ => []

/-- What the step is for the decoupler, whose dispatch answers as the worker does. -/
def sceneSteps (s : Workplace α) : Step α → List (Scene.Step α)
  | .worker act =>
      if s.permits act then
        let r := s.worker.step act
        .move (.refuse r.1.executor.refusal) :: starts r.2
      else []
  | .scene step => if step.isOfDispatch then [] else [step]

def step (s : Workplace α) (st : Step α) : Workplace α :=
  ⟨s.worker.after (s.acts st), s.scene.after (s.sceneSteps st)⟩

def after (s : Workplace α) : List (Step α) → Workplace α
  | [] => s
  | st :: rest => (s.step st).after rest

def events (s : Workplace α) : List (Step α) → List Worker.Event
  | [] => []
  | st :: rest => s.worker.events (s.acts st) ++ (s.step st).events rest

def turns (s : Workplace α) : List (Step α) → List (Turn α)
  | [] => []
  | st :: rest => s.scene.turns (s.sceneSteps st) ++ (s.step st).turns rest

def opened (name subject : String) (buffer : Buffer α) (minPeriod : Option Nat)
    (source : Option (ReadFunction α)) (hasRuntime closesOnDrop : Bool) : Workplace α where
  worker := .hired name
  scene := .new subject buffer minPeriod source hasRuntime closesOnDrop

/-! ## Submissions of cycles -/

theorem cycle_ofCycle (cycle : Nat) : (Job.ofCycle cycle).cycle? = some cycle := rfl

theorem ofCycle_inj {cycle other : Nat} (same : Job.ofCycle cycle = .ofCycle other) :
    cycle = other :=
  Option.some.inj (congrArg Job.cycle? same)

theorem after_submissions_of_open {w : Worker} (takes : w.executor.refusal = none)
    (cycles : List Nat) :
    w.after (submissions cycles) =
        { w with
          executor := { w.executor with queue := w.executor.queue ++ cycles.map .ofCycle } } ∧
      w.events (submissions cycles) =
        cycles.map fun cycle => .submitted (.ofCycle cycle) (.ok ()) := by
  induction cycles generalizing w with
  | nil =>
      refine ⟨?_, rfl⟩
      rw [List.map_nil, List.append_nil]
      rfl
  | cons cycle rest ih =>
      have stepped : w.step (.submit .outside (.ofCycle cycle)) =
          ({ w with
              executor := { w.executor with queue := w.executor.queue ++ [.ofCycle cycle] } },
            some (.submitted (.ofCycle cycle) (.ok ()))) := by
        simp only [Worker.step, Executor.submit, takes]
      obtain ⟨left, seen⟩ := ih (w := (w.step (.submit .outside (.ofCycle cycle))).1) (by
        rw [stepped]
        exact takes)
      refine ⟨?_, ?_⟩
      · rw [submissions, List.map_cons, Worker.after]
        refine left.trans ?_
        rw [stepped, List.map_cons]
        simp only [List.append_assoc, List.cons_append, List.nil_append]
      · rw [submissions, List.map_cons, Worker.events]
        refine (congrArg _ seen).trans ?_
        rw [stepped]
        rfl

theorem after_submissions_of_shut {w : Worker} {refusal : Refusal}
    (refuses : w.executor.refusal = some refusal) (cycles : List Nat) :
    w.after (submissions cycles) = w ∧
      w.events (submissions cycles) =
        cycles.map fun cycle => .submitted (.ofCycle cycle) (.error refusal) := by
  induction cycles with
  | nil => exact ⟨rfl, rfl⟩
  | cons cycle rest ih =>
      have stepped : w.step (.submit .outside (.ofCycle cycle)) =
          (w, some (.submitted (.ofCycle cycle) (.error refusal))) := by
        simp only [Worker.step, Executor.submit, refuses]
      rw [submissions, List.map_cons, Worker.after, Worker.events, stepped]
      exact ⟨ih.1, congrArg (_ :: ·) ih.2⟩

theorem filterMap_ofCycle (cycles : List Nat) :
    (cycles.map Job.ofCycle).filterMap Job.cycle? = cycles := by
  induction cycles with
  | nil => rfl
  | cons cycle rest ih => rw [List.map_cons, List.filterMap_cons_some (cycle_ofCycle cycle), ih]

theorem handed_eq {s : Workplace α} {step : Scene.Step α} {asked : List Nat}
    (hands : Engine.Hands asked s.scene.engine (s.scene.step step).1.engine) :
    s.handed step = asked := by
  by_cases takes : s.scene.engine.refusal = none
  · obtain ⟨queue, told⟩ := hands.taken takes
    simp only [handed, queue, told, List.drop_left, List.drop_length, List.append_nil]
  · obtain ⟨queue, told, _⟩ := hands.rebuffed takes
    simp only [handed, queue, told, List.drop_left, List.drop_length, List.nil_append]

/-! ## What holds at any moment -/

/-- The worker and the decoupler agree: on whether tasks are taken, and on the cycles whose tasks have
not begun, those that a crash lost among them.  A cycle whose submission was refused has been given
up, with the decoupler. -/
structure Linked (name : String) (events : List Worker.Event) (turns : List (Turn α))
    (s : Workplace α) : Prop where
  served : Worker.Served name events s.worker
  answers : s.scene.engine.refusal = s.worker.executor.refusal
  queue : s.scene.engine.queue = s.worker.unrun.filterMap Job.cycle?
  coherent : Engine.Coherent turns s.scene.begun [] [] s.scene.engine
  rebuffed : ∀ cycle refusal, .submitted (.ofCycle cycle) (.error refusal) ∈ events →
    s.scene.engine.decoupler.pacer.closed = true ∧
      cycle ∉ Turn.deliveries turns ++ s.scene.begun

section

variable {name : String} {events : List Worker.Event} {turns : List (Turn α)} {s : Workplace α}

theorem Linked.stays (h : Linked name events turns s) (steps : List (Scene.Step α)) {cycle : Nat}
    {refusal : Refusal} (earlier : .submitted (.ofCycle cycle) (.error refusal) ∈ events) :
    (s.scene.after steps).engine.decoupler.pacer.closed = true ∧
      cycle ∉ Turn.deliveries (turns ++ s.scene.turns steps) ++ (s.scene.after steps).begun := by
  obtain ⟨closed, undelivered⟩ := h.rebuffed cycle refusal earlier
  have out := Engine.runsOut_after closed steps
  refine ⟨out.drains.closed, fun seen => undelivered ?_⟩
  rw [Turn.deliveries, List.filterMap_append, List.append_assoc] at seen
  rcases List.mem_append.mp seen with before | since
  · exact List.mem_append_left _ before
  · exact List.mem_append_right _ (out.tasks.subset since)

/-- The cycle of a lost task waits for ever. -/
theorem Linked.undelivered_of_lost (h : Linked name events turns s) {cycle : Nat}
    (lost : .ofCycle cycle ∈ s.worker.lost) :
    cycle ∉ Turn.deliveries turns ++ s.scene.begun := by
  apply h.coherent.not_begun_of_outstanding
  rw [Engine.outstanding, h.queue]
  apply List.mem_append_left
  apply List.mem_append_left
  exact List.mem_filterMap.mpr ⟨_, List.mem_append_left _ lost, cycle_ofCycle cycle⟩

theorem submit_of_submitted {w : Worker} {act : Worker.Act} {job : Job}
    {result : Except Refusal Unit} (seen : (w.step act).2 = some (.submitted job result)) :
    ∃ caller, act = .submit caller job := by
  cases act with
  | submit caller other =>
      refine ⟨caller, ?_⟩
      cases caller with
      | outside =>
          obtain ⟨rfl, _⟩ := Worker.Event.submitted.inj (Option.some.inj seen)
          rfl
      | task =>
          cases current : w.current with
          | none =>
              simp only [Worker.step, current] at seen
              cases seen
          | some running =>
              simp only [Worker.step, current] at seen
              obtain ⟨rfl, _⟩ := Worker.Event.submitted.inj (Option.some.inj seen)
              rfl
  | take =>
      simp only [Worker.step] at seen
      split at seen <;> cases seen
  | finish ending =>
      simp only [Worker.step] at seen
      split at seen <;> cases seen
  | shutDown caller =>
      cases caller with
      | outside => cases seen
      | task =>
          simp only [Worker.step] at seen
          split at seen <;> cases seen
  | await caller =>
      cases caller with
      | outside =>
          simp only [Worker.step] at seen
          split at seen
          · split at seen <;> cases seen
          · cases seen
      | task =>
          simp only [Worker.step] at seen
          split at seen <;> cases seen
  | join =>
      simp only [Worker.step] at seen
      split at seen <;> cases seen

theorem accepted_of_permitted {act : Worker.Act} (permitted : s.permits act = true) :
    (Worker.accepted (s.worker.events [act])).filterMap Job.cycle? = [] := by
  rw [Worker.events, Worker.events, List.append_nil]
  cases seen : (s.worker.step act).2 with
  | none => rfl
  | some event =>
      cases event with
      | submitted job result =>
          obtain ⟨caller, rfl⟩ := submit_of_submitted seen
          have foreign : job.cycle? = none := Option.isNone_iff_eq_none.mp permitted
          cases result with
          | error refusal => rfl
          | ok _ => exact List.filterMap_cons_none foreign
      | _ => rfl

theorem not_submitted_of_permitted {act : Worker.Act} (permitted : s.permits act = true)
    (cycle : Nat) (result : Except Refusal Unit) :
    .submitted (.ofCycle cycle) result ∉ s.worker.events [act] := by
  intro seen
  rw [Worker.events, Worker.events, List.append_nil, Option.mem_toList] at seen
  obtain ⟨caller, rfl⟩ := submit_of_submitted seen
  cases permitted

/-- The decoupler after a step of the worker: it is answered as the worker answers, and what waits is
what waited, less the task that the thread has taken. -/
theorem follows_worker (w : Worker) (act : Worker.Act) (scene : Scene α) {waiting : List Nat}
    (queue : scene.engine.queue =
      (Worker.begun (w.step act).2.toList).filterMap Job.cycle? ++ waiting) :
    let later := scene.after
      (.move (.refuse (w.step act).1.executor.refusal) :: starts (w.step act).2)
    later.engine.refusal = (w.step act).1.executor.refusal ∧ later.engine.queue = waiting := by
  cases seen : (w.step act).2 with
  | none =>
      rw [seen] at queue
      exact ⟨rfl, queue⟩
  | some event =>
      rw [seen] at queue
      cases event with
      | began job =>
          have one : Worker.begun (some (Worker.Event.began job)).toList = [job] := rfl
          rw [one] at queue
          cases own : job.cycle? with
          | none =>
              rw [List.filterMap_cons_none own] at queue
              simp only [starts, own, Option.isSome_none, Bool.false_eq_true, if_false]
              exact ⟨rfl, queue⟩
          | some cycle =>
              rw [List.filterMap_cons_some own] at queue
              simp only [starts, own, Option.isSome_some, if_true]
              have told : (scene.step (.move (.refuse (w.step act).1.executor.refusal))).1.engine.queue =
                  cycle :: waiting := queue
              have leaves := Scene.start_leaves _ told
              exact ⟨leaves.refusal, leaves.queue_eq⟩
      | _ => exact ⟨rfl, queue⟩

theorem linked_worker (h : Linked name events turns s) {act : Worker.Act}
    (permitted : s.permits act = true) :
    Linked name (events ++ s.worker.events [act])
      (turns ++ s.scene.turns (s.sceneSteps (.worker act)))
      ⟨s.worker.after [act], s.scene.after (s.sceneSteps (.worker act))⟩ := by
  -- of the tasks that come or begin in this step, those of cycles
  have passes := congrArg (List.filterMap Job.cycle?) (h.served.unrun_after [act])
  rw [List.filterMap_append, List.filterMap_append, ← h.queue, accepted_of_permitted permitted,
    List.append_nil, Worker.events, Worker.events, List.append_nil] at passes
  obtain ⟨refusal, queue⟩ := follows_worker s.worker act s.scene passes.symm
  have steps : s.sceneSteps (.worker act) =
      .move (.refuse (s.worker.step act).1.executor.refusal) :: starts (s.worker.step act).2 := by
    simp only [sceneSteps, if_pos permitted]
  refine ⟨Worker.served_after h.served [act], ?_, ?_, ?_, ?_⟩
  · rw [steps]
    exact refusal
  · rw [steps]
    exact queue
  · exact Engine.coherent_kept.after turns _ h.coherent
  · intro cycle refusal seen
    rcases List.mem_append.mp seen with earlier | now
    · exact h.stays _ earlier
    · exact absurd now (not_submitted_of_permitted permitted cycle _)

/-- A cycle that the step hands over has not been delivered, nor does the step deliver it. -/
theorem Linked.undelivered (h : Linked name events turns s) {step : Scene.Step α}
    (other : step.isOfDispatch = false) {cycle : Nat} (new : s.scene.engine.New cycle) :
    cycle ∉ Turn.deliveries (turns ++ s.scene.turns [step]) ++ (s.scene.after [step]).begun := by
  intro seen
  have earlier := h.coherent.not_begun_of_new new
  have now : s.scene.turns [step] = (s.scene.step step).2.toList := List.append_nil _
  rw [now, Turn.deliveries, List.filterMap_append, List.append_assoc] at seen
  rcases List.mem_append.mp seen with before | since
  · exact earlier (List.mem_append_left _ before)
  · exact earlier (List.mem_append_right _ (s.scene.begun_of_step other since))

theorem linked_scene (h : Linked name events turns s) {step : Scene.Step α}
    (other : step.isOfDispatch = false) :
    Linked name (events ++ s.worker.events (submissions (s.handed step)))
      (turns ++ s.scene.turns [step])
      ⟨s.worker.after (submissions (s.handed step)), s.scene.after [step]⟩ := by
  obtain ⟨asked, new, hands⟩ := s.scene.submits_step other
  have served := Worker.served_after h.served (submissions asked)
  have coherent := Engine.coherent_kept.after turns [step] h.coherent
  rw [handed_eq hands]
  cases answer : s.worker.executor.refusal with
  | none =>
    obtain ⟨left, seen⟩ := after_submissions_of_open answer asked
    obtain ⟨queue, _⟩ := hands.taken (h.answers.trans answer)
    refine ⟨served, ?_, ?_, coherent, ?_⟩
    · rw [left]
      exact hands.refusal.trans h.answers
    · rw [left, Worker.unrun, ← List.append_assoc, List.filterMap_append, filterMap_ofCycle]
      rw [h.queue] at queue
      exact queue
    · intro cycle refusal member
      rcases List.mem_append.mp member with earlier | now
      · exact h.stays [step] earlier
      · rw [seen] at now
        obtain ⟨_, _, same⟩ := List.mem_map.mp now
        cases same
  | some refusal =>
    obtain ⟨left, seen⟩ := after_submissions_of_shut answer asked
    obtain ⟨queue, _, shut⟩ := hands.rebuffed (by
      rw [h.answers, answer]
      exact Option.some_ne_none refusal)
    refine ⟨served, ?_, ?_, coherent, ?_⟩
    · rw [left]
      exact hands.refusal.trans h.answers
    · rw [left, ← h.queue]
      exact queue
    · intro cycle refusal member
      rcases List.mem_append.mp member with earlier | now
      · exact h.stays [step] earlier
      · rw [seen] at now
        obtain ⟨refused, inAsked, same⟩ := List.mem_map.mp now
        obtain rfl : refused = cycle := ofCycle_inj (Worker.Event.submitted.inj same).1
        exact ⟨shut (List.ne_nil_of_mem inAsked), h.undelivered other (new refused inAsked)⟩

theorem linked_step (h : Linked name events turns s) (st : Step α) :
    Linked name (events ++ s.worker.events (s.acts st))
      (turns ++ s.scene.turns (s.sceneSteps st)) (s.step st) := by
  have same : Linked name (events ++ s.worker.events []) (turns ++ s.scene.turns [])
      ⟨s.worker.after [], s.scene.after []⟩ := by
    rw [Worker.events, Scene.turns, List.append_nil, List.append_nil]
    exact h
  cases st with
  | worker act =>
      by_cases permitted : s.permits act = true
      · have asked : s.acts (.worker act) = [act] := if_pos permitted
        rw [step, asked]
        exact linked_worker h permitted
      · have asked : s.acts (.worker act) = [] := if_neg permitted
        have idle : s.sceneSteps (.worker act) = [] := if_neg permitted
        rw [step, asked, idle]
        exact same
  | scene step =>
      by_cases own : step.isOfDispatch = true
      · have asked : s.acts (.scene step) = [] := if_pos own
        have idle : s.sceneSteps (.scene step) = [] := if_pos own
        rw [Workplace.step, asked, idle]
        exact same
      · have asked : s.acts (.scene step) = submissions (s.handed step) := if_neg own
        have made : s.sceneSteps (.scene step) = [step] := if_neg own
        rw [Workplace.step, asked, made]
        exact linked_scene h (Bool.eq_false_iff.mpr own)

theorem linked_after (h : Linked name events turns s) (steps : List (Step α)) :
    Linked name (events ++ s.events steps) (turns ++ s.turns steps) (s.after steps) := by
  induction steps generalizing events turns s with
  | nil =>
      rw [Workplace.events, Workplace.turns, List.append_nil, List.append_nil]
      exact h
  | cons st rest ih =>
      rw [Workplace.events, Workplace.turns, ← List.append_assoc, ← List.append_assoc]
      exact ih (linked_step h st)

end

theorem linked_opened (name subject : String) (buffer : Buffer α) (minPeriod : Option Nat)
    (source : Option (ReadFunction α)) (hasRuntime closesOnDrop : Bool) :
    Linked name [] [] (opened name subject buffer minPeriod source hasRuntime closesOnDrop) where
  served := Worker.served_hired name
  answers := rfl
  queue := rfl
  coherent := ⟨Engine.InStep.init _, Nat.le_refl 0⟩
  rebuffed := nofun

/-- A worker runs every accepted task once and in the order of the submissions, unless one of them
takes the thread with it.  At any moment of any history the accepted tasks have begun or wait, in
that order, and those that have begun have ended except for the one that runs.  A submission is
accepted until the worker is shut down or crashes and refused from then on, and a call that waits
for the thread returns when all that was accepted has ended or a crash has lost it
(`Worker.Tells`).  A task that was refused never begins.  A task that panics might as well have
returned, unless it crashes the thread.  If the thread is not held up for ever, everything accepted
ends unless the thread crashes, and whoever waits gets away; every history can go on like that.  A
decoupler whose submission is refused ends closed, and neither that cycle nor one whose task was
lost is delivered. -/
theorem accepted_tasks_run (name subject : String) (buffer : Buffer α) (minPeriod : Option Nat)
    (source : Option (ReadFunction α)) (hasRuntime closesOnDrop : Bool) :
    let new := Worker.hired name
    (∀ acts : List Worker.Act,
      let events := new.events acts
      let w := new.after acts
      Worker.accepted events = Worker.begun events ++ (w.lost ++ w.executor.queue) ∧
        Worker.begun events = Worker.ended events ++ w.current.toList ∧
        (¬ Worker.Crashed events → w.lost = []) ∧
        (Worker.Crashed events → w.current = none ∧ w.executor.queue = []) ∧
        Worker.Truthful name events ∧
        (∀ job, .submitted job (.ok ()) ∉ events → .began job ∉ events) ∧
        new.events (acts.map .calm) = events.map .calm ∧
        (w.current = none → w.executor.joinable = true →
          ∃ more, (w.after more).executor = w.executor.shutDown ∧
            (w.events more).getLast? = some (.joined w.executor.shutDown.crashed))) ∧
      (∀ acts : Nat → Worker.Act, new.KeepsWorking acts →
        (∀ n, ∃ m, n ≤ m ∧ (Worker.Crashed (new.events (Worker.first acts m)) ∨
          Worker.accepted (new.events (Worker.first acts n)) <+:
            Worker.ended (new.events (Worker.first acts m)))) ∧
        ∀ n, .shutDown ∈ new.events (Worker.first acts n) →
          ∃ m, ∀ k, m ≤ k →
            let w := new.after (Worker.first acts k)
            w.Idle ∧ (w.awaited = true → (w.step .join).2 = some (.joined w.executor.crashed))) ∧
      (∀ acts : List Worker.Act, ∃ more, Worker.first more acts.length = acts ∧
        new.KeepsWorking more) ∧
      ∀ steps : List (Step α),
        let start := opened name subject buffer minPeriod source hasRuntime closesOnDrop
        let s := start.after steps
        Worker.Served name (start.events steps) s.worker ∧
          s.scene.engine.queue = s.worker.unrun.filterMap Job.cycle? ∧
          (∀ cycle, .ofCycle cycle ∈ s.worker.lost →
            cycle ∉ Turn.deliveries (start.turns steps)) ∧
          ∀ cycle refusal, .submitted (.ofCycle cycle) (.error refusal) ∈ start.events steps →
            (refusal = .shutDown name ∨
              Worker.Crashed (start.events steps) ∧ refusal = .crashed name) ∧
              s.scene.engine.decoupler.pacer.closed = true ∧
              cycle ∉ Turn.deliveries (start.turns steps) := by
  intro new
  refine ⟨fun acts => ?_, fun acts keeps => ⟨?_, fun n shut => ?_⟩, fun acts => ?_, fun steps => ?_⟩
  · intro events w
    have h : Worker.Served name events w := Worker.served name acts
    refine ⟨h.inOrder, h.oneByOne, h.whole, fun crash => h.rests (.inl crash), h.truthful,
      fun job => h.not_begun, Worker.events_calm new [] acts, fun current joinable => ?_⟩
    exact Worker.shuts_down current joinable h.kind
  · exact Worker.accepted_ends keeps
  · obtain ⟨m, rests⟩ := Worker.comes_to_rest keeps shut
    exact ⟨m, fun k later => ⟨rests k later, Worker.joins (rests k later)⟩⟩
  · exact ⟨_, Worker.first_diligent acts, Worker.keepsWorking_diligent new acts⟩
  · intro start s
    have h : Linked name (start.events steps) (start.turns steps) s :=
      linked_after (linked_opened name subject buffer minPeriod source hasRuntime closesOnDrop) steps
    refine ⟨h.served, h.queue, fun cycle lost delivered => ?_, fun cycle refusal refused => ?_⟩
    · exact h.undelivered_of_lost lost (List.mem_append_left _ delivered)
    · obtain ⟨closed, undelivered⟩ := h.rebuffed cycle refusal refused
      refine ⟨h.served.truthful.refuses refused, closed, fun delivered => undelivered ?_⟩
      exact List.mem_append_left _ delivered

/-- A task takes the thread of a worker with it that nobody has shut down.  The task that was accepted
after it never runs, and the next one is refused. -/
theorem crash_loses_tasks :
    let bomb : Job := .bomb 1 ⟨none⟩
    let waiting : Job := .mk 2 none [] false
    let late : Job := .mk 3 none [] false
    let acts : List Worker.Act :=
      [.submit .outside bomb, .submit .outside waiting, .take, .finish bomb.ending,
        .submit .outside late]
    let events := (Worker.hired "w").events acts
    let w := (Worker.hired "w").after acts
    events =
        [.submitted bomb (.ok ()), .submitted waiting (.ok ()), .began bomb,
          .ended bomb (.crashed ⟨none⟩), .submitted late (.error (.crashed "w"))] ∧
      Worker.accepted events = [bomb, waiting] ∧ Worker.begun events = [bomb] ∧
      w.lost = [waiting] ∧ w.Idle :=
  ⟨rfl, rfl, rfl, rfl, rfl, rfl⟩

-- The worker is shut down while the listener runs, which then spends its token.
example :
    let start : Workplace Nat := opened "w" "s" (.latest .empty) none none false true
    let steps : List (Step Nat) :=
      [.scene (.move (.call (.write (some 5)))), .worker .take, .scene (.proceed 0),
        .scene (.proceed 0), .scene (.move (.call (.write (some 6)))),
        .worker (.shutDown .outside), .scene (.move (.call (.spend 1)))]
    Turn.deliveries (start.turns steps) = [1] ∧ (start.after steps).scene.engine.isClosed = true ∧
      (start.events steps).length = 4 := by
  decide

end Workplace

end Cadence
