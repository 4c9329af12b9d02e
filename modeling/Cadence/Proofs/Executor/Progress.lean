import Cadence.Proofs.Executor.Worker

/-!
# Workers get through their tasks

As long as there is something to do the thread of a worker can go on, whatever the other threads do.
If it is not held up for ever, every task that was accepted ends, and once the worker has been shut
down it comes to rest, so that whoever waits for it gets away.

Panics change nothing of this (`step_calm`), and running tasks as their descriptions say
(`runs_queue`) or shutting the executor down in one go (`shuts_down`) are histories among others.
-/

set_option autoImplicit false

namespace Cadence

/-- The same ending without a panic, unless it is a crash. -/
def Ending.calm : Ending → Ending
  | panicked _ => returned
  | ending => ending

namespace Worker

/-! ## Panics -/

def Act.calm : Act → Act
  | finish ending => finish ending.calm
  | act => act

def Event.calm : Event → Event
  | ended job ending => ended job ending.calm
  | event => event

def withJournal (w : Worker) (journal : List Notice) : Worker :=
  { w with executor := { w.executor with journal := journal } }

section

variable (e : Executor) (journal : List Notice)

theorem submit_withJournal (job : Job) :
    { e with journal := journal }.submit job =
      ({ (e.submit job).1 with journal := journal }, (e.submit job).2) := by
  cases refusal : e.refusal <;> simp only [Executor.submit, refusal]

theorem refuseAll_withJournal :
    { e with journal := journal }.refuseAll = { e.refuseAll with journal := journal } := by
  cases kind : e.kind <;> simp only [Executor.refuseAll, kind]

theorem isShutDown_withJournal : { e with journal := journal }.isShutDown = e.isShutDown := rfl

theorem bury_withJournal (ending : Ending) :
    ∃ told, { e with journal := journal }.bury ending.calm =
      { e.bury ending with journal := told } := by
  cases ending <;> exact ⟨_, rfl⟩

theorem detach_withJournal :
    ∃ told, { e with journal := journal }.detach = { e.detach with journal := told } := by
  cases joinable : e.joinable with
  | true =>
      refine ⟨journal ++ [.ownThread e.name], ?_⟩
      simp only [Executor.detach, joinable, if_true, Executor.note]
  | false => exact ⟨journal, by simp [Executor.detach, joinable]⟩

theorem join_withJournal :
    ∃ told, { e with journal := journal }.join = { e.join with journal := told } := by
  cases crashed : e.crashed with
  | true =>
      refine ⟨journal ++ [.endedAbnormally e.name], ?_⟩
      simp only [Executor.join, crashed, if_true, Executor.note]
  | false => exact ⟨journal, by simp [Executor.join, crashed]⟩

end

/-- Apart from the journal a worker does the same whether the task that ends returns or panics. -/
theorem step_calm (w : Worker) (journal : List Notice) (act : Act) :
    ∃ told, (w.withJournal journal).step act.calm =
      ((w.step act).1.withJournal told, (w.step act).2.map Event.calm) := by
  cases act with
  | submit caller job =>
      have submits := submit_withJournal w.executor journal job
      refine ⟨journal, ?_⟩
      cases caller with
      | outside => simp [Act.calm, step, withJournal, submits, Event.calm]
      | task =>
          cases current : w.current <;>
            simp [Act.calm, step, withJournal, current, submits, Event.calm, Executor.record]
  | take =>
      refine ⟨journal, ?_⟩
      cases current : w.current <;> cases queue : w.executor.queue <;>
        simp [Act.calm, step, withJournal, current, queue, Event.calm, Executor.record]
  | finish ending =>
      cases current : w.current with
      | none => exact ⟨journal, by simp [Act.calm, step, withJournal, current]⟩
      | some job =>
          obtain ⟨told, buries⟩ := bury_withJournal w.executor journal ending
          have breaks : ending.calm.isCrash = ending.isCrash := by cases ending <;> rfl
          exact ⟨told, by simp [Act.calm, step, withJournal, current, buries, breaks, Event.calm]⟩
  | shutDown caller =>
      refine ⟨journal, ?_⟩
      cases caller with
      | outside =>
          simp only [Act.calm, step, withJournal]
          rw [refuseAll_withJournal]
          rfl
      | task =>
          cases current : w.current with
          | none => simp [Act.calm, step, withJournal, current]
          | some job =>
              simp only [Act.calm, step, withJournal, current]
              exact congrArg (fun e => (Worker.mk e (some job) w.awaited w.lost, some Event.shutDown))
                (refuseAll_withJournal (w.executor.record (.shutDownFrom job.id)) journal)
  | await caller =>
      cases caller with
      | outside =>
          refine ⟨journal, ?_⟩
          simp only [Act.calm, step, withJournal, isShutDown_withJournal]
          by_cases shut : w.executor.isShutDown = true <;>
            by_cases free : w.executor.joinable = true <;>
              simp [shut, free, Event.calm]
      | task =>
          obtain ⟨told, leaves⟩ := detach_withJournal w.executor journal
          cases free : w.executor.isShutDown && w.current.isSome && w.executor.joinable with
          | true =>
              refine ⟨told, ?_⟩
              simp [Act.calm, step, withJournal, isShutDown_withJournal, free, leaves, Event.calm]
          | false =>
              refine ⟨journal, ?_⟩
              simp [Act.calm, step, withJournal, isShutDown_withJournal, free]
  | join =>
      obtain ⟨told, joins⟩ := join_withJournal w.executor journal
      cases ready : w.awaited && w.current.isNone && w.executor.queue.isEmpty with
      | true => exact ⟨told, by simp [Act.calm, step, withJournal, ready, joins, Event.calm]⟩
      | false => exact ⟨journal, by simp [Act.calm, step, withJournal, ready]⟩

theorem events_calm (w : Worker) (journal : List Notice) (acts : List Act) :
    (w.withJournal journal).events (acts.map Act.calm) = (w.events acts).map Event.calm := by
  induction acts generalizing w journal with
  | nil => rfl
  | cons act rest ih =>
      obtain ⟨told, calm⟩ := w.step_calm journal act
      rw [List.map_cons, events, events, calm, ih, List.map_append]
      cases (w.step act).2 <;> rfl

/-! ## The thread goes on -/

def Event.isOfThread : Event → Bool
  | began _ => true
  | ended _ _ => true
  | _ => false

/-- There is a step for the thread to make unless it has nothing to do, and a task may end in any
way. -/
theorem goes_on (w : Worker) (busy : ¬ w.Idle) :
    (∃ job, w.current = some job ∧
      ∀ ending, (w.step (.finish ending)).2 = some (.ended job ending)) ∨
    (∃ job, (w.step .take).2 = some (.began job)) := by
  cases current : w.current with
  | some job => exact .inl ⟨job, rfl, fun ending => by simp only [step, current]⟩
  | none =>
      cases queue : w.executor.queue with
      | nil => exact absurd ⟨current, queue⟩ busy
      | cons job rest => exact .inr ⟨job, by simp only [step, current, queue]⟩

theorem joins {w : Worker} (idle : w.Idle) (awaited : w.awaited = true) :
    (w.step .join).2 = some (.joined w.executor.crashed) := by
  obtain ⟨current, queue⟩ := idle
  simp [step, awaited, current, queue]

def first (acts : Nat → Act) (n : Nat) : List Act := (List.range n).map acts

/-- The thread is never held up for ever: if it has something to do from some step on, then there is
a step with which it goes on. -/
def KeepsWorking (w : Worker) (acts : Nat → Act) : Prop :=
  ∀ n, (∀ m, n ≤ m → ¬ (w.after (first acts m)).Idle) →
    ∃ m, n ≤ m ∧ ∃ event,
      ((w.after (first acts m)).step (acts m)).2 = some event ∧ event.isOfThread = true

theorem first_succ (acts : Nat → Act) (n : Nat) : first acts (n + 1) = first acts n ++ [acts n] := by
  rw [first, List.range_succ, List.map_append]
  rfl

theorem events_first_succ (w : Worker) (acts : Nat → Act) (n : Nat) :
    w.events (first acts (n + 1)) =
      w.events (first acts n) ++ ((w.after (first acts n)).step (acts n)).2.toList := by
  rw [first_succ, events_append]
  simp only [events, List.append_nil]

theorem events_first_mono (w : Worker) (acts : Nat → Act) {n m : Nat} (le : n ≤ m) :
    w.events (first acts n) <+: w.events (first acts m) := by
  induction le with
  | refl => exact List.prefix_rfl
  | step _ ih =>
      rw [events_first_succ]
      exact ih.trans (List.prefix_append _ _)

def work (events : List Event) : Nat := (begun events).length + (ended events).length

theorem work_concat (events : List Event) {event : Event} (own : event.isOfThread = true) :
    work (events ++ [event]) = work events + 1 := by
  rw [work, begun_concat, ended_concat, List.length_append, List.length_append, work]
  cases event with
  | began job => simp [Event.began?, Event.ended?]; omega
  | ended job ending => simp [Event.began?, Event.ended?]; omega
  | _ => cases own

theorem work_mono {events more : List Event} (longer : events <+: more) :
    work events ≤ work more :=
  Nat.add_le_add (longer.filterMap Event.began?).length_le (longer.filterMap Event.ended?).length_le

section

variable {name : String} {events : List Event} {w : Worker}

theorem Served.ended_accepted (h : Served name events w) : ended events <+: accepted events := by
  rw [h.inOrder, h.oneByOne, List.append_assoc]
  exact List.prefix_append _ _

theorem Served.length_begun_le (h : Served name events w) :
    (begun events).length ≤ (ended events).length + 1 := by
  rw [h.oneByOne, List.length_append]
  cases w.current <;> simp

theorem Served.idle_of_ended (h : Served name events w) (all : ended events = accepted events) :
    w.Idle := by
  rw [h.inOrder, h.oneByOne, List.append_assoc, List.self_eq_append_right, List.append_eq_nil_iff,
    Option.toList_eq_nil_iff, unrun, List.append_eq_nil_iff] at all
  exact ⟨all.1, all.2.2⟩

end

/-! ## Fairness can be had -/

/-- After `acts` the thread takes tasks and ends them, in turn, and nothing else happens. -/
def diligent (acts : List Act) (n : Nat) : Act :=
  acts[n]?.getD (if n % 2 = 0 then .take else .finish .returned)

theorem first_diligent (acts : List Act) : first (diligent acts) acts.length = acts := by
  apply List.ext_getElem
  · simp [first]
  · intro n _ inside
    simp [first, diligent, inside]

/-- If the one does not move a busy thread, it leaves the worker to the other. -/
theorem goes_on_in_two {w : Worker} (busy : ¬ w.Idle) {act other : Act}
    (turns : act = .take ∧ other = .finish .returned ∨ act = .finish .returned ∧ other = .take) :
    (∃ event, (w.step act).2 = some event ∧ event.isOfThread = true) ∨
      ∃ event, ((w.step act).1.step other).2 = some event ∧ event.isOfThread = true := by
  rcases w.goes_on busy with ⟨job, current, ends⟩ | ⟨job, began⟩
  · rcases turns with ⟨rfl, rfl⟩ | ⟨rfl, rfl⟩
    · have still : w.step .take = (w, none) := by simp only [step, current]
      rw [still]
      exact .inr ⟨_, ends .returned, rfl⟩
    · exact .inl ⟨_, ends .returned, rfl⟩
  · rcases turns with ⟨rfl, rfl⟩ | ⟨rfl, rfl⟩
    · exact .inl ⟨_, began, rfl⟩
    · cases current : w.current with
      | some running => exact .inl ⟨.ended running .returned, by simp only [step, current], rfl⟩
      | none =>
          have still : w.step (.finish .returned) = (w, none) := by simp only [step, current]
          rw [still]
          exact .inr ⟨_, began, rfl⟩

theorem keepsWorking_diligent (w : Worker) (acts : List Act) :
    KeepsWorking w (diligent acts) := by
  intro n busy
  have past : ∀ m, n + acts.length ≤ m →
      diligent acts m = if m % 2 = 0 then .take else .finish .returned := by
    intro m late
    rw [diligent, List.getElem?_eq_none (by omega)]
    rfl
  have turns : diligent acts (n + acts.length) = .take ∧
        diligent acts (n + acts.length + 1) = .finish .returned ∨
      diligent acts (n + acts.length) = .finish .returned ∧
        diligent acts (n + acts.length + 1) = .take := by
    rw [past _ (Nat.le_refl _), past _ (Nat.le_succ _)]
    rcases Nat.mod_two_eq_zero_or_one (n + acts.length) with even | odd
    · exact .inl ⟨if_pos even, if_neg (by omega)⟩
    · exact .inr ⟨if_neg (by omega), if_pos (by omega)⟩
  rcases goes_on_in_two (busy _ (Nat.le_add_right _ _)) turns with now | next
  · exact ⟨_, Nat.le_add_right _ _, now⟩
  · refine ⟨n + acts.length + 1, by omega, ?_⟩
    rw [first_succ, after_append]
    exact next

/-! ## Every accepted task ends -/

section

variable {name : String} {acts : Nat → Act}

/-- The thread needs two steps for each task; `left` bounds how many of them are still to come. -/
theorem exists_ended (keeps : KeepsWorking (hired name) acts) {goal left n : Nat}
    (enough : goal ≤ (accepted ((hired name).events (first acts n))).length)
    (bound : 2 * goal ≤ left + work ((hired name).events (first acts n))) :
    ∃ m, Crashed ((hired name).events (first acts m)) ∨
      goal ≤ (ended ((hired name).events (first acts m))).length := by
  have now := served name (first acts n)
  induction left generalizing n with
  | zero =>
      -- no more than one task has begun without having ended
      have close := now.length_begun_le
      rw [work] at bound
      exact ⟨n, .inr (by omega)⟩
  | succ left ih =>
      by_cases busy : ∀ m, n ≤ m → ¬ ((hired name).after (first acts m)).Idle
      · obtain ⟨m, le, event, seen, own⟩ := keeps n busy
        have longer := events_first_mono (hired name) acts (Nat.le_add_right_of_le le : n ≤ m + 1)
        have kept := (longer.filterMap Event.accepted?).length_le
        have more := work_mono (events_first_mono (hired name) acts le)
        have one := work_concat ((hired name).events (first acts m)) own
        have next := events_first_succ (hired name) acts m
        rw [seen, Option.toList_some] at next
        rw [← next] at one
        exact ih (Nat.le_trans enough kept) (by omega) (served name _)
      · -- an idle worker has nothing left to do, so there is no need to wait for the thread
        push Not at busy
        obtain ⟨m, le, idle⟩ := busy
        refine ⟨m, or_iff_not_imp_left.mpr fun sound => ?_⟩
        have all := (served name (first acts m)).ended_of_idle idle sound
        have longer := events_first_mono (hired name) acts le
        have kept := (longer.filterMap Event.accepted?).length_le
        rw [all]
        exact Nat.le_trans enough kept

theorem crashed_mono {events more : List Event} (longer : events <+: more) :
    Crashed events → Crashed more :=
  fun ⟨job, panic, crash⟩ => ⟨job, panic, longer.subset crash⟩

/-- If the thread keeps working, all that has been accepted so far ends sooner or later, unless a
task takes the thread with it. -/
theorem accepted_ends (keeps : KeepsWorking (hired name) acts) (n : Nat) :
    ∃ m, n ≤ m ∧ (Crashed ((hired name).events (first acts m)) ∨
      accepted ((hired name).events (first acts n)) <+:
        ended ((hired name).events (first acts m))) := by
  obtain ⟨m, goal⟩ := exists_ended keeps (Nat.le_refl _) (Nat.le_add_right _ _)
  have early := events_first_mono (hired name) acts (Nat.le_max_left n m)
  have late := events_first_mono (hired name) acts (Nat.le_max_right n m)
  refine ⟨max n m, Nat.le_max_left n m, goal.imp (crashed_mono late) fun goal => ?_⟩
  have enough := Nat.le_trans goal (late.filterMap Event.ended?).length_le
  exact List.prefix_of_prefix_length_le (early.filterMap Event.accepted?)
    (served name _).ended_accepted enough

theorem accepted_of_shut {n k : Nat} (le : n ≤ k)
    (shut : .shutDown ∈ (hired name).events (first acts n)) :
    accepted ((hired name).events (first acts k)) =
      accepted ((hired name).events (first acts n)) := by
  obtain ⟨more, longer⟩ := events_first_mono (hired name) acts le
  have truthful := (served name (first acts k)).truthful
  have nothing : accepted more = [] := by
    rw [accepted, List.filterMap_eq_nil_iff]
    intro event member
    obtain ⟨before, after, rfl⟩ := List.append_of_mem member
    rw [← List.append_assoc] at longer
    by_contra accepts
    exact (takes_of_accepted (truthful _ _ after longer.symm) accepts).1
      (List.mem_append_left _ shut)
  rw [← longer, accepted, List.filterMap_append, ← accepted, ← accepted, nothing, List.append_nil]

/-- If the thread keeps working, a worker that has been shut down comes to rest for good. -/
theorem comes_to_rest (keeps : KeepsWorking (hired name) acts) {n : Nat}
    (shut : .shutDown ∈ (hired name).events (first acts n)) :
    ∃ m, ∀ k, m ≤ k → ((hired name).after (first acts k)).Idle := by
  -- what was accepted by then is all that ever will be
  obtain ⟨m, le, crash | all⟩ := accepted_ends keeps n
  · refine ⟨m, fun k later => (served name (first acts k)).rests (.inl ?_)⟩
    exact crashed_mono (events_first_mono (hired name) acts later) crash
  · refine ⟨m, fun k later => ?_⟩
    have now := served name (first acts k)
    have longer := (events_first_mono (hired name) acts later).filterMap Event.ended?
    refine now.idle_of_ended (now.ended_accepted.eq_of_length_le ?_)
    rw [accepted_of_shut (Nat.le_trans le later) shut]
    exact (all.trans longer).length_le

end

/-! ## Tasks as they are described -/

def script (job : Job) : List Act :=
  match job.ending with
  | .returned =>
      job.submits.map (.submit .task) ++
        (if job.shutsDown then [.shutDown .task, .await .task] else []) ++ [.finish .returned]
  | ending => [.finish ending]

theorem after_submits {w : Worker} {running : Job} (current : w.current = some running)
    (jobs : List Job) :
    w.after (jobs.map (.submit .task)) = { w with executor := w.executor.submitAll jobs } := by
  induction jobs generalizing w with
  | nil => rfl
  | cons job rest ih =>
      have stepped : (w.step (.submit .task job)).1 =
          { w with
            executor := (w.executor.submit job).1.record
              (.submitted job.id (w.executor.submit job).2) } := by
        simp only [step, current]
      rw [List.map_cons, after, stepped, Executor.submitAll]
      exact ih current

theorem kind_submitAll (e : Executor) (jobs : List Job) : (e.submitAll jobs).kind = e.kind := by
  induction jobs generalizing e with
  | nil => rfl
  | cons job rest ih =>
      rw [Executor.submitAll, ih]
      unfold Executor.submit
      split <;> rfl

theorem kind_refuseAll (e : Executor) : e.refuseAll.kind = e.kind := by
  unfold Executor.refuseAll
  split <;> rfl

theorem kind_detach (e : Executor) : e.detach.kind = e.kind := by
  unfold Executor.detach
  split <;> rfl

theorem kind_bury (e : Executor) (ending : Ending) : (e.bury ending).kind = e.kind := by
  cases ending <;> rfl

theorem kind_perform (e : Executor) (job : Job) : (e.perform job).kind = e.kind := by
  unfold Executor.perform
  cases job.ending with
  | returned =>
      simp only [Executor.finish]
      split
      · rw [kind_detach, kind_refuseAll, Executor.record, kind_submitAll]
        rfl
      · rw [kind_submitAll]
        rfl
  | panicked panic => exact kind_bury _ (.panicked panic)
  | crashed panic => exact kind_bury _ (.crashed panic)

theorem after_shutsDown (e : Executor) (kind : e.kind = .worker) (job : Job) (awaited : Bool)
    (lost : List Job) :
    Worker.after ⟨e, some job, awaited, lost⟩ [.shutDown .task, .await .task, .finish .returned] =
      ⟨(e.record (.shutDownFrom job.id)).refuseAll.detach, none, awaited, lost⟩ := by
  cases joinable : e.joinable <;>
    simp [after, step, Executor.refuseAll, Executor.record, Executor.isShutDown, Executor.detach,
      Executor.note, Executor.bury, Ending.isCrash, kind, joinable]

theorem after_finish {w : Worker} {job : Job} (current : w.current = some job) (ending : Ending) :
    ∃ lost, w.after [.finish ending] = ⟨w.executor.bury ending, none, w.awaited, lost⟩ :=
  ⟨_, by simp only [after, step, current]; rfl⟩

theorem after_script {w : Worker} {job : Job} {e : Executor}
    (executor : w.executor = e.record (.ran job.id)) (current : w.current = some job)
    (kind : e.kind = .worker) :
    ∃ lost, w.after (script job) = ⟨e.perform job, none, w.awaited, lost⟩ := by
  cases ending : job.ending with
  | panicked panic =>
      obtain ⟨lost, buried⟩ := after_finish current (.panicked panic)
      refine ⟨lost, ?_⟩
      simp only [script, Executor.perform, ending, buried, executor]
  | crashed panic =>
      obtain ⟨lost, buried⟩ := after_finish current (.crashed panic)
      refine ⟨lost, ?_⟩
      simp only [script, Executor.perform, ending, buried, executor]
  | returned =>
      have submitted := after_submits current job.submits
      rw [executor] at submitted
      cases shuts : job.shutsDown with
      | false =>
          have under : (w.after (job.submits.map (.submit .task))).current = some job := by
            rw [submitted]
            exact current
          obtain ⟨lost, buried⟩ := after_finish under .returned
          refine ⟨lost, ?_⟩
          simp only [script, ending, shuts, Bool.false_eq_true, if_false, List.append_nil,
            after_append, buried, Executor.perform, Executor.finish, Bool.false_and]
          rw [submitted]
          rfl
      | true =>
          have still : ((e.record (.ran job.id)).submitAll job.submits).kind = .worker := by
            rw [kind_submitAll]
            exact kind
          have closing := after_shutsDown _ still job w.awaited w.lost
          refine ⟨w.lost, ?_⟩
          simp only [script, ending, shuts, if_true, List.append_assoc, List.cons_append,
            List.nil_append, Executor.perform, Executor.finish, still, decide_true, Bool.and_self]
          rw [after_append, submitted, current]
          exact closing

theorem runAll_nil {e : Executor} (queue : e.queue = []) : e.runAll = e := by
  rw [Executor.runAll]
  split
  · rfl
  · rename_i more
    rw [queue] at more
    cases more

theorem runAll_cons {e : Executor} {job : Job} {rest : List Job} (queue : e.queue = job :: rest) :
    e.runAll = ({ e with queue := rest }.perform job).runAll := by
  rw [Executor.runAll]
  split
  · rename_i none
    rw [queue] at none
    cases none
  · rename_i more
    rw [queue] at more
    obtain ⟨rfl, rfl⟩ := List.cons.inj more
    rfl

theorem queue_runAll (e : Executor) : e.runAll.queue = [] := by
  induction e using Executor.runAll.induct with
  | case1 e queue =>
      rw [runAll_nil queue]
      exact queue
  | case2 e job rest queue ih =>
      rw [runAll_cons queue]
      exact ih

/-- Running all that is queued is a history of the worker. -/
theorem runs_queue (e : Executor) {w : Worker} (executor : w.executor = e)
    (current : w.current = none) (kind : e.kind = .worker) :
    ∃ acts lost, w.after acts = ⟨e.runAll, none, w.awaited, lost⟩ := by
  induction e using Executor.runAll.induct generalizing w with
  | case1 e queue =>
      refine ⟨[], w.lost, ?_⟩
      rw [runAll_nil queue, after, ← executor, ← current]
  | case2 e job rest queue ih =>
      rw [runAll_cons queue]
      have taken : (w.step .take).1 =
          { w with
            executor := { e with queue := rest }.record (.ran job.id)
            current := some job } := by
        simp only [step, current, executor, queue]
      have started : (w.step .take).1.executor = { e with queue := rest }.record (.ran job.id) := by
        rw [taken]
      have chosen : (w.step .take).1.current = some job := by rw [taken]
      obtain ⟨lost, ran⟩ := after_script started chosen kind
      have worker : ({ e with queue := rest }.perform job).kind = .worker := by
        rw [kind_perform]
        exact kind
      obtain ⟨acts, later, finished⟩ := ih (w := (w.step .take).1.after (script job))
        (by rw [ran]) (by rw [ran]) worker
      refine ⟨.take :: script job ++ acts, later, ?_⟩
      rw [List.cons_append, after, after_append, finished, ran, taken]

theorem crashed_join (e : Executor) : e.join.crashed = e.crashed := by
  unfold Executor.join
  split <;> rfl

/-- Shutting the executor down in one go is a history of the worker, and the call returns. -/
theorem shuts_down {w : Worker} (current : w.current = none)
    (joinable : w.executor.joinable = true) (kind : w.executor.kind = .worker) :
    ∃ acts, (w.after acts).executor = w.executor.shutDown ∧
      (w.events acts).getLast? = some (.joined w.executor.shutDown.crashed) := by
  let e : Executor := { w.executor.refuseAll with joinable := false }
  have sent : w.after [.shutDown .outside, .await .outside] = ⟨e, none, true, w.lost⟩ := by
    simp [after, step, Executor.refuseAll, Executor.isShutDown, kind, joinable, current, e]
  obtain ⟨acts, lost, ran⟩ := runs_queue e (w := ⟨e, none, true, w.lost⟩) rfl rfl
    ((kind_refuseAll w.executor).trans kind)
  have whole : w.executor.shutDown = e.runAll.join := by
    simp only [Executor.shutDown, kind, joinable, if_true, e]
  have returned : Worker.step ⟨e.runAll, none, true, lost⟩ .join =
      (⟨e.runAll.join, none, false, lost⟩, some (.joined e.runAll.crashed)) := by
    simp [step, queue_runAll]
  have seen : events ⟨e.runAll, none, true, lost⟩ [.join] = [.joined e.runAll.crashed] := by
    rw [events, returned]
    rfl
  refine ⟨[.shutDown .outside, .await .outside] ++ (acts ++ [.join]), ?_, ?_⟩
  · rw [after_append, sent, after_append, ran, after, returned, whole, after]
  · rw [events_append, sent, events_append, ran, seen, whole, crashed_join, ← List.append_assoc]
    exact List.getLast?_concat

end Worker

end Cadence
