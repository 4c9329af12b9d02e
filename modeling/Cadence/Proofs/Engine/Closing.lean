import Cadence.Proofs.Engine.Flight
import Cadence.Proofs.Pacer.Closed

/-!
# Closing is final

Nothing is scheduled or started on a closed decoupler, and no call of it submits a task.  What is
left over when it is closed runs out: tasks that wait are dropped when they run, a timer that still
goes off hands in its own task, and only a task whose cycle had already started may still deliver
its event.
-/

set_option autoImplicit false

namespace Cadence

/-- The report promises a cycle, or tells that the decoupler was closed. -/
def Notice.binds : Notice → Bool
  | closed _ => true
  | notice => notice.scheduled?.isSome

theorem Notice.binds_of_isAboutValues {notice : Notice} (about : notice.isAboutValues = true) :
    notice.binds = false := by
  cases notice <;> first | rfl | cases about

namespace Engine

variable {α : Type}

/-- The cycle whose task is handed to the dispatch if the timer at a position goes off. -/
def expiry? (e : Engine α) (index : Nat) : Option Nat :=
  if e.isAlive && e.refusal.isNone then e.timers[index]?.map Timer.cycle else none

/-- What has come of a closed engine: it is closed, and has promised no cycle and reported no close
since.  Its queue has lost tasks from the front, and gained those of the timers that went off;
timers have only gone. -/
structure Drains (e : Engine α) (expiries : List Nat) (e' : Engine α) : Prop where
  closed : e'.decoupler.pacer.closed = true
  next : e'.decoupler.pacer.nextCycle = e.decoupler.pacer.nextCycle
  journal : ∃ notices, e'.journal = e.journal ++ notices ∧
    ∀ notice ∈ notices, notice.binds = false
  queue : e'.queue <:+ e.queue ++ expiries
  timers : (expiries ++ e'.timers.map Timer.cycle).Subperm (e.timers.map Timer.cycle)

section

variable {e e' e'' : Engine α}

theorem Drains.trans {first later : List Nat} (h : Drains e first e') (h' : Drains e' later e'') :
    Drains e (first ++ later) e'' := by
  constructor
  · exact h'.closed
  · exact h'.next.trans h.next
  · obtain ⟨notices, told, silent⟩ := h.journal
    obtain ⟨notices', told', silent'⟩ := h'.journal
    refine ⟨notices ++ notices', ?_, ?_⟩
    · rw [told', told, List.append_assoc]
    · intro notice member
      rcases List.mem_append.mp member with earlier | later
      · exact silent notice earlier
      · exact silent' notice later
  · obtain ⟨gone, split⟩ := h.queue
    have longer : e'.queue ++ later <:+ e.queue ++ (first ++ later) :=
      ⟨gone, by rw [← List.append_assoc, split, List.append_assoc]⟩
    exact h'.queue.trans longer
  · rw [List.append_assoc]
    exact ((List.subperm_append_left first).mpr h'.timers).trans h.timers

theorem drains_of_waiting {notices : List Notice} (closed : e'.decoupler.pacer.closed = true)
    (next : e'.decoupler.pacer.nextCycle = e.decoupler.pacer.nextCycle)
    (queue : e'.queue = e.queue) (timers : e'.timers = e.timers)
    (told : e'.journal = e.journal ++ notices)
    (silent : ∀ notice ∈ notices, notice.binds = false) : Drains e [] e' := by
  refine ⟨closed, next, ⟨notices, told, silent⟩, ?_, ?_⟩
  · exact ⟨[], by rw [queue, List.append_nil, List.nil_append]⟩
  · rw [timers]
    exact List.Subperm.refl _

theorem drains_refl (closed : e.decoupler.pacer.closed = true) : Drains e [] e :=
  drains_of_waiting closed rfl rfl rfl (List.append_nil _).symm (by simp)

theorem silent_one {notice : Notice} (silent : notice.binds = false) :
    ∀ other ∈ [notice], other.binds = false := by
  intro other member
  rw [List.mem_singleton.mp member]
  exact silent

/-! ## Calls -/

theorem drains_restocked (closed : e.decoupler.pacer.closed = true)
    (restocked : Restocked e e') : Drains e [] e' := by
  obtain ⟨_, _, _, notices, about, rfl⟩ := restocked
  refine drains_of_waiting closed rfl rfl rfl rfl ?_
  intro notice member
  exact Notice.binds_of_isAboutValues (about notice member)

theorem close_of_closed (closed : e.decoupler.pacer.closed = true) : e.close = e := by
  rw [close, if_pos closed]

theorem drains_signal (closed : e.decoupler.pacer.closed = true) (s : Signal) :
    Drains e [] (e.signal s) := by
  by_cases alive : e.isAlive = true
  · rw [signal, if_pos alive]
    simp only [Decoupler.signal, Pacer.signal_of_closed closed]
    exact drains_of_waiting closed rfl rfl rfl rfl (silent_one rfl)
  · rw [signal, if_neg alive]
    exact drains_refl closed

theorem drains_ready (closed : e.decoupler.pacer.closed = true) (cycle : Nat) :
    Drains e [] (e.ready cycle).1 := by
  rcases e.ready_effect cycle with
    ⟨_, same⟩ | ⟨_, _, same⟩ | ⟨_, _, violation, _, same⟩
  · rw [same]
    exact drains_refl closed
  · rw [same, Pacer.finish_of_closed closed]
    exact drains_of_waiting closed rfl rfl rfl (List.append_nil _).symm (by simp)
  · rw [same, Pacer.close_of_closed closed, violationNotices, if_pos closed]
    exact drains_of_waiting closed rfl rfl rfl rfl (silent_one rfl)

theorem drains_pause (closed : e.decoupler.pacer.closed = true) : Drains e [] e.pause := by
  by_cases held : e.held = true
  · rw [pause, if_pos held]
    exact drains_of_waiting closed rfl rfl rfl rfl (silent_one rfl)
  · rw [pause, if_neg held]
    exact drains_refl closed

theorem drains_resume (closed : e.decoupler.pacer.closed = true) : Drains e [] e.resume := by
  by_cases held : e.held = true
  · rw [resume, if_pos held]
    simp only [Decoupler.resume, Pacer.resume_of_closed closed]
    exact drains_of_waiting closed rfl rfl rfl rfl (silent_one rfl)
  · rw [resume, if_neg held]
    exact drains_refl closed

theorem drains_shut (closed : e.decoupler.pacer.closed = true) : Drains e [] e.shut := by
  have same : e.shut = e := by
    rw [shut, close_of_closed closed, ite_self]
  rw [same]
  exact drains_refl closed

theorem drains_drop (closed : e.decoupler.pacer.closed = true) : Drains e [] e.drop := by
  by_cases held : e.held = true
  · rw [drop, if_pos held, closed, Bool.not_true, Bool.and_false, if_neg Bool.false_ne_true]
    exact drains_of_waiting closed rfl rfl rfl (List.append_nil _).symm (by simp)
  · rw [drop, if_neg held]
    exact drains_refl closed

theorem drains_call (closed : e.decoupler.pacer.closed = true) (action : Action α) :
    Drains e [] (e.act action).1 := by
  have producer : action.isOfProducer = true → Drains e [] (e.act action).1 := by
    intro producers
    obtain ⟨e', restocked, effect⟩ := e.producer_effect producers
    have moved := drains_restocked closed restocked
    rcases effect with same | ⟨s, same⟩
    · rw [same]
      exact moved
    · rw [same]
      exact moved.trans (drains_signal moved.closed s)
  cases action with
  | spend cycle => exact drains_ready closed cycle
  | ready cycle =>
      by_cases held : e.held = true
      · rw [act, if_pos held]
        exact drains_ready closed cycle
      · rw [act, if_neg held]
        exact drains_refl closed
  | pause => exact drains_pause closed
  | resume => exact drains_resume closed
  | close => exact drains_shut closed
  | drop => exact drains_drop closed
  | _ => exact producer rfl

/-! ## Tasks and timers -/

theorem drains_start (closed : e.decoupler.pacer.closed = true) (cycle : Nat) :
    (e.startTask cycle).2 = none ∧ Drains e [] (e.startTask cycle).1 := by
  rcases e.startTask_cases cycle with
    ⟨_, same⟩ | ⟨_, _, same⟩ | ⟨_, isOpen, _⟩ | ⟨_, isOpen, _⟩
  · rw [same]
    exact ⟨rfl, drains_refl closed⟩
  · rw [same]
    exact ⟨rfl, drains_of_waiting closed rfl rfl rfl rfl (silent_one rfl)⟩
  · rw [closed] at isOpen
    cases isOpen
  · rw [closed] at isOpen
    cases isOpen

/-- A cycle that started before may still deliver its event. -/
theorem drains_conclude (closed : e.decoupler.pacer.closed = true) (cycle : Nat)
    (snapshot : Snapshot) (values : List α) :
    Drains e [] (e.concludeTask cycle snapshot values).1 ∧
      ∀ event, (e.concludeTask cycle snapshot values).2 = some event → event.cycle = cycle := by
  rcases e.concludeTask_cases cycle snapshot values with
    ⟨_, _, same⟩ | ⟨_, _, same⟩ | ⟨_, notices, which, same⟩
  · rw [same, Pacer.finish_of_closed closed]
    refine ⟨drains_of_waiting closed rfl rfl rfl rfl (silent_one rfl), ?_⟩
    intro event delivers
    cases delivers
  · rw [same]
    refine ⟨drains_of_waiting closed rfl rfl rfl rfl (silent_one rfl), ?_⟩
    intro event delivers
    rw [← Option.some.inj delivers]
    rfl
  · rw [same]
    have silent : ∀ notice ∈ notices, notice.binds = false := by
      rcases which with rfl | rfl
      · simp
      · exact silent_one rfl
    refine ⟨drains_of_waiting closed rfl rfl rfl rfl silent, ?_⟩
    intro event delivers
    cases delivers

theorem drains_submit (closed : e.decoupler.pacer.closed = true) {refusal : Refusal}
    (refused : e.refusal = some refusal) (cycle : Nat) : Drains e [] (e.submit cycle) := by
  have shut : (e.note [.couldNotSubmit e.subject cycle refusal]).close =
      e.note [.couldNotSubmit e.subject cycle refusal] := close_of_closed closed
  rw [submit_of_refused refused, shut]
  exact drains_of_waiting closed rfl rfl rfl rfl (silent_one rfl)

theorem drains_fire (closed : e.decoupler.pacer.closed = true) (index : Nat) :
    Drains e (e.expiry? index).toList (e.fire index) := by
  cases expires : e.timers[index]? with
  | none =>
      simp only [expiry?, fire, expires, Option.map_none, ite_self]
      exact drains_refl closed
  | some timer =>
      have parted := map_eraseIdx_perm Timer.cycle expires
      have gone : Drains e [] { e with timers := e.timers.eraseIdx index } := by
        refine ⟨closed, rfl, ⟨[], (List.append_nil _).symm, by simp⟩, ?_, ?_⟩
        · exact ⟨[], (List.append_nil _).symm⟩
        · exact (List.sublist_cons_self _ _).subperm.trans parted.subperm
      by_cases alive : e.isAlive = true
      · have fired : e.fire index =
            ({ e with timers := e.timers.eraseIdx index } : Engine α).submit timer.cycle := by
          simp only [fire, expires]
          exact if_pos alive
        cases refused : e.refusal with
        | none =>
            have expiry : e.expiry? index = some timer.cycle := by
              simp [expiry?, alive, refused, expires]
            have accepts : ({ e with timers := e.timers.eraseIdx index } : Engine α).refusal =
                none := refused
            rw [fired, expiry, submit_of_accepts accepts]
            exact ⟨closed, rfl, ⟨[], (List.append_nil _).symm, by simp⟩, List.suffix_refl _,
              parted.subperm⟩
        | some refusal =>
            have expiry : e.expiry? index = none := by simp [expiry?, refused]
            rw [fired, expiry]
            exact gone.trans (drains_submit gone.closed refused timer.cycle)
      · have fired : e.fire index = { e with timers := e.timers.eraseIdx index } := by
          simp only [fire, expires]
          exact if_neg alive
        have expiry : e.expiry? index = none := by simp [expiry?, alive]
        rw [fired, expiry]
        exact gone

theorem drains_cancel (closed : e.decoupler.pacer.closed = true) :
    Drains e [] e.cancelTimers := by
  rw [cancelTimers, if_pos (isClosed_of_closed closed)]
  refine ⟨closed, rfl, ⟨_, rfl, ?_⟩, ?_, List.nil_subperm⟩
  · intro notice member
    obtain ⟨timer, _, rfl⟩ := List.mem_map.mp member
    rfl
  · exact ⟨[], (List.append_nil _).symm⟩

theorem drains_move (closed : e.decoupler.pacer.closed = true) {m : Move α} (other : m ≠ .run)
    (unfired : ∀ index, m ≠ .fire index) : Drains e [] (e.move m).1 := by
  cases m with
  | call action => exact drains_call closed action
  | run => exact absurd rfl other
  | returned => exact drains_of_waiting closed rfl rfl rfl (List.append_nil _).symm (by simp)
  | fire index => exact absurd rfl (unfired index)
  | cancel => exact drains_cancel closed
  | refuse refusal => exact drains_of_waiting closed rfl rfl rfl (List.append_nil _).symm (by simp)
  | elapse nanos => exact drains_of_waiting closed rfl rfl rfl (List.append_nil _).symm (by simp)

theorem deliveries_of_move {m : Move α} (other : m ≠ .run) :
    Turn.deliveries (e.turn? m).toList = [] := by
  have readied : ∀ cycle, Turn.deliveries (e.readied? cycle).toList = [] := by
    intro cycle
    rw [readied?]
    split <;> rfl
  cases m with
  | call action =>
      cases action with
      | spend cycle => exact readied cycle
      | ready cycle =>
          rw [turn?]
          split
          · exact readied cycle
          · rfl
      | _ => rfl
  | run => exact absurd rfl other
  | _ => rfl

end

/-! ## Scenes -/

namespace Scene

def expiry? (s : Scene α) : Step α → Option Nat
  | .move (.fire index) => s.engine.expiry? index
  | _ => none

def expiries (s : Scene α) : List (Step α) → List Nat
  | [] => []
  | step :: rest => (s.expiry? step).toList ++ (s.step step).1.expiries rest

end Scene

/-- What is left over in a closed scene runs out, and the events that are delivered are those of
tasks that were under way. -/
structure RunsOut (s : Scene α) (turns : List (Turn α)) (expiries : List Nat) (later : Scene α) :
    Prop where
  drains : Drains s.engine expiries later.engine
  tasks : (Turn.deliveries turns ++ later.begun).Subperm s.begun

section

variable {s t u : Scene α} {turns turn : List (Turn α)} {expiries expiry : List Nat}

theorem runsOut_refl (closed : s.engine.decoupler.pacer.closed = true) : RunsOut s [] [] s :=
  ⟨drains_refl closed, List.Subperm.refl _⟩

theorem RunsOut.trans (h : RunsOut s turns expiries t) (h' : RunsOut t turn expiry u) :
    RunsOut s (turns ++ turn) (expiries ++ expiry) u := by
  refine ⟨h.drains.trans h'.drains, ?_⟩
  rw [Turn.deliveries, List.filterMap_append, List.append_assoc]
  exact ((List.subperm_append_left _).mpr h'.tasks).trans h.tasks

theorem runsOut_start (closed : s.engine.decoupler.pacer.closed = true) :
    RunsOut s (s.step .start).2.toList [] (s.step .start).1 := by
  cases queue : s.engine.queue with
  | nil =>
      simp only [Scene.step, queue]
      exact runsOut_refl closed
  | cons cycle rest =>
      have taken : Drains s.engine [] { s.engine with queue := rest } := by
        refine ⟨closed, rfl, ⟨[], (List.append_nil _).symm, by simp⟩, ?_, List.Subperm.refl _⟩
        rw [queue, List.append_nil]
        exact List.suffix_cons cycle rest
      obtain ⟨nothing, moved⟩ := drains_start taken.closed cycle
      have nobody : ((s.tasks ++ []).map CycleTask.cycle).Subperm s.begun := by
        rw [List.append_nil]
        exact List.Subperm.refl _
      simp only [Scene.step, queue, nothing]
      exact ⟨taken.trans moved, nobody⟩

theorem runsOut_proceed (closed : s.engine.decoupler.pacer.closed = true) (index : Nat) :
    RunsOut s (s.step (.proceed index)).2.toList [] (s.step (.proceed index)).1 := by
  cases found : s.tasks[index]? with
  | none =>
      simp only [Scene.step, found]
      exact runsOut_refl closed
  | some task =>
      cases batch : task.batch with
      | none =>
          have kept : ((s.tasks.set index
              { task with batch := some s.engine.readTask.2 }).map
                CycleTask.cycle).Subperm s.begun := by
            rw [Scene.begun_set found]
          simp only [Scene.step, found, batch]
          exact ⟨drains_restocked closed s.engine.restocked_read, kept⟩
      | some values =>
          have parted := map_eraseIdx_perm CycleTask.cycle found
          obtain ⟨moved, ofCycle⟩ := drains_conclude closed task.cycle task.snapshot values
          simp only [Scene.step, found, batch]
          refine ⟨moved, ?_⟩
          cases delivers : (s.engine.concludeTask task.cycle task.snapshot values).2 with
          | none => exact (List.sublist_cons_self _ _).subperm.trans parted.subperm
          | some event =>
              rw [← ofCycle event delivers] at parted
              exact parted.subperm

theorem runsOut_stage (closed : s.engine.decoupler.pacer.closed = true) {step : Scene.Step α}
    (stage : step.isStage = true) :
    RunsOut s (s.step step).2.toList [] (s.step step).1 := by
  cases step with
  | move m => cases stage
  | start => exact runsOut_start closed
  | proceed index => exact runsOut_proceed closed index

theorem expiry_of_unfired {m : Move α} (unfired : ∀ index, m ≠ .fire index) :
    s.expiry? (.move m) = none := by
  cases m with
  | fire index => exact absurd rfl (unfired index)
  | _ => rfl

theorem runsOut_move (closed : s.engine.decoupler.pacer.closed = true) {m : Move α}
    (other : m ≠ .run) :
    RunsOut s (s.step (.move m)).2.toList (s.expiry? (.move m)).toList (s.step (.move m)).1 := by
  by_cases permitted : s.permits m = true
  · have unmoved : (Turn.deliveries (s.engine.turn? m).toList ++ s.begun).Subperm s.begun := by
      rw [deliveries_of_move other]
      exact List.Subperm.refl _
    simp only [Scene.step, if_pos permitted]
    by_cases fires : ∃ index, m = .fire index
    · obtain ⟨index, rfl⟩ := fires
      exact ⟨drains_fire closed index, unmoved⟩
    · have unfired : ∀ index, m ≠ .fire index := fun index fire => fires ⟨index, fire⟩
      rw [expiry_of_unfired unfired]
      exact ⟨drains_move closed other unfired, unmoved⟩
  · have unfired : ∀ index, m ≠ .fire index := by
      rintro index rfl
      exact permitted rfl
    simp only [Scene.step, if_neg permitted, expiry_of_unfired unfired]
    exact runsOut_refl closed

theorem runsOut_step (closed : s.engine.decoupler.pacer.closed = true) (step : Scene.Step α) :
    RunsOut s (s.step step).2.toList (s.expiry? step).toList (s.step step).1 := by
  by_cases running : step = .move .run
  · obtain ⟨same, turns⟩ := s.step_run
    rw [running, same, turns, ← List.nil_append (s.turns _)]
    -- what has run out after some stages goes on running out in the next
    exact Scene.stages_induct (fun turns t => RunsOut s turns [] t)
      (fun stage h => h.trans (runsOut_stage h.drains.closed stage))
      s.isStage_of_mem_stages (runsOut_refl closed)
  · cases step with
    | start => exact runsOut_start closed
    | proceed index => exact runsOut_proceed closed index
    | move m => exact runsOut_move closed fun run => running (congrArg _ run)

/-- From the close on, every list of steps lets the scene run out. -/
theorem runsOut_after (closed : s.engine.decoupler.pacer.closed = true)
    (steps : List (Scene.Step α)) :
    RunsOut s (s.turns steps) (s.expiries steps) (s.after steps) := by
  induction steps generalizing s with
  | nil => exact runsOut_refl closed
  | cons step rest ih =>
      have first := runsOut_step closed step
      exact first.trans (ih first.drains.closed)

/-- Once the timers have been given up, no task enters the queue. -/
theorem queue_of_cancel (closed : s.engine.decoupler.pacer.closed = true)
    (steps : List (Scene.Step α)) :
    (s.after (.move .cancel :: steps)).engine.queue <:+ s.engine.queue := by
  have cancelled : (s.step (.move .cancel)).1.engine.timers = [] := by
    simp [Scene.step, Scene.permits, move, cancelTimers, isClosed_of_closed closed, note]
  have stays := (runsOut_step closed (.move .cancel)).drains.closed
  have timers := (runsOut_after stays steps).drains.timers
  have unfired : (s.step (.move .cancel)).1.expiries steps = [] := by
    rw [cancelled, List.map_nil] at timers
    exact (List.append_eq_nil_iff.mp (List.subperm_nil.mp timers)).1
  have handed : s.expiry? (.move .cancel) = none :=
    expiry_of_unfired fun _ same => (by cases same)
  have queue := (runsOut_after closed (.move .cancel :: steps)).drains.queue
  rw [Scene.expiries, handed, unfired, Option.toList_none, List.append_nil,
    List.append_nil] at queue
  exact queue

end

/-! ## Every way of closing -/

theorem closed_close (e : Engine α) : e.close.decoupler.pacer.closed = true := by
  rcases e.close_cases with ⟨closed, same⟩ | ⟨_, same⟩
  · rw [same]
    exact closed
  · rw [same]
    exact Pacer.closed_close _

theorem closed_shut {e : Engine α} (held : e.held = true) :
    e.shut.decoupler.pacer.closed = true := by
  rw [shut, if_pos held]
  exact e.closed_close

theorem closed_ready {e : Engine α} {cycle : Nat} {violation : ProtocolViolation}
    (refused : (e.ready cycle).2 = .error violation) :
    (e.ready cycle).1.decoupler.pacer.closed = true := by
  rcases e.ready_effect cycle with
    ⟨_, same⟩ | ⟨_, _, same⟩ | ⟨_, _, _, _, same⟩
  · rw [same] at refused
    cases refused
  · rw [same] at refused
    cases refused
  · rw [same]
    exact Pacer.closed_close _

theorem closed_submit {e : Engine α} {refusal : Refusal} (refused : e.refusal = some refusal)
    (cycle : Nat) : (e.submit cycle).decoupler.pacer.closed = true := by
  rw [submit_of_refused refused]
  exact closed_close _

theorem closed_drop {e : Engine α} (held : e.held = true) (closes : e.closesOnDrop = true) :
    e.drop.decoupler.pacer.closed = true := by
  rw [drop, if_pos held, closes, Bool.true_and]
  cases closed : e.decoupler.pacer.closed with
  | true => exact closed
  | false => exact closed_close _

/-- The owner, a violation, a refused submission and the drop of a subscription each close the
decoupler, and a call of its pacer tells whether it was the first to do so.  Once it is closed it
stays closed, whatever happens.  No cycle is promised any more and no close reported.  No task enters
the queue but that of a timer that was running and goes off before it is given up; from there on, none
does.  Events are delivered only of cycles that had started before.  No call of the pacer schedules a
cycle, hands out a snapshot or is the first to close. -/
theorem closing_final (s : Scene α) :
    (s.engine.held = true → s.engine.shut.decoupler.pacer.closed = true) ∧
      (∀ cycle violation, (s.engine.ready cycle).2 = .error violation →
        (s.engine.ready cycle).1.decoupler.pacer.closed = true) ∧
      (∀ cycle refusal, s.engine.refusal = some refusal →
        (s.engine.submit cycle).decoupler.pacer.closed = true) ∧
      (s.engine.held = true → s.engine.closesOnDrop = true →
        s.engine.drop.decoupler.pacer.closed = true) ∧
      (s.engine.decoupler.pacer.step .close).2 = .flag !s.engine.decoupler.pacer.closed ∧
      (s.engine.decoupler.pacer.closed = true → ∀ steps,
        RunsOut s (s.turns steps) (s.expiries steps) (s.after steps) ∧
          (s.after (.move .cancel :: steps)).engine.queue <:+ s.engine.queue ∧
          ∀ calls,
            ((s.after steps).engine.decoupler.pacer.after calls).closed = true ∧
              ∀ exchange ∈ (s.after steps).engine.decoupler.pacer.exchanges calls,
                Pacer.grants exchange = false) := by
  refine ⟨closed_shut, fun _ _ => closed_ready, fun cycle _ refused => closed_submit refused cycle,
    closed_drop, congrArg Prod.snd (Pacer.step_close _), fun closed steps => ?_⟩
  have out := runsOut_after closed steps
  exact ⟨out, queue_of_cancel closed steps,
    fun calls => Pacer.closed_after out.drains.closed calls⟩

/-- A rate-capped scene that is closed when its timer has fallen due. -/
def closedInTime : Scene Nat :=
  (Scene.new "s" (.latest .empty) (some 10) none true true).after
    [.move (.call (.write (some 5))), .move .run, .move .returned, .move (.call (.spend 1)),
      .move (.call (.write (some 6))), .move (.elapse 10), .move (.call .close)]

/-- The timer hands in its task although the decoupler is closed, and the task is dropped. -/
theorem late_timer_submits :
    closedInTime.engine.decoupler.pacer.closed = true ∧ closedInTime.engine.queue = [] ∧
      (closedInTime.after [.move (.fire 0)]).engine.queue = [2] ∧
      (closedInTime.after [.move (.fire 0), .start]).tasks.length = 0 := by decide

theorem closing_final_late_timer :
    closedInTime.engine.decoupler.pacer.closed = true ∧
      (closedInTime.after [.move (.fire 0), .start]).engine.decoupler.pacer.closed = true ∧
      closedInTime.turns [.move (.fire 0), .start] = [] ∧
      closedInTime.expiries [.move (.fire 0), .start] = [2] ∧
      (closedInTime.after [.move .cancel, .move (.fire 0), .start]).engine.queue <:+
        closedInTime.engine.queue := by
  have closed : closedInTime.engine.decoupler.pacer.closed = true := by decide
  obtain ⟨out, cancelled, -⟩ :=
    (closing_final closedInTime).2.2.2.2.2 closed [.move (.fire 0), .start]
  exact ⟨closed, out.drains.closed, by decide, by decide, cancelled⟩

end Engine

end Cadence
