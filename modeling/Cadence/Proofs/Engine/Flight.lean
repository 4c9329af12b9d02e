import Cadence.Proofs.Engine.Places

/-!
# One cycle at a time

An engine is coherent if its pacer is in step with its queue, its timers, the tasks under way and
what its journal and its consumer have seen.  Every operation keeps an engine coherent, and so does
every step of a scene.
-/

set_option autoImplicit false

namespace Cadence.Engine

variable {α : Type}

/-! ## Engines -/

/-- An engine is in step.  The cycles in `loose` have been taken from where they waited, or were not
yet put there; those in `untold` are scheduled, but not yet reported. -/
structure Coherent (turns : List (Turn α)) (begun loose untold : List Nat) (e : Engine α) :
    Prop where
  inStep : InStep turns begun (e.outstanding ++ loose) (scheduled e.journal ++ untold)
    e.decoupler.pacer.phase e.isClosed e.decoupler.pacer.nextCycle
  /-- Every task under way keeps the decoupler alive. -/
  awake : begun.length ≤ e.running

theorem isClosed_of_isAlive {e : Engine α} (alive : e.isAlive = true) :
    e.isClosed = e.decoupler.pacer.closed := by
  rw [isClosed, alive]
  rfl

theorem isAlive_of_running {e : Engine α} (running : 0 < e.running) : e.isAlive = true := by
  rw [isAlive, decide_eq_true running, Bool.or_true]

theorem isAlive_of_held {e : Engine α} (held : e.held = true) : e.isAlive = true := by
  rw [isAlive, held, Bool.true_or]

theorem isClosed_of_gone {e : Engine α} (gone : e.isAlive = false) : e.isClosed = true := by
  rw [isClosed, gone]
  rfl

theorem isClosed_of_closed {e : Engine α} (isClosed : e.decoupler.pacer.closed = true) :
    e.isClosed = true := by
  rw [Engine.isClosed, isClosed, Bool.or_true]

theorem isClosed_close (e : Engine α) : e.close.isClosed = true := by
  apply isClosed_of_closed
  rcases e.close_cases with ⟨isClosed, h⟩ | ⟨_, h⟩
  · rw [h]
    exact isClosed
  · rw [h]
    exact Pacer.closed_close _

theorem scheduled_silent (journal : List Notice) {notices : List Notice}
    (silent : scheduled notices = []) : scheduled (journal ++ notices) = scheduled journal := by
  rw [scheduled_append, silent, List.append_nil]

section

variable {turns : List (Turn α)} {begun loose untold : List Nat} {e e' : Engine α}

theorem Coherent.note (h : Coherent turns begun loose untold e) {notices : List Notice}
    (silent : scheduled notices = []) : Coherent turns begun loose untold (e.note notices) := by
  refine ⟨?_, h.awake⟩
  have inStep := h.inStep
  rw [← scheduled_silent e.journal silent] at inStep
  exact inStep

/-- Nobody's turn has come. -/
theorem Coherent.silent (h : Coherent turns begun loose untold e) :
    Coherent (turns ++ []) begun loose untold e := by
  rw [List.append_nil]
  exact h

theorem coherent_restocked (h : Coherent turns begun loose untold e) (restocked : Restocked e e') :
    Coherent turns begun loose untold e' := by
  obtain ⟨buffer, source, evictions, notices, about, rfl⟩ := restocked
  have silent : scheduled notices = [] := by
    rw [scheduled, List.filterMap_eq_nil_iff]
    intro notice member
    exact Notice.scheduled_of_isAboutValues (about notice member)
  exact ⟨(h.note silent).inStep, h.awake⟩

theorem coherent_close (h : Coherent turns begun loose untold e) :
    Coherent turns begun loose untold e.close := by
  have shut := e.isClosed_close
  rcases e.close_cases with ⟨_, same⟩ | ⟨_, same⟩
  · rw [same]
    exact h
  · have told : Coherent turns begun loose untold (e.note [.closed e.subject]) := h.note rfl
    rw [same] at shut ⊢
    refine ⟨?_, h.awake⟩
    rw [shut]
    exact told.inStep.close

theorem coherent_forget (h : Coherent turns begun loose untold e) (isClosed : e.isClosed = true) :
    Coherent turns begun [] untold e := by
  refine ⟨?_, h.awake⟩
  have inStep := h.inStep
  rw [isClosed] at inStep ⊢
  exact inStep.forget (by rw [List.append_nil]; exact List.sublist_append_left _ _)

theorem coherent_submit {cycle : Nat} (h : Coherent turns begun [cycle] untold e) :
    Coherent turns begun [] untold (e.submit cycle) := by
  cases refused : e.refusal with
  | none =>
      rw [submit_of_accepts refused]
      refine ⟨?_, h.awake⟩
      rw [List.append_nil]
      exact h.inStep.perm (e.outstanding_submit cycle)
  | some refusal =>
      rw [submit_of_refused refused]
      have told : Coherent turns begun [cycle] untold
          (e.note [.couldNotSubmit e.subject cycle refusal]) := h.note rfl
      exact coherent_forget (coherent_close told) (isClosed_close _)

theorem coherent_apply {asked : Transition}
    (h : Coherent turns begun asked.cycle?.toList asked.cycle?.toList e) :
    Coherent turns begun [] [] (e.apply asked) := by
  rcases e.apply_cases asked with
    ⟨nothing, tally, same⟩ | ⟨cycle, tally, notice, asks, tells, rest⟩
  · rw [nothing] at h
    rw [same]
    have told : Coherent turns begun [] [] (e.note []) := h.note rfl
    exact ⟨told.inStep, h.awake⟩
  · rw [asks, Option.toList_some] at h
    have told : Coherent turns begun [cycle] [] (e.counted tally [notice]) := by
      refine ⟨?_, h.awake⟩
      have inStep := h.inStep
      have reported : scheduled (e.journal ++ [notice]) = scheduled e.journal ++ [cycle] := by
        rw [scheduled_append, scheduled, scheduled, List.filterMap_cons_some tells]
        rfl
      rw [← reported] at inStep
      rw [List.append_nil]
      exact inStep
    rcases rest with same | ⟨due, same⟩
    · rw [same]
      exact coherent_submit told
    · rw [same]
      refine ⟨?_, h.awake⟩
      have inStep := told.inStep
      rw [outstanding, List.append_assoc] at inStep
      rw [outstanding, List.map_append, List.append_nil]
      exact inStep

theorem coherent_ask (alive : e.isAlive = true) (awake : begun.length ≤ e.running)
    {decoupler : Decoupler α} {asked : Transition} {journal : List Notice}
    (silent : scheduled journal = scheduled e.journal)
    (asks : InStep turns begun (e.outstanding ++ asked.cycle?.toList)
      (scheduled e.journal ++ asked.cycle?.toList) decoupler.pacer.phase decoupler.pacer.closed
      decoupler.pacer.nextCycle) :
    Coherent turns begun [] []
      (({ e with decoupler := decoupler, journal := journal } : Engine α).apply asked) := by
  apply coherent_apply
  refine ⟨?_, awake⟩
  have isClosed :
      ({ e with decoupler := decoupler, journal := journal } : Engine α).isClosed =
        decoupler.pacer.closed := isClosed_of_isAlive alive
  rw [isClosed]
  rw [← silent] at asks
  exact asks

theorem coherent_of_alive (alive : e.isAlive = true) (awake : begun.length ≤ e.running)
    {announced : List Nat} (told : scheduled e.journal = announced)
    (inStep : InStep turns begun e.outstanding announced e.decoupler.pacer.phase
      e.decoupler.pacer.closed e.decoupler.pacer.nextCycle) : Coherent turns begun [] [] e := by
  refine ⟨?_, awake⟩
  rw [isClosed_of_isAlive alive, told, List.append_nil, List.append_nil]
  exact inStep

theorem Coherent.alive_inStep (h : Coherent turns begun [] [] e) (alive : e.isAlive = true) :
    InStep turns begun e.outstanding (scheduled e.journal) e.decoupler.pacer.phase
      e.decoupler.pacer.closed e.decoupler.pacer.nextCycle := by
  have inStep := h.inStep
  rw [isClosed_of_isAlive alive, List.append_nil, List.append_nil] at inStep
  exact inStep

theorem coherent_signal (h : Coherent turns begun [] [] e) (s : Signal) :
    Coherent turns begun [] [] (e.signal s) := by
  by_cases alive : e.isAlive = true
  · rw [signal, if_pos alive]
    have asks := (h.alive_inStep alive).pacer_signal s e.now
    exact coherent_ask alive h.awake (scheduled_silent e.journal rfl) asks
  · rw [signal, if_neg alive]
    exact h

theorem coherent_resume (h : Coherent turns begun [] [] e) : Coherent turns begun [] [] e.resume := by
  by_cases held : e.held = true
  · have alive := isAlive_of_held held
    rw [resume, if_pos held]
    have asks := (h.alive_inStep alive).pacer_resume e.now
    exact coherent_ask alive h.awake (scheduled_silent e.journal rfl) asks
  · rw [resume, if_neg held]
    exact h

theorem coherent_pause (h : Coherent turns begun [] [] e) : Coherent turns begun [] [] e.pause := by
  by_cases held : e.held = true
  · rw [pause, if_pos held]
    have told : Coherent turns begun [] [] (e.note [.paused e.subject]) := h.note rfl
    exact ⟨told.inStep, h.awake⟩
  · rw [pause, if_neg held]
    exact h

/-- Whoever lets go of the decoupler may be the last one. -/
theorem coherent_letGo (h : Coherent turns begun [] [] e) (held : Bool) (running : Nat)
    (awake : begun.length ≤ running)
    (shuts : e.isAlive = false → ({ e with held := held, running := running } : Engine α).isAlive =
      false) :
    Coherent turns begun [] [] { e with held := held, running := running } := by
  refine ⟨?_, awake⟩
  cases alive : ({ e with held := held, running := running } : Engine α).isAlive with
  | true =>
      have was : e.isAlive = true := by
        by_contra gone
        rw [shuts (Bool.not_eq_true _ ▸ gone)] at alive
        cases alive
      rw [isClosed_of_isAlive alive, List.append_nil, List.append_nil]
      exact h.alive_inStep was
  | false =>
      rw [isClosed_of_gone alive]
      exact h.inStep.shut

theorem coherent_unheld (h : Coherent turns begun [] [] e) :
    Coherent turns begun [] [] { e with held := false } := by
  refine coherent_letGo h false e.running h.awake ?_
  intro gone
  rw [isAlive, Bool.or_eq_false_iff] at gone ⊢
  exact ⟨rfl, gone.2⟩

theorem coherent_drop (h : Coherent turns begun [] [] e) : Coherent turns begun [] [] e.drop := by
  by_cases held : e.held = true
  · rw [drop, if_pos held]
    split
    · have told : Coherent turns begun [] [] (e.note [.closingDropped e.subject]) := h.note rfl
      exact coherent_unheld (coherent_close told)
    · exact coherent_unheld h
  · rw [drop, if_neg held]
    exact h

theorem coherent_returned (h : Coherent turns begun [] [] e) (under : begun.length < e.running) :
    Coherent turns begun [] [] e.returned := by
  refine coherent_letGo h e.held (e.running - 1) (by omega) ?_
  intro gone
  rw [isAlive, Bool.or_eq_false_iff, decide_eq_false_iff_not] at gone ⊢
  exact ⟨gone.1, fun positive => gone.2 (by omega)⟩

theorem coherent_ready (h : Coherent turns begun [] [] e) (cycle : Nat) :
    Coherent (turns ++ (e.readied? cycle).toList) begun [] [] (e.ready cycle).1 := by
  rcases e.ready_effect cycle with
    ⟨gone, same⟩ | ⟨alive, inFlight, same⟩ | ⟨alive, _, violation, _, same⟩
  · have nothing : e.readied? cycle = none := by simp [readied?, gone]
    rw [nothing, same, Option.toList_none, List.append_nil]
    exact h
  · have turn : e.readied? cycle = some (.readied cycle) := by
      simp [readied?, alive, same, Except.isOk, Except.toBool]
    have inStep := h.alive_inStep alive
    rw [inFlight] at inStep
    have asks := inStep.ready.pacer_finish e.now
    rw [turn, same]
    exact coherent_ask alive h.awake rfl asks
  · have nothing : e.readied? cycle = none := by
      simp [readied?, same, Except.isOk, Except.toBool]
    have silent : scheduled (e.violationNotices violation) = [] := by
      rw [violationNotices]
      split <;> rfl
    have told := h.note silent
    rw [nothing, same, Option.toList_none, List.append_nil]
    refine ⟨?_, h.awake⟩
    have shut : ((e.paced e.decoupler.pacer.close.1).counted
        { e.decoupler.tally with violations := e.decoupler.tally.violations + 1 }
        (e.violationNotices violation)).isClosed = true :=
      isClosed_of_closed (Pacer.closed_close _)
    rw [shut]
    exact told.inStep.close

theorem coherent_fire (h : Coherent turns begun [] [] e) (index : Nat) :
    Coherent turns begun [] [] (e.fire index) := by
  cases expires : e.timers[index]? with
  | none =>
      simp only [fire, expires]
      exact h
  | some timer =>
      have expired : Coherent turns begun [timer.cycle] []
          { e with timers := e.timers.eraseIdx index } := by
        refine ⟨?_, h.awake⟩
        have inStep := h.inStep
        rw [List.append_nil (outstanding e)] at inStep
        exact inStep.perm (outstanding_expired expires)
      simp only [fire, expires]
      split
      · exact coherent_submit expired
      · rename_i gone
        exact coherent_forget expired (isClosed_of_gone (Bool.not_eq_true _ ▸ gone))

theorem coherent_cancel (h : Coherent turns begun [] [] e) :
    Coherent turns begun [] [] e.cancelTimers := by
  cases isClosed : e.isClosed with
  | false =>
      simp only [cancelTimers, isClosed, Bool.false_eq_true, if_false]
      exact h
  | true =>
      have silent : scheduled (e.timers.map fun timer => .deferralCancelled timer.cycle) = [] := by
        simp [scheduled, Notice.scheduled?]
      have told := (h.note silent).inStep
      simp only [cancelTimers, isClosed, if_true]
      refine ⟨?_, h.awake⟩
      have shut : (({ e with timers := [] } : Engine α).note
          (e.timers.map fun timer => .deferralCancelled timer.cycle)).isClosed = true := isClosed
      have was : (e.note (e.timers.map fun timer => .deferralCancelled timer.cycle)).isClosed =
          true := isClosed
      rw [was] at told
      rw [shut]
      refine told.forget ?_
      rw [List.append_nil, List.append_nil]
      exact List.Sublist.append_left (List.nil_sublist _) e.queue

end

/-! ## Scenes -/

section

variable {turns : List (Turn α)} {s : Scene α}

theorem Coherent.task (h : Coherent turns s.begun [] [] s.engine) {index : Nat}
    {task : CycleTask α} (found : s.tasks[index]? = some task) :
    s.tasks = [task] ∧ index = 0 ∧
      s.engine.decoupler.pacer.phase = .inFlight task.cycle false ∧ s.engine.isAlive = true := by
  have awake := h.awake
  have placed : s.tasks.map CycleTask.cycle = s.engine.decoupler.pacer.phase.begun :=
    h.inStep.tasks
  obtain ⟨inside, is⟩ := List.getElem?_eq_some_iff.mp found
  have alone : s.tasks.length ≤ 1 := by
    rw [← List.length_map CycleTask.cycle, placed]
    exact Phase.length_begun_le _
  have first : index = 0 := by omega
  subst first
  obtain ⟨only, same⟩ := List.length_eq_one_iff.mp (show s.tasks.length = 1 by omega)
  have head : only = task := by
    rw [same] at found
    exact Option.some.inj found
  subst head
  refine ⟨same, rfl, ?_, ?_⟩
  · rw [same] at placed
    exact Phase.inFlight_of_begun placed.symm
  · rw [Scene.begun, same] at awake
    exact isAlive_of_running awake

theorem coherent_start (h : Coherent turns s.begun [] [] s.engine) {cycle : Nat}
    {rest : List Nat} (queue : s.engine.queue = cycle :: rest) :
    Coherent turns
      (s.begun ++ ({ s.engine with queue := rest }.startTask cycle).2.toList.map CycleTask.cycle)
      [] [] ({ s.engine with queue := rest }.startTask cycle).1 := by
  have taken : Coherent turns s.begun [cycle] [] { s.engine with queue := rest } := by
    refine ⟨?_, h.awake⟩
    have inStep := h.inStep
    rw [List.append_nil (outstanding _)] at inStep
    exact inStep.perm (outstanding_taken queue)
  rcases startTask_cases { s.engine with queue := rest } cycle with
    ⟨gone, same⟩ | ⟨alive, isClosed, same⟩ | ⟨alive, isOpen, other, same⟩ |
      ⟨alive, isOpen, scheduled, same⟩
  · rw [same, Option.toList_none, List.map_nil, List.append_nil]
    exact coherent_forget taken (isClosed_of_gone gone)
  · rw [same, Option.toList_none, List.map_nil, List.append_nil]
    -- the close gave the cycle up, and the pacer learns it when the task comes
    have shut : ({ s.engine with queue := rest } : Engine α).isClosed = true :=
      isClosed_of_closed isClosed
    obtain ⟨_, free, idle⟩ := taken.inStep.of_waiting
    have told : Coherent turns s.begun [] []
        ({ s.engine with queue := rest }.note [.cycleDropped s.engine.subject cycle]) :=
      (coherent_forget taken shut).note rfl
    refine ⟨?_, h.awake⟩
    have inStep := told.inStep
    have was : ({ s.engine with queue := rest }.note
        [.cycleDropped s.engine.subject cycle]).isClosed = true := shut
    rw [was] at inStep
    have gaveUp := inStep.giveUp free idle
    rw [← was] at gaveUp
    exact gaveUp
  · have inStep := taken.inStep
    rw [isClosed_of_isAlive alive, isOpen] at inStep
    -- what waits while the decoupler is open is the scheduled cycle: no task is stale
    exact absurd inStep.scheduled_of_waiting other
  · rw [same]
    have inStep := taken.inStep
    rw [scheduled, isClosed_of_isAlive alive] at inStep
    have begins := inStep.begin
    have awake := h.awake
    refine ⟨?_, ?_⟩
    · rw [List.append_nil, isClosed_of_isAlive (isAlive_of_running (Nat.succ_pos _))]
      exact begins
    · rw [Option.toList_some, List.map_singleton, List.length_append, List.length_singleton]
      exact Nat.succ_le_succ awake

theorem coherent_conclude (h : Coherent turns s.begun [] [] s.engine) {index : Nat}
    {task : CycleTask α} (found : s.tasks[index]? = some task) (values : List α) :
    Coherent
      (turns ++ ((s.engine.concludeTask task.cycle task.snapshot values).2.map
        Turn.delivered).toList)
      ((s.tasks.eraseIdx index).map CycleTask.cycle) [] []
      (s.engine.concludeTask task.cycle task.snapshot values).1 := by
  obtain ⟨only, rfl, inFlight, alive⟩ := h.task found
  have begun : s.begun = [task.cycle] := by
    rw [Scene.begun, only]
    rfl
  have awake := h.awake
  have inStep := h.alive_inStep alive
  rw [begun] at inStep awake
  rw [inFlight] at inStep
  rw [only]
  rcases s.engine.concludeTask_cases task.cycle task.snapshot values with
    ⟨_, _, same⟩ | ⟨_, _, same⟩ | ⟨other, _⟩
  · rw [same, Option.map_none, Option.toList_none, List.append_nil]
    have asks := inStep.skip.pacer_finish s.engine.now
    have ended : Coherent turns [] [] []
        (((s.engine.paced (s.engine.decoupler.pacer.finish s.engine.now).1).note
          [.nothingToDeliver s.engine.subject task.cycle]).apply
            (s.engine.decoupler.pacer.finish s.engine.now).2) :=
      coherent_ask alive (Nat.zero_le _) (scheduled_silent s.engine.journal rfl) asks
    apply coherent_returned ended
    rw [running_apply]
    exact awake
  · rw [same, Option.map_some, Option.toList_some]
    have ofCycle : (Event.classify task.cycle task.snapshot values).cycle = task.cycle := rfl
    have delivers := inStep.deliver ofCycle
    exact coherent_of_alive alive (Nat.zero_le _) (scheduled_silent s.engine.journal rfl) delivers
  -- only its own task, or a call for its event, ends a cycle in flight
  · exact absurd inFlight (other false)

theorem coherent_call (h : Coherent turns s.begun [] [] s.engine) (action : Action α) :
    Coherent (turns ++ (s.engine.turn? (.call action)).toList) s.begun [] []
      (s.engine.act action).1 := by
  have producer : action.isOfProducer = true →
      Coherent (turns ++ []) s.begun [] [] (s.engine.act action).1 := by
    intro producers
    obtain ⟨e, restocked, effect⟩ := s.engine.producer_effect producers
    have kept := coherent_restocked h restocked
    rcases effect with same | ⟨signal, same⟩
    · rw [same]
      exact kept.silent
    · rw [same]
      exact (coherent_signal kept signal).silent
  cases action with
  | spend cycle => exact coherent_ready h cycle
  | ready cycle =>
      by_cases held : s.engine.held = true
      · simp only [turn?, act, if_pos held]
        exact coherent_ready h cycle
      · simp only [turn?, act, if_neg held]
        exact h.silent
  | pause => exact (coherent_pause h).silent
  | resume => exact (coherent_resume h).silent
  | close =>
      by_cases held : s.engine.held = true
      · simp only [act, shut, if_pos held]
        exact (coherent_close h).silent
      · simp only [act, shut, if_neg held]
        exact h.silent
  | drop => exact (coherent_drop h).silent
  | _ => exact producer rfl

theorem coherent_move (h : Coherent turns s.begun [] [] s.engine) {m : Move α}
    (permitted : s.permits m = true) (other : m ≠ .run) :
    Coherent (turns ++ (s.engine.turn? m).toList) s.begun [] [] (s.engine.move m).1 := by
  cases m with
  | call action => exact coherent_call h action
  | run => exact absurd rfl other
  | returned =>
      have under : s.begun.length < s.engine.running := by
        rw [Scene.begun, List.length_map]
        exact decide_eq_true_iff.mp permitted
      exact (coherent_returned h under).silent
  | fire index => exact (coherent_fire h index).silent
  | cancel => exact (coherent_cancel h).silent
  | refuse refusal => exact Coherent.silent ⟨h.inStep, h.awake⟩
  | elapse nanos => exact Coherent.silent ⟨h.inStep, h.awake⟩

theorem coherent_stage (h : Coherent turns s.begun [] [] s.engine) {step : Scene.Step α}
    (stage : step.isStage = true) :
    Coherent (turns ++ (s.step step).2.toList) (s.step step).1.begun [] []
      (s.step step).1.engine := by
  cases step with
  | move m => cases stage
  | start =>
      cases queue : s.engine.queue with
      | nil =>
          simp only [Scene.step, queue]
          exact h.silent
      | cons cycle rest =>
          simp only [Scene.step, queue, Scene.begun, List.map_append]
          exact (coherent_start h queue).silent
  | proceed index =>
      cases found : s.tasks[index]? with
      | none =>
          simp only [Scene.step, found]
          exact h.silent
      | some task =>
          cases batch : task.batch with
          | none =>
              have kept := coherent_restocked h s.engine.restocked_read
              rw [← Scene.begun_set found (some s.engine.readTask.2)] at kept
              simp only [Scene.step, found, batch]
              exact kept.silent
          | some values =>
              simp only [Scene.step, found, batch]
              exact coherent_conclude h found values

end

theorem coherent_kept :
    Scene.Kept fun (turns : List (Turn α)) s => Coherent turns s.begun [] [] s.engine where
  stage stage h := coherent_stage h stage
  move other permitted h := coherent_move h permitted other

theorem coherent_after (subject : String) (buffer : Buffer α) (minPeriod : Option Nat)
    (source : Option (ReadFunction α)) (hasRuntime closesOnDrop : Bool)
    (steps : List (Scene.Step α)) :
    let start := Scene.new subject buffer minPeriod source hasRuntime closesOnDrop
    Coherent (start.turns steps) (start.after steps).begun [] [] (start.after steps).engine := by
  intro start
  have new : Coherent [] start.begun [] [] start.engine := ⟨InStep.init _, Nat.le_refl 0⟩
  exact coherent_kept.after [] steps new

end Cadence.Engine
