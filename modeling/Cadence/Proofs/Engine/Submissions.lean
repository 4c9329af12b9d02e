import Cadence.Proofs.Engine.Carried
import Cadence.Proofs.Engine.Closing

/-!
# What an engine hands to its dispatch

Each operation hands at most a few cycles to the dispatch, which takes all of them or, if it takes
no tasks, none; then the decoupler is closed.  A cycle that is handed over is the one that has just
been scheduled, or that of a timer, so that its event cannot have been delivered before.
-/

set_option autoImplicit false

namespace Cadence

def Notice.refused? : Notice → Option Nat
  | couldNotSubmit _ cycle _ => some cycle
  | _ => none

theorem Notice.refused_of_isAboutValues {notice : Notice} (about : notice.isAboutValues = true) :
    notice.refused? = none := by
  cases notice <;> first | rfl | cases about

theorem Notice.refused_of_scheduled {notice : Notice} {cycle : Nat}
    (tells : notice.scheduled? = some cycle) : notice.refused? = none := by
  cases notice <;> first | rfl | cases tells

def Pacer.AsksNext (p : Pacer) (asked : Transition) : Prop :=
  ∀ cycle, asked.cycle? = some cycle → cycle = p.nextCycle

theorem Pacer.Asks.asksNext {p : Pacer} {now : Nat} {left : Pacer × Transition}
    (asks : p.Asks now left) : p.AsksNext left.2 := by
  intro cycle names
  rcases asks with ⟨_, nothing, _⟩ | ⟨asked, _⟩
  · rw [nothing] at names
    cases names
  · rw [asked] at names
    exact (Option.some.inj names).symm

theorem Pacer.signal_asksNext (p : Pacer) (s : Signal) (now : Nat) :
    p.AsksNext (p.signal s now).2 := by
  intro cycle names
  rcases p.signal_cases s now with ⟨_, h⟩ | ⟨_, _, _, h⟩ | ⟨_, _, _, h⟩ | ⟨_, _, h⟩
  · rw [h] at names
    cases names
  · rw [h] at names
    cases names
  · rw [h] at names
    rw [← p.nextCycle_record s]
    exact (Option.some.inj names).symm
  · rw [h] at names
    cases names

namespace Engine

variable {α : Type}

def refused (journal : List Notice) : List Nat := journal.filterMap Notice.refused?

theorem refused_append (journal notices : List Notice) :
    refused (journal ++ notices) = refused journal ++ refused notices :=
  List.filterMap_append

/-- The cycles in `asked` were handed to the dispatch on the way from one engine to the other. -/
structure Hands (asked : List Nat) (e e' : Engine α) : Prop where
  refusal : e'.refusal = e.refusal
  taken : e.refusal = none →
    e'.queue = e.queue ++ asked ∧ refused e'.journal = refused e.journal
  rebuffed : e.refusal ≠ none →
    e'.queue = e.queue ∧ refused e'.journal = refused e.journal ++ asked ∧
      (asked ≠ [] → e'.decoupler.pacer.closed = true)

section

variable {e moved e' : Engine α} {asked : List Nat}

theorem hands_nothing {notices : List Notice} (refusal : e'.refusal = e.refusal)
    (queue : e'.queue = e.queue) (journal : e'.journal = e.journal ++ notices)
    (silent : refused notices = []) : Hands [] e e' := by
  have told : refused e'.journal = refused e.journal := by
    rw [journal, refused_append, silent, List.append_nil]
  refine ⟨refusal, fun _ => ⟨?_, told⟩, fun _ => ⟨queue, ?_, fun some => absurd rfl some⟩⟩
  · rw [queue, List.append_nil]
  · rw [told, List.append_nil]

theorem hands_refl (e : Engine α) : Hands [] e e :=
  hands_nothing rfl rfl (List.append_nil _).symm rfl

theorem Hands.trans (still : Hands [] e moved) (hands : Hands asked moved e') :
    Hands asked e e' := by
  refine ⟨hands.refusal.trans still.refusal, fun takes => ?_, fun refuses => ?_⟩
  · obtain ⟨queue, told⟩ := still.taken takes
    obtain ⟨queue', told'⟩ := hands.taken (still.refusal.trans takes)
    rw [List.append_nil] at queue
    rw [queue', told', queue, told]
    exact ⟨rfl, rfl⟩
  · obtain ⟨queue, told, _⟩ := still.rebuffed refuses
    obtain ⟨queue', told', shut⟩ := hands.rebuffed (by rw [still.refusal]; exact refuses)
    rw [List.append_nil] at told
    rw [queue', told', queue, told]
    exact ⟨rfl, rfl, shut⟩

theorem Hands.queue_eq (still : Hands [] e e') : e'.queue = e.queue := by
  by_cases takes : e.refusal = none
  · rw [(still.taken takes).1, List.append_nil]
  · exact (still.rebuffed takes).1

theorem Hands.returned (hands : Hands asked e e') : Hands asked e e'.returned :=
  ⟨hands.refusal, hands.taken, hands.rebuffed⟩

theorem hands_restocked (restocked : Restocked e e') : Hands [] e e' := by
  obtain ⟨_, _, _, notices, about, rfl⟩ := restocked
  refine hands_nothing rfl rfl rfl ?_
  rw [refused, List.filterMap_eq_nil_iff]
  intro notice member
  exact Notice.refused_of_isAboutValues (about notice member)

theorem hands_close (e : Engine α) : Hands [] e e.close := by
  rcases e.close_cases with ⟨_, same⟩ | ⟨_, same⟩ <;> rw [same]
  · exact e.hands_refl
  · exact hands_nothing rfl rfl rfl rfl

theorem hands_submit (e : Engine α) (cycle : Nat) : Hands [cycle] e (e.submit cycle) := by
  cases refusal : e.refusal with
  | none =>
      rw [submit_of_accepts refusal]
      exact ⟨rfl, fun _ => ⟨rfl, rfl⟩, fun refuses => absurd refusal refuses⟩
  | some cause =>
      have shut := closed_submit refusal cycle
      have told : refused (e.note [.couldNotSubmit e.subject cycle cause]).journal =
          refused e.journal ++ [cycle] := refused_append _ _
      obtain ⟨same, _, closes⟩ := hands_close (e.note [.couldNotSubmit e.subject cycle cause])
      rw [submit_of_refused refusal] at shut ⊢
      refine ⟨same, fun takes => ?_, fun _ => ?_⟩
      · rw [refusal] at takes
        cases takes
      · obtain ⟨queue, silent, _⟩ := closes (by
          show e.refusal ≠ none
          rw [refusal]
          nofun)
        rw [told, List.append_nil] at silent
        exact ⟨queue, silent, fun _ => shut⟩

theorem hands_apply (e : Engine α) (asked : Transition) :
    ∃ cycles, (∀ cycle ∈ cycles, asked.cycle? = some cycle) ∧ Hands cycles e (e.apply asked) := by
  rcases e.apply_cases asked with
    ⟨_, tally, same⟩ | ⟨cycle, tally, notice, names, tells, same | ⟨due, same⟩⟩
  · rw [same]
    exact ⟨[], nofun, hands_nothing rfl rfl rfl rfl⟩
  · rw [same]
    have told : refused [notice] = [] := by
      simp [refused, Notice.refused_of_scheduled tells]
    have counts : Hands [] e (e.counted tally [notice]) := hands_nothing rfl rfl rfl told
    refine ⟨[cycle], ?_, counts.trans (hands_submit _ cycle)⟩
    intro other member
    rw [List.mem_singleton.mp member]
    exact names
  · rw [same]
    have told : refused [notice] = [] := by
      simp [refused, Notice.refused_of_scheduled tells]
    exact ⟨[], nofun, hands_nothing rfl rfl rfl told⟩

/-! ## Operations -/

def New (e : Engine α) (cycle : Nat) : Prop :=
  cycle = e.decoupler.pacer.nextCycle ∨ cycle ∈ e.timers.map Timer.cycle

def Submits (e e' : Engine α) : Prop := ∃ asked, (∀ cycle ∈ asked, e.New cycle) ∧ Hands asked e e'

theorem submits_nothing (still : Hands [] e e') : Submits e e' := ⟨[], nofun, still⟩

theorem Submits.returned (submits : Submits e e') : Submits e e'.returned := by
  obtain ⟨asked, new, hands⟩ := submits
  exact ⟨asked, new, hands.returned⟩

theorem submits_ask {asked : Transition} (still : Hands [] e moved)
    (next : e.decoupler.pacer.AsksNext asked) : Submits e (moved.apply asked) := by
  obtain ⟨cycles, names, hands⟩ := moved.hands_apply asked
  exact ⟨cycles, fun cycle member => .inl (next cycle (names cycle member)), still.trans hands⟩

theorem submits_signal (e : Engine α) (s : Signal) : Submits e (e.signal s) := by
  by_cases alive : e.isAlive = true
  · rw [signal, if_pos alive]
    exact submits_ask (hands_nothing rfl rfl rfl rfl) (e.decoupler.pacer.signal_asksNext s e.now)
  · rw [signal, if_neg alive]
    exact submits_nothing e.hands_refl

theorem submits_ready (e : Engine α) (cycle : Nat) : Submits e (e.ready cycle).1 := by
  rcases e.ready_effect cycle with ⟨_, same⟩ | ⟨_, _, same⟩ | ⟨_, _, violation, _, same⟩ <;> rw [same]
  · exact submits_nothing e.hands_refl
  · exact submits_ask (hands_nothing rfl rfl (List.append_nil _).symm rfl)
      (e.decoupler.pacer.asks_finish e.now).asksNext
  · have silent : refused (e.violationNotices violation) = [] := by
      rw [violationNotices]
      split <;> rfl
    exact submits_nothing (hands_nothing rfl rfl rfl silent)

theorem submits_resume (e : Engine α) : Submits e e.resume := by
  by_cases held : e.held = true
  · rw [resume, if_pos held]
    exact submits_ask (hands_nothing rfl rfl rfl rfl)
      (e.decoupler.pacer.asks_resume e.now).asksNext
  · rw [resume, if_neg held]
    exact submits_nothing e.hands_refl

theorem hands_pause (e : Engine α) : Hands [] e e.pause := by
  by_cases held : e.held = true
  · rw [pause, if_pos held]
    exact hands_nothing rfl rfl rfl rfl
  · rw [pause, if_neg held]
    exact e.hands_refl

theorem hands_shut (e : Engine α) : Hands [] e e.shut := by
  by_cases held : e.held = true
  · rw [shut, if_pos held]
    exact e.hands_close
  · rw [shut, if_neg held]
    exact e.hands_refl

theorem hands_drop (e : Engine α) : Hands [] e e.drop := by
  by_cases held : e.held = true
  · rw [drop, if_pos held]
    split
    · have told : Hands [] e (e.note [.closingDropped e.subject]) := hands_nothing rfl rfl rfl rfl
      have shut := told.trans (hands_close _)
      exact ⟨shut.refusal, shut.taken, shut.rebuffed⟩
    · exact hands_nothing rfl rfl (List.append_nil _).symm rfl
  · rw [drop, if_neg held]
    exact e.hands_refl

theorem submits_producer (e : Engine α) {action : Action α}
    (producers : action.isOfProducer = true) : Submits e (e.act action).1 := by
  obtain ⟨moved, restocked, effect⟩ := e.producer_effect producers
  have still := hands_restocked restocked
  rcases effect with same | ⟨s, same⟩ <;> rw [same]
  · exact submits_nothing still
  · obtain ⟨asked, new, hands⟩ := moved.submits_signal s
    refine ⟨asked, ?_, still.trans hands⟩
    obtain ⟨_, _, _, _, _, rfl⟩ := restocked
    exact new

theorem submits_call (e : Engine α) (action : Action α) : Submits e (e.act action).1 := by
  cases action with
  | spend cycle => exact e.submits_ready cycle
  | ready cycle =>
      by_cases held : e.held = true
      · rw [act, if_pos held]
        exact e.submits_ready cycle
      · rw [act, if_neg held]
        exact submits_nothing e.hands_refl
  | pause => exact submits_nothing e.hands_pause
  | resume => exact e.submits_resume
  | close => exact submits_nothing e.hands_shut
  | drop => exact submits_nothing e.hands_drop
  | _ => exact submits_producer e rfl

theorem submits_fire (e : Engine α) (index : Nat) : Submits e (e.fire index) := by
  cases expires : e.timers[index]? with
  | none =>
      simp only [fire, expires]
      exact submits_nothing e.hands_refl
  | some timer =>
      have gone : Hands [] e { e with timers := e.timers.eraseIdx index } :=
        hands_nothing rfl rfl (List.append_nil _).symm rfl
      simp only [fire, expires]
      split
      · refine ⟨[timer.cycle], ?_, gone.trans (hands_submit _ timer.cycle)⟩
        intro cycle member
        rw [List.mem_singleton.mp member]
        exact .inr (List.mem_map_of_mem (List.mem_of_getElem? expires))
      · exact submits_nothing gone

theorem hands_cancel (e : Engine α) : Hands [] e e.cancelTimers := by
  rw [cancelTimers]
  split
  · refine hands_nothing rfl rfl rfl ?_
    simp [refused, Notice.refused?]
  · exact e.hands_refl

theorem submits_conclude (e : Engine α) (cycle : Nat) (snapshot : Snapshot) (values : List α) :
    Submits e (e.concludeTask cycle snapshot values).1 := by
  rcases e.concludeTask_cases cycle snapshot values with
    ⟨_, _, same⟩ | ⟨_, _, same⟩ | ⟨_, notices, which, same⟩ <;> rw [same]
  · apply Submits.returned
    exact submits_ask (hands_nothing rfl rfl rfl rfl)
      (e.decoupler.pacer.asks_finish e.now).asksNext
  · exact submits_nothing (hands_nothing rfl rfl rfl rfl)
  · have silent : refused notices = [] := by rcases which with rfl | rfl <;> rfl
    have told : Hands [] e (e.note notices) := hands_nothing rfl rfl rfl silent
    exact submits_nothing told.returned

def Move.isOfDispatch : Move α → Bool
  | run => true
  | refuse _ => true
  | _ => false

theorem submits_move (e : Engine α) {m : Move α} (other : m.isOfDispatch = false) :
    Submits e (e.move m).1 := by
  cases m with
  | call action => exact e.submits_call action
  | run => cases other
  | returned => exact submits_nothing e.hands_refl.returned
  | fire index => exact e.submits_fire index
  | cancel => exact submits_nothing e.hands_cancel
  | refuse refusal => cases other
  | elapse nanos => exact submits_nothing (hands_nothing rfl rfl (List.append_nil _).symm rfl)

end

/-! ## Scenes -/

namespace Scene

def Step.isOfDispatch : Step α → Bool
  | move m => m.isOfDispatch
  | start => true
  | proceed _ => false

theorem submits_step (s : Scene α) {step : Step α} (other : step.isOfDispatch = false) :
    Submits s.engine (s.step step).1.engine := by
  cases step with
  | move m =>
      by_cases permitted : s.permits m = true
      · simp only [Scene.step, if_pos permitted]
        exact s.engine.submits_move other
      · simp only [Scene.step, if_neg permitted]
        exact submits_nothing s.engine.hands_refl
  | start => cases other
  | proceed index =>
      cases found : s.tasks[index]? with
      | none =>
          simp only [Scene.step, found]
          exact submits_nothing s.engine.hands_refl
      | some task =>
          cases batch : task.batch with
          | none =>
              simp only [Scene.step, found, batch]
              exact submits_nothing (hands_restocked s.engine.restocked_read)
          | some values =>
              simp only [Scene.step, found, batch]
              exact s.engine.submits_conclude task.cycle task.snapshot values

theorem start_leaves (s : Scene α) {cycle : Nat} {rest : List Nat}
    (queue : s.engine.queue = cycle :: rest) :
    Hands [] { s.engine with queue := rest } (s.step .start).1.engine := by
  simp only [Scene.step, queue]
  rcases startTask_cases { s.engine with queue := rest } cycle with
    ⟨_, same⟩ | ⟨_, _, same⟩ | ⟨_, _, _, same⟩ | ⟨_, _, _, same⟩ <;> rw [same]
  · exact hands_refl _
  · exact hands_nothing rfl rfl rfl rfl
  · exact hands_nothing rfl rfl rfl rfl
  · exact hands_nothing rfl rfl (List.append_nil _).symm rfl

/-- Whatever is delivered or under way after the step was under way before. -/
theorem begun_of_step (s : Scene α) {step : Step α} (other : step.isOfDispatch = false) {cycle : Nat}
    (seen : cycle ∈ Turn.deliveries (s.step step).2.toList ++ (s.step step).1.begun) :
    cycle ∈ s.begun := by
  cases step with
  | move m =>
      have unrun : m ≠ .run := by
        rintro rfl
        cases other
      by_cases permitted : s.permits m = true
      · simp only [Scene.step, if_pos permitted, deliveries_of_move unrun] at seen
        exact seen
      · simp only [Scene.step, if_neg permitted] at seen
        exact seen
  | start => cases other
  | proceed index =>
      cases found : s.tasks[index]? with
      | none =>
          simp only [Scene.step, found] at seen
          exact seen
      | some task =>
          cases batch : task.batch with
          | none =>
              simp only [Scene.step, found, batch] at seen
              rw [← begun_set found (some s.engine.readTask.2)]
              exact seen
          | some values =>
              simp only [Scene.step, found, batch] at seen
              rcases List.mem_append.mp seen with delivered | under
              · have there : task.cycle ∈ s.begun :=
                  List.mem_map_of_mem (List.mem_of_getElem? found)
                rcases s.engine.concludeTask_cases task.cycle task.snapshot values with
                  ⟨_, _, same⟩ | ⟨_, _, same⟩ | ⟨_, _, _, same⟩
                · rw [same] at delivered
                  cases delivered
                · rw [same] at delivered
                  obtain rfl : cycle = task.cycle := List.mem_singleton.mp delivered
                  exact there
                · rw [same] at delivered
                  cases delivered
              · exact ((List.eraseIdx_sublist s.tasks index).map CycleTask.cycle).subset under

end Scene

theorem Coherent.not_begun_of_outstanding {turns : List (Turn α)} {begun : List Nat} {e : Engine α}
    (h : Coherent turns begun [] [] e) {cycle : Nat}
    (later : cycle ∈ e.outstanding ++ [e.decoupler.pacer.nextCycle]) :
    cycle ∉ Turn.deliveries turns ++ begun := by
  intro earlier
  have ordered := h.inStep.ordered
  rw [List.append_nil, List.append_assoc, List.pairwise_append] at ordered
  -- the cycle would have to be below itself
  have below := ordered.2.2 cycle earlier cycle later
  omega

theorem Coherent.not_begun_of_new {turns : List (Turn α)} {begun : List Nat} {e : Engine α}
    (h : Coherent turns begun [] [] e) {cycle : Nat} (new : e.New cycle) :
    cycle ∉ Turn.deliveries turns ++ begun := by
  apply h.not_begun_of_outstanding
  rcases new with rfl | timed
  · exact List.mem_append_right _ (List.mem_singleton_self _)
  · exact List.mem_append_left _ (List.mem_append_right _ timed)

end Engine

end Cadence
