import Cadence.Proofs.Engine.Carried
import Cadence.Proofs.Engine.Driving
import Cadence.Proofs.Engine.Inertness

/-!
# The books of an engine

A decoupler counts in several places, each time after its pacer has decided.  `Books` are those of
its counts that can be told from what it did, with the number of its next cycle; there is one lemma
for what each operation enters in them.
-/

set_option autoImplicit false

namespace Cadence.Engine

variable {α : Type}

structure Books where
  dispatched : Nat
  coalesced : Nat
  violations : Nat
  deferred : Nat
  next : Nat

def books (e : Engine α) : Books where
  dispatched := e.decoupler.tally.dispatched
  coalesced := e.decoupler.tally.coalesced
  violations := e.decoupler.tally.violations
  deferred := e.decoupler.tally.deferrals.length
  next := e.decoupler.pacer.nextCycle

def Books.follow (books : Books) : Transition → Books
  | .schedule _ delay =>
      if delay = 0 then books else { books with deferred := books.deferred + 1 }
  | .coalesced => { books with coalesced := books.coalesced + 1 }
  | _ => books

/-! ## What the operations enter -/

section

variable {e e' : Engine α}

theorem books_close (e : Engine α) : e.close.books = e.books := by
  rcases e.close_cases with ⟨_, same⟩ | ⟨_, same⟩
  · rw [same]
  · rw [same]
    exact congrArg (fun next => { e.books with next := next }) e.decoupler.pacer.nextCycle_close

theorem books_submit (e : Engine α) (cycle : Nat) : (e.submit cycle).books = e.books := by
  cases refused : e.refusal with
  | none => rw [submit_of_accepts refused]; rfl
  | some refusal => rw [submit_of_refused refused, books_close]; rfl

theorem books_restocked (restocked : Restocked e e') : e'.books = e.books := by
  obtain ⟨_, _, _, _, _, rfl⟩ := restocked
  rfl

theorem books_apply (e : Engine α) (asked : Transition) :
    (e.apply asked).books = e.books.follow asked := by
  cases asked with
  | schedule cycle delay =>
      have counted : (e.counted (e.countDelay delay) []).books =
          { e.books with deferred := e.books.deferred + 1 } := by
        simp only [books, Engine.counted, countDelay, List.length_append, List.length_singleton]
      rw [apply_schedule, Books.follow]
      by_cases atOnce : delay = 0
      · rw [if_pos atOnce, if_pos atOnce, books_submit]
        rfl
      · rw [if_neg atOnce, if_neg atOnce]
        split
        · exact counted
        · rw [books_submit]
          exact counted
  | _ => rfl

theorem books_ask (e : Engine α) (left : Pacer × Transition) (notices : List Notice) :
    (((e.paced left.1).note notices).apply left.2).books =
      ({ e.books with next := left.1.nextCycle } : Books).follow left.2 := by
  rw [books_apply]
  rfl

theorem books_signal (alive : e.isAlive = true) (s : Signal) :
    (e.signal s).books =
      ({ e.books with next := (e.decoupler.pacer.signal s e.now).1.nextCycle } : Books).follow
        (e.decoupler.pacer.signal s e.now).2 := by
  rw [signal, if_pos alive, books_apply]
  rfl

theorem books_pause (e : Engine α) : e.pause.books = e.books := by
  rw [pause]
  split <;> rfl

theorem books_shut (e : Engine α) : e.shut.books = e.books := by
  rw [shut]
  split
  · exact e.books_close
  · rfl

theorem books_drop (e : Engine α) : e.drop.books = e.books := by
  by_cases held : e.held = true
  · rw [drop, if_pos held]
    split
    · exact books_close (e.note [.closingDropped e.subject])
    · rfl
  · rw [drop, if_neg held]

theorem books_fire (e : Engine α) (index : Nat) : (e.fire index).books = e.books := by
  cases expires : e.timers[index]? with
  | none => simp only [fire, expires]
  | some timer =>
      simp only [fire, expires]
      split
      · exact books_submit { e with timers := e.timers.eraseIdx index } timer.cycle
      · rfl

theorem books_cancel (e : Engine α) : e.cancelTimers.books = e.books := by
  rw [cancelTimers]
  split <;> rfl

end

/-! ## What is entered -/

def schedules (e e' : Engine α) : Bool := decide (e.books.next < e'.books.next)

def defers (e e' : Engine α) : Bool :=
  e.schedules e' && decide (0 < e.decoupler.pacer.delayAt e.now)

/-- The decoupler is open, and a cycle is scheduled or in flight. -/
def isBusy (e : Engine α) : Bool := !e.isClosed && decide (e.decoupler.pacer.phase ≠ .idle)

/-- So many events, joined signals and violations are entered, and a delay if a cycle is deferred. -/
structure Enters (dispatched coalesced violations : Nat) (e e' : Engine α) : Prop where
  dispatched : e'.books.dispatched = e.books.dispatched + dispatched
  coalesced : e'.books.coalesced = e.books.coalesced + coalesced
  violations : e'.books.violations = e.books.violations + violations
  deferred : e'.books.deferred = e.books.deferred + (e.defers e').toNat

section

variable {e moved e' : Engine α} {dispatched coalesced violations : Nat}

theorem schedules_of_same (same : e'.books.next = e.books.next) : e.schedules e' = false := by
  rw [schedules, same]
  exact decide_eq_false (Nat.lt_irrefl _)

theorem enters_of_same_next (next : e'.books.next = e.books.next)
    (deferred : e'.books.deferred = e.books.deferred)
    (events : e'.books.dispatched = e.books.dispatched + dispatched)
    (joined : e'.books.coalesced = e.books.coalesced + coalesced)
    (violated : e'.books.violations = e.books.violations + violations) :
    Enters dispatched coalesced violations e e' := by
  refine ⟨events, joined, violated, ?_⟩
  rw [defers, schedules_of_same next, Bool.false_and]
  exact deferred

theorem enters_nothing (same : e'.books = e.books) : Enters 0 0 0 e e' := by
  apply enters_of_same_next <;> rw [same] <;> rfl

/-- What is asked for is deferred if and only if its delay is not zero. -/
theorem enters_ask {left : Pacer × Transition} (asks : e.decoupler.pacer.Asks e.now left)
    (entered : e'.books = ({ e.books with next := left.1.nextCycle } : Books).follow left.2) :
    Enters 0 0 0 e e' := by
  rcases asks with ⟨other, nothing, next⟩ | ⟨asked, next⟩
  · have same : e'.books = e.books := by
      rw [entered, next]
      cases asked : left.2 with
      | schedule cycle delay => rw [asked] at nothing; cases nothing
      | coalesced => exact absurd asked other
      | _ => rfl
    exact enters_nothing same
  · rw [asked, Books.follow, next] at entered
    have scheduled : e.schedules e' = true := by
      rw [schedules, entered]
      split <;> exact decide_eq_true (Nat.lt_succ_self _)
    have rest : e'.books.dispatched = e.books.dispatched ∧ e'.books.coalesced = e.books.coalesced ∧
        e'.books.violations = e.books.violations := by
      rw [entered]
      split <;> exact ⟨rfl, rfl, rfl⟩
    refine ⟨rest.1, rest.2.1, rest.2.2, ?_⟩
    rw [defers, scheduled, Bool.true_and, entered]
    by_cases atOnce : e.decoupler.pacer.delayAt e.now = 0
    · rw [if_pos atOnce, atOnce]
      rfl
    · rw [if_neg atOnce, decide_eq_true (Nat.pos_of_ne_zero atOnce)]
      rfl

theorem Enters.of_restocked (restocked : Restocked e moved)
    (enters : Enters dispatched coalesced violations moved e') :
    Enters dispatched coalesced violations e e' := by
  obtain ⟨_, _, _, _, _, rfl⟩ := restocked
  exact ⟨enters.dispatched, enters.coalesced, enters.violations, enters.deferred⟩

/-- A signal that reaches the decoupler joins the cycle that there is, is held back, or schedules a
cycle; and only the first is counted. -/
theorem signal_received (isOpen : e.isClosed = false) (s : Signal) :
    (e.decoupler.pacer.phase ≠ .idle ∧ e.schedules (e.signal s) = false ∧
      Enters 0 1 0 e (e.signal s)) ∨
    (e.decoupler.pacer.phase = .idle ∧ e.decoupler.pacer.paused = true ∧
      e.schedules (e.signal s) = false ∧ Enters 0 0 0 e (e.signal s)) ∨
    (e.decoupler.pacer.phase = .idle ∧ e.decoupler.pacer.paused = false ∧
      e.schedules (e.signal s) = true ∧ Enters 0 0 0 e (e.signal s)) := by
  have alive : e.isAlive = true := by
    by_contra gone
    rw [isClosed_of_gone (Bool.not_eq_true _ ▸ gone)] at isOpen
    cases isOpen
  have entered := books_signal alive s
  rw [isClosed_of_isAlive alive] at isOpen
  rcases Pacer.signal_asks isOpen s e.now with
    ⟨busy, asked, next⟩ | ⟨idle, paused, asked, next⟩ | ⟨idle, running, asked, next⟩
  · rw [asked, next] at entered
    have same : (e.signal s).books.next = e.books.next := by rw [entered]; rfl
    refine .inl ⟨busy, schedules_of_same same, ?_⟩
    apply enters_of_same_next same <;> rw [entered] <;> rfl
  · rw [asked, next] at entered
    have same : (e.signal s).books = e.books := by rw [entered]; rfl
    exact .inr (.inl ⟨idle, paused, schedules_of_same (congrArg Books.next same),
      enters_nothing same⟩)
  · refine .inr (.inr ⟨idle, running, ?_, enters_ask (.inr ⟨asked, next⟩) entered⟩)
    have later : (e.signal s).books.next = e.books.next + 1 := by
      rw [entered, asked, Books.follow, next]
      split <;> rfl
    rw [schedules, later]
    exact decide_eq_true (Nat.lt_succ_self _)

theorem enters_signal (e : Engine α) (s : Signal) :
    Enters 0 e.isBusy.toNat 0 e (e.signal s) := by
  cases isClosed : e.isClosed with
  | false =>
      rcases signal_received isClosed s with ⟨busy, _, enters⟩ | ⟨idle, _, _, enters⟩ |
        ⟨idle, _, _, enters⟩
      · rw [isBusy, isClosed, decide_eq_true busy]
        exact enters
      · rw [isBusy, isClosed, idle]
        exact enters
      · rw [isBusy, isClosed, idle]
        exact enters
  | true =>
      have unmoved : (e.signal s).books = e.books := by
        cases alive : e.isAlive with
        | false => rw [signal, alive, if_neg Bool.false_ne_true]
        | true =>
            rw [isClosed_of_isAlive alive] at isClosed
            rw [books_signal alive, Pacer.signal_of_closed isClosed]
            rfl
      rw [isBusy, isClosed]
      exact enters_nothing unmoved

theorem enters_tells {told : Option Signal} (tells : Tells e told e') :
    Enters 0 (told.isSome && e.isBusy).toNat 0 e e' := by
  obtain ⟨moved, restocked, rfl⟩ := tells
  cases told with
  | none => exact enters_nothing (books_restocked restocked)
  | some s =>
      have enters := (moved.enters_signal s).of_restocked restocked
      have same : moved.isBusy = e.isBusy := by
        obtain ⟨_, _, _, _, _, rfl⟩ := restocked
        rfl
      rw [same] at enters
      exact enters

/-- What became of a signal that a producer sent to the open decoupler. -/
theorem tells_received (isOpen : e.isClosed = false) {s : Signal} (tells : Tells e (some s) e') :
    (e.decoupler.pacer.phase ≠ .idle ∧ e.schedules e' = false) ∨
    (e.decoupler.pacer.phase = .idle ∧ e.decoupler.pacer.paused = true ∧ e.schedules e' = false) ∨
    (e.decoupler.pacer.phase = .idle ∧ e.decoupler.pacer.paused = false ∧
      e.schedules e' = true) := by
  obtain ⟨moved, restocked, rfl⟩ := tells
  have received : moved.isClosed = false → _ := fun isOpen => signal_received isOpen s
  obtain ⟨_, _, _, _, _, rfl⟩ := restocked
  rcases received isOpen with ⟨busy, none, _⟩ | ⟨idle, paused, none, _⟩ | ⟨idle, running, one, _⟩
  · exact .inl ⟨busy, none⟩
  · exact .inr (.inl ⟨idle, paused, none⟩)
  · exact .inr (.inr ⟨idle, running, one⟩)

theorem enters_resume (e : Engine α) : Enters 0 0 0 e e.resume := by
  by_cases held : e.held = true
  · rw [resume, if_pos held]
    refine enters_ask (e.decoupler.pacer.asks_resume e.now) ?_
    exact e.books_ask (e.decoupler.pacer.resume e.now) [.resumed e.subject _]
  · rw [resume, if_neg held]
    exact enters_nothing rfl

theorem enters_ready (e : Engine α) (cycle : Nat) :
    Enters 0 0 (!(e.ready cycle).2.isOk).toNat e (e.ready cycle).1 := by
  rcases e.ready_effect cycle with ⟨_, same⟩ | ⟨_, _, same⟩ | ⟨_, _, violation, _, same⟩
  · rw [same]
    exact enters_nothing rfl
  · rw [same]
    exact enters_ask (e.decoupler.pacer.asks_finish e.now) (books_apply _ _)
  · rw [same]
    exact enters_of_same_next e.decoupler.pacer.nextCycle_close rfl rfl rfl rfl

/-- A delivery is entered, and so is a delay if the end of a cycle schedules another. -/
theorem enters_conclude (e : Engine α) (cycle : Nat) (snapshot : Snapshot) (values : List α) :
    Enters (e.concludeTask cycle snapshot values).2.toList.length 0 0 e
      (e.concludeTask cycle snapshot values).1 := by
  rcases e.concludeTask_cases cycle snapshot values with
    ⟨_, _, same⟩ | ⟨_, _, same⟩ | ⟨_, notices, _, same⟩
  · rw [same]
    refine enters_ask (e.decoupler.pacer.asks_finish e.now) ?_
    exact e.books_ask (e.decoupler.pacer.finish e.now) [.nothingToDeliver e.subject cycle]
  · rw [same]
    exact enters_of_same_next rfl rfl rfl rfl rfl
  · rw [same]
    exact enters_nothing rfl

theorem books_start (e : Engine α) (cycle : Nat) : (e.startTask cycle).1.books = e.books := by
  rcases e.startTask_cases cycle with ⟨_, h⟩ | ⟨_, _, h⟩ | ⟨_, _, _, h⟩ | ⟨_, _, _, h⟩ <;>
    rw [h] <;> rfl

end

def Outcome.isViolation : Outcome α → Bool
  | answered (.ok (.verdict (.error _))) => true
  | _ => false

section

variable {e : Engine α}

theorem isViolation_producer (e : Engine α) {action : Action α}
    (producers : action.isOfProducer = true) :
    (e.move (.call action)).2.isViolation = false := by
  cases action with
  | collect =>
      simp only [move, act]
      cases e.collect.2 <;> rfl
  | spend cycle => cases producers
  | ready cycle => cases producers
  | pause => cases producers
  | resume => cases producers
  | close => cases producers
  | drop => cases producers
  | _ => rfl

/-- What a move enters, unless it runs a task: a signal that joins a cycle, or a violation. -/
theorem enters_move (e : Engine α) {m : Move α} (other : m ≠ .run) :
    Enters 0 ((e.entry m).signal?.isSome && e.isBusy).toNat (e.move m).2.isViolation.toNat e
      (e.move m).1 := by
  have readied : ∀ cycle, Enters 0 0
      (Outcome.isViolation (.answered (.ok (.verdict (e.ready cycle).2)) : Outcome α)).toNat e
      (e.ready cycle).1 := by
    intro cycle
    have enters := e.enters_ready cycle
    cases verdict : (e.ready cycle).2 with
    | ok _ => rw [verdict] at enters; exact enters
    | error violation => rw [verdict] at enters; exact enters
  have producer : ∀ action : Action α, action.isOfProducer = true →
      Enters 0 ((e.entry (.call action)).signal?.isSome && e.isBusy).toNat
        (e.move (.call action)).2.isViolation.toNat e (e.move (.call action)).1 := by
    intro action producers
    rw [isViolation_producer e producers]
    exact enters_tells (e.producer_tells producers)
  cases m with
  | call action =>
      cases action with
      | spend cycle => exact readied cycle
      | ready cycle =>
          by_cases held : e.held = true
          · simp only [move, act, entry, if_pos held]
            exact readied cycle
          · simp only [move, act, entry, if_neg held]
            exact enters_nothing rfl
      | pause => exact enters_nothing e.books_pause
      | resume => exact e.enters_resume
      | close => exact enters_nothing e.books_shut
      | drop => exact enters_nothing e.books_drop
      | _ => exact producer _ rfl
  | run => exact absurd rfl other
  | returned => exact enters_nothing rfl
  | fire index => exact enters_nothing (e.books_fire index)
  | cancel => exact enters_nothing e.books_cancel
  | refuse refusal => exact enters_nothing rfl
  | elapse nanos => exact enters_nothing rfl

/-- What the signal of a move does is what the pacer makes of it. -/
theorem move_tells (e : Engine α) {m : Move α} {s : Signal}
    (signals : (e.entry m).signal? = some s) : Tells e (some s) (e.move m).1 := by
  cases m with
  | call action =>
      by_cases producers : action.isOfProducer = true
      · rw [← signals]
        exact e.producer_tells producers
      · cases action with
        | ready cycle =>
            simp only [entry, move, act] at signals
            split at signals <;> cases signals
        | spend cycle => cases signals
        | pause => cases signals
        | resume => cases signals
        | close => cases signals
        | drop => cases signals
        | _ => exact absurd rfl producers
  | _ => cases signals

theorem books_of_gone (gone : e.isAlive = false) {m : Move α} (other : m ≠ .run) :
    (e.move m).1.books = e.books := by
  have unheld : ¬ e.held = true := by
    intro held
    rw [isAlive_of_held held] at gone
    cases gone
  have readied : ∀ cycle, (e.ready cycle).1.books = e.books := by
    intro cycle
    rw [ready, gone, if_neg Bool.false_ne_true]
  have producer : ∀ action : Action α, action.isOfProducer = true →
      (e.move (.call action)).1.books = e.books := by
    intro action producers
    obtain ⟨moved, restocked, same⟩ := e.producer_tells producers
    have still : moved.isAlive = false := by
      obtain ⟨_, _, _, _, _, rfl⟩ := restocked
      exact gone
    rw [move, same, ← books_restocked restocked]
    cases (e.entry (.call action)).signal? with
    | none => rfl
    | some s => rw [Option.elim_some, signal, still, if_neg Bool.false_ne_true]
  cases m with
  | call action =>
      cases action with
      | spend cycle => exact readied cycle
      | ready cycle =>
          simp only [move, act, if_neg unheld]
      | pause => exact e.books_pause
      | resume => simp only [move, act, resume, if_neg unheld]
      | close => exact e.books_shut
      | drop => exact e.books_drop
      | _ => exact producer _ rfl
  | run => exact absurd rfl other
  | returned => rfl
  | fire index => exact e.books_fire index
  | cancel => exact e.books_cancel
  | refuse refusal => rfl
  | elapse nanos => rfl

end

end Cadence.Engine
