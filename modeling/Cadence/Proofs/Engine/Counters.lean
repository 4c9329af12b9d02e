import Cadence.Metrics.Meters
import Cadence.Proofs.Engine.Books

/-!
# The counters balance

What a run of a decoupler has counted can be read off its steps.  A `Passage` is a step in the scene
where it is taken, and each counter is the number of passages of one kind.  Cycles end in four ways,
so those that were scheduled are the delivered, the skipped and the dropped ones, and at most one
that is still in hand.
-/

set_option autoImplicit false

namespace Cadence.Engine

variable {α : Type}

/-! ## Cycles in hand -/

/-- How many cycles wait for their task to run; a decoupler that is closed or gone has none. -/
def waiting (e : Engine α) : Nat :=
  if e.isClosed then 0 else e.decoupler.pacer.phase.waiting.length

/-- The decoupler is closed, or ceases to exist, while a cycle waits or is scheduled. -/
def drops (e e' : Engine α) : Bool :=
  !e.isClosed && e'.isClosed && decide (0 < e.waiting + (e.schedules e').toNat)

section

variable {e e' : Engine α}

/-- A closed decoupler stays closed and schedules nothing. -/
def StaysShut (e e' : Engine α) : Prop :=
  e.isClosed = true → e'.isClosed = true ∧ e'.books.next = e.books.next

theorem schedules_of_carries {n : Nat}
    (carries : e.decoupler.pacer.Carries n e'.decoupler.pacer) : n = (e.schedules e').toNat := by
  have numbered : e'.books.next = e.books.next + n := carries.numbered
  have few := carries.few
  rw [schedules]
  by_cases grows : e.books.next < e'.books.next
  · rw [decide_eq_true grows, Bool.toNat_true]
    omega
  · rw [decide_eq_false grows, Bool.toNat_false]
    omega

theorem carries_of_driven {side : Side} {told : List Bool} (driven : Driven side told e e') :
    ∃ n, e.decoupler.pacer.Carries n e'.decoupler.pacer := by
  obtain ⟨ops, noStart, _, after⟩ := driven
  rw [after]
  exact e.decoupler.pacer.carries_after noStart

/-- What waited and what is scheduled waits, unless it is dropped. -/
theorem waiting_of_carries {n : Nat} (carries : e.decoupler.pacer.Carries n e'.decoupler.pacer)
    (shut : StaysShut e e') :
    (e.schedules e').toNat + e.waiting = (e.drops e').toNat + e'.waiting := by
  have scheduled := schedules_of_carries carries
  have numbered : e'.books.next = e.books.next + n := carries.numbered
  cases isClosed : e.isClosed with
  | true =>
      obtain ⟨closed', next⟩ := shut isClosed
      have none : (e.schedules e').toNat = 0 := by omega
      simp only [drops, waiting, isClosed, closed', none, if_true]
      rfl
  | false =>
      cases closed' : e'.isClosed with
      | true =>
          have few := carries.few
          have before : e.waiting = e.decoupler.pacer.phase.waiting.length := by
            rw [waiting, isClosed, if_neg Bool.false_ne_true]
          have after : e'.waiting = 0 := by
            rw [waiting, closed', if_pos rfl]
          rw [drops, isClosed, closed', after]
          by_cases some : 0 < e.waiting + (e.schedules e').toNat
          · rw [decide_eq_true some]
            change _ = 1 + 0
            omega
          · rw [decide_eq_false some]
            change _ = 0 + 0
            omega
      | false =>
          have isOpen : e'.decoupler.pacer.closed = false := by
            rw [Engine.isClosed, Bool.or_eq_false_iff] at closed'
            exact closed'.2
          have waits := carries.waits isOpen
          have undropped : e.drops e' = false := by
            rw [drops, closed', Bool.and_false, Bool.false_and]
          simp only [undropped, waiting, isClosed, closed', Bool.false_eq_true, if_false,
            Bool.toNat_false]
          omega

end

/-! ## Passages -/

structure Passage (α : Type) where
  scene : Scene α
  step : Scene.Step α

namespace Passage

def next (p : Passage α) : Scene α := (p.scene.step p.step).1

def turn? (p : Passage α) : Option (Turn α) := (p.scene.step p.step).2

def signal? (p : Passage α) : Option Signal :=
  match p.step with
  | .move m => (p.scene.engine.entry m).signal?
  | _ => none

/-- A signal reached the open decoupler. -/
def reaches (p : Passage α) : Bool := p.signal?.isSome && !p.scene.engine.isClosed

/-- It did so while a cycle was scheduled or in flight. -/
def joins (p : Passage α) : Bool := p.signal?.isSome && p.scene.engine.isBusy

/-- It did so while there was no cycle and the decoupler was paused. -/
def holds (p : Passage α) : Bool :=
  p.reaches && decide (p.scene.engine.decoupler.pacer.phase = .idle) &&
    p.scene.engine.decoupler.pacer.paused

def schedules (p : Passage α) : Bool := p.scene.engine.schedules p.next.engine

/-- A signal reached the open decoupler, and a cycle was scheduled. -/
def opens (p : Passage α) : Bool := p.reaches && p.schedules

/-- A cycle was scheduled, not at once. -/
def defers (p : Passage α) : Bool := p.scene.engine.defers p.next.engine

def fails (p : Passage α) : Bool :=
  match p.step with
  | .move m => (p.scene.engine.move m).2.isViolation
  | _ => false

/-- A task ended, and delivered nothing. -/
def skips (p : Passage α) : Bool :=
  decide (p.next.tasks.length < p.scene.tasks.length) && p.turn?.isNone

def drops (p : Passage α) : Bool := p.scene.engine.drops p.next.engine

end Passage

namespace Scene

/-- The cycles that wait or whose tasks are under way. -/
def inHand (s : Scene α) : Nat := s.engine.waiting + s.tasks.length

/-- A step as what it is made of: a run of a task is its stages. -/
def fine (s : Scene α) : Step α → List (Step α)
  | .move .run => s.stages
  | step => [step]

def unrolled (s : Scene α) : List (Step α) → List (Step α)
  | [] => []
  | step :: rest => s.fine step ++ (s.step step).1.unrolled rest

def passages (s : Scene α) : List (Step α) → List (Passage α)
  | [] => []
  | step :: rest => ⟨s, step⟩ :: (s.step step).1.passages rest

def trail (s : Scene α) (steps : List (Step α)) : List (Passage α) := s.passages (s.unrolled steps)

theorem after_append (s : Scene α) (first later : List (Step α)) :
    s.after (first ++ later) = (s.after first).after later := by
  induction first generalizing s with
  | nil => rfl
  | cons step rest ih => exact ih (s.step step).1

theorem turns_append (s : Scene α) (first later : List (Step α)) :
    s.turns (first ++ later) = s.turns first ++ (s.after first).turns later := by
  induction first generalizing s with
  | nil => rfl
  | cons step rest ih => simp only [List.cons_append, turns, after, ih, List.append_assoc]

theorem after_fine (s : Scene α) (step : Step α) : s.after (s.fine step) = (s.step step).1 := by
  unfold fine
  split
  · exact s.step_run.1.symm
  · rfl

theorem turns_fine (s : Scene α) (step : Step α) :
    s.turns (s.fine step) = (s.step step).2.toList := by
  unfold fine
  split
  · exact s.step_run.2.symm
  · rw [turns, turns, List.append_nil]

theorem not_run_of_fine (s : Scene α) (step : Step α) :
    ∀ small ∈ s.fine step, small ≠ .move .run := by
  intro small member
  unfold fine at member
  split at member
  · rintro rfl
    cases s.isStage_of_mem_stages _ member
  · rename_i other
    rw [List.mem_singleton.mp member]
    exact other

theorem after_unrolled (s : Scene α) (steps : List (Step α)) :
    s.after (s.unrolled steps) = s.after steps := by
  induction steps generalizing s with
  | nil => rfl
  | cons step rest ih => rw [unrolled, after_append, after_fine, ih, after]

theorem turns_unrolled (s : Scene α) (steps : List (Step α)) :
    s.turns (s.unrolled steps) = s.turns steps := by
  induction steps generalizing s with
  | nil => rfl
  | cons step rest ih => rw [unrolled, turns_append, after_fine, turns_fine, ih, turns]

theorem not_run_of_unrolled (s : Scene α) (steps : List (Step α)) :
    ∀ small ∈ s.unrolled steps, small ≠ .move .run := by
  induction steps generalizing s with
  | nil => simp [unrolled]
  | cons step rest ih =>
      intro small member
      rcases List.mem_append.mp member with first | later
      · exact s.not_run_of_fine step small first
      · exact ih (s.step step).1 small later

end Scene

/-! ## The balance -/

/-- What some passages have entered in the books, and what became of the cycles in hand. -/
structure Balanced (trail : List (Passage α)) (turns : List (Turn α)) (s s' : Scene α) : Prop where
  dispatched : s'.engine.books.dispatched =
    s.engine.books.dispatched + (Turn.deliveries turns).length
  coalesced : s'.engine.books.coalesced = s.engine.books.coalesced + trail.countP Passage.joins
  violations : s'.engine.books.violations = s.engine.books.violations + trail.countP Passage.fails
  deferred : s'.engine.books.deferred = s.engine.books.deferred + trail.countP Passage.defers
  scheduled : s'.engine.books.next = s.engine.books.next + trail.countP Passage.schedules
  received : trail.countP Passage.reaches =
    trail.countP Passage.joins + trail.countP Passage.holds + trail.countP Passage.opens
  cycles : trail.countP Passage.schedules + s.inHand =
    (Turn.deliveries turns).length + trail.countP Passage.skips + trail.countP Passage.drops +
      s'.inHand

section

variable {trail later : List (Passage α)} {turns turns' : List (Turn α)} {s s' s'' : Scene α}

theorem balanced_nil (s : Scene α) : Balanced [] [] s s := by
  constructor <;> simp [Turn.deliveries]

theorem Balanced.trans (first : Balanced trail turns s s') (second : Balanced later turns' s' s'') :
    Balanced (trail ++ later) (turns ++ turns') s s'' := by
  obtain ⟨dispatched, coalesced, violations, deferred, scheduled, received, cycles⟩ := first
  obtain ⟨dispatched', coalesced', violations', deferred', scheduled', received', cycles'⟩ := second
  have delivered : (Turn.deliveries (turns ++ turns')).length =
      (Turn.deliveries turns).length + (Turn.deliveries turns').length := by
    rw [Turn.deliveries, List.filterMap_append, List.length_append]
    rfl
  constructor <;> simp only [List.countP_append, delivered] <;> omega

theorem countP_one (kind : Passage α → Bool) (p : Passage α) :
    [p].countP kind = (kind p).toNat := by
  rw [List.countP_singleton]
  cases kind p <;> rfl

theorem balanced_one {p : Passage α}
    (enters : Enters (Turn.deliveries p.turn?.toList).length p.joins.toNat p.fails.toNat
      p.scene.engine p.next.engine)
    {n : Nat} (numbered : p.next.engine.books.next = p.scene.engine.books.next + n)
    (scheduled : n = p.schedules.toNat)
    (received : p.reaches.toNat = p.joins.toNat + p.holds.toNat + p.opens.toNat)
    (cycles : p.schedules.toNat + p.scene.inHand =
      (Turn.deliveries p.turn?.toList).length + p.skips.toNat + p.drops.toNat + p.next.inHand) :
    Balanced [p] p.turn?.toList p.scene p.next := by
  constructor
  · exact enters.dispatched
  · rw [countP_one]
    exact enters.coalesced
  · rw [countP_one]
    exact enters.violations
  · rw [countP_one]
    exact enters.deferred
  · rw [countP_one, numbered, scheduled]
  · rw [countP_one, countP_one, countP_one, countP_one]
    exact received
  · rw [countP_one, countP_one, countP_one]
    exact cycles

theorem received_of_silent {p : Passage α} (silent : p.signal? = none) :
    p.joins = false ∧ p.reaches.toNat = p.joins.toNat + p.holds.toNat + p.opens.toNat := by
  simp [Passage.joins, Passage.reaches, Passage.holds, Passage.opens, silent]

theorem received_move (s : Scene α) (m : Move α) (permitted : s.permits m = true) :
    let p : Passage α := ⟨s, .move m⟩
    p.reaches.toNat = p.joins.toNat + p.holds.toNat + p.opens.toNat := by
  intro p
  have next : p.next.engine = (s.engine.move m).1 := by
    simp only [p, Passage.next, Scene.step, if_pos permitted]
  cases signals : (s.engine.entry m).signal? with
  | none => exact (received_of_silent (p := p) signals).2
  | some signal =>
      have sent : p.signal? = some signal := signals
      cases isClosed : s.engine.isClosed with
      | true =>
          simp [Passage.joins, Passage.reaches, Passage.holds, Passage.opens, p, isBusy, isClosed]
      | false =>
          have opens : p.opens = (p.reaches && s.engine.schedules (s.engine.move m).1) := by
            rw [Passage.opens, Passage.schedules, next]
          have reached : p.reaches = true := by
            rw [Passage.reaches, sent]
            simp [p, isClosed]
          rcases tells_received isClosed (s.engine.move_tells signals) with
            ⟨busy, none⟩ | ⟨idle, paused, none⟩ | ⟨idle, running, one⟩
          · simp [Passage.joins, Passage.holds, opens, reached, sent, p, isBusy, isClosed, busy,
              none]
          · simp [Passage.joins, Passage.holds, opens, reached, p, isBusy, idle, paused, none]
          · simp [Passage.joins, Passage.holds, opens, reached, p, isBusy, idle, running, one]

/-! ### Each kind of step -/

theorem staysShut_step (h : Coherent turns s.begun [] [] s.engine) {step : Scene.Step α}
    (other : step ≠ .move .run) : StaysShut s.engine (s.step step).1.engine := by
  intro isClosed
  refine ⟨isClosed_after h isClosed [step], ?_⟩
  cases alive : s.engine.isAlive with
  | true =>
      rw [isClosed_of_isAlive alive] at isClosed
      exact (runsOut_step isClosed step).drains.next
  | false =>
      cases step with
      | move m =>
          by_cases permitted : s.permits m = true
          · have silent : m ≠ .run := fun run => other (congrArg Scene.Step.move run)
            simp only [Scene.step, if_pos permitted]
            exact congrArg Books.next (books_of_gone alive silent)
          · simp only [Scene.step, if_neg permitted]
      | start =>
          cases queue : s.engine.queue with
          | nil => simp only [Scene.step, queue]
          | cons cycle rest =>
              simp only [Scene.step, queue]
              exact congrArg Books.next (books_start { s.engine with queue := rest } cycle)
      | proceed index =>
          have none : s.tasks[index]? = none := by
            rw [h.tasks_of_gone alive]
            rfl
          simp only [Scene.step, none]

theorem balanced_still {p : Passage α} (still : p.scene.step p.step = (p.scene, none))
    (silent : p.signal? = none) (fails : p.fails = false) :
    Balanced [p] p.turn?.toList p.scene p.next := by
  have next : p.next = p.scene := congrArg Prod.fst still
  have turn : p.turn? = none := congrArg Prod.snd still
  obtain ⟨joins, received⟩ := received_of_silent silent
  have schedules : p.schedules = false := schedules_of_same (by rw [next])
  have skips : p.skips = false := by simp [Passage.skips, next]
  have drops : p.drops = false := by
    rw [Passage.drops, Engine.drops, next]
    cases p.scene.engine.isClosed <;> rfl
  refine balanced_one ?_ (n := 0) (by rw [next]; rfl) (by rw [schedules]; rfl) received ?_
  · rw [turn, joins, fails, next]
    exact enters_nothing rfl
  · rw [turn, schedules, skips, drops, next]
    simp [Turn.deliveries]

/-- A step that drives the pacer, but starts no cycle.  A task that it ends delivers or skips. -/
theorem balanced_driven {p : Passage α} {told : List Bool}
    (driven : Driven .read told p.scene.engine p.next.engine)
    (shut : StaysShut p.scene.engine p.next.engine)
    (enters : Enters (Turn.deliveries p.turn?.toList).length p.joins.toNat p.fails.toNat
      p.scene.engine p.next.engine)
    (received : p.reaches.toNat = p.joins.toNat + p.holds.toNat + p.opens.toNat)
    (ends : p.scene.tasks.length =
      (Turn.deliveries p.turn?.toList).length + p.skips.toNat + p.next.tasks.length) :
    Balanced [p] p.turn?.toList p.scene p.next := by
  obtain ⟨n, carries⟩ := carries_of_driven driven
  have waits : p.schedules.toNat + p.scene.engine.waiting =
      p.drops.toNat + p.next.engine.waiting := waiting_of_carries carries shut
  refine balanced_one enters carries.numbered (schedules_of_carries carries) received ?_
  rw [Scene.inHand, Scene.inHand]
  omega

theorem balanced_move (h : Coherent turns s.begun [] [] s.engine) {m : Move α} (other : m ≠ .run) :
    Balanced [⟨s, .move m⟩] (s.step (.move m)).2.toList s (s.step (.move m)).1 := by
  by_cases permitted : s.permits m = true
  · let p : Passage α := ⟨s, .move m⟩
    have next : p.next = ⟨(s.engine.move m).1, s.tasks⟩ := by
      simp only [p, Passage.next, Scene.step, if_pos permitted]
    have turn : p.turn? = s.engine.turn? m := by
      simp only [p, Passage.turn?, Scene.step, if_pos permitted]
    have apart : Scene.Step.move m ≠ .move .run := fun run => other (Scene.Step.move.inj run)
    have driven : Driven .read (if s.engine.isAlive then (m.told? .read).toList else [])
        p.scene.engine p.next.engine := by
      rw [next]
      exact s.engine.driven_move other
    have skips : p.skips = false := by
      rw [Passage.skips, next]
      simp [p]
    refine balanced_driven driven (staysShut_step h apart) ?_ (received_move s m permitted) ?_
    · rw [turn, deliveries_of_move other, next]
      exact s.engine.enters_move other
    · rw [turn, deliveries_of_move other, skips, next]
      exact (Nat.zero_add _).symm
  · have still : s.step (.move m) = (s, none) := by
      simp only [Scene.step, if_neg permitted]
    -- only the end of a call of the listener may be out of place
    cases m with
    | returned => exact balanced_still (p := ⟨s, .move .returned⟩) still rfl rfl
    | _ => exact absurd rfl permitted

theorem balanced_stage {p : Passage α} (stage : p.step.isStage = true) (turn : p.turn? = none)
    (books : p.next.engine.books = p.scene.engine.books)
    (more : p.scene.tasks.length ≤ p.next.tasks.length)
    (cycles : p.scene.inHand = p.drops.toNat + p.next.inHand) :
    Balanced [p] p.turn?.toList p.scene p.next := by
  have silent : p.signal? = none ∧ p.fails = false := by
    unfold Passage.signal? Passage.fails
    cases step : p.step with
    | move m => rw [step] at stage; cases stage
    | start => exact ⟨rfl, rfl⟩
    | proceed index => exact ⟨rfl, rfl⟩
  obtain ⟨joins, received⟩ := received_of_silent silent.1
  have schedules : p.schedules = false := schedules_of_same (congrArg Books.next books)
  have skips : p.skips = false := by
    rw [Passage.skips, decide_eq_false (by omega), Bool.false_and]
  refine balanced_one ?_ (n := 0) (congrArg Books.next books) (by rw [schedules]; rfl) received ?_
  · rw [turn, joins, silent.2]
    exact enters_nothing books
  · rw [turn, schedules, skips, cycles]
    simp [Turn.deliveries]

theorem drops_of_same {e e' : Engine α} (same : e'.isClosed = e.isClosed) : e.drops e' = false := by
  rw [drops, same]
  cases e.isClosed <;> rfl

/-- The waiting cycle of an open decoupler is taken in hand by its task. -/
theorem waiting_start (e : Engine α) (cycle : Nat) :
    e.waiting = (e.drops (e.startTask cycle).1).toNat +
      (e.startTask cycle).1.waiting + (e.startTask cycle).2.toList.length := by
  rcases e.startTask_cases cycle with
    ⟨_, h⟩ | ⟨_, closed, h⟩ | ⟨_, _, _, h⟩ | ⟨alive, isOpen, scheduled, h⟩
  · rw [h, drops_of_same rfl]
    simp
  · have shut := isClosed_of_closed closed
    have before : e.waiting = 0 := if_pos shut
    have after : (e.startTask cycle).1.waiting = 0 := by
      rw [h]
      exact if_pos (isClosed_of_closed closed)
    have same : (e.startTask cycle).1.isClosed = e.isClosed := by
      rw [h]
      exact (isClosed_of_closed closed).trans shut.symm
    rw [before, after, drops_of_same same, h]
    rfl
  · have same : (e.note [.cycleDropped e.subject cycle]).waiting = e.waiting := rfl
    have kept : e.drops (e.note [.cycleDropped e.subject cycle]) = false := drops_of_same rfl
    rw [h, same, kept]
    exact (Nat.zero_add _).symm
  · have before : e.waiting = 1 := by
      rw [waiting, isClosed_of_isAlive alive, isOpen, scheduled]
      rfl
    have wasOpen : e.isClosed = false := (isClosed_of_isAlive alive).trans isOpen
    have stillOpen : (e.startTask cycle).1.isClosed = false := by
      rw [h]
      exact (isClosed_of_isAlive (isAlive_of_running (Nat.succ_pos _))).trans isOpen
    have after : (e.startTask cycle).1.waiting = 0 := by
      rw [waiting, stillOpen, h]
      rfl
    rw [before, after, drops_of_same (stillOpen.trans wasOpen.symm), h]
    rfl

theorem balanced_start (s : Scene α) :
    Balanced [⟨s, .start⟩] (s.step .start).2.toList s (s.step .start).1 := by
  cases queue : s.engine.queue with
  | nil =>
      have still : s.step .start = (s, none) := by simp only [Scene.step, queue]
      exact balanced_still (p := ⟨s, .start⟩) still rfl rfl
  | cons cycle rest =>
      let taken : Engine α := { s.engine with queue := rest }
      have step : s.step .start =
          (⟨(taken.startTask cycle).1, s.tasks ++ (taken.startTask cycle).2.toList⟩, none) := by
        simp only [Scene.step, queue, taken]
      have next : (Passage.mk s .start).next =
          ⟨(taken.startTask cycle).1, s.tasks ++ (taken.startTask cycle).2.toList⟩ :=
        congrArg Prod.fst step
      refine balanced_stage (p := ⟨s, .start⟩) rfl (congrArg Prod.snd step) ?_ ?_ ?_
      · rw [next]
        exact taken.books_start cycle
      · rw [next, List.length_append]
        exact Nat.le_add_right _ _
      · have waits : s.engine.waiting = (s.engine.drops (taken.startTask cycle).1).toNat +
            (taken.startTask cycle).1.waiting + (taken.startTask cycle).2.toList.length :=
          taken.waiting_start cycle
        rw [Passage.drops, next, Scene.inHand, Scene.inHand, List.length_append]
        change s.engine.waiting + s.tasks.length =
          (s.engine.drops (taken.startTask cycle).1).toNat + ((taken.startTask cycle).1.waiting + _)
        omega

theorem balanced_read {index : Nat} {task : CycleTask α} (found : s.tasks[index]? = some task)
    (unread : task.batch = none) :
    Balanced [⟨s, .proceed index⟩] (s.step (.proceed index)).2.toList s
      (s.step (.proceed index)).1 := by
  have step : s.step (.proceed index) =
      (⟨s.engine.readTask.1, s.tasks.set index { task with batch := some s.engine.readTask.2 }⟩,
        none) := by
    simp only [Scene.step, found, unread]
  have next := congrArg Prod.fst step
  have tasks : (s.step (.proceed index)).1.tasks.length = s.tasks.length := by
    rw [next, List.length_set]
  have closed : (s.step (.proceed index)).1.engine.isClosed = s.engine.isClosed := by
    rw [next]
    rfl
  have waits : (s.step (.proceed index)).1.engine.waiting = s.engine.waiting := by
    rw [next]
    rfl
  refine balanced_stage (p := ⟨s, .proceed index⟩) rfl (congrArg Prod.snd step) ?_ (Nat.le_of_eq
    tasks.symm) ?_
  · rw [Passage.next, next]
    exact books_restocked s.engine.restocked_read
  · rw [Passage.drops, Passage.next, drops_of_same closed, Scene.inHand, Scene.inHand, waits, tasks]
    exact (Nat.zero_add _).symm

theorem balanced_conclude (h : Coherent turns s.begun [] [] s.engine) {index : Nat}
    {task : CycleTask α} {values : List α} (found : s.tasks[index]? = some task)
    (batch : task.batch = some values) :
    Balanced [⟨s, .proceed index⟩] (s.step (.proceed index)).2.toList s
      (s.step (.proceed index)).1 := by
  obtain ⟨only, rfl, _, _⟩ := h.task found
  let p : Passage α := ⟨s, .proceed 0⟩
  let left := s.engine.concludeTask task.cycle task.snapshot values
  have step : s.step (.proceed 0) = (⟨left.1, s.tasks.eraseIdx 0⟩, left.2.map .delivered) := by
    simp only [Scene.step, found, batch, left]
  have next : p.next = ⟨left.1, []⟩ := by
    rw [Passage.next, step, only]
    rfl
  have turn : p.turn? = left.2.map .delivered := congrArg Prod.snd step
  have delivered : (Turn.deliveries p.turn?.toList).length = left.2.toList.length := by
    rw [turn]
    cases left.2 <;> rfl
  have skips : left.2.toList.length + p.skips.toNat = 1 := by
    rw [Passage.skips, turn, next]
    simp only [p, only, List.length_nil, List.length_singleton]
    cases left.2 <;> rfl
  have apart : Scene.Step.proceed 0 ≠ (.move .run : Scene.Step α) := by
    intro same
    cases same
  have driven : Driven .read [] p.scene.engine p.next.engine := by
    rw [next]
    exact s.engine.driven_conclude task.cycle task.snapshot values
  obtain ⟨joins, received⟩ := received_of_silent (p := p) rfl
  refine balanced_driven driven (staysShut_step h apart) ?_ received ?_
  · rw [delivered, joins, next]
    exact s.engine.enters_conclude task.cycle task.snapshot values
  · rw [delivered, skips, next]
    exact congrArg List.length only

theorem balanced_step (h : Coherent turns s.begun [] [] s.engine) {step : Scene.Step α}
    (other : step ≠ .move .run) :
    Balanced [⟨s, step⟩] (s.step step).2.toList s (s.step step).1 := by
  cases step with
  | move m => exact balanced_move h fun run => other (congrArg Scene.Step.move run)
  | start => exact balanced_start s
  | proceed index =>
      cases found : s.tasks[index]? with
      | none =>
          have still : s.step (.proceed index) = (s, none) := by simp only [Scene.step, found]
          exact balanced_still (p := ⟨s, .proceed index⟩) still rfl rfl
      | some task =>
          cases batch : task.batch with
          | none => exact balanced_read found batch
          | some values => exact balanced_conclude h found batch

theorem balanced_passages (h : Coherent turns s.begun [] [] s.engine) {steps : List (Scene.Step α)}
    (fine : ∀ step ∈ steps, step ≠ .move .run) :
    Balanced (s.passages steps) (s.turns steps) s (s.after steps) := by
  induction steps generalizing s turns with
  | nil => exact balanced_nil s
  | cons step rest ih =>
      have first := balanced_step h (fine step List.mem_cons_self)
      have others := ih (coherent_kept.step step h) fun later member =>
        fine later (List.mem_cons_of_mem step member)
      exact first.trans others

theorem balanced_trail (h : Coherent turns s.begun [] [] s.engine) (steps : List (Scene.Step α)) :
    Balanced (s.trail steps) (s.turns steps) s (s.after steps) := by
  have balanced := balanced_passages h (s.not_run_of_unrolled steps)
  rw [s.turns_unrolled, s.after_unrolled] at balanced
  exact balanced

/-- A cycle that waits and a task under way exclude each other. -/
theorem inHand_le (h : Coherent turns s.begun [] [] s.engine) : s.inHand ≤ 1 := by
  have tasks : s.tasks.length = s.engine.decoupler.pacer.phase.begun.length := by
    have begun : s.begun = s.engine.decoupler.pacer.phase.begun := h.inStep.tasks
    rw [← begun, Scene.begun, List.length_map]
  have few : s.engine.waiting ≤ s.engine.decoupler.pacer.phase.waiting.length := by
    rw [waiting]
    split
    · exact Nat.zero_le _
    · exact Nat.le_refl _
  have one : s.engine.decoupler.pacer.phase.waiting.length +
      s.engine.decoupler.pacer.phase.begun.length ≤ 1 := by
    cases s.engine.decoupler.pacer.phase with
    | idle => exact Nat.zero_le 1
    | scheduled cycle => exact Nat.le_refl 1
    | inFlight cycle dispatched => cases dispatched <;> simp [Phase.waiting, Phase.begun]
  rw [Scene.inHand]
  omega

theorem tasks_of_moves {steps : List (Scene.Step α)} (moves : ∀ step ∈ steps, step.isStage = false)
    (none : s.tasks = []) : (s.after steps).tasks = [] := by
  induction steps generalizing s with
  | nil => exact none
  | cons step rest ih =>
      refine ih (fun later member => moves later (List.mem_cons_of_mem step member)) ?_
      cases step with
      | move m =>
          rw [Scene.step]
          split <;> exact none
      | start => cases moves .start List.mem_cons_self
      | proceed index => cases moves (.proceed index) List.mem_cons_self

end

end Cadence.Engine

/-! ## The meters of one subscription -/

namespace Cadence

def Tally.count (t : Tally) : Counter → Nat
  | .coalescedSignals => t.coalesced
  | .dispatchedEvents => t.dispatched
  | .producerErrors => t.producerErrors
  | .protocolViolations => t.violations

/-- Under its own label a subscription finds its own counts. -/
theorem Meters.labelled_ofTally (subject : String) (t : Tally) (counter : Counter) :
    (Meters.ofTally subject t).labelled counter = [(subject, t.count counter)] := by
  cases counter <;>
    simp [ofTally, labelled, addDeferrals, addEvictions, add, update, zero, Tally.count]

theorem Meters.labelledDeferrals_ofTally (subject : String) (t : Tally) :
    (Meters.ofTally subject t).labelledDeferrals = [(subject, t.deferrals.map Delay.millis)] := by
  simp [ofTally, labelledDeferrals, addDeferrals, addEvictions, add, update, zero]

namespace Engine

variable {α : Type}

/-- The counters of a decoupler balance, whatever happened and in whatever order.  Events are counted
as often as the listener was called, joined signals as often as a signal found a cycle scheduled or
in flight, violations as often as a readiness call failed, and delays as often as a cycle was
scheduled with one.  Every signal to the open decoupler joined a cycle, was held back or scheduled
one.  Every cycle that was scheduled was delivered, was skipped, was dropped or is in hand, and at
most one is. -/
theorem counters_balance (subject : String) (buffer : Buffer α) (minPeriod : Option Nat)
    (source : Option (ReadFunction α)) (hasRuntime closesOnDrop : Bool)
    (steps : List (Scene.Step α)) :
    let start := Scene.new subject buffer minPeriod source hasRuntime closesOnDrop
    let s := start.after steps
    let trail := start.trail steps
    let calls := (Turn.deliveries (start.turns steps)).length
    let meters := Meters.ofTally subject s.engine.decoupler.tally
    meters.labelled .dispatchedEvents = [(subject, calls)] ∧
    meters.labelled .coalescedSignals = [(subject, trail.countP Passage.joins)] ∧
    trail.countP Passage.reaches =
      trail.countP Passage.joins + trail.countP Passage.holds + trail.countP Passage.opens ∧
    meters.labelled .protocolViolations = [(subject, trail.countP Passage.fails)] ∧
    (∃ millis, meters.labelledDeferrals = [(subject, millis)] ∧
      millis.length = trail.countP Passage.defers) ∧
    s.engine.decoupler.pacer.nextCycle = trail.countP Passage.schedules + 1 ∧
    trail.countP Passage.schedules =
      calls + trail.countP Passage.skips + trail.countP Passage.drops + s.inHand ∧
    s.inHand ≤ 1 ∧
    (s.engine.isClosed = false → s.engine.waiting = s.engine.outstanding.length) ∧
    ((∀ step ∈ steps, step.isStage = false) → s.inHand = s.engine.waiting) := by
  intro start s trail calls meters
  have new : Coherent [] start.begun [] [] start.engine := ⟨InStep.init _, Nat.le_refl 0⟩
  have kept : Coherent (start.turns steps) s.begun [] [] s.engine :=
    coherent_after subject buffer minPeriod source hasRuntime closesOnDrop steps
  obtain ⟨dispatched, coalesced, violations, deferred, scheduled, received, cycles⟩ :=
    balanced_trail new steps
  -- the books of a new decoupler are empty, its cycles numbered from one
  have empty : start.engine.books = ⟨0, 0, 0, 0, 1⟩ := rfl
  have idle : start.inHand = 0 := by
    cases closesOnDrop <;> rfl
  rw [empty, Nat.zero_add] at dispatched coalesced violations deferred
  rw [empty, Nat.add_comm] at scheduled
  rw [idle, Nat.add_zero] at cycles
  refine ⟨?_, ?_, received, ?_, ?_, scheduled, cycles, inHand_le kept, ?_, ?_⟩
  · rw [Meters.labelled_ofTally]
    exact congrArg (fun count => [(subject, count)]) dispatched
  · rw [Meters.labelled_ofTally]
    exact congrArg (fun count => [(subject, count)]) coalesced
  · rw [Meters.labelled_ofTally]
    exact congrArg (fun count => [(subject, count)]) violations
  · refine ⟨_, Meters.labelledDeferrals_ofTally subject _, ?_⟩
    rw [List.length_map]
    exact deferred
  · intro isOpen
    have queued : s.engine.outstanding ++ [] = s.engine.decoupler.pacer.phase.waiting :=
      kept.inStep.queued isOpen
    rw [waiting, isOpen, if_neg Bool.false_ne_true, ← queued, List.append_nil]
  · intro moves
    have none : s.tasks = [] := tasks_of_moves moves rfl
    rw [Scene.inHand, none, List.length_nil, Nat.add_zero]

/-- A signal joins the cycle in flight; the next cycle is deferred, a signal joins it too, and a call
for a cycle that never was closes the decoupler, which drops it. -/
theorem capped_run_balanced :
    let start : Scene Nat := .new "gauge" (.latest .empty) (some 10) none true true
    let steps : List (Scene.Step Nat) :=
      [.move (.call (.write (some 1))), .move .run, .move (.call (.write (some 2))),
        .move (.call (.spend 1)), .move (.call (.write (some 3))), .move (.call (.spend 7))]
    let meters := Meters.ofTally "gauge" (start.after steps).engine.decoupler.tally
    (∀ step ∈ steps, step.isStage = false) ∧
      meters.labelled .dispatchedEvents = [("gauge", 1)] ∧
      meters.labelled .coalescedSignals = [("gauge", 2)] ∧
      meters.labelled .protocolViolations = [("gauge", 1)] ∧
      (start.trail steps).countP Passage.defers = 1 ∧
      (start.trail steps).countP Passage.schedules = 2 ∧
      (start.trail steps).countP Passage.drops = 1 := by
  intro start steps meters
  have moves : ∀ step ∈ steps, step.isStage = false := by simp [steps, Scene.Step.isStage]
  have called : (Turn.deliveries (start.turns steps)).length = 1 := by decide +kernel
  have joined : (start.trail steps).countP Passage.joins = 2 := by decide +kernel
  have failed : (start.trail steps).countP Passage.fails = 1 := by decide +kernel
  have deferred : (start.trail steps).countP Passage.defers = 1 := by decide +kernel
  have scheduled : (start.trail steps).countP Passage.schedules = 2 := by decide +kernel
  have skipped : (start.trail steps).countP Passage.skips = 0 := by decide +kernel
  have idle : (start.after steps).engine.waiting = 0 := by decide +kernel
  obtain ⟨dispatched, coalesced, _, violations, _, _, cycles, _, _, settled⟩ :=
    counters_balance "gauge" (.latest .empty) (some 10) none true true steps
  have new : Scene.new "gauge" (.latest .empty) (some 10) none true true = start := rfl
  rw [new, called] at dispatched
  rw [new, joined] at coalesced
  rw [new, failed] at violations
  rw [settled moves, new, called, scheduled, skipped, idle] at cycles
  have dropped : (start.trail steps).countP Passage.drops = 1 := by omega
  exact ⟨moves, dispatched, coalesced, violations, deferred, scheduled, dropped⟩

end Engine

end Cadence
