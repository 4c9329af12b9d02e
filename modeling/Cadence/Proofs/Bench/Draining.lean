import Cadence.Bench.Basic
import Cadence.Proofs.Engine.Promptness
import Mathlib.Logic.Function.Iterate

/-!
# Draining a dispatch

Subscriptions that share a dispatch, each with an event log in automatic mode.  Running all tasks
runs those that are queued and no other, for a task queues none, not even through the token that is
spent while it runs.  Without a rate cap nothing waits but the tasks on the queue, so once they have
run every subscription is at rest.

`Member.Tidy` is what every use of the bench keeps of each member, and `Bench.Tidy` ties the queue
of the dispatch to the members' queues.
-/

set_option autoImplicit false

namespace Cadence

variable {α : Type}

theorem Plan.engine_of_establish {plan : Plan α} {profile : Profile α} {random : String}
    {ambient : Bool} {subscription : Subscription α}
    (established : plan.establish profile random ambient = .ok subscription) :
    ∃ subject buffer runtime notices, subscription.engine =
      (Engine.init subject
        (.init buffer (subscription.settings.minPeriod.bind Duration.toDelay?)) plan.source runtime
        true).note notices := by
  obtain ⟨_, _, _, _, _, _, _, rfl⟩ := parts_of_establish established
  exact ⟨_, _, _, _, rfl⟩

/-! ## A member -/

namespace Member

/-- A subscription without a rate cap, as it was established, with a new buffer for a bounded number
of values.  Its log is in automatic mode. -/
structure Fresh (m : Member α) : Prop where
  automatic : m.log = .automatic
  established : ∃ (plan : Plan α) (profile : Profile α) (random : String) (ambient : Bool)
    (settings : Settings),
    plan.establish profile random ambient = .ok ⟨settings, m.engine⟩ ∧ settings.maxRateMs = none
  bounded : ∃ capacity, m.engine.decoupler.buffer.New capacity

/-- A subscription gets a new buffer for one value or a queue of them if that is its policy. -/
theorem fresh_of_policy {plan : Plan α} {profile : Profile α} {random : String} {ambient : Bool}
    {subscription : Subscription α} {capacity : Nat}
    (established : plan.establish profile random ambient = .ok subscription)
    (ownBuffer : plan.buffer = none)
    (bounded : subscription.settings.buffer.capacity? = some capacity)
    (uncapped : subscription.settings.maxRateMs = none) :
    Fresh ⟨subscription.engine, .automatic⟩ where
  automatic := rfl
  established := ⟨plan, profile, random, ambient, subscription.settings, established, uncapped⟩
  bounded := by
    have follows := Engine.follows_establish established ownBuffer bounded
    refine ⟨capacity, follows.bounded, follows.positive, ?_⟩
    rw [follows.contents]
    exact List.rtake_nil _

/-- Between two steps no call of the listener is under way, no readiness call of the log has failed,
and the engine is closed or has got back every event. -/
structure Tidy (m : Member α) : Prop where
  automatic : m.log.isManual = false
  faultless : m.log.readyErrors = []
  unoccupied : m.engine.running = 0
  uncapped : m.engine.Uncapped
  course : m.engine.isClosed = true ∨ m.engine.Settled

section

variable {m : Member α}

theorem Fresh.engine (fresh : m.Fresh) :
    ∃ subject buffer source runtime notices capacity, buffer.New capacity ∧
      m.engine = (Engine.init subject (.init buffer none) source runtime true).note notices := by
  obtain ⟨plan, profile, random, ambient, settings, established, uncapped⟩ := fresh.established
  obtain ⟨subject, buffer, runtime, notices, same⟩ := Plan.engine_of_establish established
  have engine : m.engine =
      (Engine.init subject (.init buffer none) plan.source runtime true).note notices := by
    simp only [Settings.minPeriod, uncapped] at same
    exact same
  obtain ⟨capacity, new⟩ := fresh.bounded
  rw [engine] at new
  exact ⟨subject, buffer, plan.source, runtime, notices, capacity, new, engine⟩

theorem tidy_of_fresh (fresh : m.Fresh) : m.Tidy ∧ m.engine.queue = [] := by
  obtain ⟨subject, buffer, source, runtime, notices, capacity, new, engine⟩ := fresh.engine
  have follows : Engine.Follows capacity [] m.engine := by
    rw [engine]
    exact { Engine.follows_init new subject none source runtime true with }
  have queue : m.engine.queue = [] := by rw [engine]; rfl
  refine ⟨⟨?_, ?_, ?_, ?_, .inr ⟨capacity, _, [], follows, .start, rfl⟩⟩, queue⟩
  · rw [fresh.automatic]
    rfl
  · rw [fresh.automatic]
    rfl
  · rw [engine]
    rfl
  · rw [engine]
    exact ⟨rfl, rfl, rfl⟩

theorem tidy_call (tidy : m.Tidy) {action : Engine.Action α}
    (ofSubscription : action.isOfSubscription = true) :
    Tidy { m with engine := (m.engine.act action).1 } where
  automatic := tidy.automatic
  faultless := tidy.faultless
  unoccupied := (Engine.queues_call tidy.uncapped action).running.trans tidy.unoccupied
  uncapped := (Engine.queues_call tidy.uncapped action).uncapped
  course := by
    rcases tidy.course with isClosed | settled
    · exact .inl (Engine.isClosed_call isClosed action)
    · exact Engine.settled_call tidy.uncapped tidy.unoccupied settled ofSubscription

theorem tidy_elapse (tidy : m.Tidy) (nanos : Nat) :
    Tidy { m with engine := m.engine.elapse nanos } where
  automatic := tidy.automatic
  faultless := tidy.faultless
  unoccupied := tidy.unoccupied
  uncapped := { tidy.uncapped with }
  course := tidy.course.imp id fun settled =>
    settled.move (.elapse nanos) (fun _ => ⟨trivial, nofun⟩) rfl

theorem runNext_eq (m : Member α) :
    m.runNext =
      match m.engine.runNext.2.join with
      | some event => { m with engine := m.engine.runNext.1 }.deliver event
      | none => { m with engine := m.engine.runNext.1 } := by
  rw [runNext]
  cases m.engine.runNext with
  | mk left task =>
      rcases task with _ | _ | event <;> rfl

theorem deliver_eq (automatic : m.log.isManual = false) (event : Event α) :
    m.deliver event =
      ⟨(m.engine.ready event.cycle).1.returned,
        (m.log.keep event).answered (m.engine.ready event.cycle).2⟩ := by
  have keeps : (m.log.keep event).isManual = false := automatic
  simp only [deliver, keeps, Bool.false_eq_true, if_false]

/-- The token of an event is spent while its task runs, and that never fails. -/
theorem tidy_runNext (tidy : m.Tidy) : m.runNext.Tidy := by
  obtain ⟨uncapped, running⟩ := Engine.uncapped_runNext tidy.uncapped
  rw [tidy.unoccupied, Nat.zero_add] at running
  rw [runNext_eq]
  cases delivers : m.engine.runNext.2.join with
  | none =>
      rw [delivers] at running
      refine ⟨tidy.automatic, tidy.faultless, running, uncapped, ?_⟩
      exact tidy.course.imp (fun isClosed => (Engine.runNext_of_closed isClosed).2)
        fun settled => settled.runNext delivers
  | some event =>
      have settled : m.engine.Settled := by
        refine tidy.course.resolve_left fun isClosed => ?_
        rw [(Engine.runNext_of_closed isClosed).1] at delivers
        cases delivers
      obtain ⟨success, returned⟩ := settled.delivers delivers
      have queues := Engine.queues_ready uncapped event.cycle
      have occupied : (m.engine.runNext.1.ready event.cycle).1.running = 1 := by
        rw [queues.running, running, delivers]
        rfl
      simp only [deliver_eq (m := { m with engine := m.engine.runNext.1 }) tidy.automatic, success]
      exact ⟨tidy.automatic, tidy.faultless, congrArg (· - 1) occupied,
        { queues.uncapped with }, .inr returned⟩

/-- With an empty queue, an open subscription is at rest. -/
theorem Tidy.rest (tidy : m.Tidy) (queue : m.engine.queue = [])
    (isOpen : m.engine.isClosed = false) :
    m.engine.decoupler.pacer.phase = .idle ∧
      (m.engine.decoupler.pacer.paused = false →
        m.engine.decoupler.pacer.pending = .empty ∧
        m.engine.decoupler.pacer.eventWhileBusy = false ∧
        m.engine.decoupler.buffer.contents = []) := by
  rcases tidy.course with isClosed | settled
  · rw [isOpen] at isClosed
    cases isClosed
  · exact settled.rest queue tidy.uncapped.timers

end

end Member

/-! ## The dispatch -/

namespace Bench

theorem runAll_of_empty {b : Bench α} (empty : b.line = []) : b.runAll = (b, 0) := by
  rw [runAll]
  split
  · rfl
  · rename_i waiting
    rw [empty] at waiting
    cases waiting

theorem runNext_answer (b : Bench α) : b.runNext.2 = !b.line.isEmpty := by
  rw [runNext]
  split
  · rename_i empty
    rw [empty]
    rfl
  · rename_i waiting
    rw [waiting]
    rfl

theorem line_runNext (b : Bench α) : b.runNext.1.line = b.line.drop 1 := by
  rw [runNext]
  split
  · rename_i empty
    rw [empty]
    rfl
  · rename_i waiting
    rw [waiting]
    exact line_turn _ _

theorem line_iterate (b : Bench α) (ran : Nat) :
    ((fun b : Bench α => b.runNext.1)^[ran] b).line = b.line.drop ran := by
  induction ran generalizing b with
  | zero => rfl
  | succ ran ih => rw [Function.iterate_succ_apply, ih, line_runNext, List.drop_drop, Nat.add_comm]

theorem runAll_eq (b : Bench α) :
    b.runAll = ((fun b : Bench α => b.runNext.1)^[b.line.length] b, b.line.length) := by
  generalize count : b.line.length = ran
  induction ran generalizing b with
  | zero => exact runAll_of_empty (List.length_eq_zero_iff.mp count)
  | succ ran ih =>
      obtain ⟨position, rest, waiting⟩ := List.exists_cons_of_length_eq_add_one count
      have first : b.runNext.1 = { b with line := rest }.turn position := by
        rw [runNext, waiting]
      have left : b.runNext.1.line.length = ran := by
        rw [line_runNext, List.length_drop, count, Nat.add_sub_cancel]
      have steps : b.runAll = (b.runNext.1.runAll.1, b.runNext.1.runAll.2 + 1) := by
        rw [runAll, first]
        split
        · rename_i empty
          rw [empty] at waiting
          cases waiting
        · rename_i waiting'
          rw [waiting] at waiting'
          obtain ⟨rfl, rfl⟩ := List.cons.inj waiting'
          rfl
      rw [steps, ih _ left, Function.iterate_succ_apply]

/-- Every one of the members is tidy, and the dispatch's queue holds its tasks. -/
structure Tidy (count : Nat) (b : Bench α) : Prop where
  count : b.members.length = count
  members : ∀ m ∈ b.members, m.Tidy
  line : ∀ position m, b.members[position]? = some m →
    b.line.count position = m.engine.queue.length

section

variable {count : Nat} {b : Bench α}

theorem tidy_init {members : List (Member α)} (fresh : ∀ m ∈ members, m.Fresh) :
    (init members).Tidy members.length := by
  refine ⟨rfl, fun m member => ?_, fun position m found => ?_⟩
  · exact (Member.tidy_of_fresh (fresh m member)).1
  · have member : m ∈ members := List.mem_of_getElem? found
    rw [(Member.tidy_of_fresh (fresh m member)).2]
    rfl

theorem tidy_update {position left : Nat} {m : Member α} (size : b.members.length = count)
    (members : ∀ m ∈ b.members, m.Tidy)
    (others : ∀ other m, other ≠ position → b.members[other]? = some m →
      b.line.count other = m.engine.queue.length)
    (tidy : m.Tidy) (counted : b.line.count position = left)
    (more : left ≤ m.engine.queue.length) : (b.update position left m).Tidy count := by
  refine ⟨List.length_set.trans size, fun m' member => ?_, fun other m' found => ?_⟩
  · rcases List.mem_or_eq_of_mem_set member with earlier | rfl
    · exact members m' earlier
    · exact tidy
  · rw [update, List.count_append, List.count_replicate]
    rw [update, List.getElem?_set] at found
    by_cases same : position = other
    · subst same
      rw [if_pos rfl] at found
      split at found
      · obtain rfl := Option.some.inj found
        rw [counted, beq_self_eq_true, if_pos rfl]
        omega
      · cases found
    · rw [if_neg same] at found
      rw [others other m' (Ne.symm same) found]
      simp [same]

theorem tidy_act (tidy : b.Tidy count) (position : Nat) {action : Engine.Action α}
    (ofSubscription : action.isOfSubscription = true) : (b.act position action).1.Tidy count := by
  rw [act]
  split
  · exact tidy
  · rename_i m found
    have own : m.Tidy := tidy.members m (List.mem_of_getElem? found)
    have queues := Engine.queues_call own.uncapped action
    exact tidy_update tidy.count tidy.members (fun other m _ => tidy.line other m)
      (Member.tidy_call own ofSubscription) (tidy.line position m found)
      queues.queue.length_le

theorem tidy_runNext (tidy : b.Tidy count) : b.runNext.1.Tidy count := by
  rw [runNext]
  split
  · exact tidy
  · rename_i position rest waiting
    -- the other members have as many tasks in the rest of the queue as in the whole
    have others : ∀ other m, other ≠ position → b.members[other]? = some m →
        rest.count other = m.engine.queue.length := by
      intro other m apart found
      rw [← tidy.line other m found, waiting, List.count_cons_of_ne (Ne.symm apart)]
    simp only [turn]
    split
    · rename_i absent
      refine ⟨tidy.count, tidy.members, fun other m found => others other m ?_ found⟩
      rintro rfl
      rw [absent] at found
      cases found
    · rename_i m found
      have own : m.Tidy := tidy.members m (List.mem_of_getElem? found)
      have queued : rest.count position + 1 = m.engine.queue.length := by
        rw [← tidy.line position m found, waiting, List.count_cons_self]
      have shorter : m.runNext.engine.queue.length = m.engine.queue.length - 1 := by
        rw [Member.queue_runNext, List.length_drop]
      refine tidy_update (b := { b with line := rest }) tidy.count tidy.members others
        (Member.tidy_runNext own) ?_ (Nat.le_of_eq shorter.symm)
      exact Nat.eq_sub_of_add_eq queued

theorem tidy_iterate (tidy : b.Tidy count) (ran : Nat) :
    ((fun b : Bench α => b.runNext.1)^[ran] b).Tidy count := by
  induction ran generalizing b with
  | zero => exact tidy
  | succ ran ih => exact ih (tidy_runNext tidy)

theorem tidy_runAll (tidy : b.Tidy count) : b.runAll.1.Tidy count := by
  rw [runAll_eq]
  exact tidy_iterate tidy _

end

/-! ## Uses of the bench -/

inductive Use (α : Type)
  | call (position : Nat) (action : Engine.Action α)
  | runNext
  | runAll
  | elapse (nanos : Nat)

def Use.isOfSubscription : Use α → Bool
  | call _ action => action.isOfSubscription
  | _ => true

def elapse (b : Bench α) (nanos : Nat) : Bench α :=
  { b with members := b.members.map fun m => { m with engine := m.engine.elapse nanos } }

def use (b : Bench α) : Use α → Bench α
  | .call position action => (b.act position action).1
  | .runNext => b.runNext.1
  | .runAll => b.runAll.1
  | .elapse nanos => b.elapse nanos

def after (b : Bench α) (uses : List (Use α)) : Bench α := uses.foldl use b

theorem tidy_elapse {count : Nat} {b : Bench α} (tidy : b.Tidy count) (nanos : Nat) :
    (b.elapse nanos).Tidy count := by
  refine ⟨(List.length_map _).trans tidy.count, fun m member => ?_, fun position m found => ?_⟩
  · obtain ⟨m, earlier, rfl⟩ := List.mem_map.mp member
    exact Member.tidy_elapse (tidy.members m earlier) nanos
  · rw [elapse, List.getElem?_map] at found
    obtain ⟨m, earlier, rfl⟩ := Option.map_eq_some_iff.mp found
    exact tidy.line position m earlier

theorem tidy_after {count : Nat} {b : Bench α} (tidy : b.Tidy count) {uses : List (Use α)}
    (ofSubscription : ∀ use ∈ uses, use.isOfSubscription = true) : (b.after uses).Tidy count := by
  induction uses generalizing b with
  | nil => exact tidy
  | cons first rest ih =>
      have now := ofSubscription first List.mem_cons_self
      have later := fun use member => ofSubscription use (List.mem_cons_of_mem first member)
      cases first with
      | call position action => exact ih (tidy_act tidy position now) later
      | runNext => exact ih (tidy_runNext tidy) later
      | runAll => exact ih (tidy_runAll tidy) later
      | elapse nanos => exact ih (tidy_elapse tidy nanos) later

/-- However the subscriptions were used before, running the oldest task again and again ends after
as many tasks as were queued at the start, and that is what running all tasks does.  No readiness
call of a log has failed, nothing is queued, and a subscription that is open has no cycle; unless it
is paused, nothing is pending and its buffer is empty. -/
theorem draining_quiesces {members : List (Member α)} {uses : List (Use α)}
    (fresh : ∀ m ∈ members, m.Fresh)
    (ofSubscription : ∀ use ∈ uses, use.isOfSubscription = true) :
    let b := (init members).after uses
    let drained := b.runAll.1
    (∀ ran, ((fun b : Bench α => b.runNext.1)^[ran] b).runNext.2 = true ↔ ran < b.line.length) ∧
      b.runAll = ((fun b : Bench α => b.runNext.1)^[b.line.length] b, b.line.length) ∧
      drained.line = [] ∧ drained.members.length = members.length ∧
      ∀ m ∈ drained.members,
        m.log.readyErrors = [] ∧ m.engine.queue = [] ∧
        (m.engine.isClosed = false →
          m.engine.decoupler.pacer.phase = .idle ∧
          (m.engine.decoupler.pacer.paused = false →
            m.engine.decoupler.pacer.pending = .empty ∧
            m.engine.decoupler.pacer.eventWhileBusy = false ∧
            m.engine.decoupler.buffer.contents = [])) := by
  intro b drained
  have tidy : drained.Tidy members.length :=
    tidy_runAll (tidy_after (tidy_init fresh) ofSubscription)
  have empty : drained.line = [] := by
    show b.runAll.1.line = []
    rw [runAll_eq, line_iterate, List.drop_length]
  refine ⟨fun ran => ?_, runAll_eq b, empty, tidy.count, fun m member => ?_⟩
  · rw [runNext_answer, line_iterate]
    simp [List.drop_eq_nil_iff]
  · obtain ⟨position, found⟩ := List.mem_iff_getElem?.mp member
    have own := tidy.members m member
    have queue : m.engine.queue = [] := by
      rw [← List.length_eq_zero_iff, ← tidy.line position m found, empty, List.count_nil]
    exact ⟨own.faultless, queue, own.rest queue⟩

/-- A gauge is paused with a value pending, a queue of two overflows, and a third subscription is
dropped while its task is queued. -/
theorem three_subscriptions_drained :
    let plan (name : String) (policy : Policy) : Plan Nat :=
      ⟨some name, ⟨none, policy⟩, none, none, none, true, false⟩
    let subscription (name : String) (policy : Policy) (buffer : Buffer Nat) : Subscription Nat :=
      ⟨⟨none, policy⟩,
        (Engine.init name (.init buffer none) none false true).note
          [.established name ⟨none, policy⟩]⟩
    let gauge := subscription "gauge" .latest (.latest .empty)
    let trace := subscription "trace" (.queue 2) (.queue (.ofCapacity 2))
    let lost := subscription "lost" .latest (.latest .empty)
    let members : List (Member Nat) := [gauge, trace, lost].map fun s => ⟨s.engine, .automatic⟩
    let uses : List (Use Nat) :=
      [.call 0 (.write (some 1)), .call 1 (.write (some 5)), .runNext, .call 0 .pause,
        .call 0 (.write (some 2)), .call 1 (.write (some 6)), .call 1 (.write (some 7)),
        .elapse 1000, .call 2 (.write (some 9)), .call 2 .drop]
    let b := (init members).after uses
    (plan "gauge" .latest).establish ⟨"Nat", 8, none⟩ "" false = .ok gauge ∧
      (plan "trace" (.queue 2)).establish ⟨"Nat", 8, none⟩ "" false = .ok trace ∧
      (plan "lost" .latest).establish ⟨"Nat", 8, none⟩ "" false = .ok lost ∧
      (∀ use ∈ uses, use.isOfSubscription = true) ∧
      b.line = [1, 2] ∧ b.runAll.2 = 2 ∧ b.runAll.1.line = [] ∧
      b.runAll.1.members.map (fun m => m.log.values) = [[1], [6, 7], []] ∧
      ∀ m ∈ b.runAll.1.members, m.log.readyErrors = [] := by
  intro plan subscription gauge trace lost members uses b
  have gauge_ok : (plan "gauge" .latest).establish ⟨"Nat", 8, none⟩ "" false = .ok gauge := rfl
  have trace_ok : (plan "trace" (.queue 2)).establish ⟨"Nat", 8, none⟩ "" false = .ok trace := rfl
  have lost_ok : (plan "lost" .latest).establish ⟨"Nat", 8, none⟩ "" false = .ok lost := rfl
  have fresh : ∀ m ∈ members, m.Fresh := by
    simp only [members, List.map_cons, List.map_nil, List.forall_mem_cons]
    exact ⟨Member.fresh_of_policy gauge_ok rfl rfl rfl, Member.fresh_of_policy trace_ok rfl rfl rfl,
      Member.fresh_of_policy lost_ok rfl rfl rfl, by simp⟩
  have ofSubscription : ∀ use ∈ uses, use.isOfSubscription = true := by decide
  have line : b.line = [1, 2] := by decide
  obtain ⟨_, runs, empty, _, rest⟩ := draining_quiesces fresh ofSubscription
  have twice : b.runAll = ((fun b : Bench Nat => b.runNext.1)^[2] b, 2) := by
    rw [line] at runs
    exact runs
  refine ⟨gauge_ok, trace_ok, lost_ok, ofSubscription, line, ?_, empty, ?_, fun m member => ?_⟩
  · rw [twice]
  · rw [twice]
    decide
  · exact (rest m member).1

end Bench

end Cadence
