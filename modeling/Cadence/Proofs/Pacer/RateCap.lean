import Cadence.Proofs.Pacer.Spacing

/-!
# The rate cap

The cap keeps dispatched cycles apart and does nothing else: two pacers that differ in it alone
answer the same calls in the same way, but for the delays, and go through the same states.  Only a
cap so long that a period would end after the latest instant there is makes calls panic.
-/

set_option autoImplicit false

namespace Cadence.Pacer

/-! ## Two runs that differ in the cap -/

def withCap (p : Pacer) (minPeriod : Option Nat) : Pacer := { p with minPeriod := minPeriod }

def Transition.undelayed : Transition → Transition
  | .schedule cycle _ => .schedule cycle 0
  | transition => transition

def Answer.undelayed : Answer → Answer
  | .transition t => .transition (Transition.undelayed t)
  | answer => answer

section

variable (p : Pacer) (minPeriod : Option Nat)

theorem record_withCap (s : Signal) :
    (p.withCap minPeriod).record s = (p.record s).withCap minPeriod := by
  cases s with
  | readConnection connected =>
      by_cases same : p.readConnected = connected <;> simp [record, withCap, same]
  | writeConnection connected =>
      by_cases same : p.writeConnected = connected <;> simp [record, withCap, same]
  | _ => rfl

theorem signal_withCap (s : Signal) (now : Nat) :
    ((p.withCap minPeriod).signal s now).1 = (p.signal s now).1.withCap minPeriod ∧
      Transition.undelayed ((p.withCap minPeriod).signal s now).2 =
        Transition.undelayed (p.signal s now).2 := by
  unfold signal
  rw [record_withCap]
  cases isClosed : p.closed with
  | true => simp [withCap, isClosed]
  | false =>
      cases phase : p.phase with
      | idle =>
          cases held : p.paused <;>
            simp [withCap, isClosed, phase, held, schedule, Transition.undelayed]
      | scheduled cycle => simp [withCap, isClosed, phase]
      | inFlight cycle dispatched => simp [withCap, isClosed, phase]

theorem begin_withCap (cycle now : Nat) :
    (p.withCap minPeriod).begin cycle now =
      ((p.begin cycle now).1.withCap minPeriod, (p.begin cycle now).2) := by
  rcases p.begin_cases cycle now with ⟨isClosed, h⟩ | ⟨isOpen, scheduled, h⟩ | ⟨isOpen, other, h⟩ <;>
    rw [h]
  · simp [begin, withCap, isClosed]
  · simp [begin, withCap, isOpen, scheduled, started, snapshot]
  · simp [begin, withCap, isOpen, other]

theorem markDispatched_withCap (cycle : Nat) :
    (p.withCap minPeriod).markDispatched cycle =
      ((p.markDispatched cycle).1.withCap minPeriod, (p.markDispatched cycle).2) := by
  have phase : (p.withCap minPeriod).phase = p.phase := rfl
  unfold markDispatched
  rw [phase]
  cases p.phase with
  | inFlight current dispatched => by_cases same : current = cycle <;> simp [withCap, same]
  | _ => rfl

theorem finish_withCap (now : Nat) :
    ((p.withCap minPeriod).finish now).1 = (p.finish now).1.withCap minPeriod ∧
      Transition.undelayed ((p.withCap minPeriod).finish now).2 =
        Transition.undelayed (p.finish now).2 := by
  rcases p.finish_cases now with ⟨isClosed, h⟩ | ⟨isOpen, busy, running, h⟩ | ⟨isOpen, quiet, h⟩ <;>
    rw [h]
  · simp [finish, withCap, isClosed]
  · simp [finish, withCap, isOpen, busy, running, schedule, Transition.undelayed]
  · rcases quiet with quiet | paused
    · simp [finish, withCap, isOpen, quiet]
    · simp [finish, withCap, isOpen, paused]

theorem ready_withCap (cycle now : Nat) :
    ((p.withCap minPeriod).step (.ready cycle now)).1 =
        (p.step (.ready cycle now)).1.withCap minPeriod ∧
      ((p.withCap minPeriod).step (.ready cycle now)).2.undelayed =
        (p.step (.ready cycle now)).2.undelayed := by
  have phase : (p.withCap minPeriod).phase = p.phase := rfl
  obtain ⟨state, transition⟩ := p.finish_withCap minPeriod now
  simp only [step, ready]
  rw [phase]
  cases p.phase with
  | idle => exact ⟨rfl, rfl⟩
  | scheduled current => by_cases same : current = cycle <;> simp [same]
  | inFlight current dispatched =>
      by_cases same : current = cycle
      · cases dispatched with
        | false => simp [same]
        | true =>
            simp only [if_pos same, if_true]
            exact ⟨state, congrArg Answer.transition transition⟩
      · simp [same]

theorem skip_withCap (cycle now : Nat) :
    ((p.withCap minPeriod).skip cycle now).1 = (p.skip cycle now).1.withCap minPeriod ∧
      Transition.undelayed ((p.withCap minPeriod).skip cycle now).2 =
        Transition.undelayed (p.skip cycle now).2 := by
  have phase : (p.withCap minPeriod).phase = p.phase := rfl
  unfold skip
  rw [phase]
  cases p.phase with
  | inFlight current dispatched =>
      by_cases same : current = cycle
      · simp only [if_pos same]
        exact p.finish_withCap minPeriod now
      · simp [same]
  | _ => exact ⟨rfl, rfl⟩

theorem resume_withCap (now : Nat) :
    ((p.withCap minPeriod).resume now).1 = (p.resume now).1.withCap minPeriod ∧
      Transition.undelayed ((p.withCap minPeriod).resume now).2 =
        Transition.undelayed (p.resume now).2 := by
  unfold resume
  cases isClosed : p.closed with
  | true => simp [withCap, isClosed]
  | false =>
      by_cases work : p.phase = .idle ∧ (p.eventWhileBusy = true ∨ p.pending.isEmpty = false)
      · simp [withCap, isClosed, work, schedule, Transition.undelayed]
      · simp [withCap, isClosed, work]

theorem close_withCap :
    (p.withCap minPeriod).close = (p.close.1.withCap minPeriod, p.close.2) := by
  cases isClosed : p.closed <;> simp [close, withCap, isClosed]

/-- The cap shows in the delays, and nowhere else. -/
theorem step_withCap (op : Operation) :
    ((p.withCap minPeriod).step op).1 = (p.step op).1.withCap minPeriod ∧
      ((p.withCap minPeriod).step op).2.undelayed = (p.step op).2.undelayed := by
  cases op with
  | signal s now =>
      obtain ⟨state, transition⟩ := p.signal_withCap minPeriod s now
      exact ⟨state, congrArg Answer.transition transition⟩
  | begin cycle now =>
      simp only [step, begin_withCap]
      exact ⟨trivial, trivial⟩
  | markDispatched cycle =>
      simp only [step, markDispatched_withCap]
      exact ⟨trivial, trivial⟩
  | ready cycle now => exact p.ready_withCap minPeriod cycle now
  | skip cycle now =>
      obtain ⟨state, transition⟩ := p.skip_withCap minPeriod cycle now
      exact ⟨state, congrArg Answer.transition transition⟩
  | pause => exact ⟨rfl, rfl⟩
  | resume now =>
      obtain ⟨state, transition⟩ := p.resume_withCap minPeriod now
      exact ⟨state, congrArg Answer.transition transition⟩
  | close =>
      simp only [step, close_withCap]
      exact ⟨trivial, trivial⟩

theorem after_withCap (history : List Operation) :
    (p.withCap minPeriod).after history = (p.after history).withCap minPeriod := by
  induction history generalizing p with
  | nil => rfl
  | cons op rest ih =>
      rw [after, (p.step_withCap minPeriod op).1]
      exact ih (p.step op).1

end

/-! ## Calls that return -/

def attempted (p : Pacer) (latest : Nat) (history : List Operation) :
    List (Operation × Except Panic Answer) :=
  history.zip ((p.attempts latest history).map Prod.fst)

def returned (calls : List (Operation × Except Panic Answer)) : List (Operation × Answer) :=
  calls.filterMap fun call => call.2.toOption.map fun answer => (call.1, answer)

theorem attempted_append (p : Pacer) (latest : Nat) (first later : List Operation) :
    p.attempted latest (first ++ later) =
      p.attempted latest first ++ (p.after first).attempted latest later := by
  induction first generalizing p with
  | nil => rfl
  | cons op rest ih => exact congrArg _ (ih (p.step op).1)

theorem attempted_split {p : Pacer} {latest : Nat} {history : List Operation}
    {before after : List (Operation × Except Panic Answer)} {op : Operation}
    {ending : Except Panic Answer}
    (split : p.attempted latest history = before ++ (op, ending) :: after) :
    ∃ first, before = p.attempted latest first ∧
      ending = ((p.after first).attempt latest op).2 := by
  induction history generalizing p before with
  | nil => simp [attempted] at split
  | cons head rest ih =>
      cases before with
      | nil =>
          have same := List.cons.inj split
          obtain ⟨rfl, rfl⟩ := Prod.mk.inj same.1
          exact ⟨[], rfl, rfl⟩
      | cons call before =>
          have same := List.cons.inj split
          obtain ⟨first, rfl, rfl⟩ := ih same.2
          exact ⟨head :: first, by rw [← same.1]; rfl, rfl⟩

theorem returned_concat (calls : List (Operation × Except Panic Answer)) (op : Operation)
    (ending : Except Panic Answer) : returned (calls ++ [(op, ending)]) =
      returned calls ++ (ending.toOption.map fun answer => (op, answer)).toList :=
  filterMap_concat ..

section

variable {calls : List (Operation × Except Panic Answer)} {p : Pacer} {latest : Nat} {op : Operation}

/-- A call ends as it is answered, unless it schedules a cycle. -/
theorem ending_cases (p : Pacer) (latest : Nat) (answer : Answer) :
    p.ending latest answer = .ok answer ∨
      p.ending latest answer = .error (.instantOverflow false) ∧ p.outlasts latest = true ∧
        ∃ cycle delay, answer = .transition (.schedule cycle delay) := by
  unfold ending
  split
  · split
    · rename_i beyond
      exact .inr ⟨rfl, beyond, _, _, rfl⟩
    · exact .inl rfl
  · exact .inl rfl

/-- A call that panics has scheduled a cycle all the same, and nobody has been told. -/
theorem clocked_attempt (clocked : Clocked (returned calls) p)
    (timely : Timely (returned (calls ++ [(op, (p.attempt latest op).2)]))) :
    Clocked (returned (calls ++ [(op, (p.attempt latest op).2)])) (p.step op).1 := by
  rw [returned_concat, attempt] at timely ⊢
  rcases (p.step op).1.ending_cases latest (p.step op).2 with ends | ⟨ends, -, _, _, scheduled⟩ <;>
    simp only [ends] at timely ⊢
  · exact clocked_step clocked timely
  · obtain ⟨now, q, _, same, stepped⟩ := step_of_schedule scheduled
    rw [stepped]
    exact (List.append_nil (returned calls)).symm ▸ clocked.schedule same now

theorem timely_of_append {later : List (Operation × Except Panic Answer)}
    (timely : Timely (returned (calls ++ later))) : Timely (returned calls) := by
  rw [returned, List.filterMap_append] at timely
  exact timely.of_append

end

theorem clocked_attempted (minPeriod : Option Nat) (latest : Nat) (history : List Operation)
    (timely : Timely (returned ((init minPeriod).attempted latest history))) :
    Clocked (returned ((init minPeriod).attempted latest history))
      ((init minPeriod).after history) := by
  induction history using List.reverseRecOn with
  | nil => exact clocked_init minPeriod
  | append_singleton history op ih =>
      rw [attempted_append] at timely ⊢
      rw [after_append]
      exact clocked_attempt (ih (timely_of_append timely)) timely

/-! ## Calls that panic -/

theorem ending_undelayed (p : Pacer) (latest : Nat) (answer : Answer) :
    (p.ending latest answer).map Answer.undelayed = p.ending latest answer.undelayed := by
  cases answer with
  | transition t =>
      cases t with
      | schedule cycle delay =>
          simp only [ending, Answer.undelayed, Transition.undelayed]
          split <;> rfl
      | _ => rfl
  | _ => rfl

theorem attempts_withCap (p : Pacer) (minPeriod : Option Nat) (latest : Nat)
    (history : List Operation) :
    ((p.withCap minPeriod).attempts latest history).map
        (fun given => (given.1.map Answer.undelayed, given.2)) =
      (p.trace history).map fun given =>
        (((given.2.withCap minPeriod).ending latest given.1).map Answer.undelayed,
          given.2.withCap minPeriod) := by
  induction history generalizing p with
  | nil => rfl
  | cons op rest ih =>
      obtain ⟨state, answer⟩ := p.step_withCap minPeriod op
      have ending : (((p.withCap minPeriod).attempt latest op).2).map Answer.undelayed =
          (((p.step op).1.withCap minPeriod).ending latest (p.step op).2).map Answer.undelayed := by
        rw [attempt, ending_undelayed, ending_undelayed, state, answer]
      have stepped : ((p.withCap minPeriod).attempt latest op).1 = (p.step op).1.withCap minPeriod :=
        state
      simp only [attempts, trace, List.map_cons, ending, stepped, ih]

/-! ## Room on the clock -/

/-- The instants that a pacer knows leave room for a period. -/
def Roomy (latest : Nat) (p : Pacer) : Prop :=
  (∀ start, p.startedAt = some start → start + p.minPeriod.getD 0 ≤ latest) ∧
    ∀ last, p.lastDispatchAt = some last → last + p.minPeriod.getD 0 ≤ latest

theorem Roomy.ending {latest : Nat} {p : Pacer} (roomy : Roomy latest p) (answer : Answer) :
    p.ending latest answer = .ok answer := by
  rcases p.ending_cases latest answer with ends | ⟨-, beyond, -⟩
  · exact ends
  · have room := roomy.2
    unfold outlasts at beyond
    split at beyond
    · rename_i period last capped dispatched
      have fits := room last dispatched
      rw [capped, Option.getD_some] at fits
      have later : latest < last + period := by simpa using beyond
      omega
    · cases beyond

theorem roomy_init (minPeriod : Option Nat) (latest : Nat) : Roomy latest (init minPeriod) :=
  ⟨nofun, nofun⟩

section

variable {latest : Nat} {p q : Pacer}

/-- A call that neither starts a cycle nor dispatches one brings no instant into the state. -/
theorem Roomy.keep (roomy : Roomy latest p) (cap : q.minPeriod = p.minPeriod)
    (last : q.lastDispatchAt = p.lastDispatchAt)
    (started : q.startedAt = p.startedAt ∨ q.startedAt = none) : Roomy latest q := by
  rw [Roomy, cap, last]
  refine ⟨fun start is => ?_, roomy.2⟩
  rcases started with same | none
  · exact roomy.1 start (same.symm.trans is)
  · rw [none] at is
    cases is

theorem Roomy.finish (roomy : Roomy latest p) (now : Nat) : Roomy latest (p.finish now).1 := by
  rcases p.finish_cases now with ⟨_, h⟩ | ⟨_, _, _, h⟩ | ⟨_, _, h⟩ <;> rw [h] <;>
    exact roomy.keep rfl rfl (.inr rfl)

theorem roomy_step (roomy : Roomy latest p) {op : Operation}
    (room : ∀ now ∈ op.instant?, now + p.minPeriod.getD 0 ≤ latest) :
    Roomy latest (p.step op).1 := by
  cases op with
  | signal s now =>
      have recorded := p.sameClock_record s
      have kept := roomy.keep recorded.minPeriod recorded.lastDispatchAt (.inl (p.startedAt_record s))
      rcases p.signal_cases s now with ⟨_, h⟩ | ⟨_, _, _, h⟩ | ⟨_, _, _, h⟩ | ⟨_, _, h⟩ <;>
        simp only [step, h]
      · exact roomy
      · exact kept
      · exact kept.keep rfl rfl (.inl rfl)
      · exact kept.keep rfl rfl (.inl rfl)
  | begin cycle now =>
      rcases p.begin_cases cycle now with ⟨_, h⟩ | ⟨_, _, h⟩ | ⟨_, _, h⟩ <;> simp only [step, h]
      · exact roomy.keep rfl rfl (.inl rfl)
      · refine ⟨?_, roomy.2⟩
        rintro start ⟨⟩
        exact room now rfl
      · exact roomy
  | markDispatched cycle =>
      rcases p.markDispatched_cases cycle with ⟨_, _, h⟩ | ⟨_, h⟩ <;> simp only [step, h]
      · refine ⟨fun start is => absurd is.symm (Option.some_ne_none start), fun last is => ?_⟩
        rcases Option.or_eq_some_iff.mp is with started | ⟨_, before⟩
        · exact roomy.1 last started
        · exact roomy.2 last before
      · exact roomy
  | ready cycle now =>
      rcases p.ready_cases cycle now with ⟨_, h⟩ | ⟨_, _, h⟩ <;> simp only [step, h]
      · exact roomy.finish now
      · exact roomy
  | skip cycle now =>
      rcases p.skip_cases cycle now with ⟨_, _, h⟩ | ⟨_, h⟩ <;> simp only [step, h]
      · exact roomy.finish now
      · exact roomy
  | pause => exact roomy.keep rfl rfl (.inl rfl)
  | resume now =>
      rcases p.resume_cases now with ⟨_, h⟩ | ⟨_, _, _, h⟩ | ⟨_, _, h⟩ <;> simp only [step, h] <;>
        exact roomy.keep rfl rfl (.inl rfl)
  | close =>
      simp only [step, close]
      split
      · exact roomy
      · exact roomy.keep rfl rfl (.inl rfl)

theorem attempts_of_room {history : List Operation} (roomy : Roomy latest p)
    (room : ∀ op ∈ history, ∀ now ∈ op.instant?, now + p.minPeriod.getD 0 ≤ latest) :
    p.attempts latest history = (p.trace history).map fun given => (.ok given.1, given.2) := by
  induction history generalizing p with
  | nil => rfl
  | cons op rest ih =>
      have next := roomy_step roomy (room op List.mem_cons_self)
      have fixed : (p.step op).1 = (p.step op).1.withCap p.minPeriod :=
        (p.step_withCap p.minPeriod op).1
      have cap : (p.step op).1.minPeriod = p.minPeriod := by rw [fixed]; rfl
      have later := ih next fun op mem => cap ▸ room op (List.mem_cons_of_mem _ mem)
      simp only [attempts, trace, List.map_cons, attempt, next.ending, later]

end

/-- In a timely history every dispatched cycle has started, once, and any two of them a period apart.
Each delay is what was left of the period since the last dispatched start, or nothing if there was
none.  A pacer with another cap answers the same calls in the same way, but for the delays, and goes
through the same states; a call panics instead of answering if it schedules a cycle and the period
would end after the latest instant, and no call does if a period can follow every instant. -/
theorem dispatches_spaced (minPeriod : Option Nat) (latest : Nat) :
    (∀ history calls, calls = (init minPeriod).attempted latest history → Timely (returned calls) →
      (∀ cycle ∈ dispatches (returned calls), ∃ start, (cycle, start) ∈ starts (returned calls)) ∧
      ((starts (returned calls)).map Prod.fst).Nodup ∧
      Spaced (minPeriod.getD 0) (starts (returned calls)) (dispatches (returned calls)) ∧
      ∀ before op cycle delay after,
        calls = before ++ (op, .ok (.transition (.schedule cycle delay))) :: after →
          ∃ now last, op.instant? = some now ∧
            LastStart (starts (returned before)) (dispatches (returned before)) last ∧
            delay = (last.elim 0 fun start => start + minPeriod.getD 0 - now) ∧
            delay ≤ minPeriod.getD 0) ∧
    (∀ (p : Pacer) history,
      ((p.withCap minPeriod).attempts latest history).map
          (fun given => (given.1.map Answer.undelayed, given.2)) =
        (p.trace history).map fun given =>
          (((given.2.withCap minPeriod).ending latest given.1).map Answer.undelayed,
            given.2.withCap minPeriod)) ∧
    (∀ history, (∀ op ∈ history, ∀ now ∈ op.instant?, now + minPeriod.getD 0 ≤ latest) →
      (init minPeriod).attempts latest history =
        ((init minPeriod).trace history).map fun given => (.ok given.1, given.2)) := by
  refine ⟨?_, fun p history => p.attempts_withCap minPeriod latest history, fun history room =>
    attempts_of_room (roomy_init minPeriod latest) room⟩
  rintro history calls rfl timely
  have clocked := clocked_attempted minPeriod latest history timely
  have cap : ∀ later, ((init minPeriod).after later).minPeriod = minPeriod := fun later =>
    congrArg Pacer.minPeriod ((init minPeriod).after_withCap minPeriod later)
  have paced := clocked.paced
  rw [cap] at paced
  refine ⟨paced.started, clocked.startedOnce, paced.spaced, ?_⟩
  intro before op cycle delay after split
  obtain ⟨first, rfl, ended⟩ := attempted_split split
  have answered : (((init minPeriod).after first).step op).2 =
      .transition (.schedule cycle delay) := by
    have ended : _ = ((((init minPeriod).after first).step op).1.ending latest _) := ended
    rcases Pacer.ending_cases _ latest (((init minPeriod).after first).step op).2 with
      ends | ⟨ends, -⟩
    · exact (Except.ok.inj (ended.trans ends)).symm
    · cases ended.trans ends
  rw [split, List.append_cons] at timely
  have upTo := timely_of_append timely
  have earlier := clocked_attempted minPeriod latest first (timely_of_append upTo)
  rw [returned_concat, ← answered] at upTo
  have delayed := delay_of_schedule earlier answered upTo
  rw [cap] at delayed
  exact delayed

/-- The second cycle starts when its delay is over and is skipped, which leaves the third one free to
start at once. -/
theorem skipped_cycle_delays_nothing :
    let history : List Operation :=
      [.signal .value 0, .begin 1 0, .markDispatched 1, .signal .value 3, .ready 1 4, .begin 2 10,
        .skip 2 10, .signal .writeSucceeded 11, .begin 3 11, .markDispatched 3]
    let calls := (init (some 10)).attempted 1000 history
    let given := returned calls
    Timely given ∧ starts given = [(1, 0), (2, 10), (3, 11)] ∧ dispatches given = [1, 3] ∧
      dues given = [(1, 0), (2, 10), (3, 11)] ∧ Spaced 10 (starts given) (dispatches given) ∧
      given.length = history.length := by
  intro history calls given
  have timely : Timely given := by decide
  exact ⟨timely, by decide, by decide, by decide,
    ((dispatches_spaced (some 10) 1000).1 history calls rfl timely).2.2.1, by decide⟩

/-- With the longest period there is, the second cycle cannot be scheduled on a clock that counts
seconds in a signed word; without a cap it is scheduled at once. -/
theorem longest_period_panics :
    let latest := 9223372036854775808 * 1000000000 - 1
    let longest := 18446744073709551616 * 1000000000 - 1
    let history : List Operation :=
      [.signal .value 0, .begin 1 0, .markDispatched 1, .ready 1 1, .signal .value 2]
    ((init (some longest)).attempted latest history).getLast? =
        some (.signal .value 2, .error ⟨some "overflow when adding duration to instant"⟩) ∧
      ((init none).attempted latest history).getLast? =
        some (.signal .value 2, .ok (.transition (.schedule 2 0))) := by
  decide

end Cadence.Pacer
