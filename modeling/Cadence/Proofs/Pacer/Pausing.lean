import Cadence.Proofs.Pacer.Course

/-!
# Pausing is transparent

Signals reach an idle pacer, and in between it is paused and resumed, any number of times.  If it
is running in the end, and one of the signals recorded something, then one cycle was scheduled on
the way, as it would have been without any pause, and the cycle starts just as it would have
started.

`Gathered` follows such calls.  It says what the pacer has recorded, which depends on the signals
alone, and whether the cycle has been asked for yet.
-/

set_option autoImplicit false

namespace Cadence.Pacer

namespace Operation

def signal? : Operation → Option Signal
  | signal s _ => some s
  | _ => none

def isSwitch : Operation → Bool
  | pause => true
  | resume _ => true
  | _ => false

end Operation

def Answer.cycle? : Answer → Option Nat
  | .transition t => t.cycle?
  | _ => Option.none

def scheduled (given : List (Operation × Answer)) : List Nat :=
  given.filterMap fun exchange => exchange.2.cycle?

/-! ## Recording signals one after the other -/

def recordAll (p : Pacer) (signals : List Signal) : Pacer := signals.foldl record p

theorem recordAll_concat (p : Pacer) (signals : List Signal) (s : Signal) :
    p.recordAll (signals ++ [s]) = (p.recordAll signals).record s := by
  simp [recordAll]

theorem signalled_recordAll {p : Pacer} {marks : List Mark} (signalled : Signalled marks p.snapshot)
    (signals : List Signal) :
    Signalled (marks ++ signals.map .signal) (p.recordAll signals).snapshot := by
  induction signals using List.reverseRecOn with
  | nil => simpa [recordAll] using signalled
  | append_singleton signals s ih =>
      rw [recordAll_concat, List.map_append, List.map_singleton, ← List.append_assoc]
      exact signalled_record ih s

/-- What a signal leaves pending depends on what is pending, and on the flags. -/
theorem snapshot_record_congr {p q : Pacer} (same : p.snapshot = q.snapshot) (s : Signal) :
    (p.record s).snapshot = (q.record s).snapshot := by
  simp only [snapshot, Snapshot.mk.injEq] at same
  obtain ⟨pending, readConnected, writeConnected, readFault, writeFault⟩ := same
  cases s with
  | readConnection connected =>
      by_cases told : q.readConnected = connected <;>
        simp [record, snapshot, pending, readConnected, writeConnected, readFault, writeFault, told]
  | writeConnection connected =>
      by_cases told : q.writeConnected = connected <;>
        simp [record, snapshot, pending, readConnected, writeConnected, readFault, writeFault, told]
  | _ => simp [record, snapshot, pending, readConnected, writeConnected, readFault, writeFault]

/-- A signal that records a kind leaves something pending. -/
theorem pending_recordAll {p : Pacer} {marks : List Mark} (signalled : Signalled marks p.snapshot)
    {before after : List Signal} {s : Signal}
    (records : s.kindAfter (Mark.signals marks ++ before) ≠ none) :
    (p.recordAll (before ++ s :: after)).pending ≠ .empty := by
  obtain ⟨kind, records⟩ := Option.ne_none_iff_exists'.mp records
  have told := signalled_recordAll signalled (before ++ s :: after)
  have recorded : Mark.Recorded (marks ++ (before ++ s :: after).map .signal) kind := by
    refine ⟨marks ++ before.map .signal, s, after.map .signal, by simp, by simp, ?_⟩
    rw [← records]
    simp [Mark.signals, Mark.signal?, List.filterMap_map, Function.comp_def]
  intro empty
  have has : (p.recordAll (before ++ s :: after)).pending.has kind = true :=
    (told.kinds kind).mpr recorded
  rw [empty] at has
  cases has

/-! ## Signals, pauses and resumptions -/

/-- What idle `p` has become after some calls that recorded `signals` and scheduled `asked`. -/
structure Gathered (p : Pacer) (signals : List Signal) (asked : List Nat) (q : Pacer) : Prop where
  isOpen : q.closed = false
  snapshot : q.snapshot = (p.recordAll signals).snapshot
  lastDispatchAt : q.lastDispatchAt = p.lastDispatchAt
  minPeriod : q.minPeriod = p.minPeriod
  /-- Either nothing has been scheduled, and a running pacer has nothing pending, or its next cycle
  has been, once. -/
  stage :
    (asked = [] ∧ q.phase = .idle ∧ q.nextCycle = p.nextCycle ∧ q.eventWhileBusy = false ∧
      (q.paused = false → q.pending = .empty)) ∨
    (asked = [p.nextCycle] ∧ q.phase = .scheduled p.nextCycle ∧ q.nextCycle = p.nextCycle + 1)

namespace Gathered

variable {p q : Pacer} {signals : List Signal} {asked : List Nat}

theorem of_idle (gathered : Gathered p signals asked q) (idle : q.phase = .idle) :
    asked = [] ∧ q.nextCycle = p.nextCycle ∧ q.eventWhileBusy = false ∧
      (q.paused = false → q.pending = .empty) := by
  rcases gathered.stage with ⟨nothing, _, rest⟩ | ⟨_, phase, _⟩
  · exact ⟨nothing, rest⟩
  · rw [idle] at phase
    cases phase

theorem of_busy (gathered : Gathered p signals asked q) (busy : q.phase ≠ .idle) :
    asked = [p.nextCycle] ∧ q.phase = .scheduled p.nextCycle ∧ q.nextCycle = p.nextCycle + 1 := by
  rcases gathered.stage with ⟨_, idle, _⟩ | asked
  · exact absurd idle busy
  · exact asked

theorem signal (gathered : Gathered p signals asked q) (s : Signal) (now : Nat) :
    Gathered p (signals ++ [s]) (asked ++ (q.signal s now).2.cycle?.toList) (q.signal s now).1 := by
  have recorded : (q.record s).snapshot = (p.recordAll (signals ++ [s])).snapshot := by
    rw [recordAll_concat]
    exact snapshot_record_congr gathered.snapshot s
  have isOpen : (q.record s).closed = false := (q.closed_record s).trans gathered.isOpen
  have lastDispatchAt : (q.record s).lastDispatchAt = p.lastDispatchAt := by
    rw [record_eq]
    exact gathered.lastDispatchAt
  have minPeriod : (q.record s).minPeriod = p.minPeriod := by
    rw [record_eq]
    exact gathered.minPeriod
  rcases q.signal_cases s now with
    ⟨isClosed, _⟩ | ⟨_, idle, paused, h⟩ | ⟨_, idle, _, h⟩ | ⟨_, busy, h⟩
  · rw [gathered.isOpen] at isClosed
    cases isClosed
  · obtain ⟨nothing, next, quiet, _⟩ := gathered.of_idle idle
    rw [h]
    refine ⟨isOpen, recorded, lastDispatchAt, minPeriod, .inl ⟨?_, ?_, ?_, ?_, ?_⟩⟩
    · simp [nothing, Transition.cycle?]
    · exact (q.phase_record s).trans idle
    · exact (q.nextCycle_record s).trans next
    · rw [record_eq]
      exact quiet
    · intro running
      rw [paused_record, paused] at running
      cases running
  · obtain ⟨nothing, next, _, _⟩ := gathered.of_idle idle
    have cycle : (q.record s).nextCycle = p.nextCycle := (q.nextCycle_record s).trans next
    rw [h]
    refine ⟨isOpen, recorded, lastDispatchAt, minPeriod, .inr ⟨?_, ?_, ?_⟩⟩
    · simp [nothing, schedule, Transition.cycle?, next]
    · exact congrArg Phase.scheduled cycle
    · exact congrArg (· + 1) cycle
  · obtain ⟨once, phase, next⟩ := gathered.of_busy busy
    rw [h]
    refine ⟨isOpen, recorded, lastDispatchAt, minPeriod, .inr ⟨?_, ?_, ?_⟩⟩
    · simp [once, Transition.cycle?]
    · exact (q.phase_record s).trans phase
    · exact (q.nextCycle_record s).trans next

theorem pause (gathered : Gathered p signals asked q) : Gathered p signals asked q.pause := by
  refine ⟨gathered.isOpen, gathered.snapshot, gathered.lastDispatchAt, gathered.minPeriod, ?_⟩
  refine gathered.stage.imp_left ?_
  rintro ⟨nothing, idle, next, quiet, _⟩
  exact ⟨nothing, idle, next, quiet, Bool.noConfusion⟩

theorem resume (gathered : Gathered p signals asked q) (now : Nat) :
    Gathered p signals (asked ++ (q.resume now).2.cycle?.toList) (q.resume now).1 := by
  rcases q.resume_cases now with ⟨isClosed, _⟩ | ⟨_, idle, _, h⟩ | ⟨_, none, h⟩
  · rw [gathered.isOpen] at isClosed
    cases isClosed
  · obtain ⟨nothing, next, _, _⟩ := gathered.of_idle idle
    rw [h]
    refine ⟨gathered.isOpen, gathered.snapshot, gathered.lastDispatchAt, gathered.minPeriod,
      .inr ⟨?_, ?_, ?_⟩⟩
    · simp [nothing, schedule, Transition.cycle?, next]
    · exact congrArg Phase.scheduled next
    · exact congrArg (· + 1) next
  · rw [h]
    refine ⟨gathered.isOpen, gathered.snapshot, gathered.lastDispatchAt, gathered.minPeriod, ?_⟩
    simp only [Transition.cycle?, Option.toList_none, List.append_nil]
    refine gathered.stage.imp_left ?_
    rintro ⟨nothing, idle, next, quiet, _⟩
    exact ⟨nothing, idle, next, quiet, fun _ => (none idle).2⟩

theorem step (gathered : Gathered p signals asked q) {op : Operation}
    (only : op.signal?.isSome = true ∨ op.isSwitch = true) :
    Gathered p (signals ++ op.signal?.toList) (asked ++ (q.step op).2.cycle?.toList)
      (q.step op).1 := by
  cases op with
  | signal s now => exact gathered.signal s now
  | pause => simpa [Operation.signal?, Answer.cycle?, Pacer.step] using gathered.pause
  | resume now => simpa [Operation.signal?, Answer.cycle?, Pacer.step] using gathered.resume now
  | _ => rcases only with only | only <;> cases only

end Gathered

/-- An idle pacer that is open and running has gathered nothing yet. -/
theorem gathered_start {p : Pacer} (reachable : p.Reachable) (isOpen : p.closed = false)
    (running : p.paused = false) (idle : p.phase = .idle) : Gathered p [] [] p := by
  obtain ⟨empty, quiet⟩ := (wakeful_of_reachable reachable isOpen).idle idle running
  exact ⟨isOpen, rfl, rfl, rfl, .inl ⟨rfl, idle, rfl, quiet, fun _ => empty⟩⟩

theorem gathered_after {p : Pacer} (start : Gathered p [] [] p) {calls : List Operation}
    (only : ∀ op ∈ calls, op.signal?.isSome = true ∨ op.isSwitch = true) :
    Gathered p (calls.filterMap Operation.signal?) (scheduled (p.exchanges calls))
      (p.after calls) := by
  induction calls using List.reverseRecOn with
  | nil => exact start
  | append_singleton calls op ih =>
      have earlier := ih fun op member => only op (List.mem_append_left _ member)
      have next := earlier.step (only op (by simp))
      have exchanged : p.exchanges (calls ++ [op]) =
          p.exchanges calls ++ [(op, ((p.after calls).step op).2)] := p.exchanges_append calls [op]
      rw [filterMap_concat, exchanged, scheduled, filterMap_concat, after_append]
      exact next

/-! ## The start of the cycle -/

theorem running_after {p : Pacer} (running : p.paused = false) {calls : List Operation}
    (only : ∀ op ∈ calls, op.signal?.isSome = true ∨ op.isSwitch = true)
    (resumed : (calls.filter Operation.isSwitch).getLast? ≠ some .pause) :
    (p.after calls).paused = false := by
  induction calls using List.reverseRecOn with
  | nil => exact running
  | append_singleton calls op ih =>
      rw [after_append]
      cases op with
      | signal s now =>
          have earlier := ih (fun op member => only op (List.mem_append_left _ member))
            (by simpa [Operation.isSwitch] using resumed)
          have same : ((p.after calls).signal s now).1.paused = (p.after calls).paused := by
            rcases (p.after calls).signal_cases s now with
              ⟨_, h⟩ | ⟨_, _, _, h⟩ | ⟨_, _, _, h⟩ | ⟨_, _, h⟩ <;> rw [h]
            all_goals exact (p.after calls).paused_record s
          exact same.trans earlier
      | pause => simp [Operation.isSwitch] at resumed
      | resume now =>
          rcases (p.after calls).resume_cases now with ⟨_, h⟩ | ⟨_, _, _, h⟩ | ⟨_, _, h⟩ <;>
            simp [after, Pacer.step, h, schedule]
      | _ =>
          rcases only _ (List.mem_append_right _ (List.mem_singleton_self _)) with only | only <;>
            cases only

/-- What a cycle leaves when it starts does not depend on what led to it. -/
theorem started_congr {q r : Pacer} (snapshot : q.snapshot = r.snapshot)
    (paused : q.paused = r.paused) (closed : q.closed = r.closed)
    (nextCycle : q.nextCycle = r.nextCycle) (lastDispatchAt : q.lastDispatchAt = r.lastDispatchAt)
    (minPeriod : q.minPeriod = r.minPeriod) (cycle now : Nat) :
    q.started cycle now = r.started cycle now := by
  have readConnected : q.readConnected = r.readConnected := congrArg Snapshot.readConnected snapshot
  have writeConnected : q.writeConnected = r.writeConnected :=
    congrArg Snapshot.writeConnected snapshot
  simp only [started, paused, closed, nextCycle, lastDispatchAt, minPeriod, readConnected,
    writeConnected]

/-- Once something is pending and the pacer runs, the cycle has been scheduled. -/
theorem Gathered.scheduled_of_pending {p q : Pacer} {signals : List Signal} {asked : List Nat}
    (gathered : Gathered p signals asked q) (running : q.paused = false)
    (pending : (p.recordAll signals).pending ≠ .empty) :
    asked = [p.nextCycle] ∧ q.phase = .scheduled p.nextCycle ∧ q.nextCycle = p.nextCycle + 1 := by
  refine gathered.of_busy fun idle => pending ?_
  rw [← (gathered.of_idle idle).2.2.2 running]
  exact (congrArg Snapshot.kinds gathered.snapshot).symm

theorem begin_of_scheduled {q : Pacer} {cycle : Nat} (isOpen : q.closed = false)
    (phase : q.phase = .scheduled cycle) (now : Nat) :
    q.begin cycle now = (q.started cycle now, some q.snapshot) := by
  rcases q.begin_cases cycle now with ⟨isClosed, _⟩ | ⟨_, _, h⟩ | ⟨_, other, _⟩
  · rw [isOpen] at isClosed
    cases isClosed
  · exact h
  · exact absurd phase other

/-- Nothing but resuming it makes a paused pacer schedule a cycle. -/
theorem resume_of_scheduled {q : Pacer} {op : Operation} (paused : q.paused = true)
    (only : op.signal?.isSome = true ∨ op.isSwitch = true) (asks : (q.step op).2.cycle? ≠ none) :
    ∃ now, op = .resume now := by
  cases op with
  | signal s now =>
      rcases q.signal_cases s now with
        ⟨_, h⟩ | ⟨_, _, _, h⟩ | ⟨_, _, running, _⟩ | ⟨_, _, h⟩
      · simp [step, h, Answer.cycle?, Transition.cycle?] at asks
      · simp [step, h, Answer.cycle?, Transition.cycle?] at asks
      · rw [paused] at running
        cases running
      · simp [step, h, Answer.cycle?, Transition.cycle?] at asks
  | pause => exact (asks rfl).elim
  | resume now => exact ⟨now, rfl⟩
  | _ => rcases only with only | only <;> cases only

end Cadence.Pacer
