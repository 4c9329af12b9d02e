import Cadence.Proofs.Pacer.Operations

/-!
# No signal is stranded

A signal that a pacer has taken is pending until a cycle starts.  In every reachable open state that
cycle is provided for: it is scheduled already, or the cycle in flight schedules it when it ends, or
the pacer is paused and resuming schedules it.

The invariant `Wakeful` ties the pending kinds to the phase, to `paused` and to `eventWhileBusy`.
It also keeps every stored fault beside a pending kind, so that a pacer with nothing pending stores
no fault.
-/

set_option autoImplicit false

namespace Cadence.Pacer

/-- Whatever is pending is provided for. -/
structure Wakeful (p : Pacer) : Prop where
  idle : p.phase = .idle → p.paused = false → p.pending = .empty ∧ p.eventWhileBusy = false
  busy : ∀ cycle dispatched, p.phase = .inFlight cycle dispatched → p.pending ≠ .empty →
    p.eventWhileBusy = true
  readFault : p.readFault ≠ none → p.pending.has .readException = true
  writeFault : p.writeFault ≠ none →
    p.pending.has .writeException = true ∨ p.pending.has .writeFailed = true

theorem Wakeful.faults_of_empty {p : Pacer} (wakeful : Wakeful p) (empty : p.pending = .empty) :
    p.readFault = none ∧ p.writeFault = none := by
  constructor
  · by_contra stored
    have kind := wakeful.readFault stored
    rw [empty] at kind
    cases kind
  · by_contra stored
    have kind := wakeful.writeFault stored
    rw [empty] at kind
    rcases kind with kind | kind <;> cases kind

theorem Wakeful.of_scheduled {p : Pacer} {cycle : Nat} (scheduled : p.phase = .scheduled cycle)
    (readFault : p.readFault ≠ none → p.pending.has .readException = true)
    (writeFault : p.writeFault ≠ none →
      p.pending.has .writeException = true ∨ p.pending.has .writeFailed = true) :
    Wakeful p where
  idle phase := by rw [scheduled] at phase; cases phase
  busy _ _ phase := by rw [scheduled] at phase; cases phase
  readFault := readFault
  writeFault := writeFault

theorem wakeful_init (minPeriod : Option Nat) : Wakeful (init minPeriod) where
  idle _ _ := ⟨rfl, rfl⟩
  busy _ _ phase := by cases phase
  readFault stored := absurd rfl stored
  writeFault stored := absurd rfl stored

/-! ## Faults are recorded together with their kinds -/

theorem readException_of_readFault {p : Pacer} (wakeful : Wakeful p) (s : Signal)
    (stored : (p.record s).readFault ≠ none) :
    (p.record s).pending.has .readException = true := by
  rw [readFault_record] at stored
  cases new : s.readFault? with
  | none =>
      rw [new, Option.none_or] at stored
      exact pending_record (wakeful.readFault stored) s
  | some fault =>
      cases s <;> simp_all [Signal.readFault?, record]

theorem writeKind_of_writeFault {p : Pacer} (wakeful : Wakeful p) (s : Signal)
    (stored : (p.record s).writeFault ≠ none) :
    (p.record s).pending.has .writeException = true ∨
      (p.record s).pending.has .writeFailed = true := by
  rw [writeFault_record] at stored
  cases new : s.writeFault? with
  | none =>
      rw [new, Option.none_or] at stored
      exact (wakeful.writeFault stored).imp (pending_record · s) (pending_record · s)
  | some fault =>
      cases s <;> simp_all [Signal.writeFault?, record]

/-! ## Each operation keeps the invariant -/

theorem wakeful_signal {p : Pacer} (wakeful : Wakeful p) (s : Signal) (now : Nat) :
    Wakeful (p.signal s now).1 := by
  have readFault := readException_of_readFault wakeful s
  have writeFault := writeKind_of_writeFault wakeful s
  rcases p.signal_cases s now with
    ⟨_, h⟩ | ⟨_, idle, paused, h⟩ | ⟨_, _, _, h⟩ | ⟨_, busy, h⟩ <;> rw [h]
  · exact wakeful
  · refine ⟨fun _ running => ?_, fun _ _ phase => ?_, readFault, writeFault⟩
    · rw [paused_record, paused] at running
      cases running
    · rw [phase_record, idle] at phase
      cases phase
  · exact .of_scheduled rfl readFault writeFault
  · exact ⟨fun phase => absurd ((p.phase_record s).symm.trans phase) busy, fun _ _ _ _ => rfl,
      readFault, writeFault⟩

theorem wakeful_begin {p : Pacer} (wakeful : Wakeful p) (isOpen : p.closed = false)
    (cycle now : Nat) : Wakeful (p.begin cycle now).1 := by
  rcases p.begin_cases cycle now with ⟨isClosed, _⟩ | ⟨_, _, h⟩ | ⟨_, _, h⟩
  · rw [isOpen] at isClosed
    cases isClosed
  · rw [h]
    exact ⟨Phase.noConfusion, fun _ _ _ pending => absurd rfl pending, absurd rfl, absurd rfl⟩
  · rw [h]
    exact wakeful

theorem wakeful_markDispatched {p : Pacer} (wakeful : Wakeful p) (cycle : Nat) :
    Wakeful (p.markDispatched cycle).1 := by
  rcases p.markDispatched_cases cycle with ⟨dispatched, phase, h⟩ | ⟨_, h⟩ <;> rw [h]
  · exact ⟨Phase.noConfusion, fun _ _ _ => wakeful.busy cycle dispatched phase,
      wakeful.readFault, wakeful.writeFault⟩
  · exact wakeful

/-- A cycle that ends while signals wait schedules the next one, unless the pacer is paused. -/
theorem wakeful_finish {p : Pacer} {cycle : Nat} {dispatched : Bool} (wakeful : Wakeful p)
    (isOpen : p.closed = false) (phase : p.phase = .inFlight cycle dispatched) (now : Nat) :
    Wakeful (p.finish now).1 := by
  rcases p.finish_cases now with ⟨isClosed, _⟩ | ⟨_, _, _, h⟩ | ⟨_, quiet, h⟩
  · rw [isOpen] at isClosed
    cases isClosed
  · rw [h]
    exact .of_scheduled rfl wakeful.readFault wakeful.writeFault
  · rw [h]
    refine ⟨fun _ running => ?_, fun _ _ => Phase.noConfusion, wakeful.readFault,
      wakeful.writeFault⟩
    have notBusy : p.eventWhileBusy = false :=
      quiet.resolve_right fun paused => by rw [running] at paused; cases paused
    refine ⟨?_, notBusy⟩
    -- a signal that arrived in flight would have set `eventWhileBusy`
    by_contra pending
    have busy := wakeful.busy cycle dispatched phase pending
    rw [notBusy] at busy
    cases busy

theorem wakeful_resume {p : Pacer} (wakeful : Wakeful p) (isOpen : p.closed = false) (now : Nat) :
    Wakeful (p.resume now).1 := by
  rcases p.resume_cases now with ⟨isClosed, _⟩ | ⟨_, _, _, h⟩ | ⟨_, none, h⟩
  · rw [isOpen] at isClosed
    cases isClosed
  · rw [h]
    exact .of_scheduled rfl wakeful.readFault wakeful.writeFault
  · rw [h]
    exact ⟨fun phase _ => (none phase).symm, wakeful.busy, wakeful.readFault, wakeful.writeFault⟩

theorem wakeful_step {p : Pacer} (wakeful : Wakeful p) (isOpen : p.closed = false)
    {op : Operation} (other : op ≠ .close) : Wakeful (p.step op).1 := by
  cases op with
  | signal s now => exact wakeful_signal wakeful s now
  | begin cycle now => exact wakeful_begin wakeful isOpen cycle now
  | markDispatched cycle => exact wakeful_markDispatched wakeful cycle
  | ready cycle now =>
      rcases p.ready_cases cycle now with ⟨phase, h⟩ | ⟨_, _, h⟩ <;> simp only [step, h]
      · exact wakeful_finish wakeful isOpen phase now
      · exact wakeful
  | skip cycle now =>
      rcases p.skip_cases cycle now with ⟨_, phase, h⟩ | ⟨_, h⟩ <;> simp only [step, h]
      · exact wakeful_finish wakeful isOpen phase now
      · exact wakeful
  | pause =>
      exact ⟨fun _ => Bool.noConfusion, wakeful.busy, wakeful.readFault, wakeful.writeFault⟩
  | resume now => exact wakeful_resume wakeful isOpen now
  | close => exact absurd rfl other

theorem wakeful_of_reachable {p : Pacer} (reachable : p.Reachable) (isOpen : p.closed = false) :
    Wakeful p :=
  reachable.induct wakeful_init
    (fun _ _ wasOpen wakeful stillOpen =>
      wakeful_step wakeful wasOpen (open_of_step stillOpen).2) isOpen

/-! ## What is pending stays pending until a cycle takes it -/

theorem pending_finish (p : Pacer) (now : Nat) : (p.finish now).1.pending = p.pending :=
  congrArg Snapshot.kinds (p.snapshot_finish now)

theorem pending_step {p : Pacer} {op : Operation} {kind : EventKind}
    (pending : p.pending.has kind = true) (stillOpen : (p.step op).1.closed = false)
    (noStart : ∀ snapshot, (p.step op).2 ≠ .snapshot (some snapshot)) :
    (p.step op).1.pending.has kind = true := by
  cases op with
  | signal s now =>
      have recorded := pending_record pending s
      rcases p.signal_cases s now with ⟨_, h⟩ | ⟨_, _, _, h⟩ | ⟨_, _, _, h⟩ | ⟨_, _, h⟩ <;>
        simpa [step, h, schedule] using ‹_›
  | begin cycle now =>
      rcases p.begin_cases cycle now with ⟨_, h⟩ | ⟨_, _, h⟩ | ⟨_, _, h⟩
      · simpa [step, h] using pending
      · exact absurd (by simp [step, h]) (noStart p.snapshot)
      · simpa [step, h] using pending
  | markDispatched cycle =>
      rcases p.markDispatched_cases cycle with ⟨_, _, h⟩ | ⟨_, h⟩ <;> simpa [step, h] using pending
  | ready cycle now =>
      rcases p.ready_cases cycle now with ⟨_, h⟩ | ⟨_, _, h⟩ <;>
        simpa [step, h, pending_finish] using pending
  | skip cycle now =>
      rcases p.skip_cases cycle now with ⟨_, _, h⟩ | ⟨_, h⟩ <;>
        simpa [step, h, pending_finish] using pending
  | pause => exact pending
  | resume now =>
      rcases p.resume_cases now with ⟨_, h⟩ | ⟨_, _, _, h⟩ | ⟨_, _, h⟩ <;>
        simpa [step, h, schedule] using pending
  | close => exact absurd rfl (open_of_step stillOpen).2

theorem pending_after {p : Pacer} {kind : EventKind} (pending : p.pending.has kind = true)
    (later : List Operation) (stillOpen : (p.after later).closed = false)
    (noStart : ∀ given ∈ p.trace later, ∀ snapshot, given.1 ≠ .snapshot (some snapshot)) :
    (p.after later).pending.has kind = true := by
  induction later generalizing p with
  | nil => exact pending
  | cons op rest ih =>
      have openNext : (p.step op).1.closed = false := open_of_after stillOpen
      have kept : (p.step op).1.pending.has kind = true :=
        pending_step pending openNext (noStart _ (List.mem_cons_self ..))
      exact ih kept stillOpen fun given member => noStart given (List.mem_cons_of_mem _ member)

/-! ## The cycle that takes what is pending is provided for -/

/-- The pacer does nothing until it is resumed, and resuming it schedules a cycle. -/
def WakesOnResume (p : Pacer) : Prop :=
  p.phase = .idle ∧ p.paused = true ∧
    ∀ now, ∃ delay, (p.resume now).2 = .schedule p.nextCycle delay

/-- The cycle that takes what is pending is scheduled, or will be: when the cycle in flight ends,
whether by being skipped or by its consumer being ready, or else when the pacer is resumed. -/
def WakesUp (p : Pacer) : Prop :=
  match p.phase with
  | .scheduled cycle => ∀ now, (p.begin cycle now).2 = some p.snapshot
  | .inFlight cycle dispatched => ∀ now,
      (dispatched = true →
        p.ready cycle now = ((p.skip cycle now).1, .ok (p.skip cycle now).2)) ∧
      (p.paused = false → ∃ delay, (p.skip cycle now).2 = .schedule p.nextCycle delay) ∧
      (p.paused = true → (p.skip cycle now).1.WakesOnResume)
  | .idle => p.WakesOnResume

theorem resume_of_pending {p : Pacer} (isOpen : p.closed = false) (idle : p.phase = .idle)
    (pending : p.pending ≠ .empty) (now : Nat) :
    ∃ delay, (p.resume now).2 = .schedule p.nextCycle delay := by
  rcases p.resume_cases now with ⟨isClosed, _⟩ | ⟨_, _, _, h⟩ | ⟨_, none, _⟩
  · rw [isOpen] at isClosed
    cases isClosed
  · exact ⟨_, congrArg Prod.snd h⟩
  · exact absurd (none idle).2 pending

theorem wakesUp_of_pending {p : Pacer} (wakeful : Wakeful p) (isOpen : p.closed = false)
    (pending : p.pending ≠ .empty) : p.WakesUp := by
  unfold WakesUp
  cases phase : p.phase with
  | idle =>
      have paused : p.paused = true := by
        by_contra running
        exact pending (wakeful.idle phase (Bool.eq_false_iff.mpr running)).1
      exact ⟨phase, paused, resume_of_pending isOpen phase pending⟩
  | scheduled cycle =>
      intro now
      simp [begin, isOpen, phase]
  | inFlight cycle dispatched =>
      intro now
      have busy := wakeful.busy cycle dispatched phase pending
      have skipped : p.skip cycle now = p.finish now := by simp [skip, phase]
      rw [skipped]
      refine ⟨?_, ?_, ?_⟩
      · rintro rfl
        simp [ready, phase]
      · intro running
        exact ⟨_, by simp only [finish, isOpen, busy, running]; rfl⟩
      · intro paused
        have ended : (p.finish now).1 = { p with phase := .idle, startedAt := none } := by
          simp [finish, isOpen, paused]
        rw [ended]
        exact ⟨rfl, paused, resume_of_pending isOpen rfl pending⟩

end Cadence.Pacer
