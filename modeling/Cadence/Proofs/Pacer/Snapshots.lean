import Cadence.Proofs.Pacer.Operations

/-!
# Snapshots are exact

Every cycle that starts takes exactly what has been signalled since the last one that started: the
kinds recorded meanwhile, the last fault of each side, and the connection flags as they are.  In
every state of an open pacer what is pending is what the history so far says, whatever calls stand
between the signals.
-/

set_option autoImplicit false

namespace Cadence.Pacer

/-! ## A history and its marks -/

/-- The calls of a history with their answers. -/
def exchanges (p : Pacer) (history : List Operation) : List (Operation × Answer) :=
  history.zip ((p.trace history).map Prod.fst)

/-- The mark that a call leaves in a history. -/
def mark? : Operation × Answer → Option Mark
  | (.signal s _, _) => some (.signal s)
  | (.begin _ _, .snapshot (some _)) => some .start
  | _ => none

def marks (history : List (Operation × Answer)) : List Mark := history.filterMap mark?

theorem exchanges_append (p : Pacer) (first later : List Operation) :
    p.exchanges (first ++ later) = p.exchanges first ++ (p.after first).exchanges later := by
  induction first generalizing p with
  | nil => rfl
  | cons op rest ih => exact congrArg _ (ih (p.step op).1)

theorem exchanges_split {p : Pacer} {history : List Operation}
    {before after : List (Operation × Answer)} {op : Operation} {answer : Answer}
    (split : p.exchanges history = before ++ (op, answer) :: after) :
    ∃ first, before = p.exchanges first ∧ answer = ((p.after first).step op).2 := by
  induction history generalizing p before with
  | nil => simp [exchanges] at split
  | cons head rest ih =>
      cases before with
      | nil =>
          have same := List.cons.inj split
          obtain ⟨rfl, rfl⟩ := Prod.mk.inj same.1
          exact ⟨[], rfl, rfl⟩
      | cons exchange before =>
          have same := List.cons.inj split
          obtain ⟨first, rfl, rfl⟩ := ih same.2
          exact ⟨head :: first, by rw [← same.1]; rfl, rfl⟩

/-! ## What is pending is what was signalled -/

theorem signalled_init (minPeriod : Option Nat) : Signalled [] (init minPeriod).snapshot where
  kinds kind := ⟨Bool.noConfusion, fun recorded => absurd recorded (Mark.not_recorded_nil kind)⟩
  readConnected := rfl
  writeConnected := rfl
  readFault := rfl
  writeFault := rfl

theorem signalled_record {p : Pacer} {marks : List Mark} (signalled : Signalled marks p.snapshot)
    (s : Signal) : Signalled (marks ++ [.signal s]) (p.record s).snapshot := by
  have readConnected : p.readConnected = Signal.readFlag (Mark.signals marks) :=
    signalled.readConnected
  have writeConnected : p.writeConnected = Signal.writeFlag (Mark.signals marks) :=
    signalled.writeConnected
  constructor
  · intro kind
    rw [Mark.recorded_concat_signal, ← signalled.kinds kind]
    exact pending_record_iff readConnected writeConnected s kind
  · rw [Mark.signals_concat_signal, Signal.readFlag_concat, ← readConnected]
    exact p.readConnected_record s
  · rw [Mark.signals_concat_signal, Signal.writeFlag_concat, ← writeConnected]
    exact p.writeConnected_record s
  · rw [Mark.sinceStart_concat_signal, getLast?_filterMap_concat, ← signalled.readFault]
    exact p.readFault_record s
  · rw [Mark.sinceStart_concat_signal, getLast?_filterMap_concat, ← signalled.writeFault]
    exact p.writeFault_record s

theorem signalled_started {p : Pacer} {marks : List Mark} (signalled : Signalled marks p.snapshot)
    (cycle now : Nat) : Signalled (marks ++ [.start]) (p.started cycle now).snapshot := by
  constructor
  · intro kind
    exact ⟨Bool.noConfusion,
      fun recorded => absurd recorded (Mark.not_recorded_concat_start marks kind)⟩
  · rw [Mark.signals_concat_start]
    exact signalled.readConnected
  · rw [Mark.signals_concat_start]
    exact signalled.writeConnected
  · rw [Mark.sinceStart_concat_start]
    rfl
  · rw [Mark.sinceStart_concat_start]
    rfl

theorem signalled_step {p : Pacer} {marks : List Mark} {op : Operation}
    (signalled : Signalled marks p.snapshot) (stillOpen : (p.step op).1.closed = false) :
    Signalled (marks ++ (mark? (op, (p.step op).2)).toList) (p.step op).1.snapshot := by
  obtain ⟨isOpen, other⟩ := open_of_step stillOpen
  have unmarked : ∀ q : Pacer, q.snapshot = p.snapshot →
      Signalled (marks ++ (none : Option Mark).toList) q.snapshot := by
    intro q same
    rw [same, Option.toList_none, List.append_nil]
    exact signalled
  cases op with
  | signal s now =>
      have recorded := signalled_record signalled s
      rcases p.signal_cases s now with
        ⟨isClosed, _⟩ | ⟨_, _, _, h⟩ | ⟨_, _, _, h⟩ | ⟨_, _, h⟩
      · rw [isOpen] at isClosed
        cases isClosed
      all_goals
        simp only [step, h]
        exact recorded
  | begin cycle now =>
      rcases p.begin_cases cycle now with ⟨isClosed, _⟩ | ⟨_, _, h⟩ | ⟨_, _, h⟩
      · rw [isOpen] at isClosed
        cases isClosed
      · simp only [step, h]
        exact signalled_started signalled cycle now
      · simp only [step, h]
        exact unmarked p rfl
  | markDispatched cycle =>
      refine unmarked _ ?_
      rcases p.markDispatched_cases cycle with ⟨_, _, h⟩ | ⟨_, h⟩
      · simp only [step, h]
        rfl
      · simp only [step, h]
  | ready cycle now =>
      refine unmarked _ ?_
      rcases p.ready_cases cycle now with ⟨_, h⟩ | ⟨_, _, h⟩ <;>
        simp only [step, h, snapshot_finish]
  | skip cycle now =>
      refine unmarked _ ?_
      rcases p.skip_cases cycle now with ⟨_, _, h⟩ | ⟨_, h⟩ <;>
        simp only [step, h, snapshot_finish]
  | pause => exact unmarked _ rfl
  | resume now =>
      refine unmarked _ ?_
      rcases p.resume_cases now with ⟨_, h⟩ | ⟨_, _, _, h⟩ | ⟨_, _, h⟩ <;> simp only [step, h] <;>
        rfl
  | close => exact absurd rfl other

theorem marks_concat (history : List (Operation × Answer)) (exchange : Operation × Answer) :
    marks (history ++ [exchange]) = marks history ++ (mark? exchange).toList :=
  filterMap_concat mark? history exchange

theorem signalled_after (minPeriod : Option Nat) (history : List Operation)
    (isOpen : ((init minPeriod).after history).closed = false) :
    Signalled (marks ((init minPeriod).exchanges history))
      ((init minPeriod).after history).snapshot := by
  induction history using List.reverseRecOn with
  | nil => exact signalled_init minPeriod
  | append_singleton history op ih =>
      rw [after_append] at isOpen ⊢
      rw [exchanges_append]
      have earlier := ih (open_of_step isOpen).1
      have step := signalled_step earlier isOpen
      rw [← marks_concat] at step
      exact step

/-- A cycle that starts takes exactly what has been signalled since the last one that started: the
kinds recorded since, the last faults since, and the connection flags last signalled at all.  The
kinds of faults are there if and only if the faults are. -/
theorem snapshot_exact {minPeriod : Option Nat} {history : List Operation}
    {before after : List (Operation × Answer)} {cycle now : Nat} {snapshot : Snapshot}
    (split : (init minPeriod).exchanges history =
      before ++ (.begin cycle now, .snapshot (some snapshot)) :: after) :
    Signalled (marks before) snapshot ∧
      (snapshot.kinds.has .readException = true ↔ snapshot.readFault.isSome = true) ∧
      (snapshot.writeFault.isSome = true ↔
        snapshot.kinds.has .writeException = true ∨ snapshot.kinds.has .writeFailed = true) := by
  obtain ⟨first, rfl, answered⟩ := exchanges_split split
  have success : (((init minPeriod).after first).begin cycle now).2 = some snapshot :=
    (Answer.snapshot.inj answered).symm
  obtain ⟨isOpen, _, taken, _⟩ := begin_eq_some success
  have signalled := signalled_after minPeriod first isOpen
  rw [taken] at signalled
  exact ⟨signalled, signalled.readException_iff, signalled.writeFault_iff⟩

/-- A second cycle does not take the fault that the first one took.  A connection that came and went
meanwhile is told, though its flag is as it was. -/
theorem second_snapshot_exact :
    let history : List Operation :=
      [.signal (.readException (.readFailed "timeout")) 0, .begin 1 0, .markDispatched 1,
        .signal (.readConnection true) 1, .signal (.readConnection false) 2,
        .signal (.writeFailed (.writeFailed "full")) 3, .ready 1 4]
    let snapshot : Snapshot :=
      ⟨.ofList [.readConnection, .writeFailed], false, false, none, some (.writeFailed "full")⟩
    (init none).exchanges (history ++ [.begin 2 5]) =
        (init none).exchanges history ++ [(.begin 2 5, .snapshot (some snapshot))] ∧
      Signalled (marks ((init none).exchanges history)) snapshot := by
  intro history snapshot
  have split : (init none).exchanges (history ++ [.begin 2 5]) =
      (init none).exchanges history ++ [(.begin 2 5, .snapshot (some snapshot))] := by decide
  exact ⟨split, (snapshot_exact split).1⟩

end Cadence.Pacer
