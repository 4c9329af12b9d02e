import Cadence.Event.Basic
import Cadence.Proofs.Lists
import Cadence.Signal
import Mathlib.Data.List.DropRight

/-!
# What has been signalled

The reference for a snapshot, read off a history alone.  A history is reduced to its marks: the
signals that were taken and the starts of cycles, in the order in which they happened.  `Signalled`
says what a snapshot has to hold after some marks.  Kinds and faults are those signalled since the
last start; connection flags are the last ones signalled at all.
-/

set_option autoImplicit false

namespace Cadence

/-- What matters for the next snapshot. -/
inductive Mark
  | signal (s : Signal)
  /-- A cycle started, and took what was pending. -/
  | start
  deriving DecidableEq

namespace Signal

def readConnection? : Signal → Option Bool
  | readConnection connected => some connected
  | _ => none

def writeConnection? : Signal → Option Bool
  | writeConnection connected => some connected
  | _ => none

def readFault? : Signal → Option ProducerFault
  | readException fault => some fault
  | _ => none

def writeFault? : Signal → Option ProducerFault
  | writeException fault => some fault
  | writeFailed fault => some fault
  | _ => none

/-- The flag that some signals leave on the read side.  Sources start out disconnected. -/
def readFlag (signals : List Signal) : Bool :=
  (signals.filterMap readConnection?).getLast?.getD false

def writeFlag (signals : List Signal) : Bool :=
  (signals.filterMap writeConnection?).getLast?.getD false

/-- The kind that a signal records after earlier ones.  A connection signal records its kind only if
it differs from the flag that they left. -/
def kindAfter (earlier : List Signal) : Signal → Option EventKind
  | value => some .value
  | readConnection connected =>
      if connected = readFlag earlier then none else some .readConnection
  | writeConnection connected =>
      if connected = writeFlag earlier then none else some .writeConnection
  | readException _ => some .readException
  | writeException _ => some .writeException
  | writeSucceeded => some .writeSucceeded
  | writeFailed _ => some .writeFailed

end Signal

namespace Mark

def signal? : Mark → Option Signal
  | signal s => some s
  | start => none

def signals (marks : List Mark) : List Signal := marks.filterMap signal?

def sinceStart (marks : List Mark) : List Signal :=
  signals (marks.rtakeWhile fun mark => mark ≠ .start)

/-- Some signal since the last start of a cycle recorded the kind. -/
def Recorded (marks : List Mark) (kind : EventKind) : Prop :=
  ∃ before s after, marks = before ++ .signal s :: after ∧ .start ∉ after ∧
    s.kindAfter (signals before) = some kind

end Mark

structure Signalled (marks : List Mark) (snapshot : Snapshot) : Prop where
  kinds : ∀ kind, snapshot.kinds.has kind = true ↔ Mark.Recorded marks kind
  readConnected : snapshot.readConnected = Signal.readFlag (Mark.signals marks)
  writeConnected : snapshot.writeConnected = Signal.writeFlag (Mark.signals marks)
  readFault : snapshot.readFault = ((Mark.sinceStart marks).filterMap Signal.readFault?).getLast?
  writeFault :
    snapshot.writeFault = ((Mark.sinceStart marks).filterMap Signal.writeFault?).getLast?

namespace Signal

theorem readFlag_concat (earlier : List Signal) (s : Signal) :
    readFlag (earlier ++ [s]) = s.readConnection?.getD (readFlag earlier) := by
  rw [readFlag, getLast?_filterMap_concat]
  cases s.readConnection? <;> rfl

theorem writeFlag_concat (earlier : List Signal) (s : Signal) :
    writeFlag (earlier ++ [s]) = s.writeConnection?.getD (writeFlag earlier) := by
  rw [writeFlag, getLast?_filterMap_concat]
  cases s.writeConnection? <;> rfl

end Signal

namespace Mark

@[simp]
theorem signals_concat_signal (marks : List Mark) (s : Signal) :
    signals (marks ++ [.signal s]) = signals marks ++ [s] := by
  simp [signals, signal?]

@[simp]
theorem signals_concat_start (marks : List Mark) :
    signals (marks ++ [.start]) = signals marks := by
  simp [signals, signal?]

@[simp]
theorem sinceStart_concat_signal (marks : List Mark) (s : Signal) :
    sinceStart (marks ++ [.signal s]) = sinceStart marks ++ [s] := by
  simp [sinceStart]

@[simp]
theorem sinceStart_concat_start (marks : List Mark) : sinceStart (marks ++ [.start]) = [] := by
  simp [sinceStart, signals]

theorem not_recorded_nil (kind : EventKind) : ¬ Recorded [] kind := by
  rintro ⟨before, s, after, split, _⟩
  simp at split

theorem recorded_concat_signal (marks : List Mark) (s : Signal) (kind : EventKind) :
    Recorded (marks ++ [.signal s]) kind ↔
      Recorded marks kind ∨ s.kindAfter (signals marks) = some kind := by
  constructor
  · rintro ⟨before, t, after, split, noStart, records⟩
    rcases concat_eq_append_cons split with ⟨rfl, same, rfl⟩ | ⟨rest, rfl, rfl⟩
    · obtain rfl := Mark.signal.inj same
      exact .inr records
    · exact .inl ⟨before, t, rest, rfl, fun h => noStart (List.mem_append_left _ h), records⟩
  · rintro (⟨before, t, after, rfl, noStart, records⟩ | records)
    · refine ⟨before, t, after ++ [.signal s], by simp, ?_, records⟩
      simpa using noStart
    · exact ⟨marks, s, [], rfl, List.not_mem_nil, records⟩

theorem not_recorded_concat_start (marks : List Mark) (kind : EventKind) :
    ¬ Recorded (marks ++ [.start]) kind := by
  rintro ⟨before, s, after, split, noStart, _⟩
  rcases concat_eq_append_cons split with ⟨_, same, _⟩ | ⟨rest, rfl, _⟩
  · cases same
  · exact noStart (by simp)

/-- The signals since the last start are those that no start follows. -/
theorem mem_sinceStart (marks : List Mark) (s : Signal) :
    s ∈ sinceStart marks ↔
      ∃ before after, marks = before ++ .signal s :: after ∧ .start ∉ after := by
  induction marks using List.reverseRecOn with
  | nil => simp [sinceStart, signals]
  | append_singleton marks mark ih =>
      constructor
      · intro member
        cases mark with
        | start => simp at member
        | signal t =>
            rw [sinceStart_concat_signal, List.mem_append, List.mem_singleton] at member
            rcases member with earlier | rfl
            · obtain ⟨before, after, rfl, noStart⟩ := ih.mp earlier
              exact ⟨before, after ++ [.signal t], by simp, by simpa using noStart⟩
            · exact ⟨marks, [], rfl, List.not_mem_nil⟩
      · rintro ⟨before, after, split, noStart⟩
        rcases concat_eq_append_cons split with ⟨_, rfl, rfl⟩ | ⟨rest, rfl, rfl⟩
        · simp
        · cases mark with
          | start => exact absurd (by simp) noStart
          | signal t =>
              rw [sinceStart_concat_signal]
              exact List.mem_append_left _
                (ih.mpr ⟨before, rest, rfl, fun h => noStart (List.mem_append_left _ h)⟩)

/-- A kind that does not depend on the earlier signals is recorded if a signal since the last start
has it. -/
theorem recorded_iff_mem {kind : EventKind} {has : Signal → Prop}
    (always : ∀ earlier s, Signal.kindAfter earlier s = some kind ↔ has s) (marks : List Mark) :
    Recorded marks kind ↔ ∃ s ∈ sinceStart marks, has s := by
  constructor
  · rintro ⟨before, s, after, split, noStart, records⟩
    exact ⟨s, (mem_sinceStart marks s).mpr ⟨before, after, split, noStart⟩,
      (always _ s).mp records⟩
  · rintro ⟨s, member, present⟩
    obtain ⟨before, after, split, noStart⟩ := (mem_sinceStart marks s).mp member
    exact ⟨before, s, after, split, noStart, (always _ s).mpr present⟩

theorem recorded_value (marks : List Mark) :
    Recorded marks .value ↔ .value ∈ sinceStart marks := by
  have always : ∀ earlier s, Signal.kindAfter earlier s = some .value ↔ s = .value := by
    intro earlier s
    cases s <;> simp [Signal.kindAfter]
  rw [recorded_iff_mem always]
  simp

end Mark

namespace Signalled

theorem getLast?_filterMap_isSome {β γ : Type} (f : β → Option γ) (l : List β) :
    (l.filterMap f).getLast?.isSome = true ↔ ∃ b ∈ l, (f b).isSome = true := by
  rw [List.getLast?_isSome, ne_eq, List.filterMap_eq_nil_iff, not_forall]
  simp [Option.isSome_iff_ne_none]

theorem readException_iff {marks : List Mark} {snapshot : Snapshot}
    (signalled : Signalled marks snapshot) :
    snapshot.kinds.has .readException = true ↔ snapshot.readFault.isSome = true := by
  have always : ∀ earlier s, Signal.kindAfter earlier s = some .readException ↔
      s.readFault?.isSome = true := by
    intro earlier s
    cases s <;> simp [Signal.kindAfter, Signal.readFault?]
  rw [signalled.kinds, Mark.recorded_iff_mem always, signalled.readFault,
    getLast?_filterMap_isSome]

theorem writeFault_iff {marks : List Mark} {snapshot : Snapshot}
    (signalled : Signalled marks snapshot) :
    snapshot.writeFault.isSome = true ↔
      snapshot.kinds.has .writeException = true ∨ snapshot.kinds.has .writeFailed = true := by
  have exception : ∀ earlier s, Signal.kindAfter earlier s = some .writeException ↔
      ∃ fault, s = .writeException fault := by
    intro earlier s
    cases s <;> simp [Signal.kindAfter]
  have failed : ∀ earlier s, Signal.kindAfter earlier s = some .writeFailed ↔
      ∃ fault, s = .writeFailed fault := by
    intro earlier s
    cases s <;> simp [Signal.kindAfter]
  have fault : ∀ s : Signal, s.writeFault?.isSome = true ↔
      (∃ fault, s = .writeException fault) ∨ ∃ fault, s = .writeFailed fault := by
    intro s
    cases s <;> simp [Signal.writeFault?]
  rw [signalled.kinds, signalled.kinds, Mark.recorded_iff_mem exception,
    Mark.recorded_iff_mem failed, signalled.writeFault, getLast?_filterMap_isSome]
  simp only [fault, and_or_left, exists_or]

end Signalled

end Cadence
