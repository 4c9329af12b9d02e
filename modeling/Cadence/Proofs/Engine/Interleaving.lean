import Cadence.Proofs.Engine.Balance

/-!
# Producers that interleave

A producer's write into the buffer and its signal are two steps, and anything may happen between
them.  A cycle that another producer's signal scheduled may then read a value that has not been
signalled.  The value is delivered if that cycle has anything to tell, and lost if it has not: a
connection signal that changes nothing schedules a cycle and records no kind.
-/

set_option autoImplicit false

namespace Cadence.Engine

variable {α : Type}

/-- What becomes of a batch that holds something. -/
theorem batch_cases {capacity : Nat} {start e : Engine α} {history before after : List (Entry α)}
    {entry : Entry α} {values : List α} (new : Follows capacity [] start)
    (run : Run Orderly start history e) (split : history = before ++ entry :: after)
    (read : entry.batch = some values) (filled : values ≠ []) :
    values = (unread before).rtake capacity ∧
      (entry.event? = none ∨ entry.event?.map Event.values = some values) ∧
      (entry.event?.map Event.values = some values ↔
        ∃ kind, Mark.Recorded (marks before) kind) := by
  obtain ⟨e₁, m, earlier, _, rfl⟩ := run.split split
  have follows := follows_of_run new earlier
  refine ⟨(event_of_read follows read).1, ?_, delivers_iff follows read filled⟩
  cases delivers : (e₁.entry m).event? with
  | none => exact .inl rfl
  | some event =>
      rw [← read, (event_eq_some follows delivers).1]
      exact .inr rfl

/-- A batch that holds something is delivered if and only if some signal since the previous start
recorded its kind.  Once every value has been signalled and every cycle has run, the values are
delivered, pushed out or lost, and none is lost if and only if no batch was read too early. -/
theorem delivered_iff_recorded {capacity : Nat} {b : Buffer α} (new : b.New capacity)
    {subject : String} {period : Option Nat} {source : Option (ReadFunction α)}
    {hasRuntime closesOnDrop : Bool} {history : List (Entry α)} {e : Engine α}
    (run : Run Orderly (init subject (.init b period) source hasRuntime closesOnDrop) history e) :
    (∀ before entry after values, history = before ++ entry :: after →
      entry.batch = some values → values ≠ [] →
        values = (unread before).rtake capacity ∧
        (entry.event?.map Event.values = some values ↔
          ∃ kind, Mark.Recorded (marks before) kind)) ∧
    (AtRest history e → Announced history →
      (accepted history).Perm (delivered history ++ lost history ++ pushedOut history) ∧
      ((accepted history).Perm (delivered history ++ pushedOut history) ↔
        ∀ before entry after values, history = before ++ entry :: after →
          entry.batch = some values → values ≠ [] →
            ∃ kind, Mark.Recorded (marks before) kind)) := by
  have start := follows_init new subject period source hasRuntime closesOnDrop
  refine ⟨?_, fun rest announced => ?_⟩
  · intro before entry after values split read filled
    obtain ⟨last, _, delivers⟩ := batch_cases start run split read filled
    exact ⟨last, delivers⟩
  have balanced := balance start run
  rw [rest.contents (follows_of_run start run) announced, List.append_nil] at balanced
  refine ⟨balanced, ?_, ?_⟩
  · intro complete before entry after values split read filled
    have nothingLost : lost history = [] := by
      -- the lost values would make the other side longer
      have lengths := balanced.length_eq.symm.trans complete.length_eq
      simp only [List.length_append] at lengths
      exact List.length_eq_zero_iff.mp (by omega)
    obtain ⟨_, silent | told, delivers⟩ := batch_cases start run split read filled
    · have member : entry ∈ history := by
        rw [split]
        exact List.mem_append_right _ (List.mem_cons_self ..)
      exact absurd ((lost_eq_nil_iff history).mp nothingLost entry member values read silent) filled
    · exact delivers.mp told
  · intro recorded
    have nothingLost : lost history = [] := by
      rw [lost_eq_nil_iff]
      intro entry member values read silent
      by_contra filled
      obtain ⟨before, after, split⟩ := List.append_of_mem member
      obtain ⟨_, _, delivers⟩ := batch_cases start run split read filled
      have told := delivers.mpr (recorded before entry after values split read filled)
      rw [silent] at told
      cases told
    rw [nothingLost, List.append_nil] at balanced
    exact balanced

/-- A connection signal that changes something schedules a cycle between a producer's write and its
signal, and the event of that cycle takes the value along. -/
theorem early_read_delivered :
    let start : Engine Nat := init "gauge" (.init (.latest .empty) none) none true true
    let moves : List (Move Nat) :=
      [.call (.store (some 5)), .call (.signal (.readConnection true)), .run,
        .call (.signal .value), .call (.spend 1), .run]
    let history := (start.play [] moves).1
    let e := (start.play [] moves).2
    Buffer.New 1 (.latest .empty : Buffer Nat) ∧ Run Orderly start history e ∧ AtRest history e ∧
      Announced history ∧ delivered history = [5] ∧ lost history = [] ∧
      (accepted history).Perm (delivered history ++ lost history ++ pushedOut history) := by
  intro start moves history e
  have run : Run Orderly start history e := by
    refine Run.start.play ⟨trivial, trivial, trivial, trivial, ?_, trivial, trivial⟩
    show 1 ∈ tokens _
    decide
  have rest : AtRest history e := ⟨by decide, by decide, by decide, by decide⟩
  have announced : Announced history :=
    ⟨by decide, by decide, by decide, by decide, by decide, by decide, trivial⟩
  exact ⟨Buffer.new_latest, run, rest, announced, by decide, by decide,
    ((delivered_iff_recorded Buffer.new_latest run).2 rest announced).1⟩

/-- A connection signal that changes nothing does so too, and its cycle drops the value. -/
theorem early_read_lost :
    let start : Engine Nat := init "gauge" (.init (.latest .empty) none) none true true
    let moves : List (Move Nat) :=
      [.call (.store (some 5)), .call (.signal (.readConnection false)), .run,
        .call (.signal .value), .run]
    let history := (start.play [] moves).1
    let e := (start.play [] moves).2
    Run Orderly start history e ∧ AtRest history e ∧ Announced history ∧
      (∃ entry ∈ history, entry.batch = some [5] ∧ entry.event? = none) ∧
      accepted history = [5] ∧ delivered history = [] ∧ pushedOut history = [] := by
  intro start moves history e
  have run : Run Orderly start history e :=
    Run.start.play ⟨trivial, trivial, trivial, trivial, trivial, trivial⟩
  have rest : AtRest history e := ⟨by decide, by decide, by decide, by decide⟩
  have announced : Announced history :=
    ⟨by decide, by decide, by decide, by decide, by decide, trivial⟩
  have dropped : (history.get ⟨2, by decide⟩).batch = some [5] := by decide
  exact ⟨run, rest, announced, ⟨_, List.get_mem _ _, dropped, rfl⟩, by decide, by decide,
    by decide⟩

end Cadence.Engine
