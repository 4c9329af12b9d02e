import Cadence.Proofs.Pacer.Snapshots
import Cadence.Proofs.Pacer.Wakeup

/-!
# The course of a cycle

A cycle waits to be run, then its token is out, then it is gone.  `Phase.Matches` ties the phase of
a pacer to the cycles that wait and to the tokens that are out, and every transition keeps the tie:
the only cycle that it adds is the one that it asks to be run.
-/

set_option autoImplicit false

namespace Cadence

/-- The cycle that a transition asks to be run. -/
def Transition.cycle? : Transition → Option Nat
  | schedule cycle _ => some cycle
  | coalesced => none
  | held => none
  | ignored => none
  | idle => none

/-- The cycles that wait to be run, and those whose tokens are out, are the cycle of the phase. -/
def Phase.Matches (phase : Phase) (outstanding tokens : List Nat) : Prop :=
  match phase with
  | idle => outstanding = [] ∧ tokens = []
  | scheduled cycle => outstanding = [cycle] ∧ tokens = []
  | inFlight cycle dispatched => dispatched = true ∧ outstanding = [] ∧ tokens = [cycle]

namespace Phase

theorem Matches.perm {phase : Phase} {outstanding moved tokens : List Nat}
    (matched : phase.Matches outstanding tokens) (same : moved.Perm outstanding) :
    phase.Matches moved tokens := by
  cases phase with
  | idle =>
      obtain ⟨rfl, rfl⟩ := matched
      exact ⟨same.eq_nil, rfl⟩
  | scheduled cycle =>
      obtain ⟨rfl, rfl⟩ := matched
      exact ⟨List.perm_singleton.mp same, rfl⟩
  | inFlight cycle dispatched =>
      obtain ⟨rfl, rfl, rfl⟩ := matched
      exact ⟨rfl, same.eq_nil, rfl⟩

/-- A cycle that waits is the scheduled one, and it is alone. -/
theorem Matches.of_waiting {phase : Phase} {cycle : Nat} {rest tokens : List Nat}
    (matched : phase.Matches (cycle :: rest) tokens) :
    phase = .scheduled cycle ∧ rest = [] ∧ tokens = [] := by
  cases phase with
  | idle => exact absurd matched.1 (List.cons_ne_nil cycle rest)
  | scheduled current =>
      obtain ⟨same, none⟩ := matched
      obtain ⟨rfl, rfl⟩ := List.cons.inj same
      exact ⟨rfl, rfl, none⟩
  | inFlight current dispatched => exact absurd matched.2.1 (List.cons_ne_nil cycle rest)

/-- A token that is out is that of the cycle in flight. -/
theorem Matches.of_token {phase : Phase} {cycle : Nat} {outstanding tokens : List Nat}
    (matched : phase.Matches outstanding tokens) (out : cycle ∈ tokens) :
    phase = .inFlight cycle true ∧ outstanding = [] ∧ tokens = [cycle] := by
  cases phase with
  | idle => rw [matched.2] at out; cases out
  | scheduled current => rw [matched.2] at out; cases out
  | inFlight current dispatched =>
      obtain ⟨rfl, none, rfl⟩ := matched
      obtain rfl := List.mem_singleton.mp out
      exact ⟨rfl, none, rfl⟩

theorem Matches.idle_of_nil {phase : Phase} (matched : phase.Matches [] []) : phase = .idle := by
  cases phase with
  | idle => rfl
  | scheduled cycle => cases matched.1
  | inFlight cycle dispatched => cases matched.2.2

end Phase

namespace Pacer

theorem matches_schedule {p : Pacer} {outstanding tokens : List Nat}
    (matched : Phase.idle.Matches outstanding tokens) (now : Nat) :
    (p.schedule now).1.phase.Matches (outstanding ++ (p.schedule now).2.cycle?.toList) tokens := by
  obtain ⟨rfl, rfl⟩ := matched
  exact ⟨rfl, rfl⟩

theorem matches_signal {p : Pacer} {outstanding tokens : List Nat}
    (matched : p.phase.Matches outstanding tokens) (s : Signal) (now : Nat) :
    (p.signal s now).1.phase.Matches (outstanding ++ (p.signal s now).2.cycle?.toList) tokens := by
  rcases p.signal_cases s now with ⟨_, h⟩ | ⟨_, _, _, h⟩ | ⟨_, idle, _, h⟩ | ⟨_, _, h⟩ <;> rw [h]
  · simpa [Transition.cycle?] using matched
  · simpa [Transition.cycle?] using matched
  · rw [idle] at matched
    exact matches_schedule matched now
  · simpa [Transition.cycle?] using matched

theorem matches_resume {p : Pacer} {outstanding tokens : List Nat}
    (matched : p.phase.Matches outstanding tokens) (now : Nat) :
    (p.resume now).1.phase.Matches (outstanding ++ (p.resume now).2.cycle?.toList) tokens := by
  rcases p.resume_cases now with ⟨_, h⟩ | ⟨_, idle, _, h⟩ | ⟨_, _, h⟩ <;> rw [h]
  · simpa [Transition.cycle?] using matched
  · rw [idle] at matched
    exact matches_schedule matched now
  · simpa [Transition.cycle?] using matched

theorem matches_finish (p : Pacer) (now : Nat) :
    (p.finish now).1.phase.Matches (p.finish now).2.cycle?.toList [] := by
  rcases p.finish_cases now with ⟨_, h⟩ | ⟨_, _, _, h⟩ | ⟨_, _, h⟩ <;> rw [h] <;> exact ⟨rfl, rfl⟩

theorem matches_skipped (p : Pacer) (cycle now : Nat) :
    ((p.started cycle now).skip cycle now).1.phase.Matches
      ((p.started cycle now).skip cycle now).2.cycle?.toList [] := by
  have ended : (p.started cycle now).skip cycle now = (p.started cycle now).finish now := by
    simp [skip, started]
  rw [ended]
  exact matches_finish _ now

theorem matches_dispatched (p : Pacer) (cycle now : Nat) :
    ((p.started cycle now).markDispatched cycle).1.phase.Matches [] [cycle] := by
  simp [markDispatched, started, Phase.Matches]

/-- The pacer is open, what is pending is what the marks say, and it is provided for. -/
structure Informed (marks : List Mark) (p : Pacer) : Prop where
  isOpen : p.closed = false
  wakeful : Wakeful p
  signalled : Signalled marks p.snapshot

theorem informed_init (minPeriod : Option Nat) : Informed [] (init minPeriod) where
  isOpen := rfl
  wakeful := wakeful_init minPeriod
  signalled := signalled_init minPeriod

theorem Informed.step {marks : List Mark} {p : Pacer} (informed : Informed marks p)
    (op : Operation) (other : op ≠ .close) :
    Informed (marks ++ (mark? (op, (p.step op).2)).toList) (p.step op).1 := by
  have stillOpen : (p.step op).1.closed = false := (p.closed_step other).trans informed.isOpen
  exact ⟨stillOpen, wakeful_step informed.wakeful informed.isOpen other,
    signalled_step informed.signalled stillOpen⟩

theorem Informed.step_unmarked {marks : List Mark} {p : Pacer} (informed : Informed marks p)
    (op : Operation) (other : op ≠ .close) (unmarked : mark? (op, (p.step op).2) = none) :
    Informed marks (p.step op).1 := by
  have told := informed.step op other
  rw [unmarked, Option.toList_none, List.append_nil] at told
  exact told

theorem Informed.pending_eq_empty_iff {marks : List Mark} {p : Pacer}
    (informed : Informed marks p) :
    p.pending = .empty ↔ ∀ kind, ¬ Mark.Recorded marks kind := by
  constructor
  · intro empty kind recorded
    have has : p.pending.has kind = true := (informed.signalled.kinds kind).mpr recorded
    rw [empty] at has
    cases has
  · intro none
    ext kind
    by_contra differs
    have has : p.pending.has kind = true := by simpa using differs
    exact none kind ((informed.signalled.kinds kind).mp has)

end Pacer

end Cadence
