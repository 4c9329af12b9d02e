import Cadence.Proofs.Engine.Balance
import Cadence.Proofs.Subscription.Steps

/-!
# Values are conserved

A subscription whose buffer is bounded delivers what its producers write.  Every event holds the
last values written since the cycle before it read the buffer, a cycle without an event has read
nothing, and once no cycle is due any more every value was either delivered or pushed out by a newer
one.
-/

set_option autoImplicit false

namespace Cadence.Engine

variable {α : Type}

/-- An established subscription starts with an empty buffer of its policy's capacity. -/
theorem follows_establish {plan : Plan α} {profile : Profile α} {random : String} {ambient : Bool}
    {subscription : Subscription α} {capacity : Nat}
    (established : plan.establish profile random ambient = .ok subscription)
    (ownBuffer : plan.buffer = none)
    (bounded : subscription.settings.buffer.capacity? = some capacity) :
    Follows capacity [] subscription.engine := by
  obtain ⟨settings, b, worker, _, built, _, _, rfl⟩ := Plan.parts_of_establish established
  rw [Plan.chosenBuffer, ownBuffer] at built
  have new := Buffer.new_ofPolicy built bounded
  have fresh := follows_init new (plan.identifier random)
    (settings.minPeriod.bind Duration.toDelay?) plan.source (plan.hasRuntime || ambient) true
  exact { fresh with }

/-- Every event holds the last values accepted since the previous read, and says that there are
values if and only if it holds some; a cycle without an event has read nothing.  Accepted values are
delivered in their order, pushed out, or still in the buffer, and at rest none of them is. -/
theorem values_conserved {plan : Plan α} {profile : Profile α} {random : String} {ambient : Bool}
    {subscription : Subscription α} {capacity : Nat} {history : List (Entry α)} {e : Engine α}
    (established : plan.establish profile random ambient = .ok subscription)
    (ownBuffer : plan.buffer = none)
    (bounded : subscription.settings.buffer.capacity? = some capacity)
    (run : Run Atomic subscription.engine history e) :
    (∀ before entry after event, history = before ++ entry :: after →
      entry.event? = some event →
        event.values = (unread before).rtake capacity ∧
        (event.kinds.has .value = true ↔ event.values ≠ [])) ∧
    (∀ entry ∈ history, ∀ values, entry.batch = some values → entry.event? = none →
      values = []) ∧
    (delivered history).Sublist (accepted history) ∧
    (accepted history).Perm
      (delivered history ++ pushedOut history ++ e.decoupler.buffer.contents) ∧
    (AtRest history e → e.decoupler.buffer.contents = [] ∧
      (accepted history).Perm (delivered history ++ pushedOut history)) := by
  have new := follows_establish established ownBuffer bounded
  have silent : ∀ entry ∈ history, ∀ values, entry.batch = some values → entry.event? = none →
      values = [] := by
    intro entry member values read none
    obtain ⟨before, after, split⟩ := List.append_of_mem member
    obtain ⟨e₁, m, earlier, _, rfl⟩ := run.split split
    exact nil_of_silent (follows_of_run new earlier.orderly) earlier.announced read none
  have balanced := balance new run.orderly
  rw [(lost_eq_nil_iff history).mpr silent, List.append_nil] at balanced
  refine ⟨?_, silent, ?_, balanced, ?_⟩
  · intro before entry after event split delivers
    obtain ⟨e₁, m, earlier, _, rfl⟩ := run.split split
    have follows := follows_of_run new earlier.orderly
    have read := (event_eq_some follows delivers).1
    have values := (event_of_read follows read).1
    refine ⟨values, ?_⟩
    rw [value_of_event follows delivers, and_iff_left_iff_imp]
    intro filled
    refine recorded_of_unread earlier.announced fun none => filled ?_
    rw [values, none, List.rtake_nil]
  · exact (List.sublist_append_left _ _).trans (delivered_append_unread new run.orderly)
  · intro rest
    have empty := rest.contents (follows_of_run new run.orderly) run.announced
    rw [empty, List.append_nil] at balanced
    exact ⟨empty, balanced⟩

/-- Three values written while the first event is with its consumer overflow a queue of two, under a
rate cap that defers the second cycle. -/
theorem deferred_overflow_conserved :
    let settings : Settings := ⟨some 10, .queue 2⟩
    let plan : Plan Nat := ⟨some "gauge", settings, none, none, none, true, true⟩
    let start : Engine Nat :=
      (init "gauge" (.init (.queue (.ofCapacity 2)) (some 10000000)) none true true).note
        [.established "gauge" settings]
    let moves : List (Move Nat) :=
      [.call (.write (some 1)), .run, .call (.write (some 2)), .call (.write (some 3)),
        .call (.write (some 4)), .call (.spend 1), .fire 0, .run, .call (.spend 2)]
    let history := (start.play [] moves).1
    let e := (start.play [] moves).2
    plan.establish ⟨"Nat", 8, none⟩ "" false = .ok ⟨settings, start⟩ ∧
      Run Atomic start history e ∧ AtRest history e ∧
      accepted history = [1, 2, 3, 4] ∧ delivered history = [1, 3, 4] ∧ pushedOut history = [2] ∧
      (accepted history).Perm (delivered history ++ pushedOut history) := by
  intro settings plan start moves history e
  have established : plan.establish ⟨"Nat", 8, none⟩ "" false = .ok ⟨settings, start⟩ := rfl
  have run : Run Atomic start history e := by
    refine Run.start.play ⟨⟨trivial, nofun⟩, ⟨trivial, nofun⟩, ⟨trivial, nofun⟩, ⟨trivial, nofun⟩,
      ⟨trivial, nofun⟩, ⟨?_, nofun⟩, ⟨trivial, nofun⟩, ⟨trivial, nofun⟩, ⟨?_, nofun⟩, trivial⟩
    · show 1 ∈ tokens _
      decide
    · show 2 ∈ tokens _
      decide
  have rest : AtRest history e := ⟨by decide, by decide, by decide, by decide⟩
  exact ⟨established, run, rest, by decide, by decide, by decide,
    ((values_conserved established rfl rfl run).2.2.2.2 rest).2⟩

end Cadence.Engine
