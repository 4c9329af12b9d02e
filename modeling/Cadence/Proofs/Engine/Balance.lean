import Cadence.Proofs.Engine.Tracking

/-!
# Where the values of a run are

In an orderly run every value that reached the buffer is in exactly one place: an event took it to
the listener, a newer value pushed it out, it is still in the buffer, or a cycle read it and dropped
it because nothing had been signalled.  The last place stays empty if every value has been announced
by the time a cycle reads it.
-/

set_option autoImplicit false

namespace Cadence.Engine

variable {α : Type}

/-- The values that a cycle read without delivering an event. -/
def Entry.lost (entry : Entry α) : List α :=
  match entry.event? with
  | some _ => []
  | none => entry.batch.getD []

def lost (history : List (Entry α)) : List α := history.flatMap Entry.lost

theorem lost_concat (history : List (Entry α)) (entry : Entry α) :
    lost (history ++ [entry]) = lost history ++ entry.lost := by
  simp [lost]

theorem lost_eq_nil_iff (history : List (Entry α)) :
    lost history = [] ↔ ∀ entry ∈ history, ∀ values, entry.batch = some values →
      entry.event? = none → values = [] := by
  rw [lost, List.flatMap_eq_nil_iff]
  refine forall_congr' fun entry => imp_congr_right fun _ => ?_
  rw [Entry.lost]
  cases entry.event? <;> cases entry.batch <;> simp

section

variable {capacity : Nat} {history : List (Entry α)} {start e : Engine α}

theorem follows_init {b : Buffer α} (new : b.New capacity) (subject : String)
    (period : Option Nat) (source : Option (ReadFunction α)) (hasRuntime closesOnDrop : Bool) :
    Follows capacity [] (init subject (.init b period) source hasRuntime closesOnDrop) where
  held := rfl
  accepts := rfl
  informed := Pacer.informed_init period
  phase := ⟨rfl, rfl⟩
  positive := new.positive
  bounded := new.bounded
  contents := by
    rw [unread, List.rtakeWhile_nil, accepted, List.filterMap_nil, List.rtake_nil]
    exact new.empty

theorem follows_of_run (new : Follows capacity [] start) (run : Run Orderly start history e) :
    Follows capacity history e := by
  induction run with
  | start => exact new
  | step _ orderly ih => exact follows_move ih orderly

/-! ## What a cycle reads, and what becomes of it -/

theorem read_eq_some {m : Move α} {values : List α} (read : e.read? m = some values) :
    m = .run ∧ values = e.decoupler.buffer.contents := by
  cases m with
  | run =>
      refine ⟨rfl, ?_⟩
      unfold read? at read
      cases queue : e.queue with
      | nil => simp [queue] at read
      | cons cycle rest =>
          simp only [queue] at read
          split at read
          · obtain ⟨_, _, same⟩ := Option.map_eq_some_iff.mp read
            exact same.symm
          · cases read
  | _ => cases read

/-- A cycle that starts reads the last values accepted since the one before it started.  Its event
holds them and says what was signalled, and it goes to the listener unless it says nothing. -/
theorem event_of_read (follows : Follows capacity history e) {m : Move α} {values : List α}
    (read : (e.entry m).batch = some values) :
    values = (unread history).rtake capacity ∧
      ∃ cycle, (e.due cycle).values = values ∧ (e.entry m).event? =
        if (e.due cycle).kinds.isEmpty then none else some (e.due cycle) := by
  obtain ⟨rfl, rfl⟩ := read_eq_some read
  refine ⟨follows.contents, ?_⟩
  rcases run_cases follows with ⟨_, unread, _⟩ | ⟨cycle, _, event, _, _⟩
  · rw [unread] at read
    cases read
  · exact ⟨cycle, rfl, event⟩

theorem event_eq_some (follows : Follows capacity history e) {m : Move α} {event : Event α}
    (delivers : (e.entry m).event? = some event) :
    (e.entry m).batch = some event.values ∧ ∃ cycle, e.due cycle = event := by
  cases m with
  | run =>
      rcases run_cases follows with ⟨_, _, silent⟩ | ⟨cycle, read, h, _, _⟩
      · rw [silent] at delivers
        cases delivers
      · rw [delivers] at h
        by_cases empty : (e.due cycle).kinds.isEmpty
        · rw [if_pos empty] at h
          cases h
        · rw [if_neg empty] at h
          obtain rfl := Option.some.inj h
          exact ⟨read, cycle, rfl⟩
  | _ => cases delivers

theorem event_eq_none (follows : Follows capacity history e) {m : Move α}
    (unread : (e.entry m).batch = none) : (e.entry m).event? = none := by
  by_contra delivers
  obtain ⟨event, delivers⟩ := Option.ne_none_iff_exists'.mp delivers
  rw [(event_eq_some follows delivers).1] at unread
  cases unread

theorem delivers_iff (follows : Follows capacity history e) {m : Move α} {values : List α}
    (read : (e.entry m).batch = some values) (filled : values ≠ []) :
    (e.entry m).event?.map Event.values = some values ↔
      ∃ kind, Mark.Recorded (marks history) kind := by
  obtain ⟨_, cycle, rfl, event⟩ := event_of_read follows read
  have kinds : (e.due cycle).kinds = e.decoupler.pacer.pending := by
    have notEmpty : (e.due cycle).values.isEmpty = false := List.isEmpty_eq_false_iff.mpr filled
    exact if_neg (Bool.eq_false_iff.mp notEmpty)
  have nothing := follows.informed.pending_eq_empty_iff
  rw [← not_forall_not, ← nothing, ← KindSet.isEmpty_iff, ← kinds, event]
  by_cases silent : (e.due cycle).kinds.isEmpty
  · simp [silent]
  · simp [silent]

theorem value_of_event (follows : Follows capacity history e) {m : Move α} {event : Event α}
    (delivers : (e.entry m).event? = some event) :
    event.kinds.has .value = true ↔ event.values ≠ [] ∧ Mark.Recorded (marks history) .value := by
  obtain ⟨_, cycle, rfl⟩ := event_eq_some follows delivers
  rw [← follows.informed.signalled.kinds .value]
  simp only [due, Event.classify]
  cases e.decoupler.buffer.contents <;> simp

/-! ## Nothing gets lost on the way -/

/-- What was in the buffer, or came to it, is delivered, lost, pushed out, or in the buffer. -/
theorem move_balance (follows : Follows capacity history e) {m : Move α}
    (orderly : Orderly history m) :
    (e.decoupler.buffer.contents ++ (e.entry m).accepted.toList).Perm
      ((e.entry m).event?.toList.flatMap Event.values ++ (e.entry m).lost ++
        (e.entry m).pushedOut.toList ++ (e.move m).1.decoupler.buffer.contents) := by
  have moved := follows_move follows orderly
  cases read : (e.entry m).batch with
  | none =>
      have silent := event_eq_none follows read
      have fits : e.decoupler.buffer.contents.length ≤ capacity := by
        rw [follows.contents]
        exact Buffer.length_rtake_le _ capacity
      have written : (e.move m).1.decoupler.buffer.contents =
          (e.decoupler.buffer.write (e.entry m).accepted).1.contents := by
        rw [moved.contents, unread_concat read]
        exact (Buffer.contents_write_of_history follows.bounded follows.positive follows.contents
          _).symm
      have kept := Buffer.pushedOut_append_contents follows.bounded follows.positive fits
        (e.entry m).accepted
      rw [written, Entry.lost, silent, read, ← kept]
      exact List.Perm.refl _
  | some values =>
      obtain ⟨rfl, rfl⟩ := read_eq_some read
      have emptied : (e.move .run).1.decoupler.buffer.contents = [] := by
        rw [moved.contents, unread_concat_of_read read, List.rtake_nil]
      have nothing : (e.entry .run).pushedOut = none := rfl
      rw [emptied, nothing, accepted_run, Entry.lost]
      cases delivers : (e.entry .run).event? with
      | none => simp [read]
      | some event =>
          have same := (event_eq_some follows delivers).1
          rw [read] at same
          simp [Option.some.inj same]

theorem balance (new : Follows capacity [] start) (run : Run Orderly start history e) :
    (accepted history).Perm (delivered history ++ lost history ++ pushedOut history ++
      e.decoupler.buffer.contents) := by
  classical
  induction run with
  | start => simp [new.contents, accepted, delivered, lost, pushedOut, unread]
  | step earlier orderly ih =>
      have moved := move_balance (follows_of_run new earlier) orderly
      -- value by value, the balance of the history is the sum of the balances of its moves
      rw [List.perm_iff_count] at ih moved ⊢
      intro value
      have before := ih value
      have step := moved value
      rw [accepted_concat, delivered_concat, lost_concat, pushedOut_concat]
      simp only [List.count_append] at before step ⊢
      omega

/-- Values reach the listener in the order in which they reached the buffer, each at most once. -/
theorem delivered_append_unread (new : Follows capacity [] start)
    (run : Run Orderly start history e) :
    (delivered history ++ unread history).Sublist (accepted history) := by
  induction run with
  | start => exact List.Sublist.refl _
  | @step history e m earlier orderly ih =>
      have follows := follows_of_run new earlier
      rw [delivered_concat, accepted_concat]
      cases read : (e.entry m).batch with
      | none =>
          rw [event_eq_none follows read, unread_concat read, Option.toList_none,
            List.flatMap_nil, List.append_nil, ← List.append_assoc]
          exact List.Sublist.append_right ih _
      | some values =>
          have moved : (e.entry m).event?.toList.flatMap Event.values = [] ∨
              (e.entry m).event?.toList.flatMap Event.values = values := by
            cases delivers : (e.entry m).event? with
            | none => exact .inl rfl
            | some event =>
                rw [(event_eq_some follows delivers).1] at read
                exact .inr (by simp [Option.some.inj read])
          have kept : values.Sublist (unread history) := by
            rw [(event_of_read follows read).1]
            exact List.drop_sublist _ _
          rw [unread_concat_of_read read, List.append_nil]
          refine List.Sublist.trans ?_ (List.sublist_append_left _ _)
          refine List.Sublist.trans (List.Sublist.append_left ?_ _) ih
          rcases moved with none | all
          · rw [none]
            exact List.nil_sublist _
          · rw [all]
            exact kept

/-! ## Announced values -/

/-- Every value that reached the buffer was signalled when it did, or later. -/
def Announced : List (Entry α) → Prop
  | [] => True
  | entry :: rest =>
      (entry.accepted.isSome = true → ∃ later ∈ entry :: rest, later.signal? = some .value) ∧
        Announced rest

theorem Announced.of_append {before after : List (Entry α)} {entry : Entry α}
    (announced : Announced (before ++ entry :: after)) (stored : entry.accepted.isSome = true) :
    ∃ later ∈ entry :: after, later.signal? = some .value := by
  induction before with
  | nil => exact announced.1 stored
  | cons _ _ ih => exact ih announced.2

theorem announced_of_forall
    (each : ∀ entry ∈ history, entry.accepted.isSome = true → entry.signal? = some .value) :
    Announced history := by
  induction history with
  | nil => trivial
  | cons entry rest ih =>
      refine ⟨fun stored => ⟨entry, List.mem_cons_self .., ?_⟩, ih fun later member => ?_⟩
      · exact each entry (List.mem_cons_self ..) stored
      · exact each later (List.mem_cons_of_mem _ member)

theorem batch_of_start {entry : Entry α} (starts : entry.mark? = some .start) :
    entry.batch.isSome = true := by
  unfold Entry.mark? at starts
  split at starts
  · assumption
  · cases signals : entry.signal? <;> simp [signals] at starts

theorem recorded_of_signal {before after : List (Entry α)} {entry : Entry α}
    (signals : entry.signal? = some .value)
    (unread : ∀ given ∈ entry :: after, given.batch = none) :
    Mark.Recorded (marks (before ++ entry :: after)) .value := by
  have mark : entry.mark? = some (.signal .value) := by
    rw [Entry.mark?, unread entry (List.mem_cons_self ..), signals]
    rfl
  rw [Mark.recorded_value, Mark.mem_sinceStart]
  refine ⟨marks before, marks after, ?_, ?_⟩
  · rw [marks, List.filterMap_append, List.filterMap_cons_some mark]
    rfl
  · intro starts
    obtain ⟨given, member, start⟩ := List.mem_filterMap.mp starts
    have read := batch_of_start start
    rw [unread given (List.mem_cons_of_mem _ member)] at read
    cases read

/-- An announced value that no cycle has read is pending. -/
theorem recorded_of_unread (announced : Announced history) (waiting : unread history ≠ []) :
    Mark.Recorded (marks history) .value := by
  obtain ⟨value, member⟩ := List.exists_mem_of_ne_nil _ waiting
  obtain ⟨entry, since, holds⟩ := List.mem_filterMap.mp member
  obtain ⟨earlier, after, split⟩ := List.append_of_mem since
  have whole : history.rdropWhile (fun entry => entry.batch.isNone) ++
      history.rtakeWhile (fun entry => entry.batch.isNone) = history :=
    List.rdropWhile_append_rtakeWhile
  rw [split, ← List.append_assoc] at whole
  have stored : entry.accepted.isSome = true := by
    rw [holds]
    rfl
  rw [← whole] at announced
  obtain ⟨later, present, signals⟩ := announced.of_append stored
  obtain ⟨between, rest, parted⟩ := List.append_of_mem present
  -- the value came after the last read, hence its signal did too, and no start follows
  have unread : ∀ given ∈ later :: rest, given.batch = none := by
    intro given late
    have inside : given ∈ history.rtakeWhile fun entry => entry.batch.isNone := by
      rw [split, parted]
      exact List.mem_append_right _ (List.mem_append_right _ late)
    have none := List.mem_rtakeWhile_imp inside
    exact Option.isNone_iff_eq_none.mp none
  rw [← whole, parted, ← List.append_assoc]
  exact recorded_of_signal signals unread

/-- A cycle that read an announced value delivers an event. -/
theorem nil_of_silent (follows : Follows capacity history e) (announced : Announced history)
    {m : Move α} {values : List α} (read : (e.entry m).batch = some values)
    (silent : (e.entry m).event? = none) : values = [] := by
  by_contra filled
  have waiting : unread history ≠ [] := by
    intro none
    apply filled
    rw [(event_of_read follows read).1, none, List.rtake_nil]
  have delivers := (delivers_iff follows read filled).mpr
    ⟨.value, recorded_of_unread announced waiting⟩
  rw [silent] at delivers
  cases delivers

/-- No cycle waits, nobody holds a token, and the decoupler is not paused. -/
structure AtRest (history : List (Entry α)) (e : Engine α) : Prop where
  queue : e.queue = []
  timers : e.timers = []
  tokens : tokens history = []
  running : e.decoupler.pacer.paused = false

theorem AtRest.not_recorded (rest : AtRest history e) (follows : Follows capacity history e)
    (kind : EventKind) : ¬ Mark.Recorded (marks history) kind := by
  have phase := follows.phase
  rw [outstanding, rest.queue, rest.timers, rest.tokens] at phase
  have empty := (follows.informed.wakeful.idle phase.idle_of_nil rest.running).1
  exact follows.informed.pending_eq_empty_iff.mp empty kind

theorem AtRest.contents (rest : AtRest history e) (follows : Follows capacity history e)
    (announced : Announced history) : e.decoupler.buffer.contents = [] := by
  have read : unread history = [] := by
    by_contra waiting
    exact rest.not_recorded follows .value (recorded_of_unread announced waiting)
  rw [follows.contents, read, List.rtake_nil]

theorem Run.orderly (run : Run Atomic start history e) : Run Orderly start history e := by
  induction run with
  | start => exact .start
  | step _ atomic ih => exact .step ih atomic.1

theorem signal_of_accepted {m : Move α} (atomic : Atomic history m)
    (stored : (e.entry m).accepted.isSome = true) : (e.entry m).signal? = some .value := by
  obtain ⟨value, holds⟩ := Option.isSome_iff_exists.mp stored
  have signals : (e.entry m).signal? = (e.entry m).accepted.map fun _ => .value := by
    cases m with
    | call action =>
        cases action with
        | store value => exact absurd rfl (atomic.2 value)
        | collect =>
            cases collected : e.collect with
            | mk left outcome =>
                rcases outcome with panic | outcome
                · simp only [entry, move, act, collected, Entry.signal?]
                  rfl
                · cases outcome with
                  | failed cause =>
                      simp only [entry, move, act, collected] at stored
                      cases stored
                  | _ =>
                      simp only [entry, move, act, collected, Entry.signal?]
                      rfl
        | ready cycle => exact atomic.1.elim
        | signal s => cases stored
        | _ => rfl
    | _ => rfl
  rw [signals, holds]
  rfl

theorem Run.announced (run : Run Atomic start history e) : Announced history := by
  refine announced_of_forall fun entry member stored => ?_
  obtain ⟨before, after, split⟩ := List.append_of_mem member
  obtain ⟨e₁, m, _, atomic, rfl⟩ := run.split split
  exact signal_of_accepted atomic stored

end

end Cadence.Engine
