import Cadence.Proofs.Engine.Run
import Cadence.Proofs.Pacer.Course
import Mathlib.Data.List.Perm.Basic

/-!
# What a history says about an engine

In an orderly run the history alone tells the state of the engine: its marks tell what is pending,
the values accepted since the last read tell what is in the buffer, and the tokens that are out tell
which cycle is in flight.  `Tracked` is that invariant, and there is one lemma for each move.
-/

set_option autoImplicit false

namespace Cadence.Engine

variable {α : Type}

/-- The cycles that wait to be run, behind other tasks or for a timer. -/
def outstanding (e : Engine α) : List Nat := e.queue ++ e.timers.map Timer.cycle

/-- The state of the engine is the one that a history tells, but for the transition `asked`, which
has yet to be carried out. -/
structure Tracked (capacity : Nat) (marks : List Mark) (unread : List α) (tokens : List Nat)
    (asked : Transition) (e : Engine α) : Prop where
  held : e.held = true
  accepts : e.refusal = none
  informed : e.decoupler.pacer.Informed marks
  phase : e.decoupler.pacer.phase.Matches (e.outstanding ++ asked.cycle?.toList) tokens
  positive : 0 < capacity
  bounded : e.decoupler.buffer.capacity? = some capacity
  contents : e.decoupler.buffer.contents = unread.rtake capacity

theorem outstanding_submit (e : Engine α) (cycle : Nat) :
    ({ e with queue := e.queue ++ [cycle] } : Engine α).outstanding.Perm
      (e.outstanding ++ [cycle]) := by
  rw [outstanding, outstanding, List.append_assoc, List.append_assoc]
  exact List.Perm.append_left _ List.perm_append_comm

theorem outstanding_taken {e : Engine α} {cycle : Nat} {rest : List Nat}
    (queue : e.queue = cycle :: rest) :
    (({ e with queue := rest } : Engine α).outstanding ++ [cycle]).Perm e.outstanding := by
  rw [outstanding, outstanding, queue, List.cons_append]
  exact List.perm_append_singleton _ _

theorem map_eraseIdx_perm {β γ : Type} (f : β → γ) {l : List β} {index : Nat} {b : β}
    (found : l[index]? = some b) : (f b :: (l.eraseIdx index).map f).Perm (l.map f) := by
  obtain ⟨inside, is⟩ := List.getElem?_eq_some_iff.mp found
  rw [← is]
  exact (List.getElem_cons_eraseIdx_perm inside).map f

theorem outstanding_expired {e : Engine α} {index : Nat} {timer : Timer}
    (expires : e.timers[index]? = some timer) :
    (({ e with timers := e.timers.eraseIdx index } : Engine α).outstanding ++
      [timer.cycle]).Perm e.outstanding := by
  rw [outstanding, outstanding, List.append_assoc]
  apply List.Perm.append_left
  exact (List.perm_append_singleton _ _).trans (map_eraseIdx_perm Timer.cycle expires)

/-- Carrying out a transition puts the cycle that it asks for among those that wait. -/
theorem apply_eq {e : Engine α} (accepts : e.refusal = none) (asked : Transition) :
    ∃ queue timers,
      e.apply asked =
        { e with
          decoupler := { e.decoupler with tally := (e.apply asked).decoupler.tally }
          queue := queue
          timers := timers
          journal := (e.apply asked).journal } ∧
      (queue ++ timers.map Timer.cycle).Perm (e.outstanding ++ asked.cycle?.toList) := by
  cases asked with
  | schedule cycle delay =>
      by_cases atOnce : delay = 0
      · refine ⟨e.queue ++ [cycle], e.timers, ?_, e.outstanding_submit cycle⟩
        simp only [apply, Decoupler.follow, if_pos atOnce, note, submit, accepts]
      · cases runtime : e.hasRuntime with
        | true =>
            refine ⟨e.queue, e.timers ++ [⟨cycle, e.now + delay⟩], ?_, ?_⟩
            · simp only [apply, Decoupler.follow, if_neg atOnce, note, runtime, if_true]
            · rw [List.map_append, ← List.append_assoc]
              exact List.Perm.refl _
        | false =>
            refine ⟨e.queue ++ [cycle], e.timers, ?_, e.outstanding_submit cycle⟩
            simp only [apply, Decoupler.follow, if_neg atOnce, note, runtime, submit, accepts,
              Bool.false_eq_true, if_false]
  | _ =>
      refine ⟨e.queue, e.timers, rfl, ?_⟩
      rw [Transition.cycle?, Option.toList_none, List.append_nil]
      exact List.Perm.refl _

section

variable {capacity : Nat} {marks : List Mark} {unread : List α} {tokens : List Nat} {e : Engine α}

theorem Tracked.isAlive {asked : Transition}
    (tracked : Tracked capacity marks unread tokens asked e) : e.isAlive = true := by
  rw [Engine.isAlive, tracked.held, Bool.true_or]

theorem Tracked.isClosed {asked : Transition}
    (tracked : Tracked capacity marks unread tokens asked e) : e.isClosed = false := by
  rw [Engine.isClosed, tracked.isAlive, tracked.informed.isOpen]
  rfl

theorem Tracked.silent (tracked : Tracked capacity marks unread tokens .idle e) :
    Tracked capacity (marks ++ []) (unread ++ []) tokens .idle e := by
  rw [List.append_nil, List.append_nil]
  exact tracked

theorem tracked_apply {asked : Transition}
    (tracked : Tracked capacity marks unread tokens asked e) :
    Tracked capacity marks unread tokens .idle (e.apply asked) := by
  obtain ⟨queue, timers, h, waiting⟩ := apply_eq tracked.accepts asked
  rw [h]
  refine { tracked with phase := ?_ }
  rw [Transition.cycle?, Option.toList_none, List.append_nil]
  exact tracked.phase.perm waiting

theorem tracked_signal (tracked : Tracked capacity marks unread tokens .idle e) (s : Signal) :
    Tracked capacity (marks ++ [.signal s]) unread tokens .idle (e.signal s) := by
  have told := tracked.informed.step (.signal s e.now) Pacer.Operation.noConfusion
  have phase := Pacer.matches_signal tracked.phase s e.now
  rw [signal, if_pos tracked.isAlive]
  apply tracked_apply
  rw [Transition.cycle?, Option.toList_none, List.append_nil] at phase
  exact { tracked with informed := told, phase := phase }

theorem tracked_store (tracked : Tracked capacity marks unread tokens .idle e) (value : Option α) :
    Tracked capacity marks (unread ++ value.toList) tokens .idle (e.store value).1 := by
  have bounded : (e.decoupler.buffer.write value).1.capacity? = some capacity :=
    (Buffer.capacity_write _ value).trans tracked.bounded
  have contents := Buffer.contents_write_of_history tracked.bounded tracked.positive
    tracked.contents value
  exact { tracked with bounded := bounded, contents := contents }

theorem store_accepts (tracked : Tracked capacity marks unread tokens .idle e) (value : Option α) :
    (e.store value).2 = value.isSome :=
  Buffer.accepted_write tracked.bounded value

def valueMark (value : Option α) : List Mark := (value.map fun _ => Mark.signal .value).toList

theorem tracked_post (tracked : Tracked capacity marks unread tokens .idle e) (value : Option α) :
    Tracked capacity (marks ++ valueMark value) (unread ++ value.toList) tokens .idle
      (if (e.store value).2 then (e.store value).1.signal .value else (e.store value).1) := by
  have stored := tracked_store tracked value
  rw [store_accepts tracked]
  cases value with
  | none =>
      rw [valueMark, Option.map_none, Option.toList_none, List.append_nil]
      exact stored
  | some value => exact tracked_signal stored .value

theorem write_eq_post (tracked : Tracked capacity marks unread tokens .idle e) (value : Option α) :
    e.write value =
      (if (e.store value).2 then (e.store value).1.signal .value else (e.store value).1,
        (e.store value).2) := by
  simp only [write, tracked.isClosed, Bool.false_eq_true, if_false]
  cases accepted : (e.store value).2 <;> simp

theorem tracked_pause (tracked : Tracked capacity marks unread tokens .idle e) :
    Tracked capacity marks unread tokens .idle e.pause := by
  have told := tracked.informed.step_unmarked .pause Pacer.Operation.noConfusion rfl
  rw [pause, if_pos tracked.held]
  exact { tracked with informed := told }

theorem tracked_resume (tracked : Tracked capacity marks unread tokens .idle e) :
    Tracked capacity marks unread tokens .idle e.resume := by
  have told := tracked.informed.step_unmarked (.resume e.now) Pacer.Operation.noConfusion rfl
  have phase := Pacer.matches_resume tracked.phase e.now
  rw [Transition.cycle?, Option.toList_none, List.append_nil] at phase
  rw [resume, if_pos tracked.held]
  apply tracked_apply
  exact { tracked with informed := told, phase := phase }

theorem tracked_ready (tracked : Tracked capacity marks unread tokens .idle e) {cycle : Nat}
    (out : cycle ∈ tokens) :
    Tracked capacity marks unread (tokens.erase cycle) .idle (e.ready cycle).1 := by
  obtain ⟨flight, none, rfl⟩ := tracked.phase.of_token out
  have done : e.decoupler.pacer.ready cycle e.now =
      ((e.decoupler.pacer.finish e.now).1, .ok (e.decoupler.pacer.finish e.now).2) := by
    rcases e.decoupler.pacer.ready_cases cycle e.now with ⟨_, h⟩ | ⟨other, _⟩
    · exact h
    · exact absurd flight other
  have told := tracked.informed.step_unmarked (.ready cycle e.now) Pacer.Operation.noConfusion rfl
  simp only [Pacer.step, done] at told
  have phase := e.decoupler.pacer.matches_finish e.now
  rw [Transition.cycle?, Option.toList_none, List.append_nil] at none
  simp only [ready, if_pos tracked.isAlive, Decoupler.ready, done]
  apply tracked_apply
  rw [List.erase_cons_head]
  refine { tracked with informed := told, phase := ?_ }
  change (e.decoupler.pacer.finish e.now).1.phase.Matches
    (e.outstanding ++ (e.decoupler.pacer.finish e.now).2.cycle?.toList) []
  rw [none, List.nil_append]
  exact phase

/-! ## Collecting -/

theorem collect_of_value {f left : ReadFunction α} {value : Option α} (isOpen : e.isClosed = false)
    (source : e.source = some f) (called : f.call = (left, .value value)) :
    e.collect =
      if (e.store value).2 then ({ (e.store value).1 with source := some left }.signal .value,
        .ok .stored)
      else ({ (e.store value).1 with source := some left }, .ok .noUpdate) := by
  cases accepted : (e.decoupler.buffer.write value).2.accepted <;>
    simp [collect, isOpen, source, ReadFunction.collect, called, store, Decoupler.store, accepted,
      Collection.notices, note]

theorem collect_of_fault {f left : ReadFunction α} {cause : ProducerFault}
    (isOpen : e.isClosed = false) (source : e.source = some f)
    (called : f.call = (left, .fault cause)) :
    e.collect =
      (({ e with source := some left }.note [.readFunctionFailed cause]).signal
        (.readException cause), .ok (.failed cause)) := by
  simp only [collect, isOpen, source, ReadFunction.collect, called]
  rfl

theorem collect_of_panic {f left : ReadFunction α} {cause : Panic} (isOpen : e.isClosed = false)
    (source : e.source = some f) (called : f.call = (left, .panic cause)) :
    e.collect = ({ e with source := some left }.note [], .error cause) := by
  simp only [collect, isOpen, source, ReadFunction.collect, called]
  rfl

theorem tracked_collect (tracked : Tracked capacity marks unread tokens .idle e) :
    Tracked capacity (marks ++ (e.entry (.call .collect)).mark?.toList)
      (unread ++ (e.entry (.call .collect)).accepted.toList) tokens .idle e.collect.1 := by
  have isOpen := tracked.isClosed
  cases source : e.source with
  | none =>
      have h : e.collect = (e.note [.collectWithoutFunction], .ok .noUpdate) := by
        simp [collect, isOpen, source]
      simp only [entry, move, act, h]
      exact Tracked.silent { tracked with }
  | some f =>
      cases called : f.call with
      | mk left answer =>
          cases answer with
          | value value =>
              have h := collect_of_value isOpen source called
              have stored := tracked_store tracked value
              rw [store_accepts tracked] at h
              have offers : e.offered (.call .collect) = value := by
                simp [offered, source, called]
              have kept : Tracked capacity marks (unread ++ value.toList) tokens .idle
                  { (e.store value).1 with source := some left } := { stored with }
              cases value with
              | none =>
                  simp only [entry, move, act, h, offers]
                  exact Tracked.silent { tracked with }
              | some value =>
                  simp only [entry, move, act, h, offers]
                  exact tracked_signal kept .value
          | fault cause =>
              have kept : Tracked capacity marks (unread ++ []) tokens .idle
                  ({ e with source := some left }.note [.readFunctionFailed cause]) := by
                rw [List.append_nil]
                exact { tracked with }
              simp only [entry, move, act, collect_of_fault isOpen source called]
              exact tracked_signal kept (.readException cause)
          | panic cause =>
              simp only [entry, move, act, collect_of_panic isOpen source called]
              exact Tracked.silent { tracked with }

/-! ## Running a task -/

def due (e : Engine α) (cycle : Nat) : Event α :=
  .classify cycle e.decoupler.pacer.snapshot e.decoupler.buffer.contents

theorem begin_of_asked {cycle delay : Nat}
    (tracked : Tracked capacity marks unread tokens (.schedule cycle delay) e) :
    e.outstanding = [] ∧ tokens = [] ∧ e.decoupler.pacer.begin cycle e.now =
      (e.decoupler.pacer.started cycle e.now, some e.decoupler.pacer.snapshot) := by
  obtain ⟨scheduled, alone, none⟩ := (tracked.phase.perm List.perm_append_comm).of_waiting
  refine ⟨alone, none, ?_⟩
  rcases e.decoupler.pacer.begin_cases cycle e.now with ⟨isClosed, _⟩ | ⟨_, _, h⟩ | ⟨_, other, _⟩
  · rw [tracked.informed.isOpen] at isClosed
    cases isClosed
  · exact h
  · exact absurd scheduled other

theorem runTask_of_begin {cycle : Nat} (alive : e.isAlive = true)
    (begins : e.decoupler.pacer.begin cycle e.now =
      (e.decoupler.pacer.started cycle e.now, some e.decoupler.pacer.snapshot)) :
    e.runTask cycle =
      if (e.due cycle).kinds.isEmpty then
        (({ e with
            decoupler := { e.decoupler with
              pacer := ((e.decoupler.pacer.started cycle e.now).skip cycle e.now).1
              buffer := e.decoupler.buffer.read.1 } }.note
            (e.decoupler.buffer.readNotices ++ [Notice.nothingToDeliver e.subject cycle])).apply
          ((e.decoupler.pacer.started cycle e.now).skip cycle e.now).2, none)
      else
        ({ e with
            decoupler :=
              { pacer := ((e.decoupler.pacer.started cycle e.now).markDispatched cycle).1
                buffer := e.decoupler.buffer.read.1
                tally :=
                  { e.decoupler.tally with dispatched := e.decoupler.tally.dispatched + 1 } }
            running := e.running + 1 }.note
          (e.decoupler.buffer.readNotices ++
            [Notice.delivering e.subject cycle (e.due cycle).kinds (e.due cycle).values.length]),
          some (e.due cycle)) := by
  have event : Event.classify cycle e.decoupler.pacer.snapshot e.decoupler.buffer.read.2 =
      e.due cycle := rfl
  simp only [runTask, alive, if_true, Decoupler.runCycle, begins, event]
  by_cases silent : (e.due cycle).kinds.isEmpty
  · simp only [if_pos silent]
  · simp only [if_neg silent]

/-- A task whose turn has come empties the buffer, and delivers its event unless the event says
nothing. -/
theorem tracked_runTask {cycle delay : Nat}
    (tracked : Tracked capacity marks unread tokens (.schedule cycle delay) e) :
    (e.runTask cycle).2 = (if (e.due cycle).kinds.isEmpty then none else some (e.due cycle)) ∧
      Tracked capacity (marks ++ [.start]) [] (if (e.due cycle).kinds.isEmpty then [] else [cycle])
        .idle (e.runTask cycle).1 := by
  obtain ⟨waiting, rfl, begins⟩ := begin_of_asked tracked
  have started : (e.decoupler.pacer.started cycle e.now).Informed (marks ++ [.start]) := by
    have told := tracked.informed.step (.begin cycle e.now) Pacer.Operation.noConfusion
    simp only [Pacer.step, begins] at told
    exact told
  have bounded : e.decoupler.buffer.read.1.capacity? = some capacity :=
    (Buffer.capacity_read _).trans tracked.bounded
  have emptied : e.decoupler.buffer.read.1.contents = ([] : List α).rtake capacity := by
    rw [List.rtake_nil]
    exact Buffer.contents_read tracked.bounded
  rw [runTask_of_begin tracked.isAlive begins]
  -- either way the buffer has been read, so a skipped cycle drops what was in it
  by_cases silent : (e.due cycle).kinds.isEmpty
  · simp only [if_pos silent, true_and]
    have told := started.step_unmarked (.skip cycle e.now) Pacer.Operation.noConfusion rfl
    have phase : ((e.decoupler.pacer.started cycle e.now).skip cycle e.now).1.phase.Matches
        (e.outstanding ++
          ((e.decoupler.pacer.started cycle e.now).skip cycle e.now).2.cycle?.toList) [] := by
      rw [waiting]
      exact e.decoupler.pacer.matches_skipped cycle e.now
    apply tracked_apply
    exact { tracked with informed := told, phase := phase, bounded := bounded, contents := emptied }
  · simp only [if_neg silent, true_and]
    have told := started.step_unmarked (.markDispatched cycle) Pacer.Operation.noConfusion rfl
    have phase : ((e.decoupler.pacer.started cycle e.now).markDispatched cycle).1.phase.Matches
        (e.outstanding ++ []) [cycle] := by
      rw [waiting]
      exact e.decoupler.pacer.matches_dispatched cycle e.now
    exact { tracked with informed := told, phase := phase, bounded := bounded, contents := emptied }

/-! ## Queue and timers -/

theorem tracked_taken (tracked : Tracked capacity marks unread tokens .idle e) {cycle : Nat}
    {rest : List Nat} (queue : e.queue = cycle :: rest) :
    Tracked capacity marks unread tokens (.schedule cycle 0) { e with queue := rest } := by
  have phase := tracked.phase
  rw [Transition.cycle?, Option.toList_none, List.append_nil] at phase
  exact { tracked with phase := phase.perm (outstanding_taken queue) }

theorem tracked_expired (tracked : Tracked capacity marks unread tokens .idle e) {index : Nat}
    {timer : Timer} (expires : e.timers[index]? = some timer) :
    Tracked capacity marks unread tokens (.schedule timer.cycle 0)
      { e with timers := e.timers.eraseIdx index } := by
  have phase := tracked.phase
  rw [Transition.cycle?, Option.toList_none, List.append_nil] at phase
  exact { tracked with phase := phase.perm (outstanding_expired expires) }

theorem tracked_submit {cycle delay : Nat}
    (tracked : Tracked capacity marks unread tokens (.schedule cycle delay) e) :
    Tracked capacity marks unread tokens .idle (e.submit cycle) := by
  have phase := tracked.phase.perm (e.outstanding_submit cycle)
  rw [← List.append_nil (outstanding _)] at phase
  simp only [submit, tracked.accepts]
  exact { tracked with accepts := rfl, phase := phase }

theorem tracked_fire (tracked : Tracked capacity marks unread tokens .idle e) (index : Nat) :
    Tracked capacity marks unread tokens .idle (e.fire index) := by
  cases expires : e.timers[index]? with
  | none =>
      simp only [fire, expires]
      exact tracked
  | some timer =>
      have expired := tracked_expired tracked expires
      simp only [fire, expires, expired.isAlive, if_true]
      exact tracked_submit expired

end

/-! ## Every move -/

section

variable {capacity : Nat} {history : List (Entry α)} {e : Engine α}

/-- The state of the engine is the one that the history tells. -/
def Follows (capacity : Nat) (history : List (Entry α)) (e : Engine α) : Prop :=
  Tracked capacity (marks history) (unread history) (tokens history) .idle e

theorem follows_concat {e' : Engine α} {entry : Entry α} (other : entry.batch = none)
    (moved : Tracked capacity (marks history ++ entry.mark?.toList)
      (unread history ++ entry.accepted.toList) (entry.tokens (tokens history)) .idle e') :
    Follows capacity (history ++ [entry]) e' := by
  rw [Follows, marks_concat, unread_concat other, tokens_concat]
  exact moved

theorem accepted_of_flag {m : Move α}
    (answers : (e.move m).2 = .answered (.ok (.flag (e.offered m).isSome))) :
    (e.entry m).accepted = e.offered m := by
  simp only [entry, answers, Outcome.accepts]
  cases e.offered m <;> rfl

theorem mark_of_write {m : Move α} (unread : e.read? m = none)
    (signals : (e.entry m).signal? = (e.entry m).accepted.map fun _ => .value) :
    (e.entry m).mark?.toList = valueMark (e.entry m).accepted := by
  have other : (e.entry m).batch = none := unread
  rw [Entry.mark?, signals, other]
  cases (e.entry m).accepted <;> rfl

theorem accepted_run (e : Engine α) : (e.entry .run).accepted = none := rfl

theorem run_cases (follows : Follows capacity history e) :
    (e.runNext = (e, none) ∧ (e.entry .run).batch = none ∧ (e.entry .run).event? = none) ∨
    ∃ cycle, (e.entry .run).batch = some e.decoupler.buffer.contents ∧
      (e.entry .run).event? =
        (if (e.due cycle).kinds.isEmpty then none else some (e.due cycle)) ∧
      tokens history = [] ∧
      Tracked capacity (marks history ++ [.start]) []
        (if (e.due cycle).kinds.isEmpty then [] else [cycle]) .idle e.runNext.1 := by
  cases queue : e.queue with
  | nil =>
      have nothing : e.runNext = (e, none) := by simp [runNext, queue]
      have unread : e.read? .run = none := by simp [read?, queue]
      exact .inl ⟨nothing, unread, by rw [Entry.event?, entry, move, nothing]⟩
  | cons cycle rest =>
      have taken := tracked_taken follows queue
      obtain ⟨_, none, begins⟩ := begin_of_asked taken
      obtain ⟨event, moved⟩ := tracked_runTask taken
      have ran : e.runNext = (({ e with queue := rest }.runTask cycle).1,
          some ({ e with queue := rest }.runTask cycle).2) := by
        simp only [runNext, queue]
      have alive : e.isAlive = true := taken.isAlive
      have started : (e.decoupler.pacer.begin cycle e.now).2 = some e.decoupler.pacer.snapshot :=
        congrArg Prod.snd begins
      refine .inr ⟨cycle, ?_, ?_, none, ?_⟩
      · simp [entry, read?, queue, alive, started]
      · simp only [Entry.event?, entry, move, ran]
        exact event
      · rw [ran]
        exact moved

theorem follows_run (follows : Follows capacity history e) :
    Follows capacity (history ++ [e.entry .run]) e.runNext.1 := by
  rcases run_cases follows with ⟨nothing, unread, silent⟩ | ⟨cycle, read, event, none, moved⟩
  · refine follows_concat unread ?_
    rw [Entry.mark?, unread, Entry.tokens, silent, nothing]
    exact Tracked.silent follows
  · have marked : (e.entry .run).mark? = some .start := by
      rw [Entry.mark?, read]
      rfl
    have out : (e.entry .run).tokens (tokens history) =
        if (e.due cycle).kinds.isEmpty then [] else [cycle] := by
      rw [none, Entry.tokens, event]
      by_cases silent : (e.due cycle).kinds.isEmpty
      · rw [if_pos silent, if_pos silent]
        rfl
      · rw [if_neg silent, if_neg silent]
        rfl
    rw [Follows, marks_concat, marked, unread_concat_of_read read, tokens_concat, out]
    exact moved

theorem follows_move (follows : Follows capacity history e) {m : Move α}
    (orderly : Orderly history m) : Follows capacity (history ++ [e.entry m]) (e.move m).1 := by
  cases m with
  | call action =>
      cases action with
      | write value =>
          have posted := tracked_post follows value
          have stored : (e.entry (.call (.write value))).accepted = value := by
            apply accepted_of_flag
            rw [move, act, write_eq_post follows value, store_accepts follows value]
            rfl
          refine follows_concat rfl ?_
          rw [mark_of_write rfl rfl, stored, move, act, write_eq_post follows value]
          exact posted
      | post value =>
          have posted := tracked_post follows value
          have stored : (e.entry (.call (.post value))).accepted = value := by
            apply accepted_of_flag
            rw [move, act, store_accepts follows value]
            rfl
          refine follows_concat rfl ?_
          rw [mark_of_write rfl rfl, stored]
          exact posted
      | store value =>
          have kept := tracked_store follows value
          have stored : (e.entry (.call (.store value))).accepted = value := by
            apply accepted_of_flag
            rw [move, act, store_accepts follows value]
            rfl
          rw [← List.append_nil (marks history)] at kept
          refine follows_concat rfl ?_
          rw [stored]
          exact kept
      | collect => exact follows_concat rfl (tracked_collect follows)
      | signal s =>
          refine follows_concat rfl ?_
          have told := tracked_signal follows s
          rw [← List.append_nil (unread history)] at told
          exact told
      | askClosed =>
          have isOpen := Tracked.isClosed follows
          refine follows_concat rfl ?_
          simp only [entry, move, act, isOpen]
          exact Tracked.silent follows
      | feed value => exact follows_concat rfl (Tracked.silent { follows with })
      | spend cycle => exact follows_concat rfl (Tracked.silent (tracked_ready follows orderly))
      | ready cycle => exact orderly.elim
      | pause => exact follows_concat rfl (Tracked.silent (tracked_pause follows))
      | resume => exact follows_concat rfl (Tracked.silent (tracked_resume follows))
      | close => exact orderly.elim
      | drop => exact orderly.elim
  | run => exact follows_run follows
  | returned => exact follows_concat rfl (Tracked.silent { follows with })
  | fire index => exact follows_concat rfl (Tracked.silent (tracked_fire follows index))
  | cancel =>
      have isOpen := Tracked.isClosed follows
      have kept : e.cancelTimers = e := by simp [cancelTimers, isOpen]
      refine follows_concat rfl ?_
      rw [move, kept]
      exact Tracked.silent follows
  | refuse refusal => exact orderly.elim
  | elapse nanos => exact follows_concat rfl (Tracked.silent { follows with })

end

end Cadence.Engine
