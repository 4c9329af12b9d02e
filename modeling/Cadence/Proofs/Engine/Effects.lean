import Cadence.Proofs.Engine.Tracking

/-!
# What the steps of an engine do

One lemma for each operation says everything that it can do to an engine.  What happens to values
does not bear on the cycles: producers change the pacer by their signals alone, so `Restocked` puts
their other effects into one relation.
-/

set_option autoImplicit false

namespace Cadence

namespace Notice

/-- The report is about values on their way through the buffer. -/
def isAboutValues : Notice → Bool
  | overwroteUnread => true
  | evictedOldest _ => true
  | droppedUnstamped => true
  | pruned _ _ => true
  | readFunctionFailed _ => true
  | writeAfterClose => true
  | collectWithoutFunction => true
  | _ => false

def scheduled? : Notice → Option Nat
  | scheduling _ cycle => some cycle
  | deferring _ cycle _ => some cycle
  | cannotDefer _ cycle _ => some cycle
  | _ => none

theorem scheduled_of_isAboutValues {notice : Notice} (about : notice.isAboutValues = true) :
    notice.scheduled? = none := by
  cases notice <;> first | rfl | cases about

end Notice

/-- The signal tells what became of a value. -/
def Signal.isOfValue : Signal → Bool
  | value => true
  | readException _ => true
  | _ => false

theorem Writing.isAboutValues_notices (w : Writing) :
    ∀ notice ∈ w.notices, notice.isAboutValues = true := by
  cases w <;> simp [Writing.notices, Notice.isAboutValues]

theorem Buffer.isAboutValues_readNotices {α : Type} (b : Buffer α) :
    ∀ notice ∈ b.readNotices, notice.isAboutValues = true := by
  intro notice member
  cases b with
  | latest l => cases member
  | queue q => cases member
  | window stampOf w =>
      simp only [readNotices] at member
      split at member
      · cases member
      · split at member
        · cases member
        · rw [List.mem_singleton.mp member]
          rfl

namespace Engine

variable {α : Type}

def scheduled (journal : List Notice) : List Nat := journal.filterMap Notice.scheduled?

theorem scheduled_append (journal notices : List Notice) :
    scheduled (journal ++ notices) = scheduled journal ++ scheduled notices :=
  List.filterMap_append

/-! ## Values -/

/-- Nothing has changed but values on their way, what is reported of them, and the count of those
that were evicted. -/
def Restocked (e e' : Engine α) : Prop :=
  ∃ (buffer : Buffer α) (source : Option (ReadFunction α)) (evictions : Nat)
    (notices : List Notice),
    (∀ notice ∈ notices, notice.isAboutValues = true) ∧
      e' =
        { e with
          decoupler :=
            { e.decoupler with
              buffer := buffer
              tally := { e.decoupler.tally with evictions := evictions } }
          source := source
          journal := e.journal ++ notices }

theorem restocked_refl (e : Engine α) : Restocked e e :=
  ⟨e.decoupler.buffer, e.source, e.decoupler.tally.evictions, [], by simp, by
    rw [List.append_nil]⟩

theorem restocked_note (e : Engine α) {notices : List Notice}
    (about : ∀ notice ∈ notices, notice.isAboutValues = true) : Restocked e (e.note notices) :=
  ⟨e.decoupler.buffer, e.source, e.decoupler.tally.evictions, notices, about, rfl⟩

theorem restocked_store (e : Engine α) (value : Option α) : Restocked e (e.store value).1 :=
  ⟨_, _, _, _, Writing.isAboutValues_notices _, rfl⟩

theorem restocked_feed (e : Engine α) (value : Option α) : Restocked e (e.feed value) :=
  ⟨_, _, _, [], by simp, by rw [List.append_nil]; rfl⟩

/-! ## Producers -/

def Action.isOfProducer : Action α → Bool
  | write _ => true
  | post _ => true
  | store _ => true
  | collect => true
  | signal _ => true
  | askClosed => true
  | feed _ => true
  | _ => false

/-- Values were moved, and then the signal was sent, if there was one. -/
def Tells (e : Engine α) (told : Option Signal) (e' : Engine α) : Prop :=
  ∃ moved, Restocked e moved ∧ e' = told.elim moved moved.signal

section

variable {e : Engine α}

theorem tells_none {e' : Engine α} (restocked : Restocked e e') : Tells e none e' :=
  ⟨e', restocked, rfl⟩

theorem tells_some {moved : Engine α} (restocked : Restocked e moved) (s : Signal) :
    Tells e (some s) (moved.signal s) :=
  ⟨moved, restocked, rfl⟩

theorem collect_tells (e : Engine α) :
    Tells e (e.entry (.call .collect)).signal? e.collect.1 := by
  cases isClosed : e.isClosed with
  | true =>
      have nothing : e.collect = (e, .ok .noUpdate) := by
        simp only [collect, isClosed, if_true]
      simp only [entry, move, act, nothing]
      exact tells_none e.restocked_refl
  | false =>
      cases source : e.source with
      | none =>
          have nothing : e.collect = (e.note [.collectWithoutFunction], .ok .noUpdate) := by
            simp only [collect, isClosed, source, Bool.false_eq_true, if_false]
          simp only [entry, move, act, nothing]
          exact tells_none (e.restocked_note (by simp [Notice.isAboutValues]))
      | some f =>
          cases called : f.call with
          | mk left answer =>
              cases answer with
              | value value =>
                  have collected := collect_of_value isClosed source called
                  have offers : e.offered (.call .collect) = value := by
                    simp [offered, source, called]
                  obtain ⟨_, _, _, _, about, h⟩ := e.restocked_store value
                  have restocked : Restocked e { (e.store value).1 with source := some left } :=
                    ⟨_, _, _, _, about, by rw [h]⟩
                  cases value with
                  | none =>
                      simp only [entry, move, act, collected, offers]
                      exact tells_none restocked
                  | some value =>
                      cases stored : (e.store (some value)).2 with
                      | true =>
                          rw [stored, if_pos rfl] at collected
                          simp only [entry, move, act, collected, offers]
                          exact tells_some restocked .value
                      | false =>
                          rw [stored, if_neg Bool.false_ne_true] at collected
                          simp only [entry, move, act, collected, offers]
                          exact tells_none restocked
              | fault cause =>
                  have collected := collect_of_fault isClosed source called
                  have restocked : Restocked e
                      ({ e with source := some left }.note [.readFunctionFailed cause]) :=
                    ⟨_, _, _, _, by simp [Notice.isAboutValues], rfl⟩
                  simp only [entry, move, act, collected]
                  exact tells_some restocked (.readException cause)
              | panic cause =>
                  have collected := collect_of_panic isClosed source called
                  have restocked : Restocked e ({ e with source := some left }.note []) :=
                    ⟨_, _, _, [], by simp, rfl⟩
                  simp only [entry, move, act, collected]
                  exact tells_none restocked

theorem post_tells (e : Engine α) (value : Option α) :
    Tells e (e.entry (.call (.post value))).signal? (e.act (.post value)).1 := by
  have restocked := e.restocked_store value
  cases value with
  | none => exact tells_none restocked
  | some value =>
      cases stored : (e.store (some value)).2 with
      | true =>
          simp only [entry, move, act, stored]
          exact tells_some restocked .value
      | false =>
          simp only [entry, move, act, stored]
          exact tells_none restocked

theorem producer_tells (e : Engine α) {action : Action α}
    (producers : action.isOfProducer = true) :
    Tells e (e.entry (.call action)).signal? (e.act action).1 := by
  cases action with
  | write value =>
      cases isClosed : e.isClosed with
      | true =>
          have nothing : e.write value = (e.note [.writeAfterClose], false) := by
            simp only [write, isClosed, if_true]
          simp only [entry, move, act, nothing]
          exact tells_none (e.restocked_note (by simp [Notice.isAboutValues]))
      | false =>
          have posted := e.post_tells value
          have same : e.act (.write value) = e.act (.post value) := by
            simp only [act, write, isClosed, Bool.false_eq_true, if_false]
            cases stored : (e.store value).2 <;> simp
          have signals : (e.entry (.call (.write value))).signal? =
              (e.entry (.call (.post value))).signal? := by
            simp only [entry, move, same]
            rfl
          rw [signals, same]
          exact posted
  | post value => exact e.post_tells value
  | store value => exact tells_none (e.restocked_store value)
  | collect => exact e.collect_tells
  | signal s => exact tells_some e.restocked_refl s
  | askClosed =>
      -- whatever the answer is, there is no value to go with it
      cases isClosed : e.isClosed
      all_goals
        simp only [entry, move, act, isClosed]
        exact tells_none e.restocked_refl
  | feed value => exact tells_none (e.restocked_feed value)
  | spend cycle => cases producers
  | ready cycle => cases producers
  | pause => cases producers
  | resume => cases producers
  | close => cases producers
  | drop => cases producers

end

/-- A signal that was not asked for tells what became of a value. -/
theorem Entry.isOfValue_of_signal {entry : Entry α} {s : Signal} (signals : entry.signal? = some s) :
    entry.move = .call (.signal s) ∨ s.isOfValue = true := by
  unfold signal? at signals
  split at signals
  · rename_i asked
    rw [← Option.some.inj signals]
    exact .inl asked
  · cases signals
  · cases signals
    exact .inr rfl
  · obtain ⟨_, _, rfl⟩ := Option.map_eq_some_iff.mp signals
    exact .inr rfl

/-- A producer moves values, and then sends a signal or none: the one that was asked for, or one
that tells what became of a value. -/
theorem producer_signals (e : Engine α) {action : Action α}
    (producers : action.isOfProducer = true) :
    ∃ e', Restocked e e' ∧ ((e.act action).1 = e' ∨
      ∃ s, (e.act action).1 = e'.signal s ∧ (action = .signal s ∨ s.isOfValue = true)) := by
  obtain ⟨e', restocked, same⟩ := e.producer_tells producers
  refine ⟨e', restocked, ?_⟩
  cases told : (e.entry (.call action)).signal? with
  | none =>
      rw [told] at same
      exact .inl same
  | some s =>
      rw [told] at same
      exact .inr ⟨s, same, (Entry.isOfValue_of_signal told).imp_left Move.call.inj⟩

theorem producer_effect (e : Engine α) {action : Action α}
    (producers : action.isOfProducer = true) :
    ∃ e', Restocked e e' ∧ ((e.act action).1 = e' ∨ ∃ s, (e.act action).1 = e'.signal s) := by
  obtain ⟨e', restocked, effect⟩ := e.producer_signals producers
  refine ⟨e', restocked, effect.imp_right ?_⟩
  rintro ⟨s, same, _⟩
  exact ⟨s, same⟩

/-! ## Cycles -/

theorem submit_of_accepts {e : Engine α} (accepts : e.refusal = none) (cycle : Nat) :
    e.submit cycle = { e with queue := e.queue ++ [cycle] } := by
  simp only [submit, accepts]

theorem submit_of_refused {e : Engine α} {refusal : Refusal} (refused : e.refusal = some refusal)
    (cycle : Nat) :
    e.submit cycle = (e.note [.couldNotSubmit e.subject cycle refusal]).close := by
  simp only [submit, refused]

def counted (e : Engine α) (tally : Tally) (notices : List Notice) : Engine α :=
  { e with
    decoupler := { e.decoupler with tally := tally }
    journal := e.journal ++ notices }

def countDelay (e : Engine α) (delay : Nat) : Tally :=
  { e.decoupler.tally with deferrals := e.decoupler.tally.deferrals ++ [delay] }

theorem apply_schedule (e : Engine α) (cycle delay : Nat) :
    e.apply (.schedule cycle delay) =
      if delay = 0 then
        (e.counted e.decoupler.tally [.scheduling e.subject cycle]).submit cycle
      else if e.hasRuntime then
        { e.counted (e.countDelay delay) [.deferring e.subject cycle delay] with
          timers := e.timers ++ [⟨cycle, e.now + delay⟩] }
      else (e.counted (e.countDelay delay) [.cannotDefer e.subject cycle delay]).submit cycle := by
  by_cases atOnce : delay = 0
  · simp only [apply, Decoupler.follow, if_pos atOnce]
    rfl
  · simp only [apply, Decoupler.follow, if_neg atOnce]
    rfl

/-- A cycle that is asked for is reported, and then submitted or left to a timer. -/
theorem apply_cases (e : Engine α) (asked : Transition) :
    (asked.cycle? = none ∧ ∃ tally, e.apply asked = e.counted tally []) ∨
    ∃ cycle tally notice, asked.cycle? = some cycle ∧ notice.scheduled? = some cycle ∧
      (e.apply asked = (e.counted tally [notice]).submit cycle ∨
        ∃ due, e.apply asked =
          { e.counted tally [notice] with timers := e.timers ++ [⟨cycle, due⟩] }) := by
  cases asked with
  | schedule cycle delay =>
      rw [apply_schedule]
      by_cases atOnce : delay = 0
      · rw [if_pos atOnce]
        exact .inr ⟨cycle, _, _, rfl, rfl, .inl rfl⟩
      · rw [if_neg atOnce]
        by_cases runtime : e.hasRuntime = true
        · rw [if_pos runtime]
          exact .inr ⟨cycle, _, _, rfl, rfl, .inr ⟨_, rfl⟩⟩
        · rw [if_neg runtime]
          exact .inr ⟨cycle, _, _, rfl, rfl, .inl rfl⟩
  | coalesced =>
      refine .inl ⟨rfl, { e.decoupler.tally with coalesced := e.decoupler.tally.coalesced + 1 }, ?_⟩
      simp only [apply, Decoupler.follow, counted, List.append_nil]
  | _ =>
      refine .inl ⟨rfl, e.decoupler.tally, ?_⟩
      simp only [apply, Decoupler.follow, counted, List.append_nil]

theorem close_cases (e : Engine α) :
    (e.decoupler.pacer.closed = true ∧ e.close = e) ∨
    (e.decoupler.pacer.closed = false ∧
      e.close = { e with decoupler := e.decoupler.close }.note [.closed e.subject]) := by
  cases isClosed : e.decoupler.pacer.closed with
  | true => exact .inl ⟨rfl, by simp only [close, isClosed, if_true]⟩
  | false => exact .inr ⟨rfl, by simp only [close, isClosed, Bool.false_eq_true, if_false]⟩

def paced (e : Engine α) (pacer : Pacer) : Engine α :=
  { e with decoupler := { e.decoupler with pacer := pacer } }

/-- What is reported of a violation: it closes the decoupler unless it was closed. -/
def violationNotices (e : Engine α) (violation : ProtocolViolation) : List Notice :=
  .violated e.subject violation ::
    if e.decoupler.pacer.closed then [] else [.closed e.subject]

theorem ready_effect (e : Engine α) (cycle : Nat) :
    (e.isAlive = false ∧ e.ready cycle = (e, .ok ())) ∨
    (e.isAlive = true ∧ e.decoupler.pacer.phase = .inFlight cycle true ∧
      e.ready cycle =
        ((e.paced (e.decoupler.pacer.finish e.now).1).apply (e.decoupler.pacer.finish e.now).2,
          .ok ())) ∨
    (e.isAlive = true ∧ e.decoupler.pacer.phase ≠ .inFlight cycle true ∧
      ∃ violation, e.decoupler.pacer.ready cycle e.now = (e.decoupler.pacer, .error violation) ∧
        e.ready cycle =
          ((e.paced e.decoupler.pacer.close.1).counted
            { e.decoupler.tally with violations := e.decoupler.tally.violations + 1 }
            (e.violationNotices violation), .error violation)) := by
  cases alive : e.isAlive with
  | false => exact .inl ⟨rfl, by simp only [ready, alive, Bool.false_eq_true, if_false]⟩
  | true =>
      right
      rcases e.decoupler.pacer.ready_cases cycle e.now with ⟨inFlight, h⟩ | ⟨other, violation, h⟩
      · exact .inl ⟨rfl, inFlight, by simp only [ready, alive, if_true, Decoupler.ready, h]; rfl⟩
      · refine .inr ⟨rfl, other, violation, h, ?_⟩
        simp only [ready, alive, if_true, Decoupler.ready, h, note, counted, paced,
          violationNotices]
        split <;> rfl

end Engine

end Cadence
