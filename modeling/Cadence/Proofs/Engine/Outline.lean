import Cadence.Proofs.Engine.Scenes

/-!
# Engines without their values

The outline of an engine is the engine without the values in its buffer and what is told of them.
An operation is steady if it does to the outline what it does to the engine, and leaves the buffer as
it is.  Everything but writing and reading the buffer is made of steady operations.
-/

set_option autoImplicit false

namespace Cadence

/-- The notice, unless it tells of a value in the buffer; how many values an event holds is left
out. -/
def Notice.outline? : Notice → Option Notice
  | overwroteUnread => none
  | evictedOldest _ => none
  | droppedUnstamped => none
  | pruned _ _ => none
  | delivering subject cycle kinds _ => some (delivering subject cycle kinds 0)
  | notice => some notice

theorem Writing.outline_notices (w : Writing) : w.notices.filterMap Notice.outline? = [] := by
  cases w <;> rfl

theorem Buffer.outline_readNotices {α : Type} (b : Buffer α) :
    b.readNotices.filterMap Notice.outline? = [] := by
  cases b with
  | latest l => rfl
  | queue q => rfl
  | window stampOf w =>
      simp only [readNotices]
      split
      · rfl
      · split <;> rfl

namespace Engine

variable {α : Type}

/-- The engine without its values and what is told of them. -/
def outline (e : Engine α) : Engine α :=
  { e with
    decoupler :=
      { e.decoupler with
        buffer := .latest .empty
        tally := { e.decoupler.tally with evictions := 0 } }
    journal := e.journal.filterMap Notice.outline? }

/-! ## Operations that let the buffer be -/

/-- The operation neither looks at values nor touches them. -/
structure Steady (op : Engine α → Engine α) : Prop where
  outline : ∀ e, (op e).outline = op e.outline
  buffer : ∀ e, (op e).decoupler.buffer = e.decoupler.buffer

theorem steady_id : Steady fun e : Engine α => e := ⟨fun _ => rfl, fun _ => rfl⟩

theorem Steady.comp {op op' : Engine α → Engine α} (h : Steady op) (h' : Steady op') :
    Steady fun e => op' (op e) where
  outline e := by rw [h'.outline, h.outline]
  buffer e := by rw [h'.buffer, h.buffer]

/-- What an operation does may depend on anything that the outline shows. -/
theorem Steady.choose {β : Type} (pick : Engine α → β) (op : β → Engine α → Engine α)
    (same : ∀ e, pick e.outline = pick e) (h : ∀ b, Steady (op b)) :
    Steady fun e => op (pick e) e where
  outline e := by rw [(h (pick e)).outline, same]
  buffer e := (h (pick e)).buffer e

theorem Steady.ite {op op' : Engine α → Engine α} (asks : Engine α → Bool)
    (same : ∀ e, asks e.outline = asks e) (h : Steady op) (h' : Steady op') :
    Steady fun e => if asks e then op e else op' e := by
  refine Steady.choose asks (fun b e => if b then op e else op' e) same fun b => ?_
  cases b with
  | true => exact h
  | false => exact h'

theorem steady_note (notices : Engine α → List Notice) (same : ∀ e, notices e.outline = notices e)
    (plain : ∀ e, (notices e).filterMap Notice.outline? = notices e) :
    Steady fun e => e.note (notices e) where
  outline e := by simp only [note, Engine.outline, List.filterMap_append, plain, ← same e]
  buffer _ := rfl

theorem steady_returned : Steady fun e : Engine α => e.returned := ⟨fun _ => rfl, fun _ => rfl⟩

theorem steady_close : Steady fun e : Engine α => e.close := by
  have shuts : Steady fun e : Engine α => { e with decoupler := e.decoupler.close } :=
    ⟨fun _ => rfl, fun _ => rfl⟩
  have told := steady_note (fun e : Engine α => [.closed e.subject]) (fun _ => rfl) fun _ => rfl
  exact Steady.ite (fun e => e.decoupler.pacer.closed) (fun _ => rfl) steady_id (shuts.comp told)

theorem steady_submit (cycle : Nat) : Steady fun e : Engine α => e.submit cycle := by
  have refuses : ∀ refusal, Steady fun e : Engine α =>
      (e.note [.couldNotSubmit e.subject cycle refusal]).close := by
    intro refusal
    have told := steady_note (fun e : Engine α => [.couldNotSubmit e.subject cycle refusal])
      (fun _ => rfl) fun _ => rfl
    exact told.comp steady_close
  constructor
  · intro e
    cases refused : e.refusal with
    | none =>
        have refused' : e.outline.refusal = none := refused
        rw [submit_of_accepts refused, submit_of_accepts refused']
        rfl
    | some refusal =>
        have refused' : e.outline.refusal = some refusal := refused
        rw [submit_of_refused refused, submit_of_refused refused']
        exact (refuses refusal).outline e
  · intro e
    cases refused : e.refusal with
    | none => rw [submit_of_accepts refused]
    | some refusal =>
        rw [submit_of_refused refused]
        exact (refuses refusal).buffer e

theorem steady_apply (asked : Transition) : Steady fun e : Engine α => e.apply asked := by
  cases asked with
  | schedule cycle delay =>
      by_cases atOnce : delay = 0
      · have told := steady_note (fun e : Engine α => [.scheduling e.subject cycle])
          (fun _ => rfl) fun _ => rfl
        simp only [apply_schedule, if_pos atOnce]
        exact told.comp (steady_submit cycle)
      · have counts : Steady fun e : Engine α =>
            { e with decoupler := { e.decoupler with tally := e.countDelay delay } } :=
          ⟨fun _ => rfl, fun _ => rfl⟩
        have waits : Steady fun e : Engine α =>
            { e with timers := e.timers ++ [⟨cycle, e.now + delay⟩] } :=
          ⟨fun _ => rfl, fun _ => rfl⟩
        have deferring := steady_note (fun e : Engine α => [.deferring e.subject cycle delay])
          (fun _ => rfl) fun _ => rfl
        have atLast := steady_note (fun e : Engine α => [.cannotDefer e.subject cycle delay])
          (fun _ => rfl) fun _ => rfl
        simp only [apply_schedule, if_neg atOnce]
        exact Steady.ite hasRuntime (fun _ => rfl) ((counts.comp deferring).comp waits)
          ((counts.comp atLast).comp (steady_submit cycle))
  | _ => exact ⟨fun _ => rfl, fun _ => rfl⟩

theorem steady_signal (s : Signal) : Steady fun e : Engine α => e.signal s := by
  have takes : Steady fun e : Engine α =>
      { e with decoupler := (e.decoupler.signal s e.now).1 } := ⟨fun _ => rfl, fun _ => rfl⟩
  have told := steady_note (fun e : Engine α => [.signalled e.subject s]) (fun _ => rfl)
    fun _ => rfl
  have asks := Steady.choose (fun e : Engine α => (e.decoupler.signal s e.now).2)
    (fun asked e =>
      ({ e with decoupler := (e.decoupler.signal s e.now).1 }.note [.signalled e.subject s]).apply
        asked)
    (fun _ => rfl) fun asked => (takes.comp told).comp (steady_apply asked)
  exact Steady.ite isAlive (fun _ => rfl) asks steady_id

theorem steady_pause : Steady fun e : Engine α => e.pause := by
  have holds : Steady fun e : Engine α => { e with decoupler := e.decoupler.pause } :=
    ⟨fun _ => rfl, fun _ => rfl⟩
  have told := steady_note (fun e : Engine α => [.paused e.subject]) (fun _ => rfl) fun _ => rfl
  exact Steady.ite held (fun _ => rfl) (holds.comp told) steady_id

theorem steady_resume : Steady fun e : Engine α => e.resume := by
  have asks := Steady.choose (fun e : Engine α => (e.decoupler.resume e.now).2)
    (fun asked e =>
      ({ e with decoupler := (e.decoupler.resume e.now).1 }.note
        [.resumed e.subject asked]).apply asked)
    (fun _ => rfl) fun asked => ?_
  · exact Steady.ite held (fun _ => rfl) asks steady_id
  · have takes : Steady fun e : Engine α => { e with decoupler := (e.decoupler.resume e.now).1 } :=
      ⟨fun _ => rfl, fun _ => rfl⟩
    have told := steady_note (fun e : Engine α => [.resumed e.subject asked]) (fun _ => rfl)
      fun _ => rfl
    exact (takes.comp told).comp (steady_apply asked)

theorem steady_shut : Steady fun e : Engine α => e.shut :=
  Steady.ite held (fun _ => rfl) steady_close steady_id

theorem steady_drop : Steady fun e : Engine α => e.drop := by
  have told := steady_note (fun e : Engine α => [.closingDropped e.subject]) (fun _ => rfl)
    fun _ => rfl
  have letGo : Steady fun e : Engine α => { e with held := false } :=
    ⟨fun _ => rfl, fun _ => rfl⟩
  have shuts := Steady.ite (fun e : Engine α => e.closesOnDrop && !e.decoupler.pacer.closed)
    (fun _ => rfl) (told.comp steady_close) steady_id
  exact Steady.ite held (fun _ => rfl) (shuts.comp letGo) steady_id

/-- What the pacer answers decides about a readiness call. -/
def judged (e : Engine α) (cycle : Nat) : Except ProtocolViolation Transition → Engine α
  | .ok asked => (e.paced (e.decoupler.pacer.ready cycle e.now).1).apply asked
  | .error violation =>
      { e.note (e.violationNotices violation) with
        decoupler :=
          { e.decoupler with
            pacer := e.decoupler.pacer.close.1
            tally := { e.decoupler.tally with violations := e.decoupler.tally.violations + 1 } } }

theorem ready_eq_judged (e : Engine α) (cycle : Nat) :
    e.ready cycle =
      (if e.isAlive then e.judged cycle (e.decoupler.pacer.ready cycle e.now).2 else e,
        if e.isAlive then (e.decoupler.pacer.ready cycle e.now).2.map fun _ => () else .ok ()) := by
  cases alive : e.isAlive with
  | false => simp only [ready, alive, Bool.false_eq_true, if_false]
  | true =>
      rcases e.decoupler.pacer.ready_cases cycle e.now with ⟨_, h⟩ | ⟨_, violation, h⟩
      · simp only [ready, alive, if_true, Decoupler.ready, judged, h]
        rfl
      · simp only [ready, alive, if_true, Decoupler.ready, judged, h, note, violationNotices]
        cases e.decoupler.pacer.closed <;> rfl

theorem steady_ready (cycle : Nat) : Steady fun e : Engine α => (e.ready cycle).1 := by
  have judges : ∀ result, Steady fun e : Engine α => e.judged cycle result := by
    intro result
    cases result with
    | ok asked =>
        have takes : Steady fun e : Engine α =>
            e.paced (e.decoupler.pacer.ready cycle e.now).1 := ⟨fun _ => rfl, fun _ => rfl⟩
        exact takes.comp (steady_apply asked)
    | error violation =>
        have told := steady_note (fun e : Engine α => e.violationNotices violation)
          (fun _ => rfl) fun e => by
            rw [violationNotices]
            split <;> rfl
        have shuts : Steady fun e : Engine α =>
            { e with
              decoupler :=
                { e.decoupler with
                  pacer := e.decoupler.pacer.close.1
                  tally :=
                    { e.decoupler.tally with violations := e.decoupler.tally.violations + 1 } } } :=
          ⟨fun _ => rfl, fun _ => rfl⟩
        exact told.comp shuts
  have asks := Steady.choose (fun e : Engine α => (e.decoupler.pacer.ready cycle e.now).2)
    (fun result e => e.judged cycle result) (fun _ => rfl) judges
  simp only [ready_eq_judged]
  exact Steady.ite isAlive (fun _ => rfl) asks steady_id

theorem ready_outline (e : Engine α) (cycle : Nat) :
    (e.outline.ready cycle).2 = (e.ready cycle).2 := by
  rw [ready_eq_judged, ready_eq_judged]
  rfl

theorem steady_fire (index : Nat) : Steady fun e : Engine α => e.fire index := by
  have taken : Steady fun e : Engine α => { e with timers := e.timers.eraseIdx index } :=
    ⟨fun _ => rfl, fun _ => rfl⟩
  have expires : ∀ timer : Timer, Steady fun e : Engine α =>
      if e.isAlive then { e with timers := e.timers.eraseIdx index }.submit timer.cycle
      else { e with timers := e.timers.eraseIdx index } := fun timer =>
    Steady.ite isAlive (fun _ => rfl) (taken.comp (steady_submit timer.cycle)) taken
  constructor
  · intro e
    cases due : e.timers[index]? with
    | none =>
        have due' : e.outline.timers[index]? = none := due
        simp only [fire, due, due']
    | some timer =>
        have due' : e.outline.timers[index]? = some timer := due
        simp only [fire, due, due']
        exact (expires timer).outline e
  · intro e
    cases due : e.timers[index]? with
    | none => simp only [fire, due]
    | some timer =>
        simp only [fire, due]
        exact (expires timer).buffer e

theorem steady_cancel : Steady fun e : Engine α => e.cancelTimers := by
  have plain : ∀ timers : List Timer,
      (timers.map fun timer => Notice.deferralCancelled timer.cycle).filterMap Notice.outline? =
        timers.map fun timer => Notice.deferralCancelled timer.cycle := by
    intro timers
    rw [List.filterMap_map, ← List.filterMap_eq_map]
    rfl
  have told := steady_note
    (fun e : Engine α => e.timers.map fun timer => .deferralCancelled timer.cycle)
    (fun _ => rfl) fun e => plain e.timers
  have gaveUp : Steady fun e : Engine α => { e with timers := [] } :=
    ⟨fun _ => rfl, fun _ => rfl⟩
  exact Steady.ite isClosed (fun _ => rfl) (told.comp gaveUp) steady_id

def opened (e : Engine α) (cycle : Nat) : Option Snapshot → Engine α
  | none =>
      (e.paced (e.decoupler.pacer.begin cycle e.now).1).note [.cycleDropped e.subject cycle]
  | some _ =>
      { e.paced (e.decoupler.pacer.begin cycle e.now).1 with running := e.running + 1 }

theorem startTask_eq_opened (e : Engine α) (cycle : Nat) :
    e.startTask cycle =
      (if e.isAlive then e.opened cycle (e.decoupler.pacer.begin cycle e.now).2 else e,
        if e.isAlive then
          (e.decoupler.pacer.begin cycle e.now).2.map fun snapshot => ⟨cycle, snapshot, none⟩
        else none) := by
  cases alive : e.isAlive with
  | false => simp only [startTask, alive, Bool.false_eq_true, if_false]
  | true =>
      cases begun : e.decoupler.pacer.begin cycle e.now with
      | mk pacer snapshot? =>
          cases snapshot? <;> simp only [startTask, alive, begun, opened, if_true] <;> rfl

theorem steady_start (cycle : Nat) : Steady fun e : Engine α => (e.startTask cycle).1 := by
  have takes : Steady fun e : Engine α => e.paced (e.decoupler.pacer.begin cycle e.now).1 :=
    ⟨fun _ => rfl, fun _ => rfl⟩
  have opens : ∀ snapshot?, Steady fun e : Engine α => e.opened cycle snapshot? := by
    intro snapshot?
    cases snapshot? with
    | none =>
        have told := steady_note (fun e : Engine α => [.cycleDropped e.subject cycle])
          (fun _ => rfl) fun _ => rfl
        exact takes.comp told
    | some snapshot =>
        have runs : Steady fun e : Engine α => { e with running := e.running + 1 } :=
          ⟨fun _ => rfl, fun _ => rfl⟩
        exact takes.comp runs
  have begins := Steady.choose (fun e : Engine α => (e.decoupler.pacer.begin cycle e.now).2)
    (fun snapshot? e => e.opened cycle snapshot?) (fun _ => rfl) opens
  simp only [startTask_eq_opened]
  exact Steady.ite isAlive (fun _ => rfl) begins steady_id

theorem start_outline (e : Engine α) (cycle : Nat) :
    (e.outline.startTask cycle).2 = (e.startTask cycle).2 := by
  rw [startTask_eq_opened, startTask_eq_opened]
  rfl

def endCycle (e : Engine α) (cycle : Nat) : Engine α :=
  (((e.paced (e.decoupler.pacer.skip cycle e.now).1).note [.nothingToDeliver e.subject cycle]).apply
    (e.decoupler.pacer.skip cycle e.now).2).returned

def handOver (e : Engine α) (cycle : Nat) (kinds : KindSet) (count : Nat) : Engine α :=
  (e.paced (e.decoupler.pacer.markDispatched cycle).1).counted
    { e.decoupler.tally with dispatched := e.decoupler.tally.dispatched + 1 }
    [.delivering e.subject cycle kinds count]

theorem concludeTask_eq (e : Engine α) (cycle : Nat) (snapshot : Snapshot) (values : List α) :
    e.concludeTask cycle snapshot values =
      let event := Event.classify cycle snapshot values
      if event.kinds.isEmpty then (e.endCycle cycle, none)
      else if (e.decoupler.pacer.markDispatched cycle).2 then
        (e.handOver cycle event.kinds values.length, some event)
      else (e.returned, none) := by
  cases marked : e.decoupler.pacer.markDispatched cycle with
  | mk pacer dispatched =>
      cases dispatched <;> simp only [concludeTask, marked, handOver] <;> rfl

theorem steady_endCycle (cycle : Nat) : Steady fun e : Engine α => e.endCycle cycle := by
  have ends : Steady fun e : Engine α => e.paced (e.decoupler.pacer.skip cycle e.now).1 :=
    ⟨fun _ => rfl, fun _ => rfl⟩
  have told := steady_note (fun e : Engine α => [.nothingToDeliver e.subject cycle])
    (fun _ => rfl) fun _ => rfl
  exact Steady.choose (fun e : Engine α => (e.decoupler.pacer.skip cycle e.now).2) _
    (fun _ => rfl) fun asked => ((ends.comp told).comp (steady_apply asked)).comp steady_returned

theorem handOver_outline (e : Engine α) (cycle : Nat) (kinds : KindSet) (count : Nat) :
    (e.handOver cycle kinds count).outline = e.outline.handOver cycle kinds 0 := by
  simp only [handOver, counted, paced, outline, List.filterMap_append]
  rfl

end Engine

end Cadence
