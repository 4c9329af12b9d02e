import Cadence.Proofs.Pacer.Snapshots
import Mathlib.Data.List.Nodup

/-!
# When cycles start

A cycle is delayed by what is left of the least period since the last dispatched cycle started.
If no cycle starts before its delay is over, then the starts of two cycles that reach the listener
lie at least that period apart.  `Clocked` ties the instants in the state to those of the history.
-/

set_option autoImplicit false

namespace Cadence.Pacer

/-! ## What a history says about time -/

namespace Operation

def instant? : Operation → Option Nat
  | signal _ now => some now
  | begin _ now => some now
  | markDispatched _ => none
  | ready _ now => some now
  | skip _ now => some now
  | pause => none
  | resume now => some now
  | close => none

def begins? : Operation → Option (Nat × Nat)
  | begin cycle now => some (cycle, now)
  | _ => none

theorem instant_of_begins {op : Operation} {cycle now : Nat}
    (begins : op.begins? = some (cycle, now)) : op.instant? = some now := by
  cases op with
  | begin other instant =>
      cases begins
      rfl
  | _ => cases begins

end Operation

/-- The cycle that a call scheduled, and the instant at which its delay is over. -/
def due? : Operation × Answer → Option (Nat × Nat)
  | (op, .transition (.schedule cycle delay)) => op.instant?.map fun now => (cycle, now + delay)
  | _ => none

def start? : Operation × Answer → Option (Nat × Nat)
  | (op, .snapshot (some _)) => op.begins?
  | _ => none

def dispatch? : Operation × Answer → Option Nat
  | (.markDispatched cycle, .flag true) => some cycle
  | _ => none

/-- The cycles that started, each with the instant at which it did. -/
def starts (history : List (Operation × Answer)) : List (Nat × Nat) := history.filterMap start?

def dispatches (history : List (Operation × Answer)) : List Nat := history.filterMap dispatch?

def dues (history : List (Operation × Answer)) : List (Nat × Nat) := history.filterMap due?

def Onward (earlier later : Operation × Answer) : Prop :=
  ∀ before ∈ earlier.1.instant?, ∀ now ∈ later.1.instant?, before ≤ now

instance (earlier later : Operation × Answer) : Decidable (Onward earlier later) :=
  inferInstanceAs (Decidable (∀ _ ∈ _, _))

/-- A call before has scheduled the cycle, and its delay is over. -/
def Awaited (history : List (Operation × Answer)) (start : Nat × Nat) : Prop :=
  ∃ due ∈ dues history, due.1 = start.1 ∧ due.2 ≤ start.2

instance (history : List (Operation × Answer)) (start : Nat × Nat) :
    Decidable (Awaited history start) :=
  inferInstanceAs (Decidable (∃ _ ∈ _, _))

/-- Time goes on from call to call, and a cycle starts only when its delay is over. -/
def Timely (history : List (Operation × Answer)) : Prop :=
  history.Pairwise Onward ∧ ∀ i, (inside : i < history.length) → ∀ start ∈ start? history[i],
    Awaited (history.take i) start

instance (history : List (Operation × Answer)) : Decidable (Timely history) :=
  inferInstanceAs (Decidable (_ ∧ _))

theorem starts_concat (history : List (Operation × Answer)) (exchange : Operation × Answer) :
    starts (history ++ [exchange]) = starts history ++ (start? exchange).toList :=
  filterMap_concat start? history exchange

theorem dispatches_concat (history : List (Operation × Answer)) (exchange : Operation × Answer) :
    dispatches (history ++ [exchange]) = dispatches history ++ (dispatch? exchange).toList :=
  filterMap_concat dispatch? history exchange

theorem dues_concat (history : List (Operation × Answer)) (exchange : Operation × Answer) :
    dues (history ++ [exchange]) = dues history ++ (due? exchange).toList :=
  filterMap_concat due? history exchange

section

variable {history : List (Operation × Answer)} {exchange : Operation × Answer}

theorem Timely.of_append {later : List (Operation × Answer)} (timely : Timely (history ++ later)) :
    Timely history := by
  refine ⟨(List.pairwise_append.mp timely.1).1, fun i inside start starts => ?_⟩
  have earlier : i < (history ++ later).length := by
    rw [List.length_append]
    omega
  have awaited := timely.2 i earlier start (by rwa [List.getElem_append_left inside])
  rwa [List.take_append_of_le_length (Nat.le_of_lt inside)] at awaited

theorem Timely.onward_last (timely : Timely (history ++ [exchange])) :
    ∀ earlier ∈ history, Onward earlier exchange := fun earlier member =>
  (List.pairwise_append.mp timely.1).2.2 earlier member exchange (List.mem_singleton_self _)

theorem Timely.awaited_last (timely : Timely (history ++ [exchange])) :
    ∀ start ∈ start? exchange, Awaited history start := by
  intro start starts
  have last : history.length < (history ++ [exchange]).length := by
    rw [List.length_append, List.length_singleton]
    omega
  have awaited := timely.2 history.length last start (by rwa [List.getElem_concat_length rfl])
  rwa [List.take_left] at awaited

theorem start_le_now {cycle start now : Nat} (onward : ∀ earlier ∈ history, Onward earlier exchange)
    (started : (cycle, start) ∈ starts history) (comes : exchange.1.instant? = some now) :
    start ≤ now := by
  obtain ⟨⟨op, answer⟩, member, success⟩ := List.mem_filterMap.mp started
  have begins : op.begins? = some (cycle, start) := by
    unfold start? at success
    split at success
    · rename_i same
      cases same
      exact success
    · cases success
  exact onward _ member start (Operation.instant_of_begins begins) now comes

end

/-! ## Dispatched cycles start apart -/

/-- When the cycle dispatched last started, if there is one. -/
def LastStart (starts : List (Nat × Nat)) (dispatches : List Nat) : Option Nat → Prop
  | none => dispatches = []
  | some start => ∃ cycle, dispatches.getLast? = some cycle ∧ (cycle, start) ∈ starts

/-- Any two dispatched cycles started at least a period apart. -/
def Spaced (period : Nat) (starts : List (Nat × Nat)) (dispatches : List Nat) : Prop :=
  ∀ first ∈ dispatches, ∀ second ∈ dispatches, first ≠ second →
    ∀ start start', (first, start) ∈ starts → (second, start') ∈ starts →
      start + period ≤ start' ∨ start' + period ≤ start

/-- Each dispatched cycle has started, the last one at `last` and none after that. -/
structure Paced (period : Nat) (starts : List (Nat × Nat)) (dispatches : List Nat)
    (last : Option Nat) : Prop where
  started : ∀ cycle ∈ dispatches, ∃ start, (cycle, start) ∈ starts
  known : LastStart starts dispatches last
  latest : ∀ cycle ∈ dispatches, ∀ start, (cycle, start) ∈ starts →
    ∃ latest, last = some latest ∧ start ≤ latest
  spaced : Spaced period starts dispatches

section

variable {period cycle now : Nat} {starts : List (Nat × Nat)} {dispatches : List Nat}
  {last : Option Nat}

theorem Paced.start (paced : Paced period starts dispatches last)
    (fresh : ∀ start, (cycle, start) ∉ starts) :
    Paced period (starts ++ [(cycle, now)]) dispatches last := by
  have old : ∀ current ∈ dispatches, ∀ start, (current, start) ∈ starts ++ [(cycle, now)] →
      (current, start) ∈ starts := by
    intro current dispatched start started
    rcases List.mem_append.mp started with earlier | new
    · exact earlier
    · obtain ⟨rfl, rfl⟩ := Prod.mk.inj (List.mem_singleton.mp new)
      obtain ⟨before, started⟩ := paced.started current dispatched
      exact absurd started (fresh before)
  constructor
  · intro current dispatched
    obtain ⟨start, started⟩ := paced.started current dispatched
    exact ⟨start, List.mem_append_left _ started⟩
  · have known := paced.known
    cases last with
    | none => exact known
    | some start =>
        obtain ⟨current, isLast, started⟩ := known
        exact ⟨current, isLast, List.mem_append_left _ started⟩
  · intro current dispatched start started
    exact paced.latest current dispatched start (old current dispatched start started)
  · intro first isFirst second isSecond differ start start' started started'
    exact paced.spaced first isFirst second isSecond differ start start'
      (old first isFirst start started) (old second isSecond start' started')

/-- Dispatching the last cycle once more tells nothing new. -/
theorem Paced.again (paced : Paced period starts dispatches last)
    (isLast : dispatches.getLast? = some cycle) :
    Paced period starts (dispatches ++ [cycle]) last := by
  have old : ∀ current ∈ dispatches ++ [cycle], current ∈ dispatches := by
    intro current member
    rcases List.mem_append.mp member with earlier | new
    · exact earlier
    · rw [List.mem_singleton.mp new]
      exact List.mem_of_getLast? isLast
  refine ⟨fun current member => paced.started current (old current member), ?_,
    fun current member => paced.latest current (old current member),
    fun first isFirst second isSecond =>
      paced.spaced first (old first isFirst) second (old second isSecond)⟩
  have known := paced.known
  cases last with
  | none =>
      rw [known] at isLast
      cases isLast
  | some start =>
      obtain ⟨current, isLast', started⟩ := known
      obtain rfl := Option.some.inj (isLast.symm.trans isLast')
      exact ⟨cycle, List.getLast?_concat, started⟩

theorem Paced.dispatch {start : Nat} (paced : Paced period starts dispatches last)
    (started : (cycle, start) ∈ starts) (once : ∀ start', (cycle, start') ∈ starts → start' = start)
    (late : ∀ before, last = some before → before + period ≤ start) :
    Paced period starts (dispatches ++ [cycle]) (some start) := by
  have apart : ∀ current ∈ dispatches, ∀ before, (current, before) ∈ starts →
      before + period ≤ start := by
    intro current member before earlier
    obtain ⟨latest, isLast, notLater⟩ := paced.latest current member before earlier
    have spaced := late latest isLast
    omega
  constructor
  · intro current member
    rcases List.mem_append.mp member with old | new
    · exact paced.started current old
    · rw [List.mem_singleton.mp new]
      exact ⟨start, started⟩
  · exact ⟨cycle, List.getLast?_concat, started⟩
  · intro current member before earlier
    refine ⟨start, rfl, ?_⟩
    rcases List.mem_append.mp member with old | new
    · have spaced := apart current old before earlier
      omega
    · rw [List.mem_singleton.mp new] at earlier
      exact Nat.le_of_eq (once before earlier)
  · intro first isFirst second isSecond differ before before' isStart isStart'
    rcases List.mem_append.mp isFirst with old | new
    · rcases List.mem_append.mp isSecond with old' | new'
      · exact paced.spaced first old second old' differ before before' isStart isStart'
      · rw [List.mem_singleton.mp new'] at isStart'
        rw [once before' isStart']
        exact .inl (apart first old before isStart)
    · rcases List.mem_append.mp isSecond with old' | new'
      · rw [List.mem_singleton.mp new] at isStart
        rw [once before isStart]
        exact .inr (apart second old' before' isStart')
      · rw [List.mem_singleton.mp new, List.mem_singleton.mp new'] at differ
        exact absurd rfl differ

end

/-! ## The state follows the history -/

/-- What the history says about the cycle of the phase. -/
def Placed (history : List (Operation × Answer)) (p : Pacer) : Prop :=
  match p.phase with
  | .idle => True
  | .scheduled cycle =>
      cycle < p.nextCycle ∧ (∀ start, (cycle, start) ∉ starts history) ∧
        ∀ due, (cycle, due) ∈ dues history →
          ∀ last, p.lastDispatchAt = some last → last + p.minPeriod.getD 0 ≤ due
  | .inFlight cycle dispatched =>
      if dispatched then p.startedAt = none ∧ (dispatches history).getLast? = some cycle
      else
        ∃ start, (cycle, start) ∈ starts history ∧ p.startedAt = some start ∧
          ∀ last, p.lastDispatchAt = some last → last + p.minPeriod.getD 0 ≤ start

/-- The instants in the state are those of the history. -/
structure Clocked (history : List (Operation × Answer)) (p : Pacer) : Prop where
  startedOnce : ((starts history).map Prod.fst).Nodup
  numbered : ∀ cycle start, (cycle, start) ∈ starts history → cycle < p.nextCycle
  promised : ∀ cycle due, (cycle, due) ∈ dues history → cycle < p.nextCycle
  paced : Paced (p.minPeriod.getD 0) (starts history) (dispatches history) p.lastDispatchAt
  placed : Placed history p

/-- The two states agree on everything that delays a cycle. -/
structure SameClock (p q : Pacer) : Prop where
  minPeriod : q.minPeriod = p.minPeriod
  nextCycle : q.nextCycle = p.nextCycle
  lastDispatchAt : q.lastDispatchAt = p.lastDispatchAt

theorem clocked_init (minPeriod : Option Nat) : Clocked [] (init minPeriod) where
  startedOnce := List.nodup_nil
  numbered _ _ started := nomatch started
  promised _ _ scheduled := nomatch scheduled
  paced :=
    { started := fun _ dispatched => nomatch dispatched
      known := rfl
      latest := fun _ dispatched => nomatch dispatched
      spaced := fun _ dispatched => nomatch dispatched }
  placed := trivial

section

variable {history : List (Operation × Answer)} {exchange : Operation × Answer} {p q : Pacer}

theorem Clocked.start_unique (clocked : Clocked history p) {cycle start start' : Nat}
    (one : (cycle, start) ∈ starts history) (other : (cycle, start') ∈ starts history) :
    start = start' :=
  congrArg Prod.snd (List.inj_on_of_nodup_map clocked.startedOnce one other rfl)

theorem Clocked.last_le_now (clocked : Clocked history p) {now : Nat}
    (timely : Timely (history ++ [exchange])) (comes : exchange.1.instant? = some now) :
    ∀ last, p.lastDispatchAt = some last → last ≤ now := by
  intro last dispatched
  have known := clocked.paced.known
  rw [dispatched] at known
  obtain ⟨cycle, _, started⟩ := known
  exact start_le_now timely.onward_last started comes

theorem Clocked.quiet (clocked : Clocked history p) (noStart : start? exchange = none)
    (noDispatch : dispatch? exchange = none) (noDue : due? exchange = none) :
    Clocked (history ++ [exchange]) p := by
  have same : starts (history ++ [exchange]) = starts history := by
    rw [starts_concat, noStart, Option.toList_none, List.append_nil]
  have same' : dispatches (history ++ [exchange]) = dispatches history := by
    rw [dispatches_concat, noDispatch, Option.toList_none, List.append_nil]
  have same'' : dues (history ++ [exchange]) = dues history := by
    rw [dues_concat, noDue, Option.toList_none, List.append_nil]
  have placed := clocked.placed
  rw [Placed, ← same, ← same', ← same''] at placed
  refine ⟨?_, ?_, ?_, ?_, placed⟩
  · rw [same]
    exact clocked.startedOnce
  · rw [same]
    exact clocked.numbered
  · rw [same'']
    exact clocked.promised
  · rw [same, same']
    exact clocked.paced

theorem Clocked.of_placed (clocked : Clocked history p) (same : SameClock p q)
    (placed : Placed history q) : Clocked history q := by
  refine ⟨clocked.startedOnce, ?_, ?_, ?_, placed⟩
  · rw [same.nextCycle]
    exact clocked.numbered
  · rw [same.nextCycle]
    exact clocked.promised
  · rw [same.minPeriod, same.lastDispatchAt]
    exact clocked.paced

theorem Clocked.keep_idle (clocked : Clocked history p) (same : SameClock p q)
    (noStart : start? exchange = none) (noDispatch : dispatch? exchange = none)
    (noDue : due? exchange = none) (idle : q.phase = .idle) : Clocked (history ++ [exchange]) q := by
  refine (clocked.of_placed same ?_).quiet noStart noDispatch noDue
  rw [Placed, idle]
  trivial

theorem Clocked.keep_phase (clocked : Clocked history p) (same : SameClock p q)
    (noStart : start? exchange = none) (noDispatch : dispatch? exchange = none)
    (noDue : due? exchange = none) (phase : q.phase = p.phase)
    (startedAt : q.startedAt = p.startedAt) : Clocked (history ++ [exchange]) q := by
  refine (clocked.of_placed same ?_).quiet noStart noDispatch noDue
  have placed := clocked.placed
  rwa [Placed, ← phase, ← startedAt, ← same.minPeriod, ← same.nextCycle,
    ← same.lastDispatchAt] at placed

theorem delayAt_eq {now : Nat} (past : ∀ last, p.lastDispatchAt = some last → last ≤ now) :
    p.delayAt now = p.lastDispatchAt.elim 0 fun last => last + p.minPeriod.getD 0 - now := by
  unfold delayAt
  cases last : p.lastDispatchAt with
  | none => cases p.minPeriod <;> rfl
  | some start =>
      have earlier := past start last
      cases p.minPeriod with
      | none =>
          show 0 = start + 0 - now
          omega
      | some period => rfl

theorem Clocked.schedule (clocked : Clocked history p) (same : SameClock p q) (now : Nat) :
    Clocked history (q.schedule now).1 := by
  have kept : Clocked history { q with phase := .idle } :=
    clocked.of_placed ⟨same.minPeriod, same.nextCycle, same.lastDispatchAt⟩ trivial
  refine { kept with numbered := ?_, promised := ?_, placed := ?_ }
  · intro cycle start started
    exact Nat.lt_succ_of_lt (kept.numbered cycle start started)
  · intro cycle due scheduled
    exact Nat.lt_succ_of_lt (kept.promised cycle due scheduled)
  · refine ⟨Nat.lt_succ_self _, ?_, ?_⟩
    · intro start started
      exact absurd (kept.numbered _ start started) (Nat.lt_irrefl _)
    · intro due scheduled
      exact absurd (kept.promised _ due scheduled) (Nat.lt_irrefl _)

/-- The delay ends when the period since the last dispatched start is over. -/
theorem clocked_schedule (clocked : Clocked history p) (same : SameClock p q) {now : Nat}
    (past : ∀ last, p.lastDispatchAt = some last → last ≤ now)
    (noStart : start? exchange = none) (noDispatch : dispatch? exchange = none)
    (due : due? exchange = some (q.nextCycle, now + q.delayAt now)) :
    Clocked (history ++ [exchange]) (q.schedule now).1 := by
  have kept := clocked.schedule same now
  have starts : starts (history ++ [exchange]) = starts history := by
    rw [starts_concat, noStart, Option.toList_none, List.append_nil]
  have dispatches : dispatches (history ++ [exchange]) = dispatches history := by
    rw [dispatches_concat, noDispatch, Option.toList_none, List.append_nil]
  have promises : ∀ cycle at', (cycle, at') ∈ dues (history ++ [exchange]) →
      (cycle, at') ∈ dues history ∨ cycle = q.nextCycle ∧ at' = now + q.delayAt now := by
    intro cycle at' scheduled
    rw [dues_concat, due] at scheduled
    exact (List.mem_append.mp scheduled).imp_right fun new =>
      Prod.mk.inj (List.mem_singleton.mp new)
  have late : ∀ last, q.lastDispatchAt = some last →
      last + q.minPeriod.getD 0 ≤ now + q.delayAt now := by
    intro last dispatched
    rw [← same.lastDispatchAt] at past
    rw [delayAt_eq past, dispatched]
    show last + q.minPeriod.getD 0 ≤ now + (last + q.minPeriod.getD 0 - now)
    omega
  refine ⟨starts ▸ kept.startedOnce, starts ▸ kept.numbered, ?_, ?_, ?_⟩
  · intro cycle at' scheduled
    rcases promises cycle at' scheduled with before | ⟨rfl, -⟩
    · exact kept.promised cycle at' before
    · exact Nat.lt_succ_self _
  · rw [starts, dispatches]
    exact kept.paced
  · obtain ⟨numbered, fresh, -⟩ := kept.placed
    refine ⟨numbered, starts ▸ fresh, fun at' scheduled => ?_⟩
    rcases promises _ at' scheduled with before | ⟨-, rfl⟩
    · exact absurd (clocked.promised _ at' before) (by rw [same.nextCycle]; exact Nat.lt_irrefl _)
    · exact late

theorem clocked_started (clocked : Clocked history p) {cycle now : Nat}
    (scheduled : p.phase = .scheduled cycle) {snapshot : Snapshot}
    (timely : Timely (history ++ [(.begin cycle now, .snapshot (some snapshot))])) :
    Clocked (history ++ [(.begin cycle now, .snapshot (some snapshot))]) (p.started cycle now) := by
  have placed := clocked.placed
  simp only [Placed, scheduled] at placed
  obtain ⟨numbered, fresh, late⟩ := placed
  obtain ⟨⟨other, due⟩, isDue, same, onTime⟩ := timely.awaited_last (cycle, now) rfl
  obtain rfl : cycle = other := same.symm
  have started : starts (history ++ [(.begin cycle now, .snapshot (some snapshot))]) =
      starts history ++ [(cycle, now)] := starts_concat ..
  have dispatched : dispatches (history ++ [(.begin cycle now, .snapshot (some snapshot))]) =
      dispatches history := (dispatches_concat ..).trans (List.append_nil _)
  have promised : dues (history ++ [(.begin cycle now, .snapshot (some snapshot))]) =
      dues history := (dues_concat ..).trans (List.append_nil _)
  constructor
  · rw [started, List.map_append, List.nodup_append]
    refine ⟨clocked.startedOnce, List.nodup_singleton _, ?_⟩
    rintro first member second new rfl
    obtain ⟨⟨_, start⟩, before, rfl⟩ := List.mem_map.mp member
    obtain rfl := List.mem_singleton.mp new
    exact fresh start before
  · rw [started]
    intro current start member
    rcases List.mem_append.mp member with earlier | new
    · exact clocked.numbered current start earlier
    · obtain ⟨rfl, rfl⟩ := Prod.mk.inj (List.mem_singleton.mp new)
      exact numbered
  · rw [promised]
    exact clocked.promised
  · rw [started, dispatched]
    exact clocked.paced.start fresh
  · refine ⟨now, ?_, rfl, ?_⟩
    · rw [started]
      exact List.mem_append_right _ (List.mem_singleton_self _)
    · intro last isLast
      exact (late due isDue last isLast).trans onTime

theorem clocked_dispatched (clocked : Clocked history p) {cycle : Nat} {dispatched : Bool}
    (phase : p.phase = .inFlight cycle dispatched) :
    Clocked (history ++ [(.markDispatched cycle, .flag true)])
      { p with
        phase := .inFlight cycle true
        lastDispatchAt := p.startedAt.or p.lastDispatchAt
        startedAt := none } := by
  have started : starts (history ++ [(.markDispatched cycle, .flag true)]) = starts history :=
    (starts_concat ..).trans (List.append_nil _)
  have reached : dispatches (history ++ [(.markDispatched cycle, .flag true)]) =
      dispatches history ++ [cycle] := dispatches_concat ..
  have promised : dues (history ++ [(.markDispatched cycle, .flag true)]) = dues history :=
    (dues_concat ..).trans (List.append_nil _)
  have placed := clocked.placed
  simp only [Placed, phase] at placed
  have paced : Paced (p.minPeriod.getD 0) (starts history) (dispatches history ++ [cycle])
      (p.startedAt.or p.lastDispatchAt) := by
    cases dispatched with
    | true =>
        obtain ⟨startedAt, isLast⟩ := placed
        rw [startedAt, Option.none_or]
        exact clocked.paced.again isLast
    | false =>
        obtain ⟨start, isStart, startedAt, late⟩ := placed
        rw [startedAt, Option.some_or]
        exact clocked.paced.dispatch isStart
          (fun start' other => clocked.start_unique other isStart) late
  constructor
  · rw [started]
    exact clocked.startedOnce
  · rw [started]
    exact clocked.numbered
  · rw [promised]
    exact clocked.promised
  · rw [started, reached]
    exact paced
  · refine ⟨rfl, ?_⟩
    rw [reached]
    exact List.getLast?_concat

theorem sameClock_record (p : Pacer) (s : Signal) : SameClock p (p.record s) := by
  rw [record_eq]
  exact ⟨rfl, rfl, rfl⟩

theorem startedAt_record (p : Pacer) (s : Signal) : (p.record s).startedAt = p.startedAt := by
  rw [record_eq]

/-- The cycle in flight ends, and another may be scheduled in its place. -/
theorem clocked_finish (clocked : Clocked history p) {now : Nat} {op : Operation}
    (comes : op.instant? = some now)
    (timely : Timely (history ++ [(op, .transition (p.finish now).2)])) :
    Clocked (history ++ [(op, .transition (p.finish now).2)]) (p.finish now).1 := by
  have past := clocked.last_le_now timely comes
  have noStart : start? (op, .transition (p.finish now).2) = none := rfl
  have noDispatch : dispatch? (op, .transition (p.finish now).2) = none := by cases op <;> rfl
  rcases p.finish_cases now with ⟨_, h⟩ | ⟨_, _, _, h⟩ | ⟨_, _, h⟩
  · rw [h] at noStart noDispatch ⊢
    exact clocked.keep_idle ⟨rfl, rfl, rfl⟩ noStart noDispatch rfl rfl
  · rw [h] at noStart noDispatch ⊢
    refine clocked_schedule clocked ?_ past noStart noDispatch ?_
    · exact ⟨rfl, rfl, rfl⟩
    · simp [due?, schedule, comes]
  · rw [h] at noStart noDispatch ⊢
    exact clocked.keep_idle ⟨rfl, rfl, rfl⟩ noStart noDispatch rfl rfl

theorem clocked_step (clocked : Clocked history p) {op : Operation}
    (timely : Timely (history ++ [(op, (p.step op).2)])) :
    Clocked (history ++ [(op, (p.step op).2)]) (p.step op).1 := by
  cases op with
  | signal s now =>
      have recorded := p.sameClock_record s
      have past := clocked.last_le_now timely rfl
      rcases p.signal_cases s now with ⟨_, h⟩ | ⟨_, _, _, h⟩ | ⟨_, _, _, h⟩ | ⟨_, _, h⟩ <;>
        simp only [step, h]
      · exact clocked.keep_phase ⟨rfl, rfl, rfl⟩ rfl rfl rfl rfl rfl
      · exact clocked.keep_phase recorded rfl rfl rfl (p.phase_record s) (p.startedAt_record s)
      · exact clocked_schedule clocked recorded past rfl rfl rfl
      · exact clocked.keep_phase ⟨recorded.minPeriod, recorded.nextCycle, recorded.lastDispatchAt⟩
          rfl rfl rfl (p.phase_record s) (p.startedAt_record s)
  | begin cycle now =>
      rcases p.begin_cases cycle now with ⟨_, h⟩ | ⟨_, scheduled, h⟩ | ⟨_, _, h⟩ <;>
        simp only [step, h] at timely ⊢
      · exact clocked.keep_idle ⟨rfl, rfl, rfl⟩ rfl rfl rfl rfl
      · exact clocked_started clocked scheduled timely
      · exact clocked.keep_phase ⟨rfl, rfl, rfl⟩ rfl rfl rfl rfl rfl
  | markDispatched cycle =>
      rcases p.markDispatched_cases cycle with ⟨_, phase, h⟩ | ⟨_, h⟩ <;> simp only [step, h]
      · exact clocked_dispatched clocked phase
      · exact clocked.keep_phase ⟨rfl, rfl, rfl⟩ rfl rfl rfl rfl rfl
  | ready cycle now =>
      rcases p.ready_cases cycle now with ⟨_, h⟩ | ⟨_, _, h⟩ <;> simp only [step, h] at timely ⊢
      · exact clocked_finish clocked rfl timely
      · exact clocked.keep_phase ⟨rfl, rfl, rfl⟩ rfl rfl rfl rfl rfl
  | skip cycle now =>
      rcases p.skip_cases cycle now with ⟨_, _, h⟩ | ⟨_, h⟩ <;> simp only [step, h] at timely ⊢
      · exact clocked_finish clocked rfl timely
      · exact clocked.keep_phase ⟨rfl, rfl, rfl⟩ rfl rfl rfl rfl rfl
  | pause => exact clocked.keep_phase ⟨rfl, rfl, rfl⟩ rfl rfl rfl rfl rfl
  | resume now =>
      have past := clocked.last_le_now timely rfl
      rcases p.resume_cases now with ⟨_, h⟩ | ⟨_, _, _, h⟩ | ⟨_, _, h⟩ <;> simp only [step, h]
      · exact clocked.keep_phase ⟨rfl, rfl, rfl⟩ rfl rfl rfl rfl rfl
      · refine clocked_schedule clocked ?_ past rfl rfl rfl
        exact ⟨rfl, rfl, rfl⟩
      · exact clocked.keep_phase ⟨rfl, rfl, rfl⟩ rfl rfl rfl rfl rfl
  | close =>
      simp only [step, close]
      by_cases isClosed : p.closed
      · simp only [if_pos isClosed]
        exact clocked.keep_phase ⟨rfl, rfl, rfl⟩ rfl rfl rfl rfl rfl
      · simp only [if_neg isClosed]
        cases phase : p.phase with
        | scheduled cycle => exact clocked.keep_idle ⟨rfl, rfl, rfl⟩ rfl rfl rfl rfl
        | _ => exact clocked.keep_phase ⟨rfl, rfl, rfl⟩ rfl rfl rfl phase.symm rfl

end

/-! ## Delays -/

/-- A call that schedules a cycle does so in a state with the same clock. -/
theorem step_of_schedule {p : Pacer} {op : Operation} {cycle delay : Nat}
    (answers : (p.step op).2 = .transition (.schedule cycle delay)) :
    ∃ now q, op.instant? = some now ∧ SameClock p q ∧
      p.step op = ((q.schedule now).1, .transition (q.schedule now).2) := by
  cases op with
  | signal s now =>
      rcases p.signal_cases s now with ⟨_, h⟩ | ⟨_, _, _, h⟩ | ⟨_, _, _, h⟩ | ⟨_, _, h⟩ <;>
        simp only [step, h] at answers ⊢ <;> cases answers
      exact ⟨now, p.record s, rfl, p.sameClock_record s, rfl⟩
  | begin cycle now => cases answers
  | markDispatched cycle => cases answers
  | ready cycle now =>
      rcases p.ready_cases cycle now with ⟨_, h⟩ | ⟨_, _, h⟩ <;> simp only [step, h] at answers ⊢
      · rcases p.finish_cases now with ⟨_, h⟩ | ⟨_, _, _, h⟩ | ⟨_, _, h⟩ <;>
          rw [h] at answers ⊢ <;> cases answers
        refine ⟨now, _, rfl, ?_, rfl⟩
        exact ⟨rfl, rfl, rfl⟩
      · cases answers
  | skip cycle now =>
      rcases p.skip_cases cycle now with ⟨_, _, h⟩ | ⟨_, h⟩ <;> simp only [step, h] at answers ⊢
      · rcases p.finish_cases now with ⟨_, h⟩ | ⟨_, _, _, h⟩ | ⟨_, _, h⟩ <;>
          rw [h] at answers ⊢ <;> cases answers
        refine ⟨now, _, rfl, ?_, rfl⟩
        exact ⟨rfl, rfl, rfl⟩
      · cases answers
  | pause => cases answers
  | resume now =>
      rcases p.resume_cases now with ⟨_, h⟩ | ⟨_, _, _, h⟩ | ⟨_, _, h⟩ <;>
        simp only [step, h] at answers ⊢ <;> cases answers
      refine ⟨now, _, rfl, ?_, rfl⟩
      exact ⟨rfl, rfl, rfl⟩
  | close => cases answers

theorem SameClock.delayAt {p q : Pacer} (same : SameClock p q) (now : Nat) :
    q.delayAt now = p.delayAt now := by
  rw [Pacer.delayAt, Pacer.delayAt, same.minPeriod, same.lastDispatchAt]

/-- What is scheduled waits for the rest of the period since the last dispatched start. -/
theorem delay_of_schedule {history : List (Operation × Answer)} {p : Pacer} {op : Operation}
    {cycle delay : Nat} (clocked : Clocked history p)
    (answers : (p.step op).2 = .transition (.schedule cycle delay))
    (timely : Timely (history ++ [(op, (p.step op).2)])) :
    ∃ now last, op.instant? = some now ∧ LastStart (starts history) (dispatches history) last ∧
      delay = (last.elim 0 fun start => start + p.minPeriod.getD 0 - now) ∧
      delay ≤ p.minPeriod.getD 0 := by
  obtain ⟨now, q, comes, clock, stepped⟩ := step_of_schedule answers
  have same : delay = p.delayAt now := by
    rw [stepped] at answers
    cases answers
    exact clock.delayAt now
  have past := clocked.last_le_now timely comes
  rw [delayAt_eq past] at same
  refine ⟨now, p.lastDispatchAt, comes, clocked.paced.known, same, ?_⟩
  rw [same]
  cases last : p.lastDispatchAt with
  | none => exact Nat.zero_le _
  | some start =>
      have earlier := past start last
      show start + p.minPeriod.getD 0 - now ≤ p.minPeriod.getD 0
      omega

end Cadence.Pacer
