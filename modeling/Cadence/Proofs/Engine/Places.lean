import Cadence.Proofs.Engine.Scenes

/-!
# The place of a cycle

At any moment at most one cycle exists, and it is in one place: it waits for its task to run, or its
task is under way, or its event is with the consumer.  `InStep` ties the phase of a pacer to these
places and to what has happened so far; there is one lemma for each thing that can happen to a cycle.
-/

set_option autoImplicit false

namespace Cadence

namespace Phase

def waiting : Phase → List Nat
  | idle => []
  | scheduled cycle => [cycle]
  | inFlight _ _ => []

def begun : Phase → List Nat
  | inFlight cycle false => [cycle]
  | _ => []

theorem length_begun_le (phase : Phase) : phase.begun.length ≤ 1 := by
  cases phase with
  | inFlight cycle dispatched => cases dispatched <;> simp [begun]
  | _ => exact Nat.zero_le 1

theorem inFlight_of_begun {phase : Phase} {cycle : Nat} (under : phase.begun = [cycle]) :
    phase = .inFlight cycle false := by
  cases phase with
  | inFlight current dispatched =>
      cases dispatched with
      | true => cases under
      | false =>
          obtain rfl : current = cycle := (List.cons.inj under).1
          rfl
  | _ => cases under

def holder : Phase → Option Nat
  | inFlight cycle true => some cycle
  | _ => none

end Phase

namespace Engine

variable {α : Type}

/-- The places of cycles, and what has happened to them, agree with a phase.  `closed` says that no
cycle is scheduled any more; then a task may be left over whose cycle has been given up. -/
structure InStep (turns : List (Turn α)) (begun waiting announced : List Nat) (phase : Phase)
    (closed : Bool) (next : Nat) : Prop where
  passed : Turn.holder? turns = some phase.holder
  tasks : begun = phase.begun
  queued : closed = false → waiting = phase.waiting
  few : waiting.length ≤ 1
  alone : ∀ cycle dispatched, phase = .inFlight cycle dispatched → waiting = []
  ordered : (Turn.deliveries turns ++ begun ++ waiting ++ [next]).Pairwise (· < ·)
  numbered : announced = List.range' 1 announced.length
  follows : next = announced.length + 1

namespace InStep

variable {turns : List (Turn α)} {begun waiting announced : List Nat} {phase : Phase}
  {closed : Bool} {next cycle : Nat}

theorem init (closed : Bool) : InStep ([] : List (Turn α)) [] [] [] .idle closed 1 where
  passed := rfl
  tasks := rfl
  queued _ := rfl
  few := Nat.zero_le 1
  alone _ _ _ := rfl
  ordered := List.pairwise_singleton _ _
  numbered := rfl
  follows := rfl

theorem perm {moved : List Nat} (h : InStep turns begun waiting announced phase closed next)
    (same : moved.Perm waiting) : InStep turns begun moved announced phase closed next := by
  have equal : moved = waiting := by
    cases waiting with
    | nil => exact same.eq_nil
    | cons cycle rest =>
        have few := h.few
        rw [List.length_cons] at few
        obtain rfl : rest = [] := List.length_eq_zero_iff.mp (by omega)
        exact List.perm_singleton.mp same
  rw [equal]
  exact h

/-- A cycle that waits is neither in a task nor with the consumer. -/
theorem of_waiting (h : InStep turns begun (waiting ++ [cycle]) announced phase closed next) :
    waiting = [] ∧ phase.holder = none ∧ phase.begun = [] := by
  have few := h.few
  rw [List.length_append, List.length_singleton] at few
  refine ⟨List.length_eq_zero_iff.mp (by omega), ?_⟩
  cases phase with
  | idle => exact ⟨rfl, rfl⟩
  | scheduled current => exact ⟨rfl, rfl⟩
  | inFlight current dispatched => exact absurd (h.alone current dispatched rfl) (by simp)

theorem scheduled_of_waiting
    (h : InStep turns begun (waiting ++ [cycle]) announced phase false next) :
    phase = .scheduled cycle := by
  obtain ⟨rfl, _, _⟩ := h.of_waiting
  have placed : [cycle] = phase.waiting := h.queued rfl
  cases phase with
  | idle => cases placed
  | scheduled current =>
      obtain rfl := (List.cons.inj placed).1
      rfl
  | inFlight current dispatched => cases placed

/-! ### What can happen to a cycle -/

theorem schedule (h : InStep turns begun waiting announced .idle false next) :
    InStep turns begun (waiting ++ [next]) (announced ++ [next]) (.scheduled next) false
      (next + 1) := by
  have none : waiting = [] := h.queued rfl
  subst none
  constructor
  · exact h.passed
  · exact h.tasks
  · exact fun _ => rfl
  · exact Nat.le_refl 1
  · exact fun _ _ => Phase.noConfusion
  · have ordered := h.ordered
    rw [List.append_nil] at ordered
    rw [List.nil_append, List.pairwise_append]
    refine ⟨ordered, List.pairwise_singleton _ _, ?_⟩
    intro earlier member last isLast
    obtain rfl := List.mem_singleton.mp isLast
    rcases List.mem_append.mp member with before | new
    · have below := (List.pairwise_append.mp ordered).2.2 earlier before next
        (List.mem_singleton_self _)
      omega
    · rw [List.mem_singleton.mp new]
      exact Nat.lt_succ_self next
  · rw [List.length_append, List.length_singleton, List.range'_1_concat, ← h.numbered, h.follows,
      Nat.add_comm 1]
  · rw [List.length_append, List.length_singleton, ← h.follows]

theorem begin (h : InStep turns begun (waiting ++ [cycle]) announced (.scheduled cycle) closed next) :
    InStep turns (begun ++ [cycle]) waiting announced (.inFlight cycle false) closed next := by
  obtain ⟨rfl, _, _⟩ := h.of_waiting
  have none : begun = [] := h.tasks
  subst none
  constructor
  · exact h.passed
  · rfl
  · exact fun _ => rfl
  · exact Nat.zero_le 1
  · exact fun _ _ _ => rfl
  · have ordered := h.ordered
    rw [List.append_nil, List.nil_append] at ordered
    rw [List.nil_append, List.append_nil]
    exact ordered
  · exact h.numbered
  · exact h.follows

theorem deliver (h : InStep turns begun waiting announced (.inFlight cycle false) closed next)
    {event : Event α} (same : event.cycle = cycle) :
    InStep (turns ++ [.delivered event]) [] waiting announced (.inFlight cycle true) closed
      next := by
  have one : begun = [cycle] := h.tasks
  constructor
  · rw [Turn.holder_concat h.passed, ← same]
    rfl
  · rfl
  · exact h.queued
  · exact h.few
  · exact fun _ _ _ => h.alone cycle false rfl
  · have ordered := h.ordered
    rw [one, ← same] at ordered
    rw [Turn.deliveries_concat, List.append_nil]
    exact ordered
  · exact h.numbered
  · exact h.follows

theorem skip (h : InStep turns begun waiting announced (.inFlight cycle false) closed next) :
    InStep turns [] waiting announced .idle closed next := by
  constructor
  · exact h.passed
  · rfl
  · exact h.queued
  · exact h.few
  · exact fun _ _ => Phase.noConfusion
  · refine h.ordered.sublist ?_
    apply List.Sublist.append_right
    apply List.Sublist.append_right
    rw [List.append_nil]
    exact List.sublist_append_left _ _
  · exact h.numbered
  · exact h.follows

theorem ready (h : InStep turns begun waiting announced (.inFlight cycle true) closed next) :
    InStep (turns ++ [.readied cycle]) begun waiting announced .idle closed next := by
  constructor
  · rw [Turn.holder_concat h.passed, Phase.holder, Turn.pass, if_pos rfl]
    rfl
  · exact h.tasks
  · exact h.queued
  · exact h.few
  · exact fun _ _ => Phase.noConfusion
  · have ordered := h.ordered
    rw [Turn.deliveries_concat, Turn.delivered?, Option.toList_none, List.append_nil]
    exact ordered
  · exact h.numbered
  · exact h.follows

/-! ### What can happen once nothing is scheduled any more -/

theorem shut (h : InStep turns begun waiting announced phase closed next) :
    InStep turns begun waiting announced phase true next :=
  { h with queued := Bool.noConfusion }

theorem forget {kept : List Nat} (h : InStep turns begun waiting announced phase true next)
    (sub : kept.Sublist waiting) : InStep turns begun kept announced phase true next := by
  constructor
  · exact h.passed
  · exact h.tasks
  · exact Bool.noConfusion
  · exact Nat.le_trans sub.length_le h.few
  · intro cycle dispatched inFlight
    have none := h.alone cycle dispatched inFlight
    rw [none] at sub
    exact List.sublist_nil.mp sub
  · exact h.ordered.sublist ((sub.append_left _).append_right _)
  · exact h.numbered
  · exact h.follows

/-- The phase says no more than that there is no cycle. -/
theorem giveUp (h : InStep turns begun waiting announced phase true next)
    (free : phase.holder = none) (idle : phase.begun = []) :
    InStep turns begun waiting announced .idle true next := by
  constructor
  · rw [h.passed, free]
    rfl
  · rw [h.tasks, idle]
    rfl
  · exact Bool.noConfusion
  · exact h.few
  · exact fun _ _ => Phase.noConfusion
  · exact h.ordered
  · exact h.numbered
  · exact h.follows

theorem close {p : Pacer}
    (h : InStep turns begun waiting announced p.phase closed p.nextCycle) :
    InStep turns begun waiting announced p.close.1.phase true p.close.1.nextCycle := by
  have shut := h.shut
  cases isClosed : p.closed with
  | true =>
      simp only [Pacer.close, isClosed, if_true]
      exact shut
  | false =>
      simp only [Pacer.close, isClosed, Bool.false_eq_true, if_false]
      cases phase : p.phase with
      | idle =>
          rw [phase] at shut
          exact shut
      | scheduled cycle =>
          rw [phase] at shut
          exact shut.giveUp rfl rfl
      | inFlight cycle dispatched =>
          rw [phase] at shut
          exact shut

/-! ### Calls of a pacer -/

variable {p : Pacer}

theorem pacer_schedule (h : InStep turns begun waiting announced p.phase p.closed p.nextCycle)
    (isOpen : p.closed = false) (idle : p.phase = .idle) (now : Nat) :
    InStep turns begun (waiting ++ (p.schedule now).2.cycle?.toList)
      (announced ++ (p.schedule now).2.cycle?.toList) (p.schedule now).1.phase
      (p.schedule now).1.closed (p.schedule now).1.nextCycle := by
  rw [isOpen, idle] at h
  simp only [Pacer.schedule, Transition.cycle?, Option.toList_some, isOpen]
  exact h.schedule

theorem pacer_keep {asked : Transition} (nothing : asked.cycle? = none)
    (h : InStep turns begun waiting announced phase closed next) :
    InStep turns begun (waiting ++ asked.cycle?.toList) (announced ++ asked.cycle?.toList) phase
      closed next := by
  rw [nothing, Option.toList_none, List.append_nil, List.append_nil]
  exact h

theorem pacer_signal (h : InStep turns begun waiting announced p.phase p.closed p.nextCycle)
    (s : Signal) (now : Nat) :
    InStep turns begun (waiting ++ (p.signal s now).2.cycle?.toList)
      (announced ++ (p.signal s now).2.cycle?.toList) (p.signal s now).1.phase
      (p.signal s now).1.closed (p.signal s now).1.nextCycle := by
  have recorded : InStep turns begun waiting announced (p.record s).phase (p.record s).closed
      (p.record s).nextCycle := by
    rw [Pacer.phase_record, Pacer.closed_record, Pacer.nextCycle_record]
    exact h
  rcases p.signal_cases s now with
    ⟨_, same⟩ | ⟨_, _, _, same⟩ | ⟨isOpen, idle, _, same⟩ | ⟨_, _, same⟩ <;> rw [same]
  · exact pacer_keep rfl h
  · exact pacer_keep rfl recorded
  · rw [← Pacer.closed_record p s] at isOpen
    rw [← Pacer.phase_record p s] at idle
    exact pacer_schedule recorded isOpen idle now
  · exact pacer_keep rfl recorded

theorem pacer_resume (h : InStep turns begun waiting announced p.phase p.closed p.nextCycle)
    (now : Nat) :
    InStep turns begun (waiting ++ (p.resume now).2.cycle?.toList)
      (announced ++ (p.resume now).2.cycle?.toList) (p.resume now).1.phase
      (p.resume now).1.closed (p.resume now).1.nextCycle := by
  rcases p.resume_cases now with ⟨_, same⟩ | ⟨isOpen, idle, _, same⟩ | ⟨_, _, same⟩ <;> rw [same]
  · exact pacer_keep rfl h
  · let q : Pacer := { p with paused := false, eventWhileBusy := false }
    exact pacer_schedule (p := q) h isOpen idle now
  · exact pacer_keep rfl h

theorem pacer_finish (h : InStep turns begun waiting announced .idle p.closed p.nextCycle)
    (now : Nat) :
    InStep turns begun (waiting ++ (p.finish now).2.cycle?.toList)
      (announced ++ (p.finish now).2.cycle?.toList) (p.finish now).1.phase
      (p.finish now).1.closed (p.finish now).1.nextCycle := by
  rcases p.finish_cases now with ⟨_, same⟩ | ⟨isOpen, _, _, same⟩ | ⟨_, _, same⟩ <;> rw [same]
  · exact pacer_keep rfl h
  · let q : Pacer := { p with phase := .idle, startedAt := none, eventWhileBusy := false }
    exact pacer_schedule (p := q) h isOpen rfl now
  · exact pacer_keep rfl h

end InStep

end Engine

end Cadence
