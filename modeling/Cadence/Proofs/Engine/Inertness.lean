import Cadence.Proofs.Engine.Closing
import Cadence.Proofs.Engine.Readiness

/-!
# The handles of a closed decoupler

Producers reach a decoupler through handles, and need not know when it is closed.  Once it is closed
or gone a handle refuses values, collects nothing, and leaves everything as it is.  There is one
exception: as long as the decoupler exists, the failures that are reported to it are counted.
-/

set_option autoImplicit false

namespace Cadence.Engine

variable {α : Type}

def Action.isOfHandle : Action α → Bool
  | write _ => true
  | collect => true
  | signal _ => true
  | askClosed => true
  | _ => false

def Action.rebuff : Action α → Except Panic Answer
  | write _ => .ok (.flag false)
  | collect => .ok (.collected .noUpdate)
  | askClosed => .ok (.flag true)
  | _ => .ok .none

def Action.reportsFault : Action α → Bool
  | signal s => s.isFault
  | _ => false

def calls (e : Engine α) : List (Action α) → Engine α × List (Except Panic Answer)
  | [] => (e, [])
  | action :: rest =>
      let later := (e.act action).1.calls rest
      (later.1, (e.act action).2 :: later.2)

/-- How many failures the calls report to a decoupler that still exists. -/
def lateFaults (e : Engine α) (actions : List (Action α)) : Nat :=
  if e.isAlive then actions.countP Action.reportsFault else 0

def countFaults (e : Engine α) (faults : Nat) : Tally :=
  { e.decoupler.tally with producerErrors := e.decoupler.tally.producerErrors + faults }

section

variable {e : Engine α}

theorem act_of_closed (isClosed : e.isClosed = true) {action : Action α}
    (ofHandle : action.isOfHandle = true) :
    (e.act action).2 = action.rebuff ∧
      ∃ notices, (∀ notice ∈ notices, notice.level = .trace) ∧
        (e.act action).1 = e.counted (e.countFaults (e.lateFaults [action])) notices := by
  have silent : action.reportsFault = false → e.lateFaults [action] = 0 := by
    intro quiet
    simp [lateFaults, quiet]
  cases action with
  | write value =>
      refine ⟨by simp [act, write, isClosed, Action.rebuff], [.writeAfterClose], ?_, ?_⟩
      · simp [Notice.level]
      · simp only [act, write, isClosed, if_true]
        rw [silent rfl]
        rfl
  | collect =>
      refine ⟨by simp [act, collect, isClosed, Action.rebuff, Except.map], [], by simp, ?_⟩
      simp only [act, collect, isClosed, if_true]
      rw [silent rfl]
      simp [counted, countFaults]
  | signal s =>
      refine ⟨rfl, ?_⟩
      cases alive : e.isAlive with
      | true =>
          have closed : e.decoupler.pacer.closed = true := by
            rw [← isClosed_of_isAlive alive]
            exact isClosed
          refine ⟨[.signalled e.subject s], by simp [Notice.level], ?_⟩
          simp only [act, signal, alive, if_true, Decoupler.signal, Pacer.signal_of_closed closed]
          cases fault : s.isFault <;>
            simp [apply, Decoupler.follow, note, counted, countFaults, lateFaults, alive,
              Action.reportsFault, fault]
      | false =>
          refine ⟨[], by simp, ?_⟩
          simp [act, signal, alive, counted, countFaults, lateFaults]
  | askClosed =>
      refine ⟨by simp [act, isClosed, Action.rebuff], [], by simp, ?_⟩
      rw [silent rfl]
      simp [act, counted, countFaults]
  | _ => cases ofHandle

theorem lateFaults_cons (e : Engine α) (action : Action α) (rest : List (Action α)) :
    e.lateFaults (action :: rest) = e.lateFaults [action] + e.lateFaults rest := by
  by_cases alive : e.isAlive = true
  · simp only [lateFaults, if_pos alive, List.countP_cons, List.countP_nil]
    omega
  · simp only [lateFaults, if_neg alive]

theorem calls_of_closed (isClosed : e.isClosed = true) {actions : List (Action α)}
    (ofHandle : ∀ action ∈ actions, action.isOfHandle = true) :
    (e.calls actions).2 = actions.map Action.rebuff ∧
      ∃ notices, (∀ notice ∈ notices, notice.level = .trace) ∧
        (e.calls actions).1 = e.counted (e.countFaults (e.lateFaults actions)) notices := by
  induction actions generalizing e with
  | nil =>
      refine ⟨rfl, [], by simp, ?_⟩
      simp [calls, counted, countFaults, lateFaults]
  | cons action rest ih =>
      obtain ⟨answered, notices, traced, moved⟩ :=
        act_of_closed isClosed (ofHandle action List.mem_cons_self)
      -- a call leaves the decoupler closed and in being, so the rest is answered alike
      have stillClosed : (e.act action).1.isClosed = true := by
        rw [moved]
        exact isClosed
      have sameFaults : (e.act action).1.lateFaults rest = e.lateFaults rest := by
        rw [moved]
        rfl
      obtain ⟨answers, notices', traced', moved'⟩ := ih stillClosed fun later member =>
        ofHandle later (List.mem_cons_of_mem action member)
      refine ⟨?_, notices ++ notices', ?_, ?_⟩
      · rw [List.map_cons, ← answered, ← answers]
        rfl
      · intro notice member
        rcases List.mem_append.mp member with first | further
        · exact traced notice first
        · exact traced' notice further
      · calc (e.calls (action :: rest)).1
          _ = ((e.act action).1.calls rest).1 := rfl
          _ = (e.act action).1.counted
                ((e.act action).1.countFaults (e.lateFaults rest)) notices' := by
              rw [moved', sameFaults]
          _ = e.counted (e.countFaults (e.lateFaults [action] + e.lateFaults rest))
                (notices ++ notices') := by
              rw [moved]
              simp [counted, countFaults, Nat.add_assoc]
          _ = e.counted (e.countFaults (e.lateFaults (action :: rest))) (notices ++ notices') := by
              rw [e.lateFaults_cons action rest]

end

/-! ## Closed for good -/

theorem Coherent.tasks_of_gone {turns : List (Turn α)} {s : Scene α}
    (h : Coherent turns s.begun [] [] s.engine) (gone : s.engine.isAlive = false) :
    s.tasks = [] := by
  have awake := h.awake
  rw [isAlive, Bool.or_eq_false_iff, decide_eq_false_iff_not] at gone
  rw [Scene.begun, List.length_map] at awake
  exact List.length_eq_zero_iff.mp (by omega)

theorem isClosed_after {turns : List (Turn α)} {s : Scene α}
    (h : Coherent turns s.begun [] [] s.engine) (isClosed : s.engine.isClosed = true)
    (later : List (Scene.Step α)) : (s.after later).engine.isClosed = true := by
  cases alive : s.engine.isAlive with
  | true =>
      rw [isClosed_of_isAlive alive] at isClosed
      exact isClosed_of_closed (runsOut_after isClosed later).drains.closed
  | false =>
      obtain ⟨gone, _⟩ := gone_kept.after turns later ⟨alive, h.tasks_of_gone alive⟩
      exact isClosed_of_gone gone

/-- A decoupler that its owner closes, or a subscription that is dropped, is closed, and stays so
whatever happens.  From then on every call of a handle is rebuffed.  It changes nothing but a count:
a failure that is reported while the decoupler still exists is counted, and what is told of a call is
told for tracing only. -/
theorem closed_handles_inert (subject : String) (buffer : Buffer α) (minPeriod : Option Nat)
    (source : Option (ReadFunction α)) (hasRuntime closesOnDrop : Bool)
    (steps : List (Scene.Step α)) :
    let start := Scene.new subject buffer minPeriod source hasRuntime closesOnDrop
    let s := start.after steps
    (s.engine.held = true → s.engine.shut.isClosed = true) ∧
      (s.engine.held = true → s.engine.closesOnDrop = true → s.engine.drop.isClosed = true) ∧
      (s.engine.isClosed = true → ∀ later,
        let e := (s.after later).engine
        e.isClosed = true ∧ ∀ actions, (∀ action ∈ actions, action.isOfHandle = true) →
          (e.calls actions).2 = actions.map Action.rebuff ∧
          ∃ notices, (∀ notice ∈ notices, notice.level = .trace) ∧
            (e.calls actions).1 = e.counted (e.countFaults (e.lateFaults actions)) notices) := by
  intro start s
  have kept := coherent_after subject buffer minPeriod source hasRuntime closesOnDrop steps
  refine ⟨fun held => ?_, fun held closes => ?_, fun isClosed later => ?_⟩
  · exact isClosed_of_closed (closed_shut held)
  · exact isClosed_of_closed (closed_drop held closes)
  · have stays := isClosed_after kept isClosed later
    exact ⟨stays, fun actions ofHandle => calls_of_closed stays ofHandle⟩

/-- A subscription is dropped while a value waits.  Its handle refuses a further value, does not
read the cache, and counts no failure, for the decoupler is gone. -/
theorem dropped_handle_rebuffed :
    let start : Scene Nat := .new "gauge" (.latest .empty) none (some (.cache (some 3))) true true
    let e := (start.after [.move (.call (.write (some 1))), .move (.call .drop)]).engine
    let actions : List (Action Nat) :=
      [.write (some 2), .collect, .signal (.readException (.readFailed "timeout")), .askClosed]
    e.isClosed = true ∧ (∀ action ∈ actions, action.isOfHandle = true) ∧
      (e.calls actions).2 =
        [.ok (.flag false), .ok (.collected .noUpdate), .ok .none, .ok (.flag true)] ∧
      (e.calls actions).1.decoupler = e.decoupler ∧ (e.calls actions).1.source = e.source := by
  intro start e actions
  have isClosed : e.isClosed = true := by decide
  have ofHandle : ∀ action ∈ actions, action.isOfHandle = true := by
    simp [actions, Action.isOfHandle]
  obtain ⟨_, rebuffed⟩ := (closed_handles_inert "gauge" (.latest .empty) none
    (some (.cache (some 3))) true true
    [.move (.call (.write (some 1))), .move (.call .drop)]).2.2 isClosed []
  obtain ⟨answers, notices, _, left⟩ := rebuffed actions ofHandle
  have uncounted : e.lateFaults actions = 0 := by decide
  have same : (e.calls actions).1 = e.counted (e.countFaults 0) notices := by
    rw [← uncounted]
    exact left
  refine ⟨isClosed, ofHandle, answers, ?_, ?_⟩
  · rw [same]
    rfl
  · rw [same]
    rfl

/-- A failure that is reported to a closed decoupler is counted, though no event will tell it. -/
theorem late_fault_counted :
    let start : Scene Nat := .new "gauge" (.latest .empty) none none true true
    let e := (start.after [.move (.call .close)]).engine
    let reported := (e.act (.signal (.readException (.readFailed "timeout")))).1
    e.isClosed = true ∧ e.decoupler.tally.producerErrors = 0 ∧
      reported.decoupler.tally.producerErrors = 1 := by
  decide

end Cadence.Engine
