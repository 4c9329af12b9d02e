import Cadence.Executor.Basic
import Cadence.Proofs.Lists

/-!
# Workers at work

The thread of a worker takes tasks one by one while others submit further ones or shut the worker
down, and anything may happen between two of its steps.  What a task does is left open: while it
runs it may submit tasks and shut the worker down at any time, and it may end in any way at any time.
Running a task as its `Job` describes it is one way to do so.

`Served` is what holds of every history of a worker: the tasks that it has accepted have begun or
wait in the order in which they were submitted, one runs at a time, and once it has been shut down it
accepts none.  Only a crash loses tasks: those that wait, all at once.
-/

set_option autoImplicit false

namespace Cadence

/-- Who makes a call. -/
inductive Caller
  | outside
  | task
  deriving DecidableEq, Repr

structure Worker where
  executor : Executor
  current : Option Job
  awaited : Bool
  /-- The accepted tasks that were still waiting when the thread crashed. -/
  lost : List Job

namespace Worker

/-- One atomic step.  A call of `shutdown` comes in parts, for the sender of the queue and the thread
are guarded by two locks: `shutDown` takes the sender away, then `await` goes to wait for the thread,
unless somebody has done so already or the caller runs on that thread, and `join` comes back.  The
payload of a panic is dropped while the task runs, as far as others can tell, so `finish` is the
moment at which a crash closes the queue. -/
inductive Act
  | submit (caller : Caller) (job : Job)
  | take
  | finish (ending : Ending)
  | shutDown (caller : Caller)
  | await (caller : Caller)
  | join

inductive Event
  | submitted (job : Job) (result : Except Refusal Unit)
  | began (job : Job)
  | ended (job : Job) (ending : Ending)
  | shutDown
  | claimed (caller : Caller)
  | left
  /-- The call that waited for the thread returns, and knows whether it crashed. -/
  | joined (crashed : Bool)

/-- Makes a step.  One that cannot be made changes nothing and is not seen. -/
def step (w : Worker) : Act → Worker × Option Event
  | .submit .outside job =>
      let r := w.executor.submit job
      ({ w with executor := r.1 }, some (.submitted job r.2))
  | .submit .task job =>
      match w.current with
      | none => (w, none)
      | some _ =>
          let r := w.executor.submit job
          ({ w with executor := r.1.record (.submitted job.id r.2) }, some (.submitted job r.2))
  | .take =>
      match w.current, w.executor.queue with
      | none, job :: rest =>
          ({ w with
              executor := { w.executor with queue := rest }.record (.ran job.id)
              current := some job }, some (.began job))
      | _, _ => (w, none)
  | .finish ending =>
      match w.current with
      | none => (w, none)
      | some job =>
          ({ w with
              executor := w.executor.bury ending
              current := none
              lost := w.lost ++ if ending.isCrash then w.executor.queue else [] },
            some (.ended job ending))
  | .shutDown .outside => ({ w with executor := w.executor.refuseAll }, some .shutDown)
  | .shutDown .task =>
      match w.current with
      | none => (w, none)
      | some job =>
          ({ w with executor := (w.executor.record (.shutDownFrom job.id)).refuseAll },
            some .shutDown)
  | .await .outside =>
      if w.executor.isShutDown then
        if w.executor.joinable then
          ({ w with executor := { w.executor with joinable := false }, awaited := true },
            some (.claimed .outside))
        else (w, some .left)
      else (w, none)
  | .await .task =>
      if w.executor.isShutDown && w.current.isSome && w.executor.joinable then
        ({ w with executor := w.executor.detach }, some (.claimed .task))
      else (w, none)
  | .join =>
      if w.awaited && w.current.isNone && w.executor.queue.isEmpty then
        ({ w with executor := w.executor.join, awaited := false },
          some (.joined w.executor.crashed))
      else (w, none)

def after (w : Worker) : List Act → Worker
  | [] => w
  | act :: rest => (w.step act).1.after rest

def events (w : Worker) : List Act → List Event
  | [] => []
  | act :: rest => (w.step act).2.toList ++ (w.step act).1.events rest

def hired (name : String) : Worker := ⟨.start .worker name, none, false, []⟩

theorem after_append (w : Worker) (acts more : List Act) :
    w.after (acts ++ more) = (w.after acts).after more := by
  induction acts generalizing w with
  | nil => rfl
  | cons act rest ih => exact ih (w.step act).1

theorem events_append (w : Worker) (acts more : List Act) :
    w.events (acts ++ more) = w.events acts ++ (w.after acts).events more := by
  induction acts generalizing w with
  | nil => rfl
  | cons act rest ih =>
      rw [List.cons_append, events, ih, events, List.append_assoc]
      rfl

def Idle (w : Worker) : Prop := w.current = none ∧ w.executor.queue = []

/-- The accepted tasks that have not begun. -/
def unrun (w : Worker) : List Job := w.lost ++ w.executor.queue

/-! ## Histories -/

def Event.accepted? : Event → Option Job
  | submitted job (.ok ()) => some job
  | _ => none

def Event.began? : Event → Option Job
  | began job => some job
  | _ => none

def Event.ended? : Event → Option Job
  | ended job _ => some job
  | _ => none

def accepted (events : List Event) : List Job := events.filterMap Event.accepted?

def begun (events : List Event) : List Job := events.filterMap Event.began?

def ended (events : List Event) : List Job := events.filterMap Event.ended?

/-- A task has taken the thread with it. -/
def Crashed (events : List Event) : Prop := ∃ job panic, .ended job (.crashed panic) ∈ events

/-- The thread is known to have ended. -/
def Over (events : List Event) : Prop := Crashed events ∨ ∃ crashed, .joined crashed ∈ events

/-- Why a submission is refused after these events, if it is.  The answer of a worker that has been
shut down is the same whether or not its thread crashed. -/
def Refuses (name : String) (events : List Event) : Option Refusal → Prop
  | none => .shutDown ∉ events ∧ ¬ Crashed events
  | some refusal =>
      (.shutDown ∈ events ∧ refusal = .shutDown name) ∨
        (.shutDown ∉ events ∧ Crashed events ∧ refusal = .crashed name)

/-- What an event tells of those before it.  A submission is accepted before the worker is shut down
or crashes, and refused for that reason after.  A task begins and ends while the thread is there.
When a call that shuts the worker down returns from its wait, all that was accepted has ended unless
the thread crashed; one from outside does not return without a wait unless another call has it, and
if that one has returned then the same is true. -/
def Tells (name : String) (before : List Event) : Event → Prop
  | .submitted _ (.ok _) => Refuses name before none
  | .submitted _ (.error refusal) => Refuses name before (some refusal)
  | .began _ => ¬ Over before
  | .ended _ _ => ¬ Over before
  | .joined crashed =>
      .shutDown ∈ before ∧ (crashed = true ↔ Crashed before) ∧
        (crashed = false → ended before = accepted before)
  | .left =>
      (∃ caller, .claimed caller ∈ before) ∧
        (.joined false ∈ before → ended before = accepted before)
  | _ => True

def Truthful (name : String) (events : List Event) : Prop :=
  ∀ before event after, events = before ++ event :: after → Tells name before event

theorem truthful_concat {name : String} {events : List Event} (truthful : Truthful name events)
    {event : Event} (tells : Tells name events event) : Truthful name (events ++ [event]) := by
  intro before other after split
  rcases concat_eq_append_cons split with ⟨rfl, rfl, _⟩ | ⟨rest, _, rfl⟩
  · exact tells
  · exact truthful before other rest rfl

theorem Truthful.refuses {name : String} {events : List Event} (truthful : Truthful name events)
    {job : Job} {refusal : Refusal} (refused : .submitted job (.error refusal) ∈ events) :
    refusal = .shutDown name ∨ (Crashed events ∧ refusal = .crashed name) := by
  obtain ⟨before, after, rfl⟩ := List.append_of_mem refused
  rcases truthful before _ after rfl with ⟨_, same⟩ | ⟨_, ⟨task, panic, crash⟩, same⟩
  · exact .inl same
  · exact .inr ⟨⟨task, panic, List.mem_append_left _ crash⟩, same⟩

theorem accepted_concat (events : List Event) (event : Event) :
    accepted (events ++ [event]) = accepted events ++ event.accepted?.toList :=
  filterMap_concat Event.accepted? events event

theorem begun_concat (events : List Event) (event : Event) :
    begun (events ++ [event]) = begun events ++ event.began?.toList :=
  filterMap_concat Event.began? events event

theorem ended_concat (events : List Event) (event : Event) :
    ended (events ++ [event]) = ended events ++ event.ended?.toList :=
  filterMap_concat Event.ended? events event

def Event.isCrash : Event → Bool
  | ended _ ending => ending.isCrash
  | _ => false

theorem crashed_concat (events : List Event) (event : Event) :
    Crashed (events ++ [event]) ↔ Crashed events ∨ event.isCrash = true := by
  simp only [Crashed, List.mem_append, List.mem_singleton]
  constructor
  · rintro ⟨job, panic, earlier | rfl⟩
    · exact .inl ⟨job, panic, earlier⟩
    · exact .inr rfl
  · rintro (⟨job, panic, earlier⟩ | crash)
    · exact ⟨job, panic, .inl earlier⟩
    · cases event with
      | ended job ending =>
          cases ending with
          | crashed panic => exact ⟨job, panic, .inr rfl⟩
          | _ => cases crash
      | _ => cases crash

/-! ## What every history keeps -/

structure Served (name : String) (events : List Event) (w : Worker) : Prop where
  kind : w.executor.kind = .worker
  named : w.executor.name = name
  answers : Refuses name events w.executor.refusal
  crashes : w.executor.crashed = true ↔ Crashed events
  rests : Over events → w.Idle
  whole : ¬ Crashed events → w.lost = []
  clean : .joined false ∈ events → ¬ Crashed events
  waits : w.awaited = true → .shutDown ∈ events
  claims : w.executor.joinable = true ∨ ∃ caller, .claimed caller ∈ events
  inOrder : accepted events = begun events ++ w.unrun
  oneByOne : begun events = ended events ++ w.current.toList
  truthful : Truthful name events

section

variable {name : String} {events : List Event} {w w' : Worker} {event : Event}

theorem served_hired (name : String) : Served name [] (hired name) where
  kind := rfl
  named := rfl
  answers := ⟨nofun, nofun⟩
  crashes := ⟨nofun, nofun⟩
  rests := nofun
  whole _ := rfl
  clean := nofun
  waits := nofun
  claims := .inl rfl
  inOrder := rfl
  oneByOne := rfl
  truthful := by simp [Truthful]

theorem Served.shut (h : Served name events w) (shut : w.executor.isShutDown = true) :
    .shutDown ∈ events := by
  have answers := h.answers
  rw [of_decide_eq_true shut, h.named] at answers
  rcases answers with ⟨shut, _⟩ | ⟨_, _, other⟩
  · exact shut
  · cases other

theorem Served.unseen (h : Served name events w) : Served name (events ++ []) w := by
  rw [List.append_nil]
  exact h

theorem Served.present (h : Served name events w) (busy : ¬ w.Idle) : ¬ Over events :=
  fun ended => busy (h.rests ended)

/-! ## What an event does -/

/-- What the worker answers to submissions after the event, from what it answered before. -/
def Event.refusal (name : String) (before : Option Refusal) : Event → Option Refusal
  | shutDown => some (.shutDown name)
  | ended _ (.crashed _) => before.or (some (.crashed name))
  | _ => before

theorem refuses_of_other {before : Option Refusal} (refuses : Refuses name events before)
    (other : event ≠ .shutDown) (steady : event.isCrash = false) :
    Refuses name (events ++ [event]) before := by
  have shut : .shutDown ∈ events ++ [event] ↔ .shutDown ∈ events := by simp [other.symm]
  have crash : Crashed (events ++ [event]) ↔ Crashed events := by simp [crashed_concat, steady]
  cases before with
  | none =>
      rw [Refuses, shut, crash]
      exact refuses
  | some refusal =>
      rw [Refuses, shut, crash]
      exact refuses

theorem refuses_concat {before : Option Refusal} (refuses : Refuses name events before)
    (event : Event) : Refuses name (events ++ [event]) (event.refusal name before) := by
  cases event with
  | shutDown => exact .inl ⟨by simp, rfl⟩
  | ended job ending =>
      cases ending with
      | crashed panic =>
          have shut : .shutDown ∈ events ++ [.ended job (.crashed panic)] ↔ .shutDown ∈ events := by
            simp
          have crash := (crashed_concat events (.ended job (.crashed panic))).mpr (.inr rfl)
          cases before with
          | none => exact .inr ⟨mt shut.mp refuses.1, crash, rfl⟩
          | some refusal =>
              rcases refuses with ⟨there, same⟩ | ⟨absent, _, same⟩
              · exact .inl ⟨shut.mpr there, same⟩
              · exact .inr ⟨mt shut.mp absent, crash, same⟩
      | _ => exact refuses_of_other refuses nofun rfl
  | _ => exact refuses_of_other refuses nofun rfl

def Event.isOver : Event → Bool
  | joined _ => true
  | event => event.isCrash

theorem over_concat (events : List Event) (event : Event) :
    Over (events ++ [event]) ↔ Over events ∨ event.isOver = true := by
  have joins : (∃ crashed, .joined crashed ∈ events ++ [event]) ↔
      (∃ crashed, .joined crashed ∈ events) ∨ ∃ crashed, event = .joined crashed := by
    simp only [List.mem_append, List.mem_singleton, exists_or, eq_comm]
  rw [Over, Over, crashed_concat, joins]
  cases event with
  | joined crashed => simp [Event.isOver]
  | _ => simp [Event.isOver, or_right_comm]

/-- The tasks that an event takes from one place are those that it puts into the next: from the
submission to those that have not begun, from there to the thread, and from the thread to the end. -/
structure Passes (name : String) (w w' : Worker) (event : Event) : Prop where
  kind : w'.executor.kind = w.executor.kind
  named : w'.executor.name = w.executor.name
  refusal : w'.executor.refusal = event.refusal name w.executor.refusal
  steady : event.isCrash = false → w'.executor.crashed = w.executor.crashed ∧ w'.lost = w.lost
  breaks : event.isCrash = true → w'.executor.crashed = true
  ends : event.isOver = true → w'.Idle
  waits : w'.awaited = true → w.awaited = true ∨ w.executor.isShutDown = true
  claims : w'.executor.joinable = w.executor.joinable ∨ ∃ caller, event = .claimed caller
  unrun : event.began?.toList ++ w'.unrun = w.unrun ++ event.accepted?.toList
  thread : event.ended?.toList ++ w'.current.toList = w.current.toList ++ event.began?.toList

/-- A thread with nothing to do is not given anything by an event that accepts no task. -/
theorem Passes.idle (passes : Passes name w w' event) (idle : w.Idle)
    (steady : event.isCrash = false) (unaccepted : event.accepted? = none) : w'.Idle := by
  obtain ⟨current, queue⟩ := idle
  have unrun := passes.unrun
  have thread := passes.thread
  rw [Worker.unrun, Worker.unrun, (passes.steady steady).2, queue, unaccepted, Option.toList_none,
    List.append_nil, List.append_nil] at unrun
  have sizes := congrArg List.length unrun
  rw [List.length_append, List.length_append] at sizes
  have nothing : event.began?.toList = [] := List.length_eq_zero_iff.mp (by omega)
  rw [current, nothing, Option.toList_none, List.append_nil, List.append_eq_nil_iff,
    Option.toList_eq_nil_iff, Option.toList_eq_nil_iff] at thread
  exact ⟨thread.2, List.length_eq_zero_iff.mp (by omega)⟩

theorem Served.inOrder_concat (h : Served name events w) (passes : Passes name w w' event) :
    accepted (events ++ [event]) = begun (events ++ [event]) ++ w'.unrun :=
  calc accepted (events ++ [event])
    _ = accepted events ++ event.accepted?.toList := accepted_concat events event
    _ = begun events ++ (w.unrun ++ event.accepted?.toList) := by rw [h.inOrder, List.append_assoc]
    _ = begun events ++ (event.began?.toList ++ w'.unrun) := by rw [passes.unrun]
    _ = begun (events ++ [event]) ++ w'.unrun := by rw [begun_concat, List.append_assoc]

theorem Served.oneByOne_concat (h : Served name events w) (passes : Passes name w w' event) :
    begun (events ++ [event]) = ended (events ++ [event]) ++ w'.current.toList :=
  calc begun (events ++ [event])
    _ = begun events ++ event.began?.toList := begun_concat events event
    _ = ended events ++ (w.current.toList ++ event.began?.toList) := by
        rw [h.oneByOne, List.append_assoc]
    _ = ended events ++ (event.ended?.toList ++ w'.current.toList) := by rw [passes.thread]
    _ = ended (events ++ [event]) ++ w'.current.toList := by
        rw [ended_concat, List.append_assoc]

theorem Served.claims_concat (h : Served name events w) (passes : Passes name w w' event) :
    w'.executor.joinable = true ∨ ∃ caller, .claimed caller ∈ events ++ [event] := by
  rcases passes.claims with same | ⟨caller, rfl⟩
  · rw [same]
    exact h.claims.imp_right fun ⟨caller, earlier⟩ => ⟨caller, List.mem_append_left _ earlier⟩
  · exact .inr ⟨caller, List.mem_append_right _ (List.mem_singleton_self _)⟩

theorem Served.crashes_concat (h : Served name events w) (passes : Passes name w w' event) :
    w'.executor.crashed = true ↔ Crashed (events ++ [event]) := by
  rw [crashed_concat]
  cases crash : event.isCrash with
  | true => exact ⟨fun _ => .inr rfl, fun _ => passes.breaks crash⟩
  | false =>
      rw [(passes.steady crash).1, h.crashes]
      simp

theorem takes_of_accepted (tells : Tells name events event)
    (accepts : event.accepted? ≠ none) : .shutDown ∉ events ∧ ¬ Crashed events := by
  cases event with
  | submitted job result =>
      cases result with
      | ok _ => exact tells
      | error refusal => exact absurd rfl accepts
  | _ => exact absurd rfl accepts

theorem Served.shut_of_joined (h : Served name events w) {crashed : Bool}
    (joined : .joined crashed ∈ events) : .shutDown ∈ events := by
  obtain ⟨before, after, rfl⟩ := List.append_of_mem joined
  exact List.mem_append_left _ (h.truthful before _ after rfl).1

theorem not_over_of_crash (tells : Tells name events event) (crash : event.isCrash = true) :
    ¬ Over events := by
  cases event with
  | ended job ending => exact tells
  | _ => cases crash

theorem Served.rests_concat (h : Served name events w) (passes : Passes name w w' event)
    (tells : Tells name events event) (past : Over (events ++ [event])) : w'.Idle := by
  by_cases ends : event.isOver = true
  · exact passes.ends ends
  · have earlier := ((over_concat events event).mp past).resolve_right ends
    have steady : event.isCrash = false := by
      rw [← Bool.not_eq_true]
      exact fun crash => not_over_of_crash tells crash earlier
    refine passes.idle (h.rests earlier) steady ?_
    by_contra accepts
    obtain ⟨isOpen, sound⟩ := takes_of_accepted tells accepts
    rcases earlier with crash | ⟨_, joined⟩
    · exact sound crash
    · exact isOpen (h.shut_of_joined joined)

theorem Served.clean_concat (h : Served name events w) (tells : Tells name events event)
    (joined : .joined false ∈ events ++ [event]) : ¬ Crashed (events ++ [event]) := by
  rw [crashed_concat]
  rcases List.mem_append.mp joined with earlier | now
  · rintro (before | crash)
    · exact h.clean earlier before
    · exact not_over_of_crash tells crash (.inr ⟨_, earlier⟩)
  · obtain rfl := List.mem_singleton.mp now
    rintro (before | crash)
    · cases tells.2.1.mpr before
    · cases crash

theorem Served.seen (h : Served name events w) (passes : Passes name w w' event)
    (tells : Tells name events event) : Served name (events ++ [event]) w' where
  kind := passes.kind.trans h.kind
  named := passes.named.trans h.named
  answers := by
    rw [passes.refusal]
    exact refuses_concat h.answers event
  crashes := h.crashes_concat passes
  rests := h.rests_concat passes tells
  whole sound := by
    rw [crashed_concat, not_or] at sound
    rw [(passes.steady (Bool.eq_false_iff.mpr sound.2)).2]
    exact h.whole sound.1
  clean := h.clean_concat tells
  waits waits := by
    rcases passes.waits waits with before | shut
    · exact List.mem_append_left _ (h.waits before)
    · exact List.mem_append_left _ (h.shut shut)
  claims := h.claims_concat passes
  inOrder := h.inOrder_concat passes
  oneByOne := h.oneByOne_concat passes
  truthful := truthful_concat h.truthful tells

/-! ## Steps -/

/-- With nothing under way and nothing lost, all that was accepted has ended. -/
theorem Served.ended_of_idle (h : Served name events w) (idle : w.Idle) (sound : ¬ Crashed events) :
    ended events = accepted events := by
  rw [h.inOrder, h.oneByOne, unrun, h.whole sound, idle.1, idle.2, Option.toList_none,
    List.append_nil, List.append_nil, List.append_nil]

theorem Served.passes_submit (h : Served name events w) (job : Job) (records : List JobRecord) :
    Passes name w { w with executor := { (w.executor.submit job).1 with records := records } }
        (.submitted job (w.executor.submit job).2) ∧
      Tells name events (.submitted job (w.executor.submit job).2) := by
  have answers := h.answers
  cases refuses : w.executor.refusal with
  | none =>
      have answer : w.executor.submit job =
          ({ w.executor with queue := w.executor.queue ++ [job] }, .ok ()) := by
        simp only [Executor.submit, refuses]
      rw [refuses] at answers
      rw [answer]
      refine ⟨⟨rfl, rfl, rfl, fun _ => ⟨rfl, rfl⟩, nofun, nofun, .inl, .inl rfl, ?_, ?_⟩, answers⟩
      · exact (List.append_assoc w.lost w.executor.queue [job]).symm
      · exact (List.append_nil _).symm
  | some refusal =>
      have answer : w.executor.submit job = (w.executor, .error refusal) := by
        simp only [Executor.submit, refuses]
      rw [refuses] at answers
      rw [answer]
      refine ⟨⟨rfl, rfl, rfl, fun _ => ⟨rfl, rfl⟩, nofun, nofun, .inl, .inl rfl, ?_, ?_⟩, answers⟩
      · exact (List.append_nil _).symm
      · exact (List.append_nil _).symm

theorem Served.passes_take (h : Served name events w) {job : Job} {rest : List Job}
    (current : w.current = none) (queue : w.executor.queue = job :: rest) :
    Passes name w
        { w with
          executor := { w.executor with queue := rest }.record (.ran job.id)
          current := some job } (.began job) ∧ ¬ Over events := by
  have present := h.present (fun idle => by simp [idle.2] at queue)
  have whole := h.whole (fun crash => present (.inl crash))
  refine ⟨⟨rfl, rfl, rfl, fun _ => ⟨rfl, rfl⟩, nofun, nofun, .inl, .inl rfl, ?_, ?_⟩, present⟩
  · rw [unrun, unrun, whole, queue]
    exact (List.append_nil _).symm
  · rw [current]
    rfl

theorem Served.passes_finish (h : Served name events w) {job : Job} (current : w.current = some job)
    (ending : Ending) :
    Passes name w
        { w with
          executor := w.executor.bury ending
          current := none
          lost := w.lost ++ if ending.isCrash then w.executor.queue else [] }
        (.ended job ending) ∧ ¬ Over events := by
  have present := h.present (fun idle => by simp [idle.1] at current)
  have thread : [job] ++ [] = w.current.toList ++ [] := by
    rw [current]
    rfl
  refine ⟨?_, present⟩
  have kept : w.lost ++ [] = w.lost := List.append_nil _
  have through : w.lost ++ [] ++ w.executor.queue = w.lost ++ w.executor.queue ++ [] := by
    rw [kept, List.append_nil]
  cases ending with
  | returned =>
      exact ⟨rfl, rfl, rfl, fun _ => ⟨rfl, kept⟩, nofun, nofun, .inl, .inl rfl, through, thread⟩
  | panicked panic =>
      exact ⟨rfl, rfl, rfl, fun _ => ⟨rfl, kept⟩, nofun, nofun, .inl, .inl rfl, through, thread⟩
  | crashed panic =>
      refine ⟨rfl, rfl, ?_, nofun, fun _ => rfl, fun _ => ⟨rfl, rfl⟩, .inl, .inl rfl, rfl, thread⟩
      simp only [Executor.bury, Executor.crash, Executor.note, h.kind, h.named, Event.refusal]
      cases w.executor.refusal <;> rfl

theorem Served.passes_refuse (h : Served name events w) (records : List JobRecord) :
    Passes name w
        { w with executor := { w.executor with records := records }.refuseAll } .shutDown := by
  have refuses : { w.executor with records := records }.refuseAll =
      { w.executor with records := records, refusal := some (.shutDown name) } := by
    simp only [Executor.refuseAll, h.kind, h.named]
  rw [refuses]
  exact ⟨rfl, rfl, rfl, fun _ => ⟨rfl, rfl⟩, nofun, nofun, .inl, .inl rfl, (List.append_nil _).symm,
    (List.append_nil _).symm⟩

theorem passes_claim (shut : w.executor.isShutDown = true) :
    Passes name w { w with executor := { w.executor with joinable := false }, awaited := true }
      (.claimed .outside) :=
  ⟨rfl, rfl, rfl, fun _ => ⟨rfl, rfl⟩, nofun, nofun, fun _ => .inr shut, .inr ⟨_, rfl⟩,
    (List.append_nil _).symm, (List.append_nil _).symm⟩

theorem passes_detach (there : w.executor.joinable = true) :
    Passes name w { w with executor := w.executor.detach } (.claimed .task) := by
  have detaches : w.executor.detach =
      { w.executor with joinable := false }.note (.ownThread w.executor.name) := if_pos there
  rw [detaches]
  exact ⟨rfl, rfl, rfl, fun _ => ⟨rfl, rfl⟩, nofun, nofun, .inl, .inr ⟨_, rfl⟩,
    (List.append_nil _).symm, (List.append_nil _).symm⟩

theorem Served.passes_leave (h : Served name events w) (taken : w.executor.joinable ≠ true) :
    Passes name w w .left ∧ Tells name events .left := by
  refine ⟨?_, h.claims.resolve_left taken, fun joined => ?_⟩
  · exact ⟨rfl, rfl, rfl, fun _ => ⟨rfl, rfl⟩, nofun, nofun, .inl, .inl rfl,
      (List.append_nil _).symm, (List.append_nil _).symm⟩
  · exact h.ended_of_idle (h.rests (.inr ⟨_, joined⟩)) (h.clean joined)

theorem Served.passes_join (h : Served name events w) (awaited : w.awaited = true) (idle : w.Idle) :
    Passes name w { w with executor := w.executor.join, awaited := false }
        (.joined w.executor.crashed) ∧
      Tells name events (.joined w.executor.crashed) := by
  refine ⟨?_, h.waits awaited, h.crashes, fun sound => ?_⟩
  · have noted : ∃ journal, w.executor.join = { w.executor with journal := journal } := by
      unfold Executor.join
      split
      · exact ⟨_, rfl⟩
      · exact ⟨_, rfl⟩
    obtain ⟨journal, noted⟩ := noted
    rw [noted]
    exact ⟨rfl, rfl, rfl, fun _ => ⟨rfl, rfl⟩, nofun, fun _ => idle, nofun, .inl rfl,
      (List.append_nil _).symm, (List.append_nil _).symm⟩
  · refine h.ended_of_idle idle fun crash => ?_
    rw [h.crashes.mpr crash] at sound
    cases sound

theorem served_step (h : Served name events w) (act : Act) :
    Served name (events ++ (w.step act).2.toList) (w.step act).1 := by
  cases act with
  | submit caller job =>
      cases caller with
      | outside =>
          obtain ⟨passes, tells⟩ := h.passes_submit job (w.executor.submit job).1.records
          exact h.seen passes tells
      | task =>
          cases current : w.current with
          | none =>
              simp only [step, current]
              exact h.unseen
          | some running =>
              simp only [step, current, Executor.record]
              rw [← current]
              obtain ⟨passes, tells⟩ := h.passes_submit job _
              exact h.seen passes tells
  | take =>
      cases current : w.current with
      | some running =>
          simp only [step, current]
          exact h.unseen
      | none =>
          cases queue : w.executor.queue with
          | nil =>
              simp only [step, current, queue]
              exact h.unseen
          | cons job rest =>
              simp only [step, current, queue]
              obtain ⟨passes, present⟩ := h.passes_take current queue
              exact h.seen passes present
  | finish ending =>
      cases current : w.current with
      | none =>
          simp only [step, current]
          exact h.unseen
      | some job =>
          simp only [step, current]
          obtain ⟨passes, present⟩ := h.passes_finish current ending
          exact h.seen passes present
  | shutDown caller =>
      cases caller with
      | outside => exact h.seen (h.passes_refuse w.executor.records) trivial
      | task =>
          cases current : w.current with
          | none =>
              simp only [step, current]
              exact h.unseen
          | some job =>
              simp only [step, current, Executor.record]
              rw [← current]
              exact h.seen (h.passes_refuse _) trivial
  | await caller =>
      cases caller with
      | outside =>
          by_cases shut : w.executor.isShutDown = true
          · by_cases free : w.executor.joinable = true
            · simp only [step, if_pos shut, if_pos free]
              exact h.seen (passes_claim shut) trivial
            · simp only [step, if_pos shut, if_neg free]
              obtain ⟨passes, tells⟩ := h.passes_leave free
              exact h.seen passes tells
          · simp only [step, if_neg shut]
            exact h.unseen
      | task =>
          by_cases free : (w.executor.isShutDown && w.current.isSome && w.executor.joinable) = true
          · simp only [step, if_pos free]
            exact h.seen (passes_detach (Bool.and_eq_true_iff.mp free).2) trivial
          · simp only [step, if_neg free]
            exact h.unseen
  | join =>
      by_cases ready : (w.awaited && w.current.isNone && w.executor.queue.isEmpty) = true
      · simp only [step, if_pos ready]
        simp only [Bool.and_eq_true, Option.isNone_iff_eq_none, List.isEmpty_iff] at ready
        obtain ⟨passes, tells⟩ := h.passes_join ready.1.1 ⟨ready.1.2, ready.2⟩
        exact h.seen passes tells
      · simp only [step, if_neg ready]
        exact h.unseen

theorem served_after (h : Served name events w) (acts : List Act) :
    Served name (events ++ w.events acts) (w.after acts) := by
  induction acts generalizing events w with
  | nil =>
      rw [Worker.events, List.append_nil]
      exact h
  | cons act rest ih =>
      rw [Worker.events, ← List.append_assoc]
      exact ih (served_step h act)

theorem served (name : String) (acts : List Act) :
    Served name ((hired name).events acts) ((hired name).after acts) :=
  served_after (served_hired name) acts

/-- Those that have not begun lose the tasks that begin, and gain those that are accepted. -/
theorem Served.unrun_after (h : Served name events w) (acts : List Act) :
    begun (w.events acts) ++ (w.after acts).unrun = w.unrun ++ accepted (w.events acts) := by
  have now := h.inOrder
  have later := (served_after h acts).inOrder
  rw [accepted, begun, List.filterMap_append, List.filterMap_append, ← accepted, ← begun, ← accepted,
    ← begun, now, List.append_assoc, List.append_assoc] at later
  exact (List.append_cancel_left later).symm

theorem Served.not_begun (h : Served name events w) {job : Job}
    (unaccepted : .submitted job (.ok ()) ∉ events) : .began job ∉ events := by
  intro began
  have inBegun : job ∈ begun events := List.mem_filterMap.mpr ⟨_, began, rfl⟩
  have inAccepted : job ∈ accepted events := by
    rw [h.inOrder]
    exact List.mem_append_left _ inBegun
  obtain ⟨event, member, isAccepted⟩ := List.mem_filterMap.mp inAccepted
  cases event with
  | submitted other result =>
      cases result with
      | error refusal => cases isAccepted
      | ok _ =>
          obtain rfl : other = job := Option.some.inj isAccepted
          exact unaccepted member
  | _ => cases isAccepted

end

end Worker

end Cadence
