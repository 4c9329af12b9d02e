import Cadence.Decoupler.Basic
import Cadence.Source.Collect

/-!
# The engine

A decoupler with everything around it: the tasks that it has queued on its dispatch, the timers of
deferred cycles, a clock, an optional read function, and the journal.  An operation is one atomic
step.  The engine never runs a task of its own accord: submitting a cycle queues it, and `runNext`
takes the oldest task and runs it up to the point where the listener is called.

Producers and tokens reach the decoupler without keeping it alive.  It exists as long as its owner
holds it or a call of the listener is under way; after that every call through them does nothing.
-/

set_option autoImplicit false

namespace Cadence

/-- A deferred cycle and the instant, in nanoseconds, from which it may be submitted. -/
structure Timer where
  cycle : Nat
  due : Nat
  deriving DecidableEq, Repr

structure Engine (α : Type) where
  subject : String
  decoupler : Decoupler α
  source : Option (ReadFunction α)
  /-- Timers can be run; without them a deferred cycle is submitted at once. -/
  hasRuntime : Bool
  /-- Dropping the owner closes the decoupler first. -/
  closesOnDrop : Bool
  /-- Why the dispatch takes no task, if it takes none. -/
  refusal : Option Refusal
  /-- The cycles whose tasks the dispatch has not yet run, oldest first. -/
  queue : List Nat
  timers : List Timer
  now : Nat
  held : Bool
  running : Nat
  journal : List Notice

namespace Engine

variable {α : Type}

def init (subject : String) (decoupler : Decoupler α) (source : Option (ReadFunction α))
    (hasRuntime closesOnDrop : Bool) : Engine α where
  subject := subject
  decoupler := decoupler
  source := source
  hasRuntime := hasRuntime
  closesOnDrop := closesOnDrop
  refusal := none
  queue := []
  timers := []
  now := 0
  held := true
  running := 0
  journal := []

def isAlive (e : Engine α) : Bool := e.held || decide (0 < e.running)

/-- The decoupler is closed, or exists no more: what a producer sees. -/
def isClosed (e : Engine α) : Bool := !e.isAlive || e.decoupler.pacer.closed

def note (e : Engine α) (notices : List Notice) : Engine α :=
  { e with journal := e.journal ++ notices }

def close (e : Engine α) : Engine α :=
  if e.decoupler.pacer.closed then e
  else { e with decoupler := e.decoupler.close }.note [.closed e.subject]

/-- Hands a cycle's task to the dispatch.  A dispatch that takes none closes the decoupler. -/
def submit (e : Engine α) (cycle : Nat) : Engine α :=
  match e.refusal with
  | none => { e with queue := e.queue ++ [cycle] }
  | some refusal => (e.note [.couldNotSubmit e.subject cycle refusal]).close

def apply (e : Engine α) (transition : Transition) : Engine α :=
  let (decoupler, order) := e.decoupler.follow transition
  let e := { e with decoupler := decoupler }
  match order with
  | none => e
  | some (.submit cycle) => (e.note [.scheduling e.subject cycle]).submit cycle
  | some (.defer cycle delay) =>
      if e.hasRuntime then
        { e with timers := e.timers ++ [Timer.mk cycle (e.now + delay)] }.note
          [.deferring e.subject cycle delay]
      else (e.note [.cannotDefer e.subject cycle delay]).submit cycle

def signal (e : Engine α) (s : Signal) : Engine α :=
  if e.isAlive then
    let (decoupler, transition) := e.decoupler.signal s e.now
    ({ e with decoupler := decoupler }.note [.signalled e.subject s]).apply transition
  else e

def store (e : Engine α) (value : Option α) : Engine α × Bool :=
  let (decoupler, writing) := e.decoupler.store value
  ({ e with decoupler := decoupler }.note writing.notices, writing.accepted)

/-- A producer's write: nothing happens once the subscription is closed, and a value that reaches
the buffer is signalled. -/
def write (e : Engine α) (value : Option α) : Engine α × Bool :=
  if e.isClosed then (e.note [.writeAfterClose], false)
  else
    let (e, accepted) := e.store value
    if accepted then (e.signal .value, true) else (e, false)

/-- A producer's collection: calls the read function once, and signals a value or a failure. -/
def collect (e : Engine α) : Engine α × Except Panic CollectOutcome :=
  if e.isClosed then (e, .ok .noUpdate)
  else
    match e.source with
    | none => (e.note [.collectWithoutFunction], .ok .noUpdate)
    | some f =>
        let c := f.collect e.decoupler.buffer
        let tally :=
          { e.decoupler.tally with
            evictions := e.decoupler.tally.evictions + c.writing.evictions }
        let e :=
          { e with
            source := some c.function
            decoupler := { e.decoupler with buffer := c.buffer, tally := tally } }.note c.notices
        match c.outcome with
        | .ok .stored => (e.signal .value, .ok .stored)
        | .ok (.failed cause) => (e.signal (.readException cause), .ok (.failed cause))
        | outcome => (e, outcome)

def feed (e : Engine α) (value : Option α) : Engine α :=
  { e with source := e.source.map fun f => f.push value }

def ready (e : Engine α) (cycle : Nat) : Engine α × Except ProtocolViolation Unit :=
  if e.isAlive then
    match e.decoupler.ready cycle e.now with
    | (decoupler, .ok transition) => ({ e with decoupler := decoupler }.apply transition, .ok ())
    | (decoupler, .error violation) =>
        let notices :=
          if e.decoupler.pacer.closed then [.violated e.subject violation]
          else [.violated e.subject violation, .closed e.subject]
        ({ e with decoupler := decoupler }.note notices, .error violation)
  else (e, .ok ())

def pause (e : Engine α) : Engine α :=
  if e.held then { e with decoupler := e.decoupler.pause }.note [.paused e.subject] else e

def resume (e : Engine α) : Engine α :=
  if e.held then
    let (decoupler, transition) := e.decoupler.resume e.now
    ({ e with decoupler := decoupler }.note [.resumed e.subject transition]).apply transition
  else e

def shut (e : Engine α) : Engine α := if e.held then e.close else e

def drop (e : Engine α) : Engine α :=
  if e.held then
    let e :=
      if e.closesOnDrop && !e.decoupler.pacer.closed then
        (e.note [.closingDropped e.subject]).close
      else e
    { e with held := false }
  else e

/-- Runs the task of a cycle.  If it delivers an event, a call of the listener is under way until
`returned`. -/
def runTask (e : Engine α) (cycle : Nat) : Engine α × Option (Event α) :=
  if e.isAlive then
    let reading := e.decoupler.buffer.readNotices
    match e.decoupler.runCycle cycle e.now with
    | (decoupler, .dropped) =>
        ({ e with decoupler := decoupler }.note [.cycleDropped e.subject cycle], none)
    | (decoupler, .skipped transition) =>
        (({ e with decoupler := decoupler }.note
          (reading ++ [Notice.nothingToDeliver e.subject cycle])).apply transition, none)
    | (decoupler, .delivered event) =>
        ({ e with decoupler := decoupler, running := e.running + 1 }.note
          (reading ++ [Notice.delivering e.subject cycle event.kinds event.values.length]),
          some event)
  else (e, none)

def runNext (e : Engine α) : Engine α × Option (Option (Event α)) :=
  match e.queue with
  | [] => (e, none)
  | cycle :: rest =>
      let (e, event) := { e with queue := rest }.runTask cycle
      (e, some event)

def returned (e : Engine α) : Engine α := { e with running := e.running - 1 }

def discard (e : Engine α) : Engine α × Bool :=
  ({ e with queue := e.queue.drop 1 }, !e.queue.isEmpty)

def setRefusal (e : Engine α) (refusal : Option Refusal) : Engine α :=
  { e with refusal := refusal }

/-- The timer at a position goes off: its cycle is submitted. -/
def fire (e : Engine α) (index : Nat) : Engine α :=
  match e.timers[index]? with
  | none => e
  | some timer =>
      let e := { e with timers := e.timers.eraseIdx index }
      if e.isAlive then e.submit timer.cycle else e

def cancelTimers (e : Engine α) : Engine α :=
  if e.isClosed then
    { e with timers := [] }.note
      (e.timers.map fun (timer : Timer) => Notice.deferralCancelled timer.cycle)
  else e

/-- Time passes; timers that fall due do not go off by themselves. -/
def elapse (e : Engine α) (nanos : Nat) : Engine α := { e with now := e.now + nanos }

end Engine

end Cadence
