import Cadence.Engine.Action

/-!
# Rehearsals

A rehearsal drives one engine by instructions, with a listener that answers every event by
instructions of its own, on a clock that moves only when told to.  Instructions of the listener are
carried out while its call is under way, so that calls nest if the dispatch runs its tasks inline.

Nothing bounds how deep calls of the listener may nest or how long a dispatch may be kept busy, so
both are given as limits; a rehearsal within its limits does not depend on them.
-/

set_option autoImplicit false

namespace Cadence

inductive Drive
  | manual
  /-- Each one as soon as it is submitted. -/
  | inline
  /-- All of them after each step, on a thread whose reports are not kept. -/
  | worker (name : String)
  /-- All of them after each step, on the thread of the rehearsal. -/
  | eventLoop (name : String)
  deriving DecidableEq, Repr

inductive Instruction (α : Type)
  | act (action : Engine.Action α)
  | runNext
  | runAll
  | discard
  | refuse (refusal : Option Refusal)
  | shutDown
  | ready
  /-- Drops that token, or the one parked first. -/
  | dropToken
  | release (index : Nat)
  | panic (cause : Panic)
  | pass

inductive Reply
  | answer (a : Engine.Answer)
  | count (n : Nat)
  | released (cycle : Nat) (result : Except ProtocolViolation Unit)
  | cycle (n : Nat)

namespace Reply

def none : Reply := answer .none

def flag (b : Bool) : Reply := answer (.flag b)

def verdict (result : Except ProtocolViolation Unit) : Reply := answer (.verdict result)

end Reply

structure Heard (α : Type) where
  event : Event α
  replies : List Reply

structure Rehearsal (α : Type) where
  engine : Engine α
  drive : Drive
  /-- What the listener does with its first events, in turn. -/
  script : List (List (Instruction α))
  /-- What it does with every other event. -/
  fallback : List (Instruction α)
  parked : List Nat
  heard : Array (Heard α)
  reported : Nat
  refusal : Option Refusal
  isShutDown : Bool
  isStopped : Bool

namespace Rehearsal

variable {α : Type}

/-- A listener call: what it does to the rehearsal, and the panic it ends in, if it does. -/
abbrev Call (α : Type) := Rehearsal α → Event α → Rehearsal α × Option Panic

def init (engine : Engine α) (drive : Drive) (script : List (List (Instruction α)))
    (fallback : List (Instruction α)) : Rehearsal α where
  engine := engine
  drive := drive
  script := script
  fallback := fallback
  parked := []
  heard := #[]
  reported := 0
  refusal := none
  isShutDown := false
  isStopped := false

def runNext (call : Call α) (r : Rehearsal α) : Rehearsal α × Except Panic Bool :=
  match r.engine.runNext with
  | (engine, none) => ({ r with engine := engine }, .ok false)
  | (engine, some none) => ({ r with engine := engine }, .ok true)
  | (engine, some (some event)) =>
      match call { r with engine := engine } event with
      | (r, none) => (r, .ok true)
      | (r, some panic) => (r, .error panic)

/-- Runs tasks until none is left; `ran` of them have been run before. -/
def runAll (call : Call α) : Nat → Nat → Rehearsal α → Rehearsal α × Except Panic Nat
  | 0, ran, r => (r, .ok ran)
  | limit + 1, ran, r =>
      match r.runNext call with
      | (r, .ok false) => (r, .ok ran)
      | (r, .ok true) => runAll call limit (ran + 1) r
      | (r, .error panic) => (r, .error panic)

/-- Goes on with `engine`: an inline dispatch runs at once what was submitted to it. -/
def proceed (call : Call α) (r : Rehearsal α) (engine : Engine α) (reply : Reply) :
    Rehearsal α × Except Panic Reply :=
  let r := { r with engine := engine }
  if r.drive = .inline then
    match r.runNext call with
    | (r, .ok _) => (r, .ok reply)
    | (r, .error panic) => (r, .error panic)
  else (r, .ok reply)

def spend (call : Call α) (r : Rehearsal α) (cycle : Nat)
    (reply : Except ProtocolViolation Unit → Reply) : Rehearsal α × Except Panic Reply :=
  let (engine, result) := r.engine.ready cycle
  r.proceed call engine (reply result)

def currentRefusal (r : Rehearsal α) : Option Refusal :=
  match r.refusal, r.drive with
  | some refusal, _ => some refusal
  | none, .worker name => if r.isShutDown then some (.shutDown name) else none
  | none, _ => none

def updateRefusal (r : Rehearsal α) : Rehearsal α :=
  { r with engine := r.engine.setRefusal r.currentRefusal }

/-- Carries out one instruction.  `token` is that of the event being listened to, as long as it has
been neither spent nor dropped. -/
def perform (call : Call α) (limit : Nat) (r : Rehearsal α) (token : Option Nat) :
    Instruction α → (Rehearsal α × Except Panic Reply) × Option Nat
  | .act action =>
      match r.engine.act action with
      | (engine, .ok answer) => (r.proceed call engine (.answer answer), token)
      | (engine, .error panic) => (({ r with engine := engine }, .error panic), token)
  | .runNext =>
      match r.runNext call with
      | (r, .ok ran) => ((r, .ok (.flag ran)), token)
      | (r, .error panic) => ((r, .error panic), token)
  | .runAll =>
      match r.runAll call limit 0 with
      | (r, .ok ran) => ((r, .ok (.count ran)), token)
      | (r, .error panic) => ((r, .error panic), token)
  | .discard =>
      let (engine, discarded) := r.engine.discard
      (({ r with engine := engine }, .ok (.flag discarded)), token)
  | .refuse refusal => (({ r with refusal := refusal }.updateRefusal, .ok .none), token)
  | .shutDown => (({ r with isShutDown := true }.updateRefusal, .ok .none), token)
  | .ready =>
      match token with
      | none => ((r, .ok .none), none)
      | some cycle => (r.spend call cycle .verdict, none)
  | .dropToken =>
      match token, r.parked with
      | some cycle, _ => ((r, .ok (.cycle cycle)), none)
      | none, cycle :: rest => (({ r with parked := rest }, .ok (.cycle cycle)), none)
      | none, [] => ((r, .ok .none), none)
  | .release index =>
      match r.parked[index]? with
      | none => ((r, .ok .none), token)
      | some cycle =>
          ({ r with parked := r.parked.eraseIdx index }.spend call cycle (.released cycle), token)
  | .panic cause => ((r, .error cause), token)
  | .pass => ((r, .ok .none), token)

def record (r : Rehearsal α) (position : Nat) (reply : Reply) : Rehearsal α :=
  { r with
    heard := r.heard.modify position fun heard =>
      { heard with replies := heard.replies ++ [reply] } }

/-- Carries out the instructions for the event at a position.  A panic ends them. -/
def performAll (call : Call α) (limit position : Nat) (r : Rehearsal α) (token : Option Nat) :
    List (Instruction α) → (Rehearsal α × Option Panic) × Option Nat
  | [] => ((r, none), token)
  | instruction :: rest =>
      match r.perform call limit token instruction with
      | ((r, .ok reply), token) =>
          performAll call limit position (r.record position reply) token rest
      | ((r, .error panic), token) => ((r, some panic), token)

/-- Calls the listener.  A token that it neither spends nor drops is parked, unless it panics. -/
def call (limit : Nat) : Nat → Call α
  | 0, r, _ => ({ r with engine := r.engine.returned }, none)
  | depth + 1, r, event =>
      let position := r.heard.size
      let instructions := (r.script[position]?).getD r.fallback
      let r := { r with heard := r.heard.push ⟨event, []⟩ }
      match performAll (call limit depth) limit position r (some event.cycle) instructions with
      | ((r, none), token) =>
          ({ r with engine := r.engine.returned, parked := r.parked ++ token.toList }, none)
      | ((r, some panic), _) => ({ r with engine := r.engine.returned }, some panic)

end Rehearsal

end Cadence
