import Cadence.Engine.Action
import Cadence.Proofs.Buffer.Bounded
import Cadence.Proofs.Pacer.Marks

/-!
# Runs of an engine

Whatever can happen to an engine happens by moves, each of them atomic.  A run is a history of
moves; each entry keeps what the move answered and what it did to the buffer, so that statements
about values, events and tokens are statements about a list.

A timer may go off at any time, so that statements about runs do not depend on the clock.
-/

set_option autoImplicit false

namespace Cadence.Engine

inductive Move (α : Type)
  | call (action : Action α)
  | run
  | returned
  /-- The timer at a position goes off. -/
  | fire (index : Nat)
  /-- The timers of a closed decoupler are given up. -/
  | cancel
  /-- The dispatch takes tasks from now on, or refuses them. -/
  | refuse (refusal : Option Refusal)
  | elapse (nanos : Nat)

inductive Outcome (α : Type)
  | answered (answer : Except Panic Answer)
  /-- There was a task or not, and it delivered an event or not. -/
  | ran (task : Option (Option (Event α)))
  | passed

/-- The caller was told that a value is in the buffer. -/
def Outcome.accepts {α : Type} : Outcome α → Bool
  | answered (.ok (.flag accepted)) => accepted
  | answered (.ok (.collected .stored)) => true
  | _ => false

structure Entry (α : Type) where
  move : Move α
  outcome : Outcome α
  /-- The value that the move put into the buffer. -/
  accepted : Option α
  /-- The value that made room for it. -/
  pushedOut : Option α
  batch : Option (List α)

variable {α : Type}

def move (e : Engine α) : Move α → Engine α × Outcome α
  | .call action => ((e.act action).1, .answered (e.act action).2)
  | .run => (e.runNext.1, .ran e.runNext.2)
  | .returned => (e.returned, .passed)
  | .fire index => (e.fire index, .passed)
  | .cancel => (e.cancelTimers, .passed)
  | .refuse refusal => (e.setRefusal refusal, .passed)
  | .elapse nanos => (e.elapse nanos, .passed)

def offered (e : Engine α) : Move α → Option α
  | .call (.write value) => value
  | .call (.post value) => value
  | .call (.store value) => value
  | .call .collect =>
      match e.source.map ReadFunction.call with
      | some (_, .value value) => value
      | _ => none
  | _ => none

/-- What a move reads from the buffer: the oldest task reads it if its cycle starts. -/
def read? (e : Engine α) : Move α → Option (List α)
  | .run =>
      match e.queue with
      | [] => none
      | cycle :: _ =>
          if e.isAlive then
            (e.decoupler.pacer.begin cycle e.now).2.map fun _ => e.decoupler.buffer.contents
          else none
  | _ => none

def entry (e : Engine α) (m : Move α) : Entry α :=
  let accepted := if (e.move m).2.accepts then e.offered m else none
  { move := m
    outcome := (e.move m).2
    accepted := accepted
    pushedOut := e.decoupler.buffer.pushedOut? accepted
    batch := e.read? m }

/-! ## Histories -/

namespace Entry

def event? (entry : Entry α) : Option (Event α) :=
  match entry.outcome with
  | .ran (some event) => event
  | _ => none

/-- The signal that the move sent.  A value that reached the buffer is signalled, unless it was
written into the buffer alone. -/
def signal? (entry : Entry α) : Option Signal :=
  match entry.move, entry.outcome with
  | .call (.signal s), _ => some s
  | .call (.store _), _ => none
  | _, .answered (.ok (.collected (.failed cause))) => some (.readException cause)
  | _, _ => entry.accepted.map fun _ => .value

def mark? (entry : Entry α) : Option Mark :=
  if entry.batch.isSome then some .start else entry.signal?.map .signal

/-- The tokens that are out after the move: an event comes with one, and spending takes it. -/
def tokens (out : List Nat) (entry : Entry α) : List Nat :=
  match entry.event?, entry.move with
  | some event, _ => out ++ [event.cycle]
  | none, .call (.spend cycle) => out.erase cycle
  | none, _ => out

end Entry

def marks (history : List (Entry α)) : List Mark := history.filterMap Entry.mark?

def accepted (history : List (Entry α)) : List α := history.filterMap Entry.accepted

def pushedOut (history : List (Entry α)) : List α := history.filterMap Entry.pushedOut

def delivered (history : List (Entry α)) : List α :=
  (history.filterMap Entry.event?).flatMap Event.values

/-- The values that reached the buffer after a cycle last read it. -/
def unread (history : List (Entry α)) : List α :=
  accepted (history.rtakeWhile fun entry => entry.batch.isNone)

def tokens (history : List (Entry α)) : List Nat := history.foldl Entry.tokens []

theorem marks_concat (history : List (Entry α)) (entry : Entry α) :
    marks (history ++ [entry]) = marks history ++ entry.mark?.toList :=
  filterMap_concat Entry.mark? history entry

theorem accepted_concat (history : List (Entry α)) (entry : Entry α) :
    accepted (history ++ [entry]) = accepted history ++ entry.accepted.toList :=
  filterMap_concat Entry.accepted history entry

theorem pushedOut_concat (history : List (Entry α)) (entry : Entry α) :
    pushedOut (history ++ [entry]) = pushedOut history ++ entry.pushedOut.toList :=
  filterMap_concat Entry.pushedOut history entry

theorem delivered_concat (history : List (Entry α)) (entry : Entry α) :
    delivered (history ++ [entry]) =
      delivered history ++ entry.event?.toList.flatMap Event.values := by
  rw [delivered, filterMap_concat, List.flatMap_append]
  rfl

theorem tokens_concat (history : List (Entry α)) (entry : Entry α) :
    tokens (history ++ [entry]) = entry.tokens (tokens history) := by
  rw [tokens, List.foldl_concat]
  rfl

theorem unread_concat_of_read {history : List (Entry α)} {entry : Entry α} {values : List α}
    (read : entry.batch = some values) : unread (history ++ [entry]) = [] := by
  rw [unread, List.rtakeWhile_concat_neg _ _ _ (by simp [read])]
  rfl

theorem unread_concat {history : List (Entry α)} {entry : Entry α} (other : entry.batch = none) :
    unread (history ++ [entry]) = unread history ++ entry.accepted.toList := by
  rw [unread, List.rtakeWhile_concat_pos _ _ _ (by simp [other]), accepted_concat]
  rfl

/-! ## Runs -/

/-- The histories of allowed moves from `start`, with the engines that they lead to.  Which moves
are allowed may depend on what happened before. -/
inductive Run (allowed : List (Entry α) → Move α → Prop) (start : Engine α) :
    List (Entry α) → Engine α → Prop
  | start : Run allowed start [] start
  | step {history : List (Entry α)} {e : Engine α} {m : Move α} :
      Run allowed start history e → allowed history m →
        Run allowed start (history ++ [e.entry m]) (e.move m).1

theorem Run.split {allowed : List (Entry α) → Move α → Prop} {start e : Engine α}
    {history before after : List (Entry α)} {entry : Entry α} (run : Run allowed start history e)
    (split : history = before ++ entry :: after) :
    ∃ e₁ m, Run allowed start before e₁ ∧ allowed before m ∧ entry = e₁.entry m := by
  induction run generalizing after with
  | start => simp at split
  | step earlier permitted ih =>
      rcases concat_eq_append_cons split with ⟨rfl, rfl, _⟩ | ⟨rest, _, rfl⟩
      · exact ⟨_, _, earlier, permitted, rfl⟩
      · exact ih rfl

def play (e : Engine α) (history : List (Entry α)) : List (Move α) → List (Entry α) × Engine α
  | [] => (history, e)
  | m :: rest => (e.move m).1.play (history ++ [e.entry m]) rest

def Permits (allowed : List (Entry α) → Move α → Prop) (e : Engine α)
    (history : List (Entry α)) : List (Move α) → Prop
  | [] => True
  | m :: rest =>
      allowed history m ∧ Permits allowed (e.move m).1 (history ++ [e.entry m]) rest

theorem Run.play {allowed : List (Entry α) → Move α → Prop} {start e : Engine α}
    {history : List (Entry α)} (run : Run allowed start history e) {moves : List (Move α)}
    (permitted : Permits allowed e history moves) :
    Run allowed start (e.play history moves).1 (e.play history moves).2 := by
  induction moves generalizing e history with
  | nil => exact run
  | cons m rest ih => exact ih (run.step permitted.1) permitted.2

/-- Nobody closes the decoupler or lets go of it, its dispatch takes every task, and only tokens
that are out are spent. -/
def Orderly (history : List (Entry α)) : Move α → Prop
  | .call .close => False
  | .call .drop => False
  | .call (.ready _) => False
  | .call (.spend cycle) => cycle ∈ tokens history
  | .refuse _ => False
  | _ => True

/-- A producer's write and its signal are one step. -/
def Atomic (history : List (Entry α)) (m : Move α) : Prop :=
  Orderly history m ∧ ∀ value, m ≠ .call (.store value)

end Cadence.Engine
