import Cadence.Proofs.Buffer.Access
import Cadence.Proofs.Buffer.Bounded
import Mathlib.Data.List.Induction
import Mathlib.Data.List.Perm.Basic

/-!
# What a bounded queue returns

The ledger of a buffer keeps what came of each access.  For a buffer with a capacity it balances:
what was written since the last read is what was pushed out since, followed by what the next read
returns, and on the whole every value that was written was pushed out, returned or is still there.
A queue counts its evictions, and that count is how many values were pushed out.
-/

set_option autoImplicit false

namespace Cadence.Buffer

open scoped List

variable {α : Type}

/-! ## Ledgers -/

structure Entry (α : Type) where
  written : Option α
  writing : Writing
  /-- The value that made room for the written one. -/
  pushedOut : Option α
  /-- What a read returned. -/
  batch : Option (List α)

def entry (b : Buffer α) : Access α → Entry α
  | .write value => ⟨value, (b.write value).2, b.pushedOut? value, none⟩
  | .read => ⟨none, .nothing, none, some b.read.2⟩

def ledger (b : Buffer α) : List (Access α) → List (Entry α)
  | [] => []
  | access :: rest => b.entry access :: (b.access access).ledger rest

namespace Ledger

def written (ledger : List (Entry α)) : List α := ledger.filterMap Entry.written

def pushedOut (ledger : List (Entry α)) : List α := ledger.filterMap Entry.pushedOut

def returned (ledger : List (Entry α)) : List α := (ledger.filterMap Entry.batch).flatten

def evictions (ledger : List (Entry α)) : Nat :=
  ledger.foldl (fun count entry => count + entry.writing.evictions) 0

def sinceRead (ledger : List (Entry α)) : List (Entry α) :=
  ledger.rtakeWhile fun entry => entry.batch.isNone

theorem written_concat (ledger : List (Entry α)) (entry : Entry α) :
    written (ledger ++ [entry]) = written ledger ++ entry.written.toList := by
  rw [written, List.filterMap_append, written]
  cases h : entry.written <;> simp [h]

theorem pushedOut_concat (ledger : List (Entry α)) (entry : Entry α) :
    pushedOut (ledger ++ [entry]) = pushedOut ledger ++ entry.pushedOut.toList := by
  rw [pushedOut, List.filterMap_append, pushedOut]
  cases h : entry.pushedOut <;> simp [h]

theorem returned_concat (ledger : List (Entry α)) (entry : Entry α) :
    returned (ledger ++ [entry]) = returned ledger ++ entry.batch.getD [] := by
  rw [returned, List.filterMap_append, returned, List.flatten_append]
  cases h : entry.batch <;> simp [h]

theorem sinceRead_concat_read {ledger : List (Entry α)} {entry : Entry α} {values : List α}
    (read : entry.batch = some values) : sinceRead (ledger ++ [entry]) = [] := by
  rw [sinceRead, List.rtakeWhile_concat_neg _ _ _ (by simp [read])]

theorem sinceRead_concat_write {ledger : List (Entry α)} {entry : Entry α}
    (write : entry.batch = none) : sinceRead (ledger ++ [entry]) = sinceRead ledger ++ [entry] := by
  rw [sinceRead, List.rtakeWhile_concat_pos _ _ _ (by simp [write]), sinceRead]

end Ledger

open Ledger

theorem ledger_concat (b : Buffer α) (history : List (Access α)) (access : Access α) :
    b.ledger (history ++ [access]) = b.ledger history ++ [(b.after history).entry access] := by
  induction history generalizing b with
  | nil => rfl
  | cons first rest ih =>
      rw [List.cons_append, ledger, ih, ledger, List.cons_append]
      rfl

/-! ## The balance of a bounded buffer -/

/-- The ledger accounts for every value. -/
structure Balanced (capacity : Nat) (ledger : List (Entry α)) (b : Buffer α) : Prop where
  bounded : b.capacity? = some capacity
  contents : b.contents = (written (sinceRead ledger)).rtake capacity
  span : pushedOut (sinceRead ledger) ++ b.contents = written (sinceRead ledger)
  whole : (written ledger).Perm (pushedOut ledger ++ returned ledger ++ b.contents)

section

variable {capacity : Nat} {ledger : List (Entry α)} {b : Buffer α}

theorem balanced_new (new : b.New capacity) : Balanced capacity [] b where
  bounded := new.bounded
  contents := by
    rw [new.empty]
    exact (List.rtake_nil _).symm
  span := new.empty
  whole := by
    rw [new.empty]
    exact List.Perm.refl _

theorem balanced_write (positive : 0 < capacity) (balanced : Balanced capacity ledger b)
    (value : Option α) :
    Balanced capacity (ledger ++ [b.entry (.write value)]) (b.write value).1 := by
  have fits : b.contents.length ≤ capacity := by
    rw [balanced.contents]
    exact length_rtake_le _ capacity
  have moved := pushedOut_append_contents balanced.bounded positive fits value
  have since : sinceRead (ledger ++ [b.entry (.write value)]) =
      sinceRead ledger ++ [b.entry (.write value)] := sinceRead_concat_write rfl
  constructor
  · exact (capacity_write b value).trans balanced.bounded
  · rw [since, written_concat]
    exact contents_write_of_history balanced.bounded positive balanced.contents value
  · rw [since, written_concat, pushedOut_concat, List.append_assoc]
    calc pushedOut (sinceRead ledger) ++
          ((b.pushedOut? value).toList ++ (b.write value).1.contents)
      _ = pushedOut (sinceRead ledger) ++ (b.contents ++ value.toList) := by rw [moved]
      _ = written (sinceRead ledger) ++ value.toList := by
          rw [← List.append_assoc, balanced.span]
  · rw [written_concat, pushedOut_concat, returned_concat]
    let pushed := (b.pushedOut? value).toList
    let left := (b.write value).1.contents
    calc written ledger ++ value.toList
      _ ~ pushedOut ledger ++ returned ledger ++ b.contents ++ value.toList :=
          balanced.whole.append_right value.toList
      _ = pushedOut ledger ++ (returned ledger ++ (pushed ++ left)) := by
          rw [moved, List.append_assoc, List.append_assoc]
      _ ~ pushedOut ledger ++ (pushed ++ (returned ledger ++ left)) :=
          (List.perm_append_comm_assoc _ _ _).append_left _
      _ = pushedOut ledger ++ pushed ++ (returned ledger ++ []) ++ left := by
          rw [List.append_nil, List.append_assoc, List.append_assoc]

theorem balanced_read (balanced : Balanced capacity ledger b) :
    Balanced capacity (ledger ++ [b.entry .read]) b.read.1 := by
  have since : sinceRead (ledger ++ [b.entry .read]) = [] := sinceRead_concat_read rfl
  have emptied := contents_read balanced.bounded
  constructor
  · exact (capacity_read b).trans balanced.bounded
  · rw [since, emptied]
    exact (List.rtake_nil _).symm
  · rw [since, emptied]
    rfl
  · rw [written_concat, pushedOut_concat, returned_concat, emptied]
    calc written ledger ++ []
      _ ~ pushedOut ledger ++ returned ledger ++ b.contents := by
          rw [List.append_nil]
          exact balanced.whole
      _ = pushedOut ledger ++ [] ++ (returned ledger ++ b.contents) ++ [] := by
          rw [List.append_nil, List.append_nil, List.append_assoc]

theorem balanced_after (new : b.New capacity) (history : List (Access α)) :
    Balanced capacity (b.ledger history) (b.after history) := by
  induction history using List.reverseRecOn with
  | nil => exact balanced_new new
  | append_singleton history access ih =>
      rw [ledger_concat, after_concat]
      cases access with
      | write value => exact balanced_write new.positive ih value
      | read => exact balanced_read ih

end

/-! ## Queues -/

theorem access_queue (q : Queue α) (access : Access α) :
    ∃ q', (queue q).access access = queue q' := by
  cases access with
  | write value => cases value <;> exact ⟨_, rfl⟩
  | read => exact ⟨_, rfl⟩

theorem after_queue (q : Queue α) (history : List (Access α)) :
    ∃ q', (queue q).after history = queue q' := by
  induction history using List.reverseRecOn with
  | nil => exact ⟨q, rfl⟩
  | append_singleton history access ih =>
      obtain ⟨left, is⟩ := ih
      rw [after_concat, is]
      exact access_queue left access

/-- A queue counts an eviction whenever a write pushes a value out. -/
theorem evictions_entry (q : Queue α) (access : Access α) :
    ((queue q).entry access).writing.evictions =
      ((queue q).entry access).pushedOut.toList.length := by
  cases access with
  | read => rfl
  | write value =>
      cases value with
      | none => rfl
      | some value =>
          by_cases evicts : q.evicts = true
          · have some : ∃ oldest rest, q.items = oldest :: rest := by
              rw [Queue.evicts, Bool.and_eq_true, Bool.not_eq_true', List.isEmpty_eq_false_iff]
                at evicts
              exact List.exists_cons_of_ne_nil evicts.2
            obtain ⟨oldest, rest, items⟩ := some
            simp [entry, pushedOut?, write, store, evicts, contents, read, Queue.read, items,
              Writing.evictions]
          · simp [entry, pushedOut?, write, store, evicts, Writing.evictions]

theorem evictions_ledger (q : Queue α) (history : List (Access α)) :
    evictions ((queue q).ledger history) = (pushedOut ((queue q).ledger history)).length := by
  induction history using List.reverseRecOn with
  | nil => rfl
  | append_singleton history access ih =>
      obtain ⟨left, is⟩ := after_queue q history
      have last := evictions_entry left access
      rw [ledger_concat, pushedOut_concat, List.length_append, ← ih, is, ← last, evictions,
        List.foldl_concat]
      rfl

/-- The queue that is asked for is built if and only if the values that it may hold can be addressed. -/
theorem allocate_ok_iff (width capacity : Nat) :
    Queue.allocate width capacity = .ok (.ofCapacity capacity : Queue α) ↔
      ((max capacity 1 * width : Nat) : Int) ≤ wordMax := by
  unfold Queue.allocate
  split
  case isTrue tooMuch => exact ⟨nofun, fun fits => absurd tooMuch (Int.not_lt.mpr fits)⟩
  case isFalse fits => exact ⟨fun _ => Int.not_lt.mp fits, fun _ => rfl⟩

theorem allocate_of_overflow {width capacity : Nat}
    (tooMuch : wordMax < ((max capacity 1 * width : Nat) : Int)) :
    (Queue.allocate width capacity : Except Panic (Queue α)) = .error .capacityOverflow :=
  if_pos tooMuch

/-! ## Main result -/

/-- A queue is built if and only if the values that it may hold can be addressed, and asking for more
panics.  Whatever capacity is asked for, it holds at least one value.  After any accesses the next read
returns the values written since the last one, or as many of the last of them as there is room for, and
nothing is left.  A write is accepted if it
brings a value, and changes nothing otherwise.  The values pushed out are the oldest of those
written since the last read; with the values returned and those still there they are all that was
written, and they are counted as evictions. -/
theorem queued_contents (capacity : Nat) (history : List (Access α)) :
    let new : Buffer α := .queue (.ofCapacity capacity)
    let b := new.after history
    let ledger := new.ledger history
    let room := max capacity 1
    (∀ width : Nat,
      (Queue.allocate width capacity = .ok (.ofCapacity capacity : Queue α) ↔
        ((room * width : Nat) : Int) ≤ wordMax) ∧
      (wordMax < ((room * width : Nat) : Int) →
        (Queue.allocate width capacity : Except Panic (Queue α)) = .error .capacityOverflow)) ∧
    b.read.2 = (written (sinceRead ledger)).rtake room ∧
    b.read.2.length = min room (written (sinceRead ledger)).length ∧
    b.read.1.contents = [] ∧
    (∃ q, b = .queue q ∧ q.items = b.read.2 ∧ q.items.length ≤ room) ∧
    (∀ value, (b.write value).2.accepted = value.isSome) ∧
    b.write none = (b, .nothing) ∧
    pushedOut (sinceRead ledger) ++ b.read.2 = written (sinceRead ledger) ∧
    (written ledger).Perm (pushedOut ledger ++ returned ledger ++ b.read.2) ∧
    evictions ledger = (pushedOut ledger).length := by
  intro new b ledger room
  have balanced : Balanced room ledger b := balanced_after (new_queue capacity) history
  have read : b.read.2 = (written (sinceRead ledger)).rtake room := balanced.contents
  refine ⟨fun width => ⟨allocate_ok_iff width capacity, allocate_of_overflow⟩, read, ?many,
    contents_read balanced.bounded, ?isQueue, accepted_write balanced.bounded, rfl, balanced.span,
    balanced.whole, evictions_ledger (.ofCapacity capacity) history⟩
  case many =>
    rw [read, List.rtake, List.length_drop]
    omega
  case isQueue =>
    obtain ⟨q, is⟩ := after_queue (.ofCapacity capacity) history
    have items : q.items = b.read.2 := (congrArg contents is).symm
    refine ⟨q, is, items, ?_⟩
    rw [items, read]
    exact length_rtake_le _ room

/-- Five values and a read in a queue of no capacity, which holds one value all the same. -/
example :
    let new : Buffer Nat := .queue (.ofCapacity 0)
    let history : List (Access Nat) :=
      [.write (some 1), .write (some 2), .write none, .read, .write (some 3), .write (some 4),
        .write (some 5)]
    (new.after history).read.2 = [5] ∧ Ledger.returned (new.ledger history) = [2] ∧
      Ledger.pushedOut (new.ledger history) = [1, 3, 4] ∧
      Ledger.evictions (new.ledger history) = 3 := by decide

end Cadence.Buffer
