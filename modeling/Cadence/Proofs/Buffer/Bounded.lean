import Cadence.Buffer.Basic
import Mathlib.Data.List.DropRight

/-!
# Bounded buffers

The slot for the latest value and the queue are the same buffer of different capacities: each keeps
the last values written since it was read, as many as its capacity allows, and pushes the oldest out
for a new one.
-/

set_option autoImplicit false

namespace Cadence

/-- How many values a policy keeps between two reads; a time window has no such bound. -/
def Policy.capacity? : Policy → Option Nat
  | latest => some 1
  | queue capacity => some capacity.toNat
  | timeWindow _ => none

theorem Queue.eq_of_allocate {α : Type} {width capacity : Nat} {q : Queue α}
    (allocated : Queue.allocate width capacity = .ok q) : q = .ofCapacity capacity := by
  unfold Queue.allocate at allocated
  split at allocated
  · cases allocated
  · exact (Except.ok.inj allocated).symm

namespace Buffer

variable {α : Type}

def capacity? : Buffer α → Option Nat
  | latest _ => some 1
  | queue q => some q.capacity
  | window _ _ => none

/-- What a read would find. -/
def contents (b : Buffer α) : List α := b.read.2

/-- The value that a write takes out of the buffer to make room. -/
def pushedOut? (b : Buffer α) (value : Option α) : Option α :=
  match (b.write value).2 with
  | .replaced => b.contents.head?
  | .evicted _ => b.contents.head?
  | _ => none

/-- A buffer that nothing has been written to yet, and that keeps up to `capacity` values. -/
structure New (capacity : Nat) (b : Buffer α) : Prop where
  bounded : b.capacity? = some capacity
  positive : 0 < capacity
  empty : b.contents = []

theorem new_latest : New 1 (.latest .empty : Buffer α) := ⟨rfl, Nat.one_pos, rfl⟩

theorem new_queue (capacity : Nat) :
    New (max capacity 1) (.queue (.ofCapacity capacity) : Buffer α) :=
  ⟨rfl, Nat.lt_of_lt_of_le Nat.one_pos (Nat.le_max_right capacity 1), rfl⟩

/-! ## Reading and writing -/

theorem capacity_read (b : Buffer α) : b.read.1.capacity? = b.capacity? := by
  cases b <;> rfl

theorem contents_read {b : Buffer α} {capacity : Nat} (bounded : b.capacity? = some capacity) :
    b.read.1.contents = [] := by
  cases b with
  | latest l => rfl
  | queue q => rfl
  | window stampOf w => cases bounded

theorem capacity_write (b : Buffer α) (value : Option α) :
    (b.write value).1.capacity? = b.capacity? := by
  cases value with
  | none => rfl
  | some value =>
      cases b with
      | latest l => rfl
      | queue q => rfl
      | window stampOf w =>
          simp only [write, store]
          split <;> rfl

theorem accepted_write {b : Buffer α} {capacity : Nat} (bounded : b.capacity? = some capacity)
    (value : Option α) : (b.write value).2.accepted = value.isSome := by
  cases value with
  | none => rfl
  | some value =>
      cases b with
      | latest l => simp only [write, store]; split <;> rfl
      | queue q => simp only [write, store]; split <;> rfl
      | window stampOf w => cases bounded

theorem rtake_rtake_append (l later : List α) (capacity : Nat) :
    (l.rtake capacity ++ later).rtake capacity = (l ++ later).rtake capacity := by
  simp only [List.rtake_eq_reverse_take_reverse, List.reverse_append, List.reverse_reverse,
    List.take_append, List.take_take, Nat.min_eq_left (Nat.sub_le capacity _)]

theorem length_rtake_le (l : List α) (capacity : Nat) : (l.rtake capacity).length ≤ capacity := by
  rw [List.rtake, List.length_drop]
  omega

theorem rtake_concat {l : List α} {capacity : Nat} (value : α) (fits : l.length ≤ capacity)
    (positive : 0 < capacity) :
    (l ++ [value]).rtake capacity =
      (if capacity ≤ l.length then l.drop 1 else l) ++ [value] := by
  obtain ⟨c, rfl⟩ : ∃ c, capacity = c + 1 := ⟨capacity - 1, by omega⟩
  rw [List.rtake_concat_succ, List.rtake]
  split
  · rw [show l.length - c = 1 by omega]
  · rw [show l.length - c = 0 by omega, List.drop_zero]

/-- A write keeps the last values, as many as the capacity allows. -/
theorem contents_write {b : Buffer α} {capacity : Nat} (bounded : b.capacity? = some capacity)
    (positive : 0 < capacity) (fits : b.contents.length ≤ capacity) (value : Option α) :
    (b.write value).1.contents = (b.contents ++ value.toList).rtake capacity := by
  cases value with
  | none =>
      rw [Option.toList_none, List.append_nil, List.rtake, Nat.sub_eq_zero_of_le fits,
        List.drop_zero]
      rfl
  | some value =>
      cases b with
      | latest l =>
          obtain rfl := Option.some.inj bounded
          rw [Option.toList_some, rtake_concat value fits positive]
          cases slot : l.slot <;>
            simp [contents, read, write, store, Latest.read, Latest.write, slot]
      | queue q =>
          obtain rfl := Option.some.inj bounded
          rw [Option.toList_some, rtake_concat value fits positive]
          simp [contents, read, write, store, Queue.read, Queue.write, Queue.isFull]
      | window stampOf w => cases bounded

/-- Nothing but the value that was pushed out is missing after a write. -/
theorem pushedOut_append_contents {b : Buffer α} {capacity : Nat}
    (bounded : b.capacity? = some capacity) (positive : 0 < capacity)
    (fits : b.contents.length ≤ capacity) (value : Option α) :
    (b.pushedOut? value).toList ++ (b.write value).1.contents = b.contents ++ value.toList := by
  cases value with
  | none => simp [pushedOut?, write]
  | some value =>
      cases b with
      | latest l =>
          cases slot : l.slot <;>
            simp [pushedOut?, contents, read, write, store, Latest.read, Latest.write, slot]
      | queue q =>
          obtain rfl := Option.some.inj bounded
          rcases q with ⟨capacity, items⟩
          cases full : (Queue.mk capacity items).isFull with
          | false =>
              simp [pushedOut?, contents, read, write, store, Queue.read, Queue.write, Queue.evicts,
                full]
          | true =>
              cases items with
              | nil =>
                  simp [Queue.isFull] at full
                  exact absurd full (Nat.ne_of_gt positive)
              | cons oldest rest =>
                  simp [pushedOut?, contents, read, write, store, Queue.read, Queue.write,
                    Queue.evicts, full]
      | window stampOf w => cases bounded

theorem contents_write_of_history {b : Buffer α} {capacity : Nat} {history : List α}
    (bounded : b.capacity? = some capacity) (positive : 0 < capacity)
    (contents : b.contents = history.rtake capacity) (value : Option α) :
    (b.write value).1.contents = (history ++ value.toList).rtake capacity := by
  have fits : b.contents.length ≤ capacity := by
    rw [contents]
    exact length_rtake_le history capacity
  rw [contents_write bounded positive fits, contents, rtake_rtake_append]

/-! ## The buffer of a policy -/

theorem new_ofPolicy {profile : Profile α} {policy : Policy} {b : Buffer α} {capacity : Nat}
    (built : ofPolicy profile policy = .ok b) (bounded : policy.capacity? = some capacity) :
    b.New capacity := by
  unfold ofPolicy at built
  cases policy with
  | latest =>
      obtain rfl := Option.some.inj bounded
      obtain rfl := Except.ok.inj built
      exact new_latest
  | queue asked =>
      obtain rfl := Option.some.inj bounded
      by_cases zero : asked = 0
      · simp [Policy.validate, zero] at built
      · have positive : 0 < asked.toNat :=
          Nat.pos_of_ne_zero fun h => zero (UInt64.toNat_inj.mp h)
        simp only [Policy.validate, if_neg zero] at built
        cases allocated : Queue.allocate (α := α) profile.width asked.toNat with
        | error panic =>
            rw [allocated] at built
            cases built
        | ok q =>
            rw [allocated] at built
            obtain rfl := Except.ok.inj built
            obtain rfl := Queue.eq_of_allocate allocated
            have new := new_queue (α := α) asked.toNat
            rwa [Nat.max_eq_left positive] at new
  | timeWindow windowMs => cases bounded

end Buffer

end Cadence
