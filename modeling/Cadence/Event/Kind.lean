/-!
# Kinds of events

What can have happened at a source since its consumer was last notified, and finite sets of such
kinds.  A set lists its members in one canonical order, that of `EventKind.all`, whatever the order
in which they were inserted.
-/

set_option autoImplicit false

namespace Cadence

inductive EventKind
  | readConnection
  | writeConnection
  | value
  | readException
  | writeException
  | writeSucceeded
  | writeFailed
  deriving DecidableEq, Repr

namespace EventKind

/-- Every kind once, in canonical order. -/
def all : List EventKind :=
  [readConnection, writeConnection, value, readException, writeException, writeSucceeded,
    writeFailed]

def name : EventKind → String
  | readConnection => "ReadConnection"
  | writeConnection => "WriteConnection"
  | value => "Value"
  | readException => "ReadException"
  | writeException => "WriteException"
  | writeSucceeded => "WriteSucceeded"
  | writeFailed => "WriteFailed"

theorem mem_all (kind : EventKind) : kind ∈ all := by cases kind <;> decide

end EventKind

structure KindSet where
  has : EventKind → Bool

namespace KindSet

def empty : KindSet := ⟨fun _ => false⟩

/-- Adds a kind; a set that has it already stays as it is. -/
def insert (s : KindSet) (kind : EventKind) : KindSet :=
  if s.has kind then s else ⟨fun k => decide (k = kind) || s.has k⟩

def erase (s : KindSet) (kind : EventKind) : KindSet :=
  ⟨fun k => decide (k ≠ kind) && s.has k⟩

/-- The members in canonical order. -/
def toList (s : KindSet) : List EventKind := EventKind.all.filter s.has

def ofList (kinds : List EventKind) : KindSet := kinds.foldl insert empty

def isEmpty (s : KindSet) : Bool := s.toList.isEmpty

/-- The members between brackets, parted by commas. -/
def text (s : KindSet) : String :=
  "[" ++ String.intercalate ", " (s.toList.map EventKind.name) ++ "]"

@[ext]
theorem ext {s t : KindSet} (h : ∀ kind, s.has kind = t.has kind) : s = t := by
  cases s; cases t
  simp only [KindSet.mk.injEq]
  exact funext h

theorem mem_toList {s : KindSet} {kind : EventKind} : kind ∈ s.toList ↔ s.has kind = true := by
  simp [toList, EventKind.mem_all]

instance : DecidableEq KindSet := fun s t =>
  if h : ∀ kind ∈ EventKind.all, s.has kind = t.has kind then
    isTrue (ext fun kind => h kind (EventKind.mem_all kind))
  else isFalse fun e => h fun _ _ => e ▸ rfl

@[simp]
theorem has_empty (kind : EventKind) : empty.has kind = false := rfl

@[simp]
theorem has_insert (s : KindSet) (kind k : EventKind) :
    (s.insert kind).has k = (decide (k = kind) || s.has k) := by
  unfold insert
  split
  · rename_i present
    by_cases same : k = kind
    · rw [same, present, Bool.or_true]
    · simp [same]
  · rfl

@[simp]
theorem has_erase (s : KindSet) (kind k : EventKind) :
    (s.erase kind).has k = (decide (k ≠ kind) && s.has k) := rfl

theorem isEmpty_iff (s : KindSet) : s.isEmpty = true ↔ s = empty := by
  constructor
  · intro h
    have hnil : s.toList = [] := List.isEmpty_iff.mp h
    ext kind
    have hk : ¬ kind ∈ s.toList := by simp [hnil]
    rw [mem_toList] at hk
    simpa using hk
  · rintro rfl
    rfl

end KindSet

end Cadence
