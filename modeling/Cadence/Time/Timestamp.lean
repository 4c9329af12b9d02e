import Cadence.Time.Duration

/-!
# Timestamps

A point in time, measured from the epoch in whole seconds and the nanoseconds after them.  The
nanoseconds lie in `[0, 10^9)`, also before the epoch, so the lexicographic order is the order in
time.  Arithmetic runs on the total of nanoseconds and clamps the seconds to a word; the nanoseconds
of a clamped result are those of the unclamped one.
-/

set_option autoImplicit false

namespace Cadence

/-- A point in time with nanosecond resolution. -/
structure Timestamp where
  seconds : Int
  nanos : Nat
  min_le : wordMin ≤ seconds
  le_max : seconds ≤ wordMax
  nanos_lt : nanos < 1000000000
  deriving Repr

namespace Timestamp

def total (t : Timestamp) : Int := t.seconds * 1000000000 + t.nanos

def ofTotal (total : Int) : Timestamp where
  seconds := clampWord (total / 1000000000)
  nanos := (total % 1000000000).toNat
  min_le := wordMin_le_clampWord _
  le_max := clampWord_le_wordMax _
  nanos_lt := by omega

/-- The timestamp `nanos` nanoseconds, whole seconds among them, after second `seconds`. -/
def of (seconds : Int) (nanos : Nat) : Timestamp :=
  ofTotal (seconds * 1000000000 + nanos)

/-- The timestamp of a clock that shows an offset of seconds and nanoseconds to the epoch.  A clock
shows no instant whose seconds lie outside the word range. -/
def ofClock (beforeEpoch : Bool) (seconds nanos : Nat) : Except Panic Timestamp :=
  let offset : Int := seconds * 1000000000 + nanos
  let total := if beforeEpoch then -offset else offset
  if wordMin ≤ total / 1000000000 ∧ total / 1000000000 ≤ wordMax then .ok (ofTotal total)
  else .error (.instantOverflow beforeEpoch)

def plus (t : Timestamp) (d : Duration) : Timestamp := ofTotal (t.total + d.nanos)

def minus (t : Timestamp) (d : Duration) : Timestamp := ofTotal (t.total - d.nanos)

/-- The signed distance from `reference` to `t`. -/
def durationFrom (t reference : Timestamp) : Duration :=
  .ofNanos (t.total - reference.total)

/-- Earlier seconds first, then earlier nanoseconds. -/
def compare (s t : Timestamp) : Ordering :=
  (Ord.compare s.seconds t.seconds).then (Ord.compare s.nanos t.nanos)

instance : LE Timestamp :=
  ⟨fun s t => s.seconds < t.seconds ∨ s.seconds = t.seconds ∧ s.nanos ≤ t.nanos⟩

instance : LT Timestamp :=
  ⟨fun s t => s.seconds < t.seconds ∨ s.seconds = t.seconds ∧ s.nanos < t.nanos⟩

instance (s t : Timestamp) : Decidable (s ≤ t) :=
  inferInstanceAs (Decidable (s.seconds < t.seconds ∨ s.seconds = t.seconds ∧ s.nanos ≤ t.nanos))

instance (s t : Timestamp) : Decidable (s < t) :=
  inferInstanceAs (Decidable (s.seconds < t.seconds ∨ s.seconds = t.seconds ∧ s.nanos < t.nanos))

/-- Nine digits of nanoseconds follow the seconds. -/
def text (t : Timestamp) : String :=
  let digits := toString t.nanos
  toString t.seconds ++ "." ++ String.ofList (List.replicate (9 - digits.length) '0') ++ digits

@[ext]
theorem ext {s t : Timestamp} (hs : s.seconds = t.seconds) (hn : s.nanos = t.nanos) : s = t := by
  cases s; cases t; cases hs; cases hn; rfl

instance : DecidableEq Timestamp := fun s t =>
  have h : s.seconds = t.seconds ∧ s.nanos = t.nanos ↔ s = t :=
    ⟨fun ⟨hs, hn⟩ => ext hs hn, fun h => ⟨congrArg seconds h, congrArg nanos h⟩⟩
  decidable_of_decidable_of_iff h

theorem le_def (s t : Timestamp) :
    s ≤ t ↔ s.seconds < t.seconds ∨ s.seconds = t.seconds ∧ s.nanos ≤ t.nanos := Iff.rfl

theorem lt_def (s t : Timestamp) :
    s < t ↔ s.seconds < t.seconds ∨ s.seconds = t.seconds ∧ s.nanos < t.nanos := Iff.rfl

/-- The lexicographic order is the order of the totals. -/
theorem le_iff_total_le (s t : Timestamp) : s ≤ t ↔ s.total ≤ t.total := by
  have hs := s.nanos_lt
  have ht := t.nanos_lt
  rw [le_def]
  unfold total
  omega

end Timestamp

end Cadence
