import Cadence.Time.Timestamp

/-!
# Timestamps as numbers of nanoseconds

A timestamp is a pair of words, and stands for one integer: its total of nanoseconds since the
epoch.  Each total between that of the earliest timestamp and that of the latest belongs to one
timestamp, so that arithmetic which stays between them is arithmetic on integers, before the epoch
as well.
-/

set_option autoImplicit false

namespace Cadence.Timestamp

/-- There is a timestamp with this total of nanoseconds. -/
def Representable (total : Int) : Prop := ∃ t : Timestamp, t.total = total

theorem ofTotal_total (t : Timestamp) : ofTotal t.total = t := by
  have lt := t.nanos_lt
  have seconds : t.total / 1000000000 = t.seconds := by
    unfold total
    omega
  have nanos : (t.total % 1000000000).toNat = t.nanos := by
    unfold total
    omega
  apply Timestamp.ext
  · exact (congrArg clampWord seconds).trans (clampWord_of_mem t.min_le t.le_max)
  · exact nanos

theorem total_ofTotal {total : Int} (fits : Representable total) :
    (ofTotal total).total = total := by
  obtain ⟨t, rfl⟩ := fits
  rw [ofTotal_total]

theorem total_inj {s t : Timestamp} : s.total = t.total ↔ s = t := by
  constructor
  · intro same
    rw [← ofTotal_total s, same, ofTotal_total]
  · exact congrArg total

/-- The representable totals are those whose whole seconds fit a word. -/
theorem representable_iff_seconds (total : Int) :
    Representable total ↔ wordMin ≤ total / 1000000000 ∧ total / 1000000000 ≤ wordMax := by
  constructor
  · rintro ⟨t, rfl⟩
    have min_le := t.min_le
    have le_max := t.le_max
    have lt := t.nanos_lt
    unfold Timestamp.total
    omega
  · rintro ⟨min_le, le_max⟩
    have lt : total % 1000000000 < 1000000000 := Int.emod_lt_of_pos total (by decide)
    refine ⟨⟨total / 1000000000, (total % 1000000000).toNat, min_le, le_max, by omega⟩, ?_⟩
    show total / 1000000000 * 1000000000 + ((total % 1000000000).toNat : Int) = total
    omega

theorem representable_iff (total : Int) :
    Representable total ↔
      wordMin * 1000000000 ≤ total ∧ total < (wordMax + 1) * 1000000000 := by
  rw [representable_iff_seconds]
  omega

theorem nanos_ofTotal (total : Int) : ((ofTotal total).nanos : Int) = total % 1000000000 :=
  Int.toNat_of_nonneg (Int.emod_nonneg total (by decide))

/-! ## Order -/

theorem lt_iff_total_lt (s t : Timestamp) : s < t ↔ s.total < t.total := by
  have hs := s.nanos_lt
  have ht := t.nanos_lt
  rw [lt_def]
  unfold total
  omega

/-- Comparing seconds first and nanoseconds then is comparing totals. -/
theorem compare_eq (s t : Timestamp) : compare s t = Ord.compare s.total t.total := by
  have hs := s.nanos_lt
  have ht := t.nanos_lt
  unfold compare
  rcases Int.lt_trichotomy s.total t.total with earlier | same | later
  · rw [Int.compare_eq_lt.mpr earlier]
    rcases (lt_iff_total_lt s t).mpr earlier with seconds | ⟨seconds, nanos⟩
    · rw [Int.compare_eq_lt.mpr seconds, Ordering.lt_then]
    · rw [Int.compare_eq_eq.mpr seconds, Ordering.eq_then, Nat.compare_eq_lt.mpr nanos]
  · obtain rfl := total_inj.mp same
    rw [Int.compare_eq_eq.mpr rfl, Int.compare_eq_eq.mpr rfl, Ordering.eq_then,
      Nat.compare_eq_eq.mpr rfl]
  · rw [Int.compare_eq_gt.mpr later]
    rcases (lt_iff_total_lt t s).mpr later with seconds | ⟨seconds, nanos⟩
    · rw [Int.compare_eq_gt.mpr seconds, Ordering.gt_then]
    · rw [Int.compare_eq_eq.mpr seconds.symm, Ordering.eq_then, Nat.compare_eq_gt.mpr nanos]

/-! ## Making timestamps -/

/-- Nanoseconds that make up whole seconds are carried. -/
theorem nanos_of (seconds : Int) (nanos : Nat) : (of seconds nanos).nanos = nanos % 1000000000 := by
  have kept : ((of seconds nanos).nanos : Int) = (seconds * 1000000000 + nanos) % 1000000000 :=
    nanos_ofTotal _
  omega

theorem total_of {seconds : Int} {nanos : Nat}
    (fits : Representable (seconds * 1000000000 + nanos)) :
    (of seconds nanos).total = seconds * 1000000000 + nanos :=
  total_ofTotal fits

/-- What a clock shows that is off the epoch by seconds and nanoseconds. -/
def clockOffset (beforeEpoch : Bool) (seconds nanos : Nat) : Int :=
  if beforeEpoch then -(seconds * 1000000000 + nanos) else seconds * 1000000000 + nanos

theorem ofClock_eq_ok_iff (beforeEpoch : Bool) (seconds nanos : Nat) (t : Timestamp) :
    ofClock beforeEpoch seconds nanos = .ok t ↔
      t.total = clockOffset beforeEpoch seconds nanos := by
  have reads : ofClock beforeEpoch seconds nanos =
      if wordMin ≤ clockOffset beforeEpoch seconds nanos / 1000000000 ∧
          clockOffset beforeEpoch seconds nanos / 1000000000 ≤ wordMax
      then .ok (ofTotal (clockOffset beforeEpoch seconds nanos))
      else .error (.instantOverflow beforeEpoch) := rfl
  have inRange := representable_iff_seconds (clockOffset beforeEpoch seconds nanos)
  by_cases fits : Representable (clockOffset beforeEpoch seconds nanos)
  · rw [reads, if_pos (inRange.mp fits), Except.ok.injEq, ← total_inj, total_ofTotal fits, eq_comm]
  · rw [reads, if_neg (mt inRange.mpr fits)]
    exact ⟨nofun, fun same => absurd ⟨t, same⟩ fits⟩

/-! ## Moving and measuring -/

theorem nanos_plus (t : Timestamp) (d : Duration) :
    ((t.plus d).nanos : Int) = (t.nanos + d.nanos) % 1000000000 := by
  have kept : ((t.plus d).nanos : Int) = (t.total + d.nanos) % 1000000000 := nanos_ofTotal _
  unfold total at kept
  omega

theorem nanos_minus (t : Timestamp) (d : Duration) :
    ((t.minus d).nanos : Int) = (t.nanos - d.nanos) % 1000000000 := by
  have kept : ((t.minus d).nanos : Int) = (t.total - d.nanos) % 1000000000 := nanos_ofTotal _
  unfold total at kept
  omega

theorem total_plus {t : Timestamp} {d : Duration} (fits : Representable (t.total + d.nanos)) :
    (t.plus d).total = t.total + d.nanos :=
  total_ofTotal fits

theorem total_minus {t : Timestamp} {d : Duration} (fits : Representable (t.total - d.nanos)) :
    (t.minus d).total = t.total - d.nanos :=
  total_ofTotal fits

theorem minus_of_plus {t : Timestamp} {d : Duration} (fits : Representable (t.total + d.nanos)) :
    (t.plus d).minus d = t := by
  rw [minus, total_plus fits, Int.add_sub_cancel, ofTotal_total]

theorem durationFrom_of_plus {t : Timestamp} {d : Duration}
    (fits : Representable (t.total + d.nanos)) : (t.plus d).durationFrom t = d := by
  have moved : t.total + d.nanos - t.total = d.nanos := by omega
  rw [durationFrom, total_plus fits, moved, Duration.ofNanos_nanos]

theorem plus_durationFrom {a b : Timestamp} (min_le : wordMin ≤ a.total - b.total)
    (le_max : a.total - b.total ≤ wordMax) : b.plus (a.durationFrom b) = a := by
  have exact : (a.durationFrom b).nanos = a.total - b.total := clampWord_of_mem min_le le_max
  have back : b.total + (a.total - b.total) = a.total := by omega
  rw [plus, exact, back, ofTotal_total]

/-- Every timestamp has less than a second of nanoseconds, and its place in the order is that of its
total.  What is made of seconds and nanoseconds, of a clock, or by moving a timestamp carries whole
seconds, and is exact wherever there is such a timestamp; there moving back undoes moving, and the
distance is what was moved.  Distances are exact as long as they fit a duration, and then they lead
back. -/
theorem exact_within_range :
    (∀ t : Timestamp, t.nanos < 1000000000) ∧
    (∀ s t : Timestamp, (s ≤ t ↔ s.total ≤ t.total) ∧ (s < t ↔ s.total < t.total) ∧
      compare s t = Ord.compare s.total t.total) ∧
    (∀ (seconds : Int) (nanos : Nat), (of seconds nanos).nanos = nanos % 1000000000 ∧
      (Representable (seconds * 1000000000 + nanos) →
        (of seconds nanos).total = seconds * 1000000000 + nanos)) ∧
    (∀ beforeEpoch seconds nanos t, ofClock beforeEpoch seconds nanos = .ok t ↔
      t.total = clockOffset beforeEpoch seconds nanos) ∧
    (∀ (t : Timestamp) (d : Duration),
      ((t.plus d).nanos : Int) = (t.nanos + d.nanos) % 1000000000 ∧
      ((t.minus d).nanos : Int) = (t.nanos - d.nanos) % 1000000000 ∧
      (Representable (t.total + d.nanos) →
        (t.plus d).total = t.total + d.nanos ∧ (t.plus d).minus d = t ∧
          (t.plus d).durationFrom t = d) ∧
      (Representable (t.total - d.nanos) → (t.minus d).total = t.total - d.nanos)) ∧
    (∀ a b : Timestamp, (a.durationFrom b).nanos = clampWord (a.total - b.total) ∧
      (wordMin ≤ a.total - b.total → a.total - b.total ≤ wordMax →
        b.plus (a.durationFrom b) = a)) := by
  refine ⟨nanos_lt, ?order, ?made, ofClock_eq_ok_iff, ?moved, ?measured⟩
  case order =>
    intro s t
    exact ⟨le_iff_total_le s t, lt_iff_total_lt s t, compare_eq s t⟩
  case made =>
    intro seconds nanos
    exact ⟨nanos_of seconds nanos, total_of⟩
  case moved =>
    intro t d
    refine ⟨nanos_plus t d, nanos_minus t d, ?_, total_minus⟩
    intro fits
    exact ⟨total_plus fits, minus_of_plus fits, durationFrom_of_plus fits⟩
  case measured =>
    intro a b
    exact ⟨rfl, plus_durationFrom⟩

/-- Two seconds before the epoch, from nanoseconds that carry four seconds, moved by a tick across
the second and measured against the epoch. -/
theorem exact_before_epoch :
    let t := of (-6) 4294967295
    let tick := Duration.ofNanos 5032705
    Representable (-6 * 1000000000 + (4294967295 : Nat)) ∧ t.total = -1705032705 ∧
      Representable (t.total + tick.nanos) ∧ (t.plus tick).total = -1700000000 ∧
      (t.plus tick).minus tick = t ∧ (t.plus tick).durationFrom t = tick ∧
      (of 0 0).plus (t.durationFrom (of 0 0)) = t := by
  intro t tick
  obtain ⟨-, -, made, -, moved, measured⟩ := exact_within_range
  have there : Representable (-6 * 1000000000 + (4294967295 : Nat)) :=
    (representable_iff _).mpr (by decide)
  have total : t.total = -1705032705 := (made (-6) 4294967295).2 there
  have fits : Representable (t.total + tick.nanos) := (representable_iff _).mpr (by decide)
  obtain ⟨sum, back, distance⟩ := (moved t tick).2.2.1 fits
  exact ⟨there, total, fits, sum.trans (by decide), back, distance,
    (measured t (of 0 0)).2 (by decide) (by decide)⟩

end Cadence.Timestamp
