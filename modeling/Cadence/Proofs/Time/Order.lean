import Cadence.Buffer.Window
import Cadence.Proofs.Time.Totals

/-!
# The order of moved timestamps

Moving timestamps by the same duration, or one timestamp by two, keeps their order as long as the
limits are out of the way.  Where the seconds are clamped, the nanoseconds are still those of the
exact total, so that two totals that come to lie in the second at a limit are ordered by their
nanoseconds alone.  `OrderKept` says when that does no harm, and everything here holds exactly then:
a timestamp lies in the intervals around it, and a time window keeps the value that it goes by.
-/

set_option autoImplicit false

namespace Cadence

namespace Timestamp

/-- The two totals are not clamped into one second: if the later one is too late for a timestamp,
the earlier one comes before the last second, and if the earlier one is too early for a timestamp,
the later one comes after the first second. -/
def ClearOfLimits (earlier later : Int) : Prop :=
  (later < (wordMax + 1) * 1000000000 ∨ earlier < wordMax * 1000000000) ∧
    (wordMin * 1000000000 ≤ earlier ∨ (wordMin + 1) * 1000000000 ≤ later)

/-- The timestamps of the two totals are in order: the limits are out of the way, or the nanoseconds
happen to be in order themselves. -/
def OrderKept (earlier later : Int) : Prop :=
  ClearOfLimits earlier later ∨ earlier % 1000000000 ≤ later % 1000000000

theorem orderKept_of_representable {earlier later : Int} (fits : Representable earlier)
    (fits' : Representable later) : OrderKept earlier later := by
  rw [representable_iff] at fits fits'
  exact .inl ⟨.inl fits'.2, .inl fits.1⟩

/-- Nothing that comes after a timestamp is clamped into its second, unless that is the last. -/
theorem orderKept_after {t : Timestamp} (notLast : t.seconds ≠ wordMax) (later : Int) :
    OrderKept t.total later := by
  have min_le := t.min_le
  have le_max := t.le_max
  have lt := t.nanos_lt
  left
  unfold ClearOfLimits total
  omega

theorem orderKept_before {t : Timestamp} (notFirst : t.seconds ≠ wordMin) (earlier : Int) :
    OrderKept earlier t.total := by
  have min_le := t.min_le
  have le_max := t.le_max
  have lt := t.nanos_lt
  left
  unfold ClearOfLimits total
  omega

theorem ofTotal_le_iff {earlier later : Int} (ordered : earlier ≤ later) :
    ofTotal earlier ≤ ofTotal later ↔ OrderKept earlier later := by
  have nanos := nanos_ofTotal earlier
  have nanos' := nanos_ofTotal later
  have seconds : (ofTotal earlier).seconds = clampWord (earlier / 1000000000) := rfl
  have seconds' : (ofTotal later).seconds = clampWord (later / 1000000000) := rfl
  have apart : wordMin < wordMax := by decide
  rw [le_def, seconds, seconds']
  unfold OrderKept ClearOfLimits clampWord
  omega

/-! ## Moving -/

section

variable {s t : Timestamp} {d e : Duration}

theorem plus_le_plus_iff (ordered : s ≤ t) (d : Duration) :
    s.plus d ≤ t.plus d ↔ OrderKept (s.total + d.nanos) (t.total + d.nanos) := by
  rw [le_iff_total_le] at ordered
  exact ofTotal_le_iff (Int.add_le_add_right ordered d.nanos)

theorem plus_le_plus_left_iff (ordered : d.nanos ≤ e.nanos) (t : Timestamp) :
    t.plus d ≤ t.plus e ↔ OrderKept (t.total + d.nanos) (t.total + e.nanos) :=
  ofTotal_le_iff (Int.add_le_add_left ordered t.total)

theorem minus_le_minus_left_iff (ordered : d.nanos ≤ e.nanos) (t : Timestamp) :
    t.minus e ≤ t.minus d ↔ OrderKept (t.total - e.nanos) (t.total - d.nanos) :=
  ofTotal_le_iff (Int.sub_le_sub_left ordered t.total)

theorem minus_le_self_iff (positive : 0 ≤ d.nanos) (t : Timestamp) :
    t.minus d ≤ t ↔ OrderKept (t.total - d.nanos) t.total := by
  have moved := ofTotal_le_iff (Int.sub_le_self t.total positive)
  rw [ofTotal_total] at moved
  exact moved

theorem self_le_plus_iff (positive : 0 ≤ d.nanos) (t : Timestamp) :
    t ≤ t.plus d ↔ OrderKept t.total (t.total + d.nanos) := by
  have moved := ofTotal_le_iff (Int.le_add_of_nonneg_right (a := t.total) positive)
  rw [ofTotal_total] at moved
  exact moved

end

end Timestamp

/-! ## Intervals -/

theorem Interval.contains_iff (i : Interval) (t : Timestamp) :
    i.contains t = true ↔ i.start.total ≤ t.total ∧ t.total ≤ i.stop.total := by
  simp [contains, Timestamp.le_iff_total_le]

namespace Duration

variable {d : Duration}

/-- An interval before `t` to which any timestamp belongs ends after it starts, so `t` belongs to it
as well. -/
theorem before_contains_self {s t : Timestamp} (contains : (d.before t).contains s = true) :
    (d.before t).contains t = true := by
  rw [Interval.contains_iff] at contains ⊢
  exact ⟨Int.le_trans contains.1 contains.2, Int.le_refl _⟩

/-- Where the start of the interval is not clamped, the interval is what it says. -/
theorem before_contains_iff {t start : Timestamp} (exact : start.total = t.total - d.nanos)
    (s : Timestamp) :
    (d.before t).contains s = true ↔ t.total - d.nanos ≤ s.total ∧ s.total ≤ t.total := by
  have unclamped : t.minus d = start := by
    rw [Timestamp.minus, ← exact, Timestamp.ofTotal_total]
  rw [Interval.contains_iff]
  simp only [before, unclamped, exact]

theorem half_nonneg (positive : 0 ≤ d.nanos) : 0 ≤ d.half.nanos := by
  have quotient : d.half.nanos = clampWord (d.nanos.tdiv 2) := rfl
  have inRange := d.le_max
  rw [quotient, Int.tdiv_eq_ediv_of_nonneg positive, clampWord]
  omega

theorem contains_before_iff (positive : 0 ≤ d.nanos) (t : Timestamp) :
    (d.before t).contains t = true ↔ Timestamp.OrderKept (t.total - d.nanos) t.total := by
  rw [← Timestamp.minus_le_self_iff positive, Timestamp.le_iff_total_le, Interval.contains_iff]
  exact and_iff_left (Int.le_refl t.total)

theorem contains_after_iff (positive : 0 ≤ d.nanos) (t : Timestamp) :
    (d.after t).contains t = true ↔ Timestamp.OrderKept t.total (t.total + d.nanos) := by
  rw [← Timestamp.self_le_plus_iff positive, Timestamp.le_iff_total_le, Interval.contains_iff]
  exact and_iff_right (Int.le_refl t.total)

theorem contains_around_iff (positive : 0 ≤ d.nanos) (t : Timestamp) :
    (d.around t).contains t = true ↔
      Timestamp.OrderKept (t.total - d.half.nanos) t.total ∧
        Timestamp.OrderKept t.total (t.total + d.half.nanos) := by
  have half := half_nonneg positive
  rw [← Timestamp.minus_le_self_iff half, ← Timestamp.self_le_plus_iff half,
    Timestamp.le_iff_total_le, Timestamp.le_iff_total_le, Interval.contains_iff]
  exact Iff.rfl

end Duration

/-! ## Time windows -/

namespace Window

variable {α : Type} {w : Window α} {entry : α × Timestamp}

theorem entries_prune (last : w.entries.getLast? = some entry) :
    w.prune.entries = w.entries.filter fun kept => (w.window.before entry.2).contains kept.2 := by
  simp [prune, allowed?, watermark?, last]

/-- A time window keeps the value that it goes by, as long as that lies in its interval. -/
theorem prune_keeps_watermark (last : w.entries.getLast? = some entry)
    (contains : (w.window.before entry.2).contains entry.2 = true) :
    w.prune.entries.getLast? = some entry := by
  obtain ⟨front, split⟩ := List.getLast?_eq_some_iff.mp last
  rw [entries_prune last, split, List.filter_append]
  simp [contains]

/-- A time window that prunes the value that it goes by prunes every other value, too. -/
theorem prune_empties (last : w.entries.getLast? = some entry)
    (excludes : (w.window.before entry.2).contains entry.2 = false) : w.prune.entries = [] := by
  rw [entries_prune last, List.filter_eq_nil_iff]
  intro kept _ contains
  have itself := Duration.before_contains_self contains
  rw [excludes] at itself
  cases itself

end Window

/-! ## Main result -/

namespace Timestamp

/-- The order of moved timestamps is kept exactly where the limits are out of the way or the
nanoseconds are in order, and so it is wherever both are representable, and next to any timestamp
that is not in the first or last second.  A timestamp lies in the intervals of a duration that is
not negative, and a time window keeps the value that it goes by, exactly where the order is kept;
where it is not, the time window is emptied. -/
theorem moved_in_order {α : Type} {s t : Timestamp} {d e : Duration} (w : Window α)
    (ordered : s ≤ t) (longer : d.nanos ≤ e.nanos) :
    (∀ earlier later, Representable earlier → Representable later → OrderKept earlier later) ∧
    (∀ total, (t.seconds ≠ wordMax → OrderKept t.total total) ∧
      (t.seconds ≠ wordMin → OrderKept total t.total)) ∧
    (s.plus d ≤ t.plus d ↔ OrderKept (s.total + d.nanos) (t.total + d.nanos)) ∧
    (t.plus d ≤ t.plus e ↔ OrderKept (t.total + d.nanos) (t.total + e.nanos)) ∧
    (t.minus e ≤ t.minus d ↔ OrderKept (t.total - e.nanos) (t.total - d.nanos)) ∧
    (0 ≤ d.nanos →
      ((d.before t).contains t = true ↔ OrderKept (t.total - d.nanos) t.total) ∧
      ((d.after t).contains t = true ↔ OrderKept t.total (t.total + d.nanos)) ∧
      ((d.around t).contains t = true ↔
        OrderKept (t.total - d.half.nanos) t.total ∧
          OrderKept t.total (t.total + d.half.nanos))) ∧
    (0 ≤ w.window.nanos → ∀ entry, w.entries.getLast? = some entry →
      (OrderKept (entry.2.total - w.window.nanos) entry.2.total →
        w.prune.entries.getLast? = some entry) ∧
      (¬ OrderKept (entry.2.total - w.window.nanos) entry.2.total → w.prune.entries = [])) := by
  refine ⟨?representable, ?inside, ?together, ?later, ?earlier, ?intervals, ?windows⟩
  case representable => exact fun _ _ => orderKept_of_representable
  case inside => exact fun total => ⟨(orderKept_after · total), (orderKept_before · total)⟩
  case together => exact plus_le_plus_iff ordered d
  case later => exact plus_le_plus_left_iff longer t
  case earlier => exact minus_le_minus_left_iff longer t
  case intervals =>
    exact fun positive =>
      ⟨Duration.contains_before_iff positive t, Duration.contains_after_iff positive t,
        Duration.contains_around_iff positive t⟩
  case windows =>
    intro positive entry last
    have itself := Duration.contains_before_iff positive entry.2
    refine ⟨fun kept => Window.prune_keeps_watermark last (itself.mpr kept), fun lost => ?_⟩
    exact Window.prune_empties last (Bool.eq_false_iff.mpr (mt itself.mp lost))

/-- A window of an hour that begins before the first timestamp, by a value that is one second after
it: the start is clamped, and the value stays. -/
theorem clamped_start_in_order :
    let earlier := of wordMin 5
    let stamp := of (wordMin + 1) 0
    let hour := Duration.ofSeconds 3600
    let w : Window Nat := ⟨hour, [(4, earlier), (7, stamp)]⟩
    earlier ≤ stamp ∧ Duration.zero.nanos ≤ hour.nanos ∧
      OrderKept (stamp.total - hour.nanos) stamp.total ∧
      ¬ Representable (stamp.total - hour.nanos) ∧
      0 ≤ w.window.nanos ∧ w.entries.getLast? = some (7, stamp) ∧
      w.prune.entries.getLast? = some (7, stamp) := by
  intro earlier stamp hour w
  have ordered : earlier ≤ stamp := by decide
  have longer : Duration.zero.nanos ≤ hour.nanos := by decide
  obtain ⟨-, inside, -, -, -, -, windows⟩ := moved_in_order w ordered longer
  have kept : OrderKept (stamp.total - hour.nanos) stamp.total := (inside _).2 (by decide)
  have clamped : ¬ Representable (stamp.total - hour.nanos) := by
    rw [representable_iff]
    decide
  exact ⟨ordered, longer, kept, clamped, by decide, rfl,
    (windows (by decide) (7, stamp) rfl).1 kept⟩

/-- A tick after the latest timestamp comes the start of its second, and a tick before the earliest
one the end of its second.  So neither lies in the interval that it begins or ends, and a time
window of one tick is emptied by the earliest timestamp. -/
theorem ticks_at_limits_out_of_order :
    let first := of wordMin 0
    let last := of wordMax 999999999
    let tick := Duration.ofNanos 1
    (of wordMax 0 ≤ last ∧ (of wordMax 0).plus tick = of wordMax 1 ∧
      last.plus tick = of wordMax 0) ∧
    ¬ (of wordMax 0).plus tick ≤ last.plus tick ∧
    ¬ last.plus .zero ≤ last.plus tick ∧
    ¬ first.minus tick ≤ first.minus .zero ∧
    (tick.before first).contains first = false ∧
    (tick.after last).contains last = false ∧
    ((tick.plus tick).around first).contains first = false ∧
    (Window.mk tick [((7 : Nat), first)]).read.2 = [] := by
  decide

end Timestamp

end Cadence
