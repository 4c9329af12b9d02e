import Cadence.Time.Duration

/-!
# Arithmetic that saturates

A duration that would lie outside the word range is the greatest or the least one instead, so that
making, adding and multiplying durations always succeeds.  Dividing is the exception: the least
duration has no counterpart on the other side of zero, and taking its negative by a division panics
where a multiplication saturates.
-/

set_option autoImplicit false

namespace Cadence

/-- Division that drops the fraction: what is left over is less than the divisor and lies on the
dividend's side of zero. -/
def Truncates (dividend divisor quotient : Int) : Prop :=
  ∃ rest, dividend = divisor * quotient + rest ∧ rest.natAbs < divisor.natAbs ∧
    (0 ≤ dividend → 0 ≤ rest) ∧ (dividend ≤ 0 → rest ≤ 0)

theorem truncates_tdiv (dividend : Int) {divisor : Int} (nonzero : divisor ≠ 0) :
    Truncates dividend divisor (dividend.tdiv divisor) := by
  refine ⟨dividend.tmod divisor, (Int.mul_tdiv_add_tmod dividend divisor).symm, ?_, ?_, ?_⟩
  · rw [Int.natAbs_tmod]
    exact Nat.mod_lt _ (by omega)
  · exact Int.tmod_nonneg divisor
  · intro negative
    have mirrored := Int.tmod_nonneg divisor (Int.neg_nonneg_of_nonpos negative)
    rw [Int.neg_tmod] at mirrored
    omega

/-- Only one quotient leaves the word range. -/
theorem tdiv_mem_word {dividend divisor : Int} (min_le : wordMin ≤ dividend)
    (le_max : dividend ≤ wordMax) (nonzero : divisor ≠ 0) :
    (wordMin ≤ dividend.tdiv divisor ∧ dividend.tdiv divisor ≤ wordMax) ↔
      ¬ (dividend = wordMin ∧ divisor = -1) := by
  have size := Int.natAbs_tdiv dividend divisor
  have bottom : wordMin = -9223372036854775808 := rfl
  have top : wordMax = 9223372036854775807 := rfl
  constructor
  · rintro ⟨_, high⟩ ⟨rfl, rfl⟩
    exact absurd high (by decide)
  · intro other
    by_cases unit : divisor.natAbs = 1
    · have sign : divisor = 1 ∨ divisor = -1 := by omega
      rcases sign with rfl | rfl
      · rw [Int.tdiv_one]
        exact ⟨min_le, le_max⟩
      · rw [Int.tdiv_neg, Int.tdiv_one]
        omega
    · -- any other divisor at least halves the dividend
      have halved : dividend.natAbs / divisor.natAbs ≤ dividend.natAbs / 2 :=
        Nat.div_le_div_left (by omega) (by decide)
      change _ = dividend.natAbs / divisor.natAbs at size
      omega

namespace Duration

/-- The duration of `exact` nanoseconds, or the nearest one where there is none. -/
def Saturates (exact : Int) (d : Duration) : Prop :=
  (wordMin ≤ exact → exact ≤ wordMax → d.nanos = exact) ∧
    (exact < wordMin → d.nanos = wordMin) ∧ (wordMax < exact → d.nanos = wordMax)

theorem saturates_ofNanos (exact : Int) : (ofNanos exact).Saturates exact := by
  refine ⟨fun low high => clampWord_of_mem low high, ?_, ?_⟩
  · intro low
    rw [nanos_ofNanos, clampWord, if_pos low]
  · intro high
    have apart : wordMin < wordMax := by decide
    rw [nanos_ofNanos, clampWord, if_neg (by omega), if_pos high]

/-! ## Dividing -/

theorem dividedBy_of_fits {d : Duration} {divisor : Int} (nonzero : divisor ≠ 0)
    (other : ¬ (d.nanos = wordMin ∧ divisor = -1)) :
    d.dividedBy divisor = .ok (ofNanos (d.nanos.tdiv divisor)) := by
  have fits := (tdiv_mem_word d.min_le d.le_max nonzero).mpr other
  simp only [dividedBy, if_neg nonzero, if_pos fits]

theorem dividedBy_of_overflow {d : Duration} {divisor : Int}
    (overflow : d.nanos = wordMin ∧ divisor = -1) :
    d.dividedBy divisor = .error (.panic .divisionOverflow) := by
  have nonzero : divisor ≠ 0 := by omega
  have leaves := mt (tdiv_mem_word d.min_le d.le_max nonzero).mp (not_not_intro overflow)
  simp only [dividedBy, if_neg nonzero, if_neg leaves]

theorem dividedBy_cases (d : Duration) (divisor : Int) :
    (divisor = 0 ∧ d.dividedBy divisor = .error (.failure (.division d.nanos))) ∨
    ((d.nanos = wordMin ∧ divisor = -1) ∧
      d.dividedBy divisor = .error (.panic .divisionOverflow)) ∨
    (divisor ≠ 0 ∧ ¬ (d.nanos = wordMin ∧ divisor = -1) ∧
      ∃ quotient, d.dividedBy divisor = .ok quotient ∧
        Truncates d.nanos divisor quotient.nanos) := by
  by_cases zero : divisor = 0
  · exact .inl ⟨zero, by rw [dividedBy, if_pos zero]⟩
  · by_cases overflow : d.nanos = wordMin ∧ divisor = -1
    · exact .inr (.inl ⟨overflow, dividedBy_of_overflow overflow⟩)
    · refine .inr (.inr ⟨zero, overflow, _, dividedBy_of_fits zero overflow, ?_⟩)
      obtain ⟨low, high⟩ := (tdiv_mem_word d.min_le d.le_max zero).mpr overflow
      rw [(saturates_ofNanos _).1 low high]
      exact truncates_tdiv d.nanos zero

theorem dividedBy_eq_division_iff (d : Duration) (divisor : Int) :
    d.dividedBy divisor = .error (.failure (.division d.nanos)) ↔ divisor = 0 := by
  rcases d.dividedBy_cases divisor with
    ⟨zero, same⟩ | ⟨⟨_, negates⟩, same⟩ | ⟨nonzero, _, quotient, same, _⟩
  · exact ⟨fun _ => zero, fun _ => same⟩
  · rw [same]
    exact ⟨nofun, fun zero => by omega⟩
  · rw [same]
    exact ⟨nofun, fun zero => absurd zero nonzero⟩

theorem dividedBy_eq_overflow_iff (d : Duration) (divisor : Int) :
    d.dividedBy divisor = .error (.panic .divisionOverflow) ↔
      d.nanos = wordMin ∧ divisor = -1 := by
  rcases d.dividedBy_cases divisor with
    ⟨zero, same⟩ | ⟨overflow, same⟩ | ⟨_, other, quotient, same, _⟩
  · rw [same]
    exact ⟨nofun, fun overflow => by omega⟩
  · exact ⟨fun _ => overflow, fun _ => same⟩
  · rw [same]
    exact ⟨nofun, fun overflow => absurd overflow other⟩

theorem dividedBy_truncates {d : Duration} {divisor : Int} (nonzero : divisor ≠ 0)
    (other : ¬ (d.nanos = wordMin ∧ divisor = -1)) :
    ∃ quotient, d.dividedBy divisor = .ok quotient ∧
      Truncates d.nanos divisor quotient.nanos := by
  rcases d.dividedBy_cases divisor with ⟨zero, _⟩ | ⟨overflow, _⟩ | ⟨_, _, found⟩
  · exact absurd zero nonzero
  · exact absurd overflow other
  · exact found

/-! ## Delays -/

theorem toDelay_eq_some_iff (d : Duration) (delay : Nat) :
    d.toDelay? = some delay ↔ d.nanos = delay := by
  by_cases negative : d.nanos < 0
  · rw [toDelay?, if_pos negative]
    constructor
    · intro none
      cases none
    · intro same
      omega
  · rw [toDelay?, if_neg negative, Option.some.injEq]
    omega

theorem ofDelay_of_toDelay {d : Duration} {delay : Nat} (lasts : d.toDelay? = some delay) :
    ofDelay delay = d := by
  rw [toDelay_eq_some_iff] at lasts
  rw [ofDelay, ← lasts, ofNanos_nanos]

/-- What is made of milliseconds or seconds, sums and products are the exact numbers of nanoseconds,
or the limit beyond which these lie.  Dividing by zero is the only failure, and every other quotient
is exact but for its fraction, unless it is the least duration divided by -1: that panics.
Exactly the durations that are not negative are delays, of as many nanoseconds, and are got back from
them; a delay that is too long for a duration becomes the longest one. -/
theorem arithmetic_saturates (d e : Duration) (n : Int) :
    (ofMillis n).Saturates (n * 1000000) ∧
    (ofSeconds n).Saturates (n * 1000000000) ∧
    (d.plus e).Saturates (d.nanos + e.nanos) ∧
    (d.times n).Saturates (d.nanos * n) ∧
    (d.dividedBy n = .error (.failure (.division d.nanos)) ↔ n = 0) ∧
    (d.dividedBy n = .error (.panic .divisionOverflow) ↔ d.nanos = wordMin ∧ n = -1) ∧
    (n ≠ 0 → ¬ (d.nanos = wordMin ∧ n = -1) → ∃ quotient, d.dividedBy n = .ok quotient ∧
      Truncates d.nanos n quotient.nanos) ∧
    (∀ delay, d.toDelay? = some delay ↔ d.nanos = delay) ∧
    (∀ delay, d.toDelay? = some delay → ofDelay delay = d) ∧
    (∀ delay : Nat, (ofDelay delay).Saturates delay) := by
  refine ⟨?millis, ?seconds, ?sum, ?product, d.dividedBy_eq_division_iff n,
    d.dividedBy_eq_overflow_iff n, dividedBy_truncates, d.toDelay_eq_some_iff, ?back, ?long⟩
  case millis => exact saturates_ofNanos (n * nanosPerMilli)
  case seconds => exact saturates_ofNanos (n * nanosPerSecond)
  case sum => exact saturates_ofNanos (d.nanos + e.nanos)
  case product => exact saturates_ofNanos (d.nanos * n)
  case back =>
    intro delay lasts
    exact ofDelay_of_toDelay lasts
  case long =>
    intro delay
    exact saturates_ofNanos delay

/-- Half of the least duration, on the other side of zero, and twice that: the product leaves the
range by one nanosecond. -/
theorem least_halved :
    let least := ofNanos wordMin
    ∃ half, least.dividedBy (-2) = .ok half ∧ Truncates wordMin (-2) half.nanos ∧
      half.toDelay? = some 4611686018427387904 ∧ (half.times 2).nanos = wordMax := by
  intro least
  obtain ⟨-, -, -, -, -, -, quotient, -⟩ := arithmetic_saturates least least (-2)
  obtain ⟨half, divided, exact⟩ := quotient (by decide) (by decide)
  have computed : least.dividedBy (-2) = .ok (ofNanos 4611686018427387904) := rfl
  obtain rfl := Except.ok.inj (computed.symm.trans divided)
  obtain ⟨-, -, -, product, -⟩ :=
    arithmetic_saturates (ofNanos 4611686018427387904) least 2
  exact ⟨_, divided, exact, rfl, product.2.2 (by decide)⟩

/-- The least duration cannot be negated by a division, though its negative saturates. -/
theorem least_undivided :
    let least := ofNanos wordMin
    least.dividedBy (-1) = .error (.panic .divisionOverflow) ∧
      (∀ quotient, least.dividedBy (-1) ≠ .ok quotient) ∧
      clampWord (wordMin.tdiv (-1)) = wordMax ∧ (least.times (-1)).nanos = wordMax := by
  intro least
  have panics : least.dividedBy (-1) = .error (.panic .divisionOverflow) := rfl
  refine ⟨panics, ?_, by decide, by decide⟩
  intro quotient divided
  rw [panics] at divided
  cases divided

end Duration

end Cadence
