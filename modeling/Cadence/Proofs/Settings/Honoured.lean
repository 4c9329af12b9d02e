import Cadence.Proofs.Buffer.Bounded
import Cadence.Proofs.Subscription.Steps

/-!
# What becomes of valid settings

Settings keep milliseconds in unsigned words, and a duration counts nanoseconds in a signed one.  A
rate cap or a time window whose milliseconds fit the signed word is honoured, cut to the longest
duration there is.  The upper half of the unsigned range turns into negative durations: such a rate
cap caps nothing, and such a window keeps nothing.
-/

set_option autoImplicit false

namespace Cadence

/-! ## Milliseconds -/

theorem toInt_toInt64 (word : UInt64) :
    word.toInt64.toInt =
      if (word.toNat : Int) ≤ wordMax then (word.toNat : Int)
      else (word.toNat : Int) - 18446744073709551616 := by
  have bits : word.toInt64.toInt = word.toBitVec.toInt := rfl
  have same : word.toBitVec.toNat = word.toNat := rfl
  have top : wordMax = 9223372036854775807 := rfl
  rw [bits, BitVec.toInt_eq_toNat_cond, same, top]
  split <;> split <;> omega

theorem clampWord_of_le {n : Int} (least : wordMin ≤ n) : clampWord n = min n wordMax := by
  rw [clampWord, if_neg (by omega)]
  split <;> omega

theorem clampWord_of_negative {n : Int} (negative : n < 0) : clampWord n < 0 := by
  have lessThanNone : clampWord n ≤ clampWord (-1) := clampWord_mono (by omega)
  have one : clampWord (-1) = -1 := by decide
  omega

namespace Duration

theorem nanos_ofWordMillis (millis : UInt64) :
    (ofWordMillis millis).nanos = clampWord (millis.toInt64.toInt * nanosPerMilli) := rfl

theorem nanos_of_fits {millis : UInt64} (fits : (millis.toNat : Int) ≤ wordMax) :
    (ofWordMillis millis).nanos = min (millis.toNat * nanosPerMilli) wordMax := by
  have unit : nanosPerMilli = 1000000 := rfl
  have bottom : wordMin = -9223372036854775808 := rfl
  rw [nanos_ofWordMillis, toInt_toInt64, if_pos fits, unit]
  exact clampWord_of_le (by omega)

theorem positive_of_fits {millis : UInt64} (positive : millis ≠ 0)
    (fits : (millis.toNat : Int) ≤ wordMax) : 0 < (ofWordMillis millis).nanos := by
  have unit : nanosPerMilli = 1000000 := rfl
  have top : wordMax = 9223372036854775807 := rfl
  have count : 0 < millis.toNat :=
    Nat.pos_of_ne_zero fun none => positive (UInt64.toNat_inj.mp none)
  rw [nanos_of_fits fits, unit]
  omega

/-- The upper half of the range is read as negative. -/
theorem negative_of_beyond {millis : UInt64} (beyond : wordMax < (millis.toNat : Int)) :
    (ofWordMillis millis).nanos < 0 := by
  have unit : nanosPerMilli = 1000000 := rfl
  have bounded : millis.toNat < 18446744073709551616 := millis.toNat_lt
  -- the signed word is negative, and saturation keeps the sign of the product
  rw [nanos_ofWordMillis, toInt_toInt64, if_neg (by omega), unit]
  exact clampWord_of_negative (by omega)

theorem toDelay_of_positive {d : Duration} (positive : 0 < d.nanos) :
    d.toDelay? = some d.nanos.toNat := by
  rw [toDelay?, if_neg (by omega)]

theorem toDelay_of_negative {d : Duration} (negative : d.nanos < 0) : d.toDelay? = none := by
  rw [toDelay?, if_pos negative]

/-- The duration lasts that many milliseconds, cut to the longest one there is, and makes a delay.
If the number does not fit a signed word, the duration is negative instead, and makes none. -/
def Renders (millis : UInt64) (d : Duration) : Prop :=
  ((millis.toNat : Int) ≤ wordMax → 0 < d.nanos ∧
    d.nanos = min (millis.toNat * nanosPerMilli) wordMax ∧ d.toDelay? = some d.nanos.toNat) ∧
  (wordMax < (millis.toNat : Int) → d.nanos < 0 ∧ d.toDelay? = none)

theorem renders_ofWordMillis {millis : UInt64} (positive : millis ≠ 0) :
    Renders millis (ofWordMillis millis) := by
  constructor
  · intro fits
    have lasts := positive_of_fits positive fits
    exact ⟨lasts, nanos_of_fits fits, toDelay_of_positive lasts⟩
  · intro beyond
    have negative := negative_of_beyond beyond
    exact ⟨negative, toDelay_of_negative negative⟩

end Duration

/-! ## Valid settings -/

namespace Settings

theorem validate_ok {settings : Settings} (valid : settings.validate = .ok settings) :
    settings.maxRateMs ≠ some 0 ∧ settings.buffer.validate = .ok () := by
  unfold validate at valid
  split at valid
  · cases valid
  · rename_i nonzero
    cases checked : settings.buffer.validate with
    | error fault =>
        rw [checked] at valid
        cases valid
    | ok _ => exact ⟨nonzero, rfl⟩

end Settings

theorem Policy.validate_ok {policy : Policy} (valid : policy.validate = .ok ()) :
    policy ≠ .queue 0 ∧ policy ≠ .timeWindow 0 := by
  constructor
  · rintro rfl
    cases valid
  · rintro rfl
    cases valid

namespace Plan

variable {α : Type}

/-- A plan whose parts can be found is established, under the rate cap of its settings. -/
theorem establish_ok {plan : Plan α} {profile : Profile α} {settings : Settings}
    {random : String} {ambient : Bool} {b : Buffer α} {worker : Option String}
    (settled : plan.effectiveSettings = .ok settings)
    (buffer : plan.buffer = some b ∨
      plan.buffer = none ∧ Buffer.ofPolicy profile settings.buffer = .ok b)
    (runtime : (plan.hasRuntime || ambient) = true)
    (named : plan.workerName (plan.identifier random) = .ok worker) :
    ∃ subscription, plan.establish profile random ambient = .ok subscription ∧
      subscription.settings = settings ∧ subscription.engine.decoupler.buffer = b ∧
      subscription.engine.decoupler.pacer.minPeriod =
        settings.minPeriod.bind Duration.toDelay? := by
  have built : plan.chosenBuffer profile settings = .ok b := by
    unfold chosenBuffer
    rcases buffer with given | ⟨none, built⟩
    · rw [given]
    · rw [none]
      exact built
  have timed : plan.checkRuntime settings (plan.identifier random) ambient = .ok () := by
    rw [checkRuntime, runtime, Bool.not_true, Bool.and_false]
    rfl
  exact ⟨_, congrArg Prod.fst (enact_of_parts settled built timed named), rfl, rfl, rfl⟩

end Plan

namespace Buffer

variable {α : Type}

/-- A queue of as many values as its policy says, if so many can be addressed. -/
theorem ofPolicy_queue {capacity : UInt64} (positive : capacity ≠ 0) (profile : Profile α) :
    ofPolicy profile (.queue capacity) =
      if wordMax < (capacity.toNat * profile.width : Nat) then .error (.panic .capacityOverflow)
      else .ok (.queue ⟨capacity.toNat, []⟩) := by
  have atLeastOne : max capacity.toNat 1 = capacity.toNat := by
    have count : capacity.toNat ≠ 0 := fun none => positive (UInt64.toNat_inj.mp none)
    omega
  by_cases tooLong : wordMax < (capacity.toNat * profile.width : Nat)
  · simp only [ofPolicy, Policy.validate, if_neg positive, Queue.allocate, atLeastOne,
      if_pos tooLong]
  · simp only [ofPolicy, Policy.validate, if_neg positive, Queue.allocate, Queue.ofCapacity,
      atLeastOne, if_neg tooLong]

theorem ofPolicy_timeWindow {windowMs : UInt64} (positive : windowMs ≠ 0) {profile : Profile α}
    {stampOf : α → Option Timestamp} (supports : profile.stampOf = some stampOf) :
    ofPolicy profile (.timeWindow windowMs) =
      .ok (.window stampOf (.empty (.ofWordMillis windowMs))) := by
  simp only [ofPolicy, Policy.validate, if_neg positive, supports]

end Buffer

namespace Settings

/-- Valid settings have a shortest period if and only if they cap the rate, and a subscription that
is established on them waits for as long.  They get the buffer that they ask for, unless its queue
is longer than can be addressed.  Milliseconds that do not fit a signed word are not honoured: the
period is negative and caps nothing, the window is negative. -/
theorem validated_honoured {α : Type} {settings : Settings}
    (valid : settings.validate = .ok settings) (profile : Profile α) :
    (settings.minPeriod.isSome = settings.maxRateMs.isSome ∧
      ∀ millis, settings.maxRateMs = some millis →
        ∃ period : Duration, settings.minPeriod = some period ∧ period.Renders millis) ∧
    (∀ (plan : Plan α) random ambient b worker, plan.effectiveSettings = .ok settings →
      (plan.buffer = some b ∨
        plan.buffer = none ∧ Buffer.ofPolicy profile settings.buffer = .ok b) →
      (plan.hasRuntime || ambient) = true →
      plan.workerName (plan.identifier random) = .ok worker →
        ∃ subscription, plan.establish profile random ambient = .ok subscription ∧
          subscription.settings = settings ∧ subscription.engine.decoupler.buffer = b ∧
          subscription.engine.decoupler.pacer.minPeriod =
            settings.minPeriod.bind Duration.toDelay?) ∧
    (settings.buffer = .latest →
      Buffer.ofPolicy profile settings.buffer = .ok (.latest .empty)) ∧
    (∀ capacity, settings.buffer = .queue capacity →
      Buffer.ofPolicy profile settings.buffer =
        if wordMax < (capacity.toNat * profile.width : Nat) then .error (.panic .capacityOverflow)
        else .ok (.queue ⟨capacity.toNat, []⟩)) ∧
    (∀ windowMs stampOf, settings.buffer = .timeWindow windowMs →
      profile.stampOf = some stampOf →
        ∃ window : Duration, window.Renders windowMs ∧
          Buffer.ofPolicy profile settings.buffer = .ok (.window stampOf (.empty window))) := by
  obtain ⟨rate, buffered⟩ := validate_ok valid
  obtain ⟨queued, windowed⟩ := Policy.validate_ok buffered
  refine ⟨⟨?_, ?_⟩, ?_, ?_, ?_, ?_⟩
  · rw [minPeriod, Option.isSome_map]
  · intro millis capped
    have positive : millis ≠ 0 := fun zero => rate (by rw [capped, zero])
    refine ⟨.ofWordMillis millis, ?_, Duration.renders_ofWordMillis positive⟩
    rw [minPeriod, capped, Option.map_some]
  · intro plan random ambient b worker settled buffer runtime named
    exact Plan.establish_ok settled buffer runtime named
  · intro latest
    rw [latest]
    rfl
  · intro capacity queue
    have positive : capacity ≠ 0 := fun zero => queued (by rw [queue, zero])
    rw [queue]
    exact Buffer.ofPolicy_queue positive profile
  · intro windowMs stampOf window supports
    have positive : windowMs ≠ 0 := fun zero => windowed (by rw [window, zero])
    refine ⟨.ofWordMillis windowMs, Duration.renders_ofWordMillis positive, ?_⟩
    rw [window]
    exact Buffer.ofPolicy_timeWindow positive supports

theorem ten_millis_honoured :
    let settings : Settings := ⟨some 10, .queue 2⟩
    settings.validate = .ok settings ∧
      ∃ period : Duration, settings.minPeriod = some period ∧ period.nanos = 10000000 ∧
        period.toDelay? = some 10000000 := by
  intro settings
  have valid : settings.validate = .ok settings := rfl
  obtain ⟨period, capped, renders⟩ :=
    (validated_honoured valid (⟨"i64", 8, none⟩ : Profile Int64)).1.2 10 rfl
  obtain ⟨_, nanos, delay⟩ := renders.1 (by decide)
  have lasts : period.nanos = 10000000 := nanos.trans (by decide)
  refine ⟨valid, period, capped, lasts, ?_⟩
  rw [delay, lasts]
  rfl

/-- A rate cap of `2^63` milliseconds is valid, and a subscription that is established on it is not
capped at all; a queue of `2^62` values of eight bytes is valid, and cannot be built. -/
theorem far_settings_dishonoured :
    let settings : Settings := ⟨some 9223372036854775808, .latest⟩
    let profile : Profile Int64 := ⟨"i64", 8, none⟩
    settings.validate = .ok settings ∧
      settings.minPeriod.map Duration.nanos = some (-9223372036854775808) ∧
      settings.minPeriod.bind Duration.toDelay? = none ∧
      (Policy.queue 4611686018427387904).validate = .ok () ∧
      Buffer.ofPolicy profile (.queue 4611686018427387904) = .error (.panic .capacityOverflow) := by
  exact ⟨rfl, by decide, by decide, rfl, rfl⟩

end Settings

end Cadence
