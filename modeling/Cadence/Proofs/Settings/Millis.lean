import Cadence.Proofs.Settings.Honoured

/-!
# Durations kept in milliseconds

Settings keep a rate cap and a time window as numbers of milliseconds, and take a duration only if it
is a positive whole number of them.  Such a number is far from the end of its word, so the duration
that is read back is the one that was given, up to the longest there is.
-/

set_option autoImplicit false

namespace Cadence

namespace Duration

def LastsMillis (d : Duration) (count : Nat) : Prop := d.nanos = count * 1000000

def WholeMillis (d : Duration) : Prop := ∃ count, 0 < count ∧ d.LastsMillis count

section

variable {d : Duration} {count : Nat}

theorem toNat_of_lastsMillis (lasts : d.LastsMillis count) :
    (UInt64.ofNat count).toNat = count := by
  have le_max := d.le_max
  have top : wordMax = 9223372036854775807 := rfl
  unfold LastsMillis at lasts
  rw [UInt64.toNat_ofNat']
  exact Nat.mod_eq_of_lt (by omega)

theorem ofNat_ne_zero_of_lastsMillis (positive : 0 < count) (lasts : d.LastsMillis count) :
    UInt64.ofNat count ≠ 0 := by
  intro zero
  have same := toNat_of_lastsMillis lasts
  rw [zero, UInt64.toNat_zero] at same
  omega

theorem ofWordMillis_of_lastsMillis (lasts : d.LastsMillis count) :
    ofWordMillis (.ofNat count) = d := by
  have le_max := d.le_max
  have top : wordMax = 9223372036854775807 := rfl
  have unit : nanosPerMilli = 1000000 := rfl
  have same := toNat_of_lastsMillis lasts
  unfold LastsMillis at lasts
  have fits : ((UInt64.ofNat count).toNat : Int) ≤ wordMax := by omega
  apply Duration.ext
  rw [nanos_of_fits fits, same, unit]
  omega

end

end Duration

/-! ## Taking a duration -/

theorem MillisSetting.wholeMillis_cases (setting : MillisSetting) (d : Duration) :
    (∃ count, 0 < count ∧ d.LastsMillis count ∧ setting.wholeMillis d = .ok (.ofNat count)) ∨
    (¬ d.WholeMillis ∧ setting.wholeMillis d = .error (.notWholeMillis setting d.nanos)) := by
  have unit : Duration.nanosPerMilli = 1000000 := rfl
  by_cases refused : d.nanos ≤ 0 ∨ d.nanos.tmod Duration.nanosPerMilli ≠ 0
  · refine .inr ⟨?_, by rw [wholeMillis, if_pos refused]⟩
    rintro ⟨count, positive, lasts⟩
    unfold Duration.LastsMillis at lasts
    rcases refused with short | fraction
    · omega
    · rw [unit, lasts, Int.mul_tmod_left] at fraction
      exact fraction rfl
  · obtain ⟨positive, whole⟩ := not_or.mp refused
    rw [not_not, unit] at whole
    have quotient : d.nanos.tdiv 1000000 = d.nanos / 1000000 :=
      Int.tdiv_eq_ediv_of_nonneg (by omega)
    have parts := Int.mul_tdiv_add_tmod d.nanos 1000000
    refine .inl ⟨(d.nanos.tdiv Duration.nanosPerMilli).toNat, ?_, ?_, ?_⟩
    · rw [unit]
      omega
    · unfold Duration.LastsMillis
      rw [unit]
      omega
    · rw [wholeMillis, if_neg refused]

/-- Both settings that are kept in milliseconds take exactly the positive whole numbers of them. -/
theorem MillisSetting.wholeMillis_ok_iff (setting : MillisSetting) (d : Duration) :
    (∃ word, setting.wholeMillis d = .ok word) ↔ d.WholeMillis := by
  rcases setting.wholeMillis_cases d with ⟨count, positive, lasts, same⟩ | ⟨fraction, same⟩
  · exact ⟨fun _ => ⟨count, positive, lasts⟩, fun _ => ⟨_, same⟩⟩
  · rw [same]
    exact ⟨fun taken => (by cases taken.choose_spec), fun whole => absurd whole fraction⟩

theorem MillisSetting.wholeMillis_error {d : Duration} (fraction : ¬ d.WholeMillis)
    (setting : MillisSetting) :
    setting.wholeMillis d = .error (.notWholeMillis setting d.nanos) := by
  rcases setting.wholeMillis_cases d with ⟨count, positive, lasts, _⟩ | ⟨_, same⟩
  · exact absurd ⟨count, positive, lasts⟩ fraction
  · exact same

/-- A word that was taken is not zero, and stands for the duration that it was taken from. -/
theorem MillisSetting.of_wholeMillis {setting : MillisSetting} {d : Duration} {word : UInt64}
    (taken : setting.wholeMillis d = .ok word) : word ≠ 0 ∧ Duration.ofWordMillis word = d := by
  rcases setting.wholeMillis_cases d with ⟨count, positive, lasts, same⟩ | ⟨_, same⟩
  · obtain rfl := Except.ok.inj (same.symm.trans taken)
    exact ⟨Duration.ofNat_ne_zero_of_lastsMillis positive lasts,
      Duration.ofWordMillis_of_lastsMillis lasts⟩
  · rw [same] at taken
    cases taken

/-! ## The rate cap -/

namespace Settings

theorem withMaxRate_eq_ok {settings capped : Settings} {d : Duration}
    (success : settings.withMaxRate d = .ok capped) :
    ∃ word, MillisSetting.maxRate.wholeMillis d = .ok word ∧
      capped = { settings with maxRateMs := some word } := by
  unfold withMaxRate at success
  cases taken : MillisSetting.maxRate.wholeMillis d with
  | error fault =>
      rw [taken] at success
      cases success
  | ok word =>
      rw [taken] at success
      exact ⟨word, rfl, (Except.ok.inj success).symm⟩

theorem withMaxRate_ok_iff (settings : Settings) (d : Duration) :
    (∃ capped, settings.withMaxRate d = .ok capped) ↔ d.WholeMillis := by
  rw [← MillisSetting.wholeMillis_ok_iff .maxRate d]
  constructor
  · rintro ⟨capped, success⟩
    obtain ⟨word, taken, _⟩ := withMaxRate_eq_ok success
    exact ⟨word, taken⟩
  · rintro ⟨word, taken⟩
    exact ⟨{ settings with maxRateMs := some word }, by rw [withMaxRate, taken]; rfl⟩

theorem withMaxRate_error {d : Duration} (fraction : ¬ d.WholeMillis) (settings : Settings) :
    settings.withMaxRate d = .error (.notWholeMillis .maxRate d.nanos) := by
  rw [withMaxRate, MillisSetting.wholeMillis_error fraction]
  rfl

theorem validate_of_parts {settings : Settings} (rate : settings.maxRateMs ≠ some 0)
    (buffer : settings.buffer.validate = .ok ()) : settings.validate = .ok settings := by
  rw [validate, if_neg rate, buffer]
  rfl

theorem of_withMaxRate {settings capped : Settings} {d : Duration}
    (success : settings.withMaxRate d = .ok capped) :
    capped.minPeriod = some d ∧ capped.buffer = settings.buffer ∧
      (settings.buffer.validate = .ok () → capped.validate = .ok capped) := by
  obtain ⟨word, taken, rfl⟩ := withMaxRate_eq_ok success
  obtain ⟨nonzero, exact⟩ := MillisSetting.of_wholeMillis taken
  refine ⟨?_, rfl, ?_⟩
  · rw [minPeriod, Option.map_some, exact]
  · intro valid
    have rate : some word ≠ some 0 := fun zero => nonzero (Option.some.inj zero)
    exact validate_of_parts rate valid

end Settings

/-! ## The time window -/

namespace Policy

theorem ofWindow_eq_ok {policy : Policy} {d : Duration} (success : ofWindow d = .ok policy) :
    ∃ word, MillisSetting.timeWindow.wholeMillis d = .ok word ∧ policy = .timeWindow word := by
  unfold ofWindow at success
  cases taken : MillisSetting.timeWindow.wholeMillis d with
  | error fault =>
      rw [taken] at success
      cases success
  | ok word =>
      rw [taken] at success
      exact ⟨word, rfl, (Except.ok.inj success).symm⟩

theorem ofWindow_ok_iff (d : Duration) : (∃ policy, ofWindow d = .ok policy) ↔ d.WholeMillis := by
  rw [← MillisSetting.wholeMillis_ok_iff .timeWindow d]
  constructor
  · rintro ⟨policy, success⟩
    obtain ⟨word, taken, _⟩ := ofWindow_eq_ok success
    exact ⟨word, taken⟩
  · rintro ⟨word, taken⟩
    exact ⟨.timeWindow word, by rw [ofWindow, taken]; rfl⟩

theorem ofWindow_error {d : Duration} (fraction : ¬ d.WholeMillis) :
    ofWindow d = .error (.notWholeMillis .timeWindow d.nanos) := by
  rw [ofWindow, MillisSetting.wholeMillis_error fraction]
  rfl

theorem of_ofWindow {α : Type} {policy : Policy} {d : Duration}
    (success : ofWindow d = .ok policy) (profile : Profile α) :
    policy.validate = .ok () ∧ ∀ stampOf, profile.stampOf = some stampOf →
      Buffer.ofPolicy profile policy = .ok (.window stampOf (.empty d)) := by
  obtain ⟨word, taken, rfl⟩ := ofWindow_eq_ok success
  obtain ⟨nonzero, exact⟩ := MillisSetting.of_wholeMillis taken
  refine ⟨by rw [validate, if_neg nonzero], ?_⟩
  intro stampOf supports
  rw [Buffer.ofPolicy_timeWindow nonzero supports, exact]

end Policy

namespace Settings

/-- A rate cap and a time window are taken if and only if they are positive whole numbers of
milliseconds; anything else is refused as such.  What was taken is kept exactly: the least period of
the settings is the duration that was given, and so is the length of the window that is built from the
policy.  Settings that are valid but for what is replaced are valid with it, the default ones in
particular. -/
theorem whole_millis_kept {α : Type} (d : Duration) (settings : Settings) (profile : Profile α) :
    ((∃ capped, settings.withMaxRate d = .ok capped) ↔ d.WholeMillis) ∧
    ((∃ policy, Policy.ofWindow d = .ok policy) ↔ d.WholeMillis) ∧
    (¬ d.WholeMillis →
      settings.withMaxRate d = .error (.notWholeMillis .maxRate d.nanos) ∧
        Policy.ofWindow d = .error (.notWholeMillis .timeWindow d.nanos)) ∧
    (∀ capped, settings.withMaxRate d = .ok capped →
      capped.minPeriod = some d ∧ capped.buffer = settings.buffer ∧
        (settings.buffer.validate = .ok () → capped.validate = .ok capped)) ∧
    (∀ policy, Policy.ofWindow d = .ok policy →
      policy.validate = .ok () ∧
        (∀ stampOf, profile.stampOf = some stampOf →
          Buffer.ofPolicy profile policy = .ok (.window stampOf (.empty d))) ∧
        (settings.maxRateMs ≠ some 0 →
          (settings.withBuffer policy).validate = .ok (settings.withBuffer policy))) ∧
    default.maxRateMs ≠ some 0 ∧ default.buffer.validate = .ok () := by
  refine ⟨settings.withMaxRate_ok_iff d, Policy.ofWindow_ok_iff d, ?refused,
    fun _ => of_withMaxRate, ?window, nofun, rfl⟩
  case refused =>
    intro fraction
    exact ⟨withMaxRate_error fraction settings, Policy.ofWindow_error fraction⟩
  case window =>
    intro policy success
    obtain ⟨valid, built⟩ := Policy.of_ofWindow success profile
    exact ⟨valid, built, fun rate => validate_of_parts rate valid⟩

/-- The longest whole number of milliseconds, as a rate cap that takes the place of a zero and as a
time window; one nanosecond more is refused. -/
theorem longest_millis_kept :
    let longest := Duration.ofNanos 9223372036854000000
    let longer := Duration.ofNanos 9223372036854000001
    let settings : Settings := ⟨some 0, .queue 2⟩
    let profile : Profile Timestamp := ⟨"Timestamp", 16, some some⟩
    settings.withMaxRate longest = .ok ⟨some 9223372036854, .queue 2⟩ ∧
      (Settings.mk (some 9223372036854) (.queue 2)).minPeriod = some longest ∧
      (Settings.mk (some 9223372036854) (.queue 2)).validate =
        .ok ⟨some 9223372036854, .queue 2⟩ ∧
      Policy.ofWindow longest = .ok (.timeWindow 9223372036854) ∧
      Buffer.ofPolicy profile (.timeWindow 9223372036854) = .ok (.window some (.empty longest)) ∧
      settings.withMaxRate longer =
        .error (.notWholeMillis .maxRate 9223372036854000001) := by
  intro longest longer settings profile
  have taken : settings.withMaxRate longest = .ok ⟨some 9223372036854, .queue 2⟩ := rfl
  have window : Policy.ofWindow longest = .ok (.timeWindow 9223372036854) := rfl
  obtain ⟨-, -, -, capped, policed, -⟩ := whole_millis_kept longest settings profile
  obtain ⟨period, _, valid⟩ := capped _ taken
  obtain ⟨-, -, refused, -⟩ := whole_millis_kept longer settings profile
  have fraction : ¬ longer.WholeMillis := by
    rintro ⟨count, _, lasts⟩
    have nanos : longer.nanos = 9223372036854000001 := by decide
    rw [Duration.LastsMillis, nanos] at lasts
    omega
  exact ⟨taken, period, valid rfl, window, (policed _ window).2.1 some rfl, (refused fraction).1⟩

end Settings

end Cadence
