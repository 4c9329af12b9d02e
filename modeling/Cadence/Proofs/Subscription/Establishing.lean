import Cadence.Proofs.Settings.Millis
import Cadence.Proofs.Subscription.Steps

/-!
# Which plans are established

A plan is established if and only if its settings, with the plan's rate cap in place of theirs, are
valid, the buffer that it gets by its policy can tell time once the stamped scalars are installed, and
its timers have a runtime.  Any other plan is refused before anything is started.
-/

set_option autoImplicit false

namespace Cadence

/-! ## Settings with a rate cap in place of theirs -/

theorem Policy.validate_cases (policy : Policy) :
    ((policy ≠ .queue 0 ∧ policy ≠ .timeWindow 0) ∧ policy.validate = .ok ()) ∨
    (¬ (policy ≠ .queue 0 ∧ policy ≠ .timeWindow 0) ∧ ∃ fault, policy.validate = .error fault) := by
  cases checked : policy.validate with
  | ok _ => exact .inl ⟨Policy.validate_ok checked, rfl⟩
  | error fault =>
      refine .inr ⟨?_, fault, rfl⟩
      rintro ⟨queue, window⟩
      cases policy with
      | latest => cases checked
      | queue capacity =>
          rw [validate, if_neg fun zero => queue (by rw [zero])] at checked
          cases checked
      | timeWindow windowMs =>
          rw [validate, if_neg fun zero => window (by rw [zero])] at checked
          cases checked

theorem Settings.validate_cases (settings : Settings) :
    ((settings.maxRateMs ≠ some 0 ∧ settings.buffer ≠ .queue 0 ∧ settings.buffer ≠ .timeWindow 0) ∧
      settings.validate = .ok settings) ∨
    (¬ (settings.maxRateMs ≠ some 0 ∧ settings.buffer ≠ .queue 0 ∧
        settings.buffer ≠ .timeWindow 0) ∧ ∃ fault, settings.validate = .error fault) := by
  by_cases zero : settings.maxRateMs = some 0
  · exact .inr ⟨fun parts => parts.1 zero, .zeroRate, by rw [validate, if_pos zero]⟩
  · rcases settings.buffer.validate_cases with ⟨parts, valid⟩ | ⟨parts, fault, refused⟩
    · exact .inl ⟨⟨zero, parts⟩, validate_of_parts zero valid⟩
    · refine .inr ⟨fun all => parts all.2, fault, ?_⟩
      rw [validate, if_neg zero, refused]
      rfl

theorem Duration.LastsMillis.eq_ediv {d : Duration} {count : Nat} (lasts : d.LastsMillis count) :
    count = (d.nanos / 1000000).toNat := by
  unfold LastsMillis at lasts
  omega

namespace Plan

variable {α : Type}

def overridden (plan : Plan α) : Settings :=
  match plan.maxRate with
  | none => plan.settings
  | some period =>
      { plan.settings with maxRateMs := some (.ofNat (period.nanos / 1000000).toNat) }

/-- The plan's rate cap can be kept in milliseconds, and nothing in the overridden settings is zero.
The policy counts even if the plan has a buffer, and a rate cap that is overridden does not. -/
structure Settled (plan : Plan α) : Prop where
  wholeMillis : ∀ period, plan.maxRate = some period → period.WholeMillis
  rate : plan.overridden.maxRateMs ≠ some 0
  capacity : plan.settings.buffer ≠ .queue 0
  window : plan.settings.buffer ≠ .timeWindow 0

/-- A buffer that the policy asks for can be built over values with the given profile. -/
def Stamped (plan : Plan α) (profile : Profile α) : Prop :=
  plan.buffer = none → ∀ windowMs, plan.settings.buffer = .timeWindow windowMs →
    profile.stampOf.isSome

def Timed (plan : Plan α) (ambient : Bool) : Prop :=
  (plan.overridden.minPeriod.bind Duration.toDelay?).isSome →
    plan.hasRuntime = true ∨ ambient = true

/-- Nothing but its worker can stop the plan's subscription. -/
def Sound (plan : Plan α) (profile : Profile α) (ambient : Bool) : Prop :=
  plan.Settled ∧ plan.Stamped profile ∧ plan.Timed ambient

/-- As many values as the policy's queue holds can be addressed, if the plan gets that queue. -/
def Allocatable (plan : Plan α) (profile : Profile α) : Prop :=
  plan.buffer = none → ∀ capacity, plan.settings.buffer = .queue capacity →
    ((capacity.toNat * profile.width : Nat) : Int) ≤ wordMax

theorem overridden_buffer (plan : Plan α) : plan.overridden.buffer = plan.settings.buffer := by
  unfold overridden
  cases plan.maxRate <;> rfl

theorem effectiveSettings_cases (plan : Plan α) :
    (plan.Settled ∧ plan.effectiveSettings = .ok plan.overridden) ∨
    (¬ plan.Settled ∧ ∃ fault, plan.effectiveSettings = .error fault) := by
  have checked := plan.overridden.validate_cases
  rw [overridden_buffer] at checked
  by_cases whole : ∀ period, plan.maxRate = some period → period.WholeMillis
  case neg =>
    obtain ⟨period, capped, fraction⟩ : ∃ period, plan.maxRate = some period ∧
        ¬ period.WholeMillis := by
      simpa only [not_forall, exists_prop] using whole
    refine .inr ⟨fun settled => fraction (settled.wholeMillis period capped), ?_⟩
    simp only [effectiveSettings, capped, Settings.withMaxRate_error fraction]
    exact ⟨_, rfl⟩
  case pos =>
    have same : plan.effectiveSettings = plan.overridden.validate := by
      cases capped : plan.maxRate with
      | none => simp only [effectiveSettings, overridden, capped]
      | some period =>
          rcases MillisSetting.maxRate.wholeMillis_cases period with
            ⟨count, _, lasts, taken⟩ | ⟨fraction, _⟩
          · simp only [effectiveSettings, overridden, capped, Settings.withMaxRate, taken,
              ← lasts.eq_ediv, Except.map]
          · exact absurd (whole period capped) fraction
    rw [same]
    rcases checked with ⟨⟨rate, capacity, window⟩, valid⟩ | ⟨invalid, refused⟩
    · exact .inl ⟨⟨whole, rate, capacity, window⟩, valid⟩
    · exact .inr ⟨fun settled => invalid ⟨settled.rate, settled.capacity, settled.window⟩, refused⟩

/-! ## The buffer -/

theorem chosenBuffer_cases {plan : Plan α} {profile : Profile α}
    (allocatable : plan.Allocatable profile) (settled : plan.Settled) :
    (plan.Stamped profile ∧ ∃ b, plan.chosenBuffer profile plan.overridden = .ok b) ∨
    (¬ plan.Stamped profile ∧ ∃ fault,
      plan.chosenBuffer profile plan.overridden = .error (.failure (.config fault))) := by
  unfold chosenBuffer
  rw [overridden_buffer]
  cases brought : plan.buffer with
  | some b => exact .inl ⟨fun none => by simp only [brought, reduceCtorEq] at none, b, rfl⟩
  | none =>
      cases policy : plan.settings.buffer with
      | latest =>
          refine .inl ⟨fun _ _ window => ?_, _, rfl⟩
          rw [policy] at window
          cases window
      | queue capacity =>
          have positive : capacity ≠ 0 := fun zero => settled.capacity (by rw [policy, zero])
          have addressed := allocatable brought capacity policy
          refine .inl ⟨fun _ _ window => ?_, .queue ⟨capacity.toNat, []⟩, ?_⟩
          · rw [policy] at window
            cases window
          · rw [Buffer.ofPolicy_queue positive, if_neg (by omega)]
      | timeWindow windowMs =>
          have positive : windowMs ≠ 0 := fun zero => settled.window (by rw [policy, zero])
          cases supports : profile.stampOf with
          | some stampOf =>
              have built := Buffer.ofPolicy_timeWindow positive supports
              exact .inl ⟨fun _ _ _ => by rw [supports]; rfl, _, built⟩
          | none =>
              refine .inr ⟨fun stamped => ?_, .noTimestampSupport profile.typeName, ?_⟩
              · have some := stamped brought windowMs policy
                rw [supports] at some
                cases some
              · simp only [Buffer.ofPolicy, Policy.validate, if_neg positive, supports]

/-! ## The other parts -/

theorem checkRuntime_cases (plan : Plan α) (subject : String) (ambient : Bool) :
    (plan.Timed ambient ∧ plan.checkRuntime plan.overridden subject ambient = .ok ()) ∨
    (¬ plan.Timed ambient ∧ ∃ fault,
      plan.checkRuntime plan.overridden subject ambient = .error (.failure (.config fault))) := by
  unfold Timed checkRuntime
  by_cases capped : (plan.overridden.minPeriod.bind Duration.toDelay?).isSome = true
  case neg => exact .inl ⟨fun present => absurd present capped, by simp only [capped]; rfl⟩
  case pos =>
    by_cases found : plan.hasRuntime = true ∨ ambient = true
    · refine .inl ⟨fun _ => found, if_neg ?_⟩
      rw [capped, Bool.or_eq_true _ _ |>.mpr found]
      decide
    · refine .inr ⟨fun timed => found (timed capped), .noRuntime subject, if_pos ?_⟩
      rw [capped, Bool.eq_false_iff.mpr (mt (Bool.or_eq_true _ _).mp found)]
      rfl

theorem workerName_of_staffed {plan : Plan α} {subject : String}
    (staffed : plan.hasDispatch = true ∨
      ∃ name, threadName ("pvflow-" ++ subject) = .ok name) :
    ∃ worker, plan.workerName subject = .ok worker := by
  unfold workerName
  by_cases given : plan.hasDispatch = true
  · exact ⟨none, if_pos given⟩
  · obtain ⟨name, named⟩ := staffed.resolve_left given
    exact ⟨some name, by rw [if_neg given, named]; rfl⟩

/-- A sound plan has all its parts but the worker.  Any other is refused before a worker is started
or the listener taken. -/
theorem sound_cases {plan : Plan α} {profileOf : TypeSupport → Profile α} {here : Surroundings}
    (allocatable : plan.Allocatable (profileOf here.support.withBasic)) (random : String)
    (ambient : Bool) :
    (plan.Sound (profileOf here.support.withBasic) ambient ∧
      plan.effectiveSettings = .ok plan.overridden ∧
      (∃ b, plan.chosenBuffer (profileOf here.support.withBasic) plan.overridden = .ok b) ∧
      plan.checkRuntime plan.overridden (plan.identifier random) ambient = .ok ()) ∨
    (¬ plan.Sound (profileOf here.support.withBasic) ambient ∧ ∃ fault left,
      (plan.enact profileOf random ambient).carryOut here =
        (.error (.failure (.config fault)), left) ∧ left.deeds = here.deeds) := by
  rcases plan.effectiveSettings_cases with ⟨settled, valid⟩ | ⟨unsettled, fault, refused⟩
  case inr =>
    exact .inr ⟨fun sound => unsettled sound.1, fault, here, enact_of_fault refused, rfl⟩
  rcases chosenBuffer_cases allocatable settled with ⟨stamped, b, built⟩ | ⟨unstamped, fault, missing⟩
  case inr =>
    exact .inr ⟨fun sound => unstamped sound.2.1, fault, _, enact_of_no_buffer valid missing, rfl⟩
  rcases plan.checkRuntime_cases (plan.identifier random) ambient with
    ⟨timed, found⟩ | ⟨untimed, fault, missing⟩
  case inr =>
    exact .inr ⟨fun sound => untimed sound.2.2, fault, _, enact_of_no_runtime valid built missing,
      rfl⟩
  exact .inl ⟨⟨settled, stamped, timed⟩, valid, ⟨b, built⟩, found⟩

/-! ## The types that can tell time -/

end Plan

namespace TypeSupport

theorem isInstalled_install (support : TypeSupport) (kind other : PayloadKind)
    (extract : kind.Carrier → Option Timestamp) :
    (support.install kind extract).isInstalled other = true ↔
      other = kind ∨ support.isInstalled other = true := by
  by_cases same : kind = other
  · subst same
    simp only [isInstalled, install, dite_true, Option.isSome_some, true_or]
  · simp only [isInstalled, install, dif_neg same, Ne.symm same, false_or]

theorem isInstalled_foldl
    (extract : (scalar : Scalar) → (PayloadKind.stamped scalar).Carrier → Option Timestamp)
    (kind : PayloadKind) (scalars : List Scalar) (support : TypeSupport) :
    (scalars.foldl (fun (support : TypeSupport) scalar =>
        support.install (.stamped scalar) (extract scalar)) support).isInstalled kind = true ↔
      (∃ scalar ∈ scalars, kind = .stamped scalar) ∨ support.isInstalled kind = true := by
  induction scalars generalizing support with
  | nil => simp only [List.foldl_nil, List.not_mem_nil, false_and, exists_false, false_or]
  | cons scalar scalars ih =>
      rw [List.foldl_cons, ih, isInstalled_install, List.exists_mem_cons_iff, or_left_comm, or_assoc]

/-- Once the basic extractors are installed, exactly the stamped scalars and what had been installed
before can be buffered by a time window. -/
theorem stampOf_withBasic (support : TypeSupport) (kind : PayloadKind) :
    (support.withBasic.profile kind).stampOf.isSome = true ↔
      (∃ scalar, kind = .stamped scalar) ∨ support.isInstalled kind = true := by
  change support.withBasic.isInstalled kind = true ↔ _
  unfold withBasic
  refine (isInstalled_foldl (fun _ value => some value.stamp) kind _ support).trans ?_
  -- every scalar is on the list
  refine or_congr_left ⟨fun ⟨scalar, _, same⟩ => ⟨scalar, same⟩, fun ⟨scalar, same⟩ => ?_⟩
  exact ⟨scalar, by cases scalar <;> decide, same⟩

end TypeSupport

namespace Plan

variable {α : Type}

theorem minPeriod_overridden {plan : Plan α} (settled : plan.Settled) {period : Duration}
    (capped : plan.maxRate = some period) : plan.overridden.minPeriod = some period := by
  obtain ⟨count, _, lasts⟩ := settled.wholeMillis period capped
  simp only [overridden, capped, Settings.minPeriod, Option.map_some, ← lasts.eq_ediv,
    Duration.ofWordMillis_of_lastsMillis lasts]

/-- Establishing decides exactly.  With a dispatch, or a worker that can be started, a plan is
established if and only if it is sound, over values of which is known what is known once the stamped
scalars are installed; a plan that is not is refused for its configuration, with no worker started and
the listener not taken.  An established subscription has the plan's settings, in which the rate cap
that overrides is kept exactly, and the buffer that the plan brings, if it brings one; the extractors
are installed, its worker was started and its listener taken.  The types that can tell time are those
that had an extractor before and the stamped scalars. -/
theorem establish_decided (plan : Plan α) (profileOf : TypeSupport → Profile α) (random : String)
    (ambient : Bool) (here : Surroundings)
    (allocatable : plan.Allocatable (profileOf here.support.withBasic)) :
    let profile := profileOf here.support.withBasic
    let ended := (plan.enact profileOf random ambient).carryOut here
    (plan.hasDispatch = true ∨
        (∃ name, threadName ("pvflow-" ++ plan.identifier random) = .ok name) →
      ((∃ subscription, ended.1 = .ok subscription) ↔ plan.Sound profile ambient)) ∧
    (¬ plan.Sound profile ambient →
      (∃ fault, ended.1 = .error (.failure (.config fault))) ∧ ended.2.deeds = here.deeds) ∧
    (∀ subscription, ended.1 = .ok subscription →
      subscription.settings = plan.overridden ∧
        (∀ period, plan.maxRate = some period → subscription.settings.minPeriod = some period) ∧
        (∀ b, plan.buffer = some b → subscription.engine.decoupler.buffer = b) ∧
        (plan.buffer = none → Buffer.ofPolicy profile plan.settings.buffer =
          .ok subscription.engine.decoupler.buffer) ∧
        ended.2.support = here.support.withBasic ∧
        ∃ worker : Option String, plan.workerName (plan.identifier random) = .ok worker ∧
          ended.2.deeds =
            here.deeds ++ worker.toList.map Deed.startedWorker ++ [.tookListener]) ∧
    ∀ kind : PayloadKind, (here.support.withBasic.profile kind).stampOf.isSome = true ↔
      (∃ scalar, kind = .stamped scalar) ∨ here.support.isInstalled kind = true := by
  intro profile ended
  refine ⟨?decided, ?refused, ?made, here.support.stampOf_withBasic⟩
  case decided =>
    intro staffed
    rcases sound_cases allocatable random ambient with
      ⟨sound, valid, ⟨b, built⟩, timed⟩ | ⟨unsound, fault, left, enacted, _⟩
    · obtain ⟨worker, named⟩ := workerName_of_staffed staffed
      have enacted := enact_of_parts valid built timed named
      exact ⟨fun _ => sound, fun _ => ⟨_, congrArg Prod.fst enacted⟩⟩
    · refine ⟨fun ⟨subscription, established⟩ => ?_, fun sound => absurd sound unsound⟩
      rw [show ended = _ from enacted] at established
      cases established
  case refused =>
    intro unsound
    rcases sound_cases allocatable random ambient with
      ⟨sound, _⟩ | ⟨_, fault, left, enacted, nothing⟩
    · exact absurd sound unsound
    · rw [show ended = _ from enacted]
      exact ⟨⟨fault, rfl⟩, nothing⟩
  case made =>
    intro subscription established
    obtain ⟨settings, b, worker, valid, built, timed, named, rfl⟩ := parts_of_enact established
    have left : ended.2 = _ := congrArg Prod.snd (enact_of_parts valid built timed named)
    rcases plan.effectiveSettings_cases with ⟨settled, same⟩ | ⟨_, fault, refused⟩
    · obtain rfl : settings = plan.overridden := Except.ok.inj (valid.symm.trans same)
      rw [chosenBuffer, overridden_buffer] at built
      refine ⟨rfl, fun period capped => minPeriod_overridden settled capped, fun b brought => ?_,
        fun brought => ?_, by rw [left], worker, named, by rw [left]⟩
      · rw [brought] at built
        exact (Except.ok.inj built).symm
      · rw [brought] at built
        exact built
    · rw [refused] at valid
      cases valid

/-- A rate cap takes the place of a configured zero, under a runtime and with a worker; but a window
without a length is refused even if the plan brings its own buffer, and nothing is started. -/
theorem zero_rate_overridden :
    let period := Duration.ofNanos 10000000
    let profileOf : TypeSupport → Profile Int64 := fun _ => ⟨"i64", 8, none⟩
    let here : Surroundings := ⟨.empty, []⟩
    let capped : Plan Int64 := ⟨some "s", ⟨some 0, .queue 2⟩, some period, none, none, false, false⟩
    let empty : Plan Int64 :=
      ⟨some "s", ⟨none, .timeWindow 0⟩, none, some (.latest .empty), none, true, true⟩
    (∃ subscription, ((capped.enact profileOf "" true).carryOut here).1 = .ok subscription ∧
      subscription.settings.minPeriod = some period) ∧
    ((empty.enact profileOf "" true).carryOut here).2.deeds = [] := by
  intro period profileOf here capped empty
  have allocatable : capped.Allocatable (profileOf here.support.withBasic) := by
    intro _ capacity policy
    cases policy
    decide
  have whole : period.WholeMillis := ⟨10, by decide, rfl⟩
  have named : threadName ("pvflow-" ++ capped.identifier "") = .ok "pvflow-s" := by
    have free : "pvflow-s".toUTF8.toList.findIdx? (· == 0) = none := by decide +kernel
    have same : "pvflow-" ++ capped.identifier "" = "pvflow-s" := by decide +kernel
    rw [same, threadName, free]
  have sound : capped.Sound (profileOf here.support.withBasic) true := by
    refine ⟨⟨?_, by decide, by decide, by decide⟩, ?_, fun _ => .inr rfl⟩
    · intro given same
      cases same
      exact whole
    · intro _ windowMs policy
      cases policy
  obtain ⟨decided, -, made, -⟩ := establish_decided capped profileOf "" true here allocatable
  obtain ⟨subscription, established⟩ := (decided (.inr ⟨_, named⟩)).mpr sound
  refine ⟨⟨subscription, established, (made subscription established).2.1 period rfl⟩, ?_⟩
  obtain ⟨-, refused, -, -⟩ :=
    establish_decided empty profileOf "" true here (fun none => by cases none)
  exact (refused fun sound => sound.1.window rfl).2

end Plan

end Cadence
