import Cadence.Subscription.Plan

/-!
# The steps of establishing

A plan is established exactly if each of its parts is there, and the subscription is put together from
them.  What an attempt leaves behind tells how far it came: nothing if the settings were refused, and
no worker unless everything else was found.
-/

set_option autoImplicit false

namespace Cadence

namespace Enactment

variable {ε β γ : Type}

theorem demand_mapError_ok (result : β) (cause : ε → Interruption) (next : β → Enactment γ) :
    demand ((Except.ok result).mapError cause) >>= next = next result := rfl

theorem demand_mapError_error (fault : ε) (cause : ε → Interruption) (next : β → Enactment γ)
    (here : Surroundings) :
    (demand ((Except.error fault).mapError cause) >>= next).carryOut here =
      (.error (cause fault), here) := rfl

theorem demand_ok (result : β) (next : β → Enactment γ) :
    demand (.ok result) >>= next = next result := rfl

theorem demand_error (interruption : Interruption) (next : β → Enactment γ) (here : Surroundings) :
    (demand (.error interruption) >>= next).carryOut here = (.error interruption, here) := rfl

theorem perform_bind (deed : Deed) (next : Unit → Enactment β) (here : Surroundings) :
    (perform deed >>= next).carryOut here =
      (next ()).carryOut { here with deeds := here.deeds ++ [deed] } := rfl

theorem startWorker_bind (worker : Option String) (next : Unit → Enactment β)
    (here : Surroundings) :
    (startWorker worker >>= next).carryOut here =
      (next ()).carryOut
        { here with deeds := here.deeds ++ worker.toList.map Deed.startedWorker } := by
  cases worker with
  | none =>
      rw [Option.toList_none, List.map_nil, List.append_nil]
      rfl
  | some name => exact perform_bind (.startedWorker name) next here

theorem installBasic_bind (next : TypeSupport → Enactment β) (here : Surroundings) :
    (installBasic >>= next).carryOut here =
      (next here.support.withBasic).carryOut { here with support := here.support.withBasic } := rfl

end Enactment

namespace Plan

variable {α : Type} {plan : Plan α} {profileOf : TypeSupport → Profile α} {random : String}
  {ambient : Bool} {here : Surroundings} {settings : Settings} {b : Buffer α}

theorem enact_of_fault {fault : ConfigFault} (refused : plan.effectiveSettings = .error fault) :
    (plan.enact profileOf random ambient).carryOut here =
      (.error (.failure (.config fault)), here) := by
  rw [enact, refused, Enactment.demand_mapError_error]

section

variable (settled : plan.effectiveSettings = .ok settings)

include settled

theorem enact_of_no_buffer {interruption : Interruption}
    (missing : plan.chosenBuffer (profileOf here.support.withBasic) settings =
      .error interruption) :
    (plan.enact profileOf random ambient).carryOut here =
      (.error interruption, { here with support := here.support.withBasic }) := by
  simp only [enact, settled, Enactment.demand_mapError_ok, Enactment.installBasic_bind, missing,
    Enactment.demand_error]

variable (built : plan.chosenBuffer (profileOf here.support.withBasic) settings = .ok b)

include built

theorem enact_of_no_runtime {interruption : Interruption}
    (missing : plan.checkRuntime settings (plan.identifier random) ambient = .error interruption) :
    (plan.enact profileOf random ambient).carryOut here =
      (.error interruption, { here with support := here.support.withBasic }) := by
  simp only [enact, settled, Enactment.demand_mapError_ok, Enactment.installBasic_bind, built,
    Enactment.demand_ok, missing, Enactment.demand_error]

variable (timed : plan.checkRuntime settings (plan.identifier random) ambient = .ok ())

include timed

theorem enact_of_panic {panic : Panic}
    (unnamed : plan.workerName (plan.identifier random) = .error panic) :
    (plan.enact profileOf random ambient).carryOut here =
      (.error (.panic panic), { here with support := here.support.withBasic }) := by
  simp only [enact, settled, Enactment.demand_mapError_ok, Enactment.installBasic_bind, built,
    Enactment.demand_ok, timed, unnamed, Enactment.demand_mapError_error]

/-- A plan with all its parts: its worker is started, and its listener taken. -/
theorem enact_of_parts {worker : Option String}
    (named : plan.workerName (plan.identifier random) = .ok worker) :
    (plan.enact profileOf random ambient).carryOut here =
      (.ok (plan.assemble settings (plan.identifier random) b worker ambient),
        { support := here.support.withBasic
          deeds := here.deeds ++ worker.toList.map Deed.startedWorker ++ [.tookListener] }) := by
  simp only [enact, settled, Enactment.demand_mapError_ok, Enactment.installBasic_bind, built,
    Enactment.demand_ok, timed, named, Enactment.startWorker_bind, Enactment.perform_bind]
  rfl

end

/-- An established subscription has all its parts. -/
theorem parts_of_enact {subscription : Subscription α}
    (ends : ((plan.enact profileOf random ambient).carryOut here).1 = .ok subscription) :
    ∃ settings b worker, plan.effectiveSettings = .ok settings ∧
      plan.chosenBuffer (profileOf here.support.withBasic) settings = .ok b ∧
      plan.checkRuntime settings (plan.identifier random) ambient = .ok () ∧
      plan.workerName (plan.identifier random) = .ok worker ∧
      subscription = plan.assemble settings (plan.identifier random) b worker ambient := by
  cases settled : plan.effectiveSettings with
  | error fault =>
      rw [enact_of_fault settled] at ends
      cases ends
  | ok settings =>
      cases built : plan.chosenBuffer (profileOf here.support.withBasic) settings with
      | error interruption =>
          rw [enact_of_no_buffer settled built] at ends
          cases ends
      | ok b =>
          cases timed : plan.checkRuntime settings (plan.identifier random) ambient with
          | error interruption =>
              rw [enact_of_no_runtime settled built timed] at ends
              cases ends
          | ok _ =>
              cases named : plan.workerName (plan.identifier random) with
              | error panic =>
                  rw [enact_of_panic settled built timed named] at ends
                  cases ends
              | ok worker =>
                  rw [enact_of_parts settled built timed named] at ends
                  exact ⟨settings, b, worker, rfl, built, timed, rfl, (Except.ok.inj ends).symm⟩

theorem parts_of_establish {profile : Profile α} {subscription : Subscription α}
    (established : plan.establish profile random ambient = .ok subscription) :
    ∃ settings b worker, plan.effectiveSettings = .ok settings ∧
      plan.chosenBuffer profile settings = .ok b ∧
      plan.checkRuntime settings (plan.identifier random) ambient = .ok () ∧
      plan.workerName (plan.identifier random) = .ok worker ∧
      subscription = plan.assemble settings (plan.identifier random) b worker ambient :=
  parts_of_enact established

end Plan

end Cadence
