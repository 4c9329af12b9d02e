import Cadence.Engine.Basic
import Cadence.Executor.ThreadName
import Cadence.Payload.Support

/-!
# Planning a subscription

A `Plan` gathers what a subscription is to be made of.  Establishing it checks the settings first,
then installs the extractors of the stamped scalars, finds the buffer, then a runtime for the timers
of a rate cap, and starts a worker if no dispatch was given; whichever of them fails first decides the
answer.  Only then is the listener taken.
-/

set_option autoImplicit false

namespace Cadence

structure Plan (α : Type) where
  /-- The identifier in reports and metrics; a random one is made if there is none. -/
  name : Option String
  settings : Settings
  /-- Takes the place of the rate cap in the settings. -/
  maxRate : Option Duration
  /-- Takes the place of the buffer that the policy asks for. -/
  buffer : Option (Buffer α)
  source : Option (ReadFunction α)
  hasDispatch : Bool
  hasRuntime : Bool

structure Subscription (α : Type) where
  settings : Settings
  engine : Engine α

inductive Deed
  | startedWorker (name : String)
  /-- A decoupler took the listener, and nothing else ever calls it. -/
  | tookListener
  deriving DecidableEq

/-- What establishing changes besides the subscription that it makes. -/
structure Surroundings where
  support : TypeSupport
  deeds : List Deed

/-- Steps that may be interrupted, and what they leave behind. -/
abbrev Enactment (β : Type) : Type := ExceptT Interruption (StateM Surroundings) β

namespace Enactment

variable {β : Type}

/-- Goes on with a result, or is interrupted. -/
def demand (outcome : Except Interruption β) : Enactment β := ExceptT.mk (pure outcome)

def perform (deed : Deed) : Enactment Unit :=
  ExceptT.lift (modify fun here => { here with deeds := here.deeds ++ [deed] })

/-- Installs the extractors of the stamped scalars; from then on the types that can tell time are
these. -/
def installBasic : Enactment TypeSupport :=
  ExceptT.lift (modifyGet fun here =>
    (here.support.withBasic, { here with support := here.support.withBasic }))

/-- Starts the worker, if there is to be one. -/
def startWorker : Option String → Enactment Unit
  | none => pure ()
  | some name => perform (.startedWorker name)

def carryOut (steps : Enactment β) (here : Surroundings) : Except Interruption β × Surroundings :=
  steps.run.run here

end Enactment

namespace Plan

variable {α : Type}

/-- A plan that leaves everything but the settings to the defaults. -/
def ofSettings (settings : Settings) : Plan α := ⟨none, settings, none, none, none, false, false⟩

def effectiveSettings (plan : Plan α) : Except ConfigFault Settings :=
  match plan.maxRate with
  | none => plan.settings.validate
  | some period =>
      match plan.settings.withMaxRate period with
      | .error fault => .error fault
      | .ok settings => settings.validate

def identifier (plan : Plan α) (random : String) : String := plan.name.getD ("sub-" ++ random)

/-- The buffer that the plan brings, or else the one that the settings ask for. -/
def chosenBuffer (plan : Plan α) (profile : Profile α) (settings : Settings) :
    Except Interruption (Buffer α) :=
  match plan.buffer with
  | some buffer => .ok buffer
  | none => Buffer.ofPolicy profile settings.buffer

/-- A rate cap needs timers, and timers need a runtime. -/
def checkRuntime (plan : Plan α) (settings : Settings) (subject : String) (ambient : Bool) :
    Except Interruption Unit :=
  if (settings.minPeriod.bind Duration.toDelay?).isSome && !(plan.hasRuntime || ambient) then
    .error (.failure (.config (.noRuntime subject)))
  else .ok ()

def workerName (plan : Plan α) (subject : String) : Except Panic (Option String) :=
  if plan.hasDispatch then .ok none else (threadName ("pvflow-" ++ subject)).map some

def assemble (plan : Plan α) (settings : Settings) (subject : String) (buffer : Buffer α)
    (worker : Option String) (ambient : Bool) : Subscription α :=
  let period := settings.minPeriod.bind Duration.toDelay?
  let runtime := plan.hasRuntime || ambient
  let engine := Engine.init subject (.init buffer period) plan.source runtime true
  let notices := worker.toList.map fun _ => Notice.dedicatedWorker subject
  ⟨settings, engine.note (notices ++ [Notice.established subject settings])⟩

open Enactment (demand perform installBasic startWorker) in
/-- Establishes the subscription.  What is known of its values may depend on the extractors that are
installed.  `random` makes the identifier unique if the plan has no name, and `ambient` tells whether
the caller runs inside a runtime. -/
def enact (plan : Plan α) (profileOf : TypeSupport → Profile α) (random : String) (ambient : Bool) :
    Enactment (Subscription α) := do
  let settings ← demand (plan.effectiveSettings.mapError fun fault => .failure (.config fault))
  let support ← installBasic
  let subject := plan.identifier random
  let buffer ← demand (plan.chosenBuffer (profileOf support) settings)
  demand (plan.checkRuntime settings subject ambient)
  let worker ← demand ((plan.workerName subject).mapError .panic)
  startWorker worker
  perform .tookListener
  return plan.assemble settings subject buffer worker ambient

/-- The answer over values of which everything is known that there is to know. -/
def establish (plan : Plan α) (profile : Profile α) (random : String) (ambient : Bool) :
    Except Interruption (Subscription α) :=
  ((plan.enact (fun _ => profile) random ambient).carryOut ⟨.empty, []⟩).1

end Plan

end Cadence
