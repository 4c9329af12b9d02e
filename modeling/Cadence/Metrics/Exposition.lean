import Cadence.Decimal.Shortest
import Cadence.Metrics.Meters

/-!
# The exposition of meters

The text in which meters are published, in the Prometheus format: for every family of meters its
help, its type and its samples.  Families are in the order of their names and samples in the order
of their labels; a family without samples is left out.
-/

set_option autoImplicit false

namespace Cadence

structure Family where
  name : String
  help : String
  kind : String
  /-- The lines of the samples, without the family's name at their beginning. -/
  samples : List String

namespace Exposition

def number (x : Float) : String := Decimal.text x.toBits

/-- The upper bounds of the buckets into which delays are sorted, in milliseconds: the powers of two
from 1 to 2048. -/
def bounds : List Nat := (List.range 12).map fun n => Nat.pow 2 n

/-- A label's value: backslashes, quotes and line ends have a backslash before them. -/
def escapeLabel (value : String) : String :=
  String.ofList (value.toList.flatMap fun c =>
    if c = '\\' then ['\\', '\\']
    else if c = '"' then ['\\', '"']
    else if c = '\n' then ['\\', 'n']
    else [c])

def labels (pairs : List (String × String)) : String :=
  "\x7b" ++ String.intercalate "," (pairs.map fun pair =>
    pair.1 ++ "=\"" ++ escapeLabel pair.2 ++ "\"") ++ "\x7d"

/-- The samples of one histogram: its buckets, each of which counts what is not above its bound, the
sum and the count of what was observed. -/
def histogram (label : String) (observed : List Float) : List String :=
  let bucket := fun (bound : String) (count : Nat) =>
    "_bucket" ++ labels [("subscription", label), ("le", bound)] ++ " " ++ toString count
  bounds.map (fun bound =>
      bucket (toString bound) (observed.countP fun x => x ≤ Float.ofNat bound))
    ++ [bucket "+Inf" observed.length,
      "_sum" ++ labels [("subscription", label)] ++ " "
        ++ number (observed.foldl (· + ·) 0.0),
      "_count" ++ labels [("subscription", label)] ++ " " ++ toString observed.length]

end Exposition

namespace Meters

open Exposition in
def families (m : Meters) : List Family :=
  let counters := Counter.all.map fun counter =>
    (⟨counter.name, counter.help, "counter",
      (m.labelled counter).map fun entry =>
        labels [("subscription", entry.1)] ++ " " ++ toString entry.2⟩ : Family)
  let evictions : Family :=
    ⟨"queue_evictions", "Oldest values dropped by full bounded queues", "counter",
      [" " ++ toString m.evictions]⟩
  let deferrals : Family :=
    ⟨"rate_cap_deferral_ms", "Delay imposed on a cycle by the rate cap in ms", "histogram",
      m.labelledDeferrals.flatMap fun entry => histogram entry.1 entry.2⟩
  (counters ++ [evictions, deferrals]).filter fun family => !family.samples.isEmpty

end Meters

namespace Family

/-- The family under a name that begins with a prefix. -/
def prefixed (family : Family) (start : Option String) : Family :=
  match start with
  | none => family
  | some text => { family with name := text ++ "_" ++ family.name }

def text (family : Family) : String :=
  String.join
    (["# HELP " ++ family.name ++ " " ++ family.help ++ "\n",
        "# TYPE " ++ family.name ++ " " ++ family.kind ++ "\n"]
      ++ family.samples.map fun sample => family.name ++ sample ++ "\n")

end Family

def Meters.text (m : Meters) : String := String.join (m.families.map Family.text)

/-- A registry publishes the meters that were registered with it, under names of its own. -/
structure Registry where
  start : Option String
  isRegistered : Bool

namespace Registry

def empty (start : Option String) : Registry := ⟨start, false⟩

/-- Registers every meter.  One that is registered already is reported and stays as it is. -/
def register (registry : Registry) : Registry × List Notice :=
  ({ registry with isRegistered := true },
    if registry.isRegistered then
      List.replicate (Counter.all.length + 2) Notice.metricNotRegistered
    else [])

def registerTimes (registry : Registry) : Nat → Registry × List Notice
  | 0 => (registry, [])
  | times + 1 =>
      let (registry, notices) := registry.register
      let (registry, more) := registry.registerTimes times
      (registry, notices ++ more)

def families (registry : Registry) (m : Meters) : List Family :=
  if registry.isRegistered then m.families.map fun family => family.prefixed registry.start else []

def text (registry : Registry) (m : Meters) : String :=
  String.join ((registry.families m).map Family.text)

end Registry

end Cadence
