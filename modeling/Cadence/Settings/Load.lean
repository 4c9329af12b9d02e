import Cadence.Settings.Document.Reader
import Cadence.Settings.File
import Cadence.Settings.Loader
import Cadence.Settings.Path

/-!
# Loading settings from a directory

A loader whose sources are lists of values with their keys, each of which is put where its key
leads, so a leaf of a later source takes the place of the same leaf of an earlier one.  Files are
TOML documents.  What a policy does not use may be there all the same.
-/

set_option autoImplicit false

namespace Cadence

/-! ## Layers -/

namespace Settings

def numeral? (n : UInt64) : Option Tree :=
  if (n.toNat : Int) ≤ wordMax then some (.integer n.toNat) else none

/-- The base layer of given settings; numbers beyond a signed word have none. -/
def toEntries? (settings : Settings) : Option (List (String × Tree)) := do
  let rate ← match settings.maxRateMs with
    | none => some .absent
    | some millis => numeral? millis
  let buffer ← match settings.buffer with
    | .latest => some [("policy", .text "latest")]
    | .queue capacity =>
        (numeral? capacity).map fun leaf => [("policy", .text "queue"), ("capacity", leaf)]
    | .timeWindow windowMs =>
        (numeral? windowMs).map fun leaf => [("policy", .text "time_window"), ("window_ms", leaf)]
  return [("max_rate_ms", rate), ("buffer", .table buffer)]

end Settings

namespace Naming

variable (naming : Naming)

/-- What begins the names of variables, in lower case. -/
def marker : List Char := (naming.start ++ naming.separator).toList.map Char.toLower

/-- Separators join the parts of a name as points do; the rest of the one at hand is skipped. -/
def pointed : Nat → List Char → List Char
  | _, [] => []
  | skipped + 1, _ :: rest => pointed skipped rest
  | 0, c :: rest =>
      if naming.separator.toList.isPrefixOf (c :: rest) then
        '.' :: pointed (naming.separator.length - 1) rest
      else c :: pointed 0 rest

/-- The key of a variable that is a setting.  Names do not depend on case. -/
def key? (name : String) : Option String :=
  let folded := name.toList.map Char.toLower
  if folded.take naming.marker.length = naming.marker then
    some (String.ofList (naming.pointed 0 (folded.drop naming.marker.length)))
  else none

/-- What a text stands for: a truth value, a number, or the text itself. -/
def parsed (text : String) : Tree :=
  let folded := text.toList.map Char.toLower
  if folded = "true".toList then .boolean true
  else if folded = "false".toList then .boolean false
  else
    match Decimal.integer? text.toList with
    | some n =>
        if wordMin ≤ n ∧ n ≤ wordMax then .integer n
        else ((Decimal.float? text.toList).map Tree.real).getD (.text text)
    | none => ((Decimal.float? text.toList).map Tree.real).getD (.text text)

def leaf (text : String) : Tree := if naming.parses then parsed text else .text text

def item? (name text : String) : Option (String × Tree) :=
  if naming.ignoresEmpty ∧ text.isEmpty then none
  else (naming.key? name).map fun key => (key, naming.leaf text)

def entries (environment : List (String × String)) : List (String × Tree) :=
  environment.filterMap fun entry => naming.item? entry.1 entry.2

end Naming

/-! ## Leaves -/

namespace Tree

/-- The words that stand for one, in lower case. -/
def affirmations : List String := ["true", "on", "yes"]

/-- The words that stand for zero, in lower case. -/
def negations : List String := ["false", "off", "no"]

/-- The number that a text holds: one of the words above in any case, or digits, which a plus sign
may precede. -/
def written? (text : String) : Option UInt64 :=
  let folded := text.map Char.toLower
  if affirmations.contains folded then some 1
  else if negations.contains folded then some 0
  else
    let digits :=
      match text.toList with
      | '+' :: rest => rest
      | digits => digits
    (Decimal.natural? digits).bind fun n => if n < UInt64.size then some (.ofNat n) else none

/-- A rate cap: absent, a number that is not negative, a truth value that counts as one or zero, or
text that holds a number.  A number with a fraction is rounded, halves away from zero. -/
def rate? : Tree → Option (Option UInt64)
  | absent => some none
  | boolean b => some (some (if b then 1 else 0))
  | integer n => if 0 ≤ n then some (some (.ofNat n.toNat)) else none
  | real x => some (some x.round.toUInt64)
  | text s => (written? s).map some
  | list _ => none
  | table _ => none

def word? : Tree → Option UInt64
  | integer n => if 0 ≤ n then some (.ofNat n.toNat) else none
  | _ => none

/-- The policy that a tree describes: a table by its entries, a list by the name of the policy and,
if the policy has one, its size. -/
def policy? : Tree → Option Policy
  | table entries =>
      match find? entries "policy" with
      | some (text name) =>
          if name = "latest" then some .latest
          else if name = "queue" then ((find? entries "capacity").bind word?).map .queue
          else if name = "time_window" then ((find? entries "window_ms").bind word?).map .timeWindow
          else none
      | _ => none
  | list [text name] => if name = "latest" then some .latest else none
  | list [text name, size] =>
      if name = "queue" then size.word?.map .queue
      else if name = "time_window" then size.word?.map .timeWindow
      else none
  | _ => none

end Tree

namespace Settings

def ofTree? (tree : Tree) : Option Settings := do
  let rate ← ((Tree.find? tree.entries "max_rate_ms").getD .absent).rate?
  let buffer ← match Tree.find? tree.entries "buffer" with
    | none => some .latest
    | some tree => tree.policy?
  return ⟨rate, buffer⟩

/-- The values of a source with their keys, unless it cannot be read. -/
abbrev Layer := Option (List (String × Tree))

def unreadable : Interruption := .failure (.config .unreadable)

def lay (tree : Tree) : Layer → Except Interruption Tree
  | none => .error unreadable
  | some layer => (tree.putAll layer).mapError .panic

/-- The loader of the files of a directory. -/
def reader (directory : Directory) : Loader where
  Source := Layer
  Gathered := Tree
  ofSettings settings :=
    match settings.toEntries? with
    | some entries => .ok (some entries)
    | none => .error unreadable
  ofFile name := (directory.text? name).bind Document.parse
  ofEnvironment naming environment := some (naming.entries environment)
  gather sources := sources.foldlM lay (.table [])
  read tree :=
    match ofTree? tree with
    | some settings => .ok settings
    | none => .error unreadable

/-- Loads a file of a directory, if one is named, and the environment over given settings. -/
def load (base : Settings) (directory : Directory) (file : Option String)
    (environment : List (String × String)) : Except Interruption Settings :=
  (reader directory).load base file environment

end Settings

end Cadence
