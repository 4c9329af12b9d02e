/-!
# Trees of settings

Settings as they are written down: leaves of several kinds, gathered in tables.  Trees are merged
leaf by leaf.  Where two tables meet, their entries meet; anything else replaces what it meets,
except that an empty table changes nothing.
-/

set_option autoImplicit false

namespace Cadence

/-- A value as it is written down. -/
inductive Tree
  | absent
  | boolean (b : Bool)
  | integer (n : Int)
  | real (x : Float)
  | text (s : String)
  | list (items : List Tree)
  | table (entries : List (String × Tree))

namespace Tree

def find? (entries : List (String × Tree)) (key : String) : Option Tree :=
  (entries.find? fun entry => entry.1 == key).map (·.2)

def assign (entries : List (String × Tree)) (key : String) (value : Tree) :
    List (String × Tree) :=
  if entries.any fun entry => entry.1 == key then
    entries.map fun entry => if entry.1 == key then (key, value) else entry
  else entries ++ [(key, value)]

/-- The entries of a table; any other value has none. -/
def entries : Tree → List (String × Tree)
  | table entries => entries
  | _ => []

/-- Keys do not depend on the case of Latin letters; the key of no setting has others. -/
def fold (key : String) : String := key.map Char.toLower

mutual

/-- What remains of a value when another is laid over it. -/
def merge (base upper : Tree) : Tree :=
  match upper with
  | .table [] => base
  | .table (entry :: rest) => .table (mergeEntries base.entries (entry :: rest))
  | .absent => .absent
  | .boolean b => .boolean b
  | .integer n => .integer n
  | .real x => .real x
  | .text s => .text s
  | .list items => .list items

def mergeEntries (base upper : List (String × Tree)) : List (String × Tree) :=
  match upper with
  | [] => base
  | (key, value) :: rest =>
      let present := (find? base (fold key)).getD (.table [])
      mergeEntries (assign base (fold key) (present.merge value)) rest

end

end Tree

end Cadence
