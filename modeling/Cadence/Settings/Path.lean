import Cadence.Decimal.Reader
import Cadence.Failure
import Cadence.Settings.Tree
import Cadence.Time.Word

/-!
# Paths into a tree of settings

A path leads from a tree to a place in it, by keys of tables and positions in lists.  It is written
as names that are joined by points, each of which may be followed by positions between brackets, as
in `a.b[0].c`.

Putting a value where a path leads makes what is missing on the way.  A value that stands where the
path wants a table or a list gives way to one, and a list that is too short is filled up with absent
values.  What is put at a key is laid over what is there; what is put at a position replaces it.
-/

set_option autoImplicit false

namespace Cadence

inductive PathStep
  | key (name : String)
  /-- A position in a list; one below zero counts from the end. -/
  | index (position : Int)
  deriving DecidableEq, Repr

abbrev Path := List PathStep

namespace Path

/-- The names in a path are written with these characters. -/
def isNameChar (c : Char) : Bool := c.isAlphanum || c == ' ' || c == '_' || c == '-'

def isBlank (c : Char) : Bool := c == ' ' || c == '\t'

/-- What follows an opening bracket up to the next one or to the end: a position, blanks around it,
and the closing bracket. -/
def position? (text : List Char) : Option Int :=
  match text.reverse with
  | ']' :: fromEnd =>
      let written := (fromEnd.dropWhile isBlank).reverse.dropWhile isBlank
      let position :=
        match written with
        | '-' :: digits => (Decimal.natural? digits).map fun n => -(n : Int)
        | digits => (Decimal.natural? digits).map Int.ofNat
      position.filter fun n => decide (wordMin ≤ n ∧ n ≤ wordMax)
  | _ => none

/-- The steps of what stands between two points: a name and the positions that follow it. -/
def steps? (text : List Char) : Option Path :=
  match text.splitOn '[' with
  | [] => none
  | name :: positions =>
      if !name.isEmpty && name.all isNameChar then
        (positions.mapM position?).map fun positions =>
          .key (String.ofList name) :: positions.map .index
      else none

/-- The path that a key writes.  A key that writes none stands for itself. -/
def ofKey (key : String) : Path :=
  match (key.toList.splitOn '.').mapM steps? with
  | some parts => parts.flatten
  | none => [.key key]

end Path

namespace Tree

/-- The items of a list; any other value has none. -/
def items : Tree → List Tree
  | list items => items
  | _ => []

/-- The room, in bytes, that a list takes for an item. -/
def itemWidth : Nat := 80

/-- Where a position lies in a list of some length, which may have to grow for it. -/
def locate (length : Nat) (position : Int) : Except Panic Nat :=
  if position < 0 then
    if (length : Int) + position < 0 then .error .subtractionOverflow
    else .ok (length + position).toNat
  else if wordMax < (position + 1) * itemWidth then .error .capacityOverflow
  else .ok position.toNat

/-- The items with as many absent ones after them as it takes to reach an index. -/
def filledTo (index : Nat) (items : List Tree) : List Tree :=
  items ++ List.replicate (index + 1 - items.length) absent

def put (value : Tree) : Path → Tree → Except Panic Tree
  | [], tree => .ok (tree.merge value)
  | .key name :: rest, tree =>
      let present := (find? tree.entries (fold name)).getD (table [])
      (put value rest present).map fun new => table (assign tree.entries (fold name) new)
  | [.index position], tree =>
      (locate tree.items.length position).map fun index =>
        list ((filledTo index tree.items).set index value)
  | .index position :: rest, tree =>
      (locate tree.items.length position).bind fun index =>
        let items := filledTo index tree.items
        (put value rest (items.getD index absent)).map fun new => list (items.set index new)

/-- Puts values into a tree, one after the other, each where its key leads. -/
def putAll (tree : Tree) : List (String × Tree) → Except Panic Tree
  | [] => .ok tree
  | (key, value) :: rest => (put value (Path.ofKey key) tree).bind fun tree => tree.putAll rest

end Tree

end Cadence
