import Cadence.Settings.Tree

/-!
# Tables of a settings document

A table of a TOML document while it is being read.  How a table came to be decides how it may be
added to: one that a header names is complete but for its subtables, one that dotted keys made gets
its values from dotted keys only, one that exists only because a subtable does may still be named by
a header, and an array of tables grows by headers of its own.  A key is defined once.
-/

set_option autoImplicit false

namespace Cadence.Document

inductive Origin
  /-- A header named one of its subtables. -/
  | implied
  /-- A dotted key went through it. -/
  | dotted
  /-- A header named it. -/
  | named
  deriving DecidableEq

inductive Node
  | leaf (value : Tree)
  | table (origin : Origin) (entries : List (String × Node))
  /-- An array of tables; the last one is being read. -/
  | tables (complete : List (List (String × Node))) (current : List (String × Node))

namespace Node

abbrev Entries := List (String × Node)

def find? (entries : Entries) (key : String) : Option Node :=
  (entries.find? fun entry => entry.1 == key).map (·.2)

def assign (entries : Entries) (key : String) (node : Node) : Entries :=
  if entries.any fun entry => entry.1 == key then
    entries.map fun entry => if entry.1 == key then (key, node) else entry
  else entries ++ [(key, node)]

/-- Defines the value of a dotted key.  The table that gets the value is one that dotted keys made;
a key may only pass through the others that it can enter. -/
def define (entries : Entries) : List String → Tree → Option Entries
  | [], _ => none
  | [key], value =>
      match find? entries key with
      | none => some (entries ++ [(key, .leaf value)])
      | some _ => none
  | key :: rest, value =>
      match find? entries key with
      | none => (define [] rest value).map fun inner => entries ++ [(key, .table .dotted inner)]
      | some (.table .dotted inner) =>
          (define inner rest value).map fun inner => assign entries key (.table .dotted inner)
      | some (.table .implied inner) =>
          if rest.length = 1 then none
          else
            (define inner rest value).map fun inner => assign entries key (.table .implied inner)
      | some (.table .named _) => none
      | some (.tables complete current) =>
          if rest.length = 1 then none
          else
            (define current rest value).map fun current =>
              assign entries key (.tables complete current)
      | some (.leaf _) => none

/-- Applies `change` to the table at a path, making the tables on the way that are missing. -/
def within (entries : Entries) (change : Entries → Option Entries) :
    List String → Option Entries
  | [] => change entries
  | key :: rest =>
      match find? entries key with
      | none =>
          (within [] change rest).map fun inner => entries ++ [(key, .table .implied inner)]
      | some (.table origin inner) =>
          (within inner change rest).map fun inner => assign entries key (.table origin inner)
      | some (.tables complete current) =>
          (within current change rest).map fun current =>
            assign entries key (.tables complete current)
      | some (.leaf _) => none

/-- A header names the table of a key. -/
def nameTable (key : String) (entries : Entries) : Option Entries :=
  match find? entries key with
  | none => some (entries ++ [(key, .table .named [])])
  | some (.table .implied inner) => some (assign entries key (.table .named inner))
  | some _ => none

/-- A header starts the next table of an array. -/
def startTable (key : String) (entries : Entries) : Option Entries :=
  match find? entries key with
  | none => some (entries ++ [(key, .tables [] [])])
  | some (.tables complete current) =>
      some (assign entries key (.tables (complete ++ [current]) []))
  | some _ => none

def atHeader (entries : Entries) (path : List String) (key : String)
    (change : String → Entries → Option Entries) : Option Entries :=
  within entries (change key) path

mutual

def toTree : Node → Tree
  | leaf value => value
  | table _ entries => .table (toTrees entries)
  | tables complete current => .list (toTables complete ++ [.table (toTrees current)])

def toTrees : List (String × Node) → List (String × Tree)
  | [] => []
  | (key, node) :: rest => (key, node.toTree) :: toTrees rest

def toTables : List (List (String × Node)) → List Tree
  | [] => []
  | entries :: rest => .table (toTrees entries) :: toTables rest

end

end Node

end Cadence.Document
