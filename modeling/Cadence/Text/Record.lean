/-!
# Records in text

The log's notation of a record with named fields: the name, then the fields between braces.
-/

set_option autoImplicit false

namespace Cadence.Text

/-- A record's name and its fields, each with its value. -/
def record (name : String) (fields : List (String × String)) : String :=
  name ++ " \x7b "
    ++ String.intercalate ", " (fields.map fun field => field.1 ++ ": " ++ field.2) ++ " \x7d"

/-- A value that may be absent. -/
def optional : Option String → String
  | none => "None"
  | some text => "Some(" ++ text ++ ")"

end Cadence.Text
