/-!
# Files of settings

A directory holds files and nothing else.  The name of a file may lead through the directory itself
any number of times, as in `./a.toml`.  A name stands for the file that it names, which must then be
a TOML file, or else for the one that has the extension added to its name.
-/

set_option autoImplicit false

namespace Cadence.Settings

/-- The files of a directory, each with its text. -/
abbrev Directory := List (String × String)

/-- The extension of a file's name: what follows its last point, unless nothing comes before. -/
def extension? (name : String) : Option String :=
  let fromEnd := name.toList.reverse
  let tail := fromEnd.takeWhile (· != '.')
  match fromEnd.drop tail.length with
  | '.' :: _ :: _ => some (String.ofList tail.reverse)
  | _ => none

/-- The part of a name leads somewhere else than where it starts. -/
def isStep (part : List Char) : Bool := part != [] && part != ['.']

/-- The file of a name, and whether the name ends with that of the file.  A name that leaves the
directory stands for none. -/
def ownName? (name : String) : Option (String × Bool) :=
  let parts := name.toList.splitOn '/'
  match name.toList, parts.filter isStep with
  | '/' :: _, _ => none
  | _, [['.', '.']] => none
  | _, [own] => some (String.ofList own, parts.getLast? == some own)
  | _, _ => none

/-- The text of the file that a name stands for.  Only a name that ends with that of a file can be
that file's. -/
def Directory.text? (directory : Directory) (name : String) : Option String :=
  match ownName? name with
  | none => none
  | some (own, isWhole) =>
      let extended := directory.lookup (own ++ ".toml")
      if isWhole then
        match directory.lookup own with
        | some text => if extension? own = some "toml" then some text else none
        | none => extended
      else extended

end Cadence.Settings
