import Cadence.Settings.Document.Scalar
import Cadence.Settings.Document.Table

/-!
# Reading a settings document

The reader of TOML documents.  Every reading function takes the characters that are left and answers
what it read with the characters after it, or nothing if they do not begin as they should.  Nested
values are read on fuel, of which the length of the document is enough.

Neither values nor keys are as deep as `depthLimit`: a value does not lie within that many arrays and
inline tables, and a key does not have that many parts.
-/

set_option autoImplicit false

namespace Cadence.Document

/-- The depth that neither values nor keys reach. -/
def depthLimit : Nat := 80

abbrev Read (α : Type) := Option (α × List Char)

def isBlank (c : Char) : Bool := c == ' ' || c == '\t'

def isBareKey (c : Char) : Bool := c.isAlphanum || c == '_' || c == '-'

/-- Controls other than the tab stand nowhere in a line. -/
def isForbidden (c : Char) : Bool := (c.toNat < 32 && c != '\t') || c.toNat == 127

def skipBlanks (text : List Char) : List Char := text.dropWhile isBlank

/-- The rest of a line that holds nothing more: blanks and a comment. -/
def endLine? (text : List Char) : Option (List Char) :=
  let afterComment :=
    match skipBlanks text with
    | '#' :: rest => rest.dropWhile fun c => !isForbidden c
    | rest => rest
  match afterComment with
  | [] => some []
  | '\n' :: rest => some rest
  | '\r' :: '\n' :: rest => some rest
  | _ => none

/-- Blanks, comments and line ends, as they may stand between the items of an array. -/
def skipLines : Nat → List Char → List Char
  | 0, text => text
  | fuel + 1, text =>
      match skipBlanks text with
      | [] => []
      | c :: rest =>
          if c == '#' || c == '\n' || c == '\r' then
            match endLine? (c :: rest) with
            | some rest => skipLines fuel rest
            | none => c :: rest
          else c :: rest

/-! ## Strings -/

def character? (code : Nat) : Option Char :=
  if code < 0xD800 ∨ (0xDFFF < code ∧ code < 0x110000) then some (Char.ofNat code) else none

/-- The character written by `count` hexadecimal digits. -/
def hexEscape? (count : Nat) (text : List Char) : Read Char :=
  let digits := text.take count
  if digits.length = count ∧ digits.all isHexDigit then
    (character? (digits.foldl (fun n c => 16 * n + digitValue c) 0)).map
      fun c => (c, text.drop count)
  else none

def escape? : List Char → Read Char
  | 'b' :: rest => some (Char.ofNat 8, rest)
  | 't' :: rest => some ('\t', rest)
  | 'n' :: rest => some ('\n', rest)
  | 'f' :: rest => some (Char.ofNat 12, rest)
  | 'r' :: rest => some ('\r', rest)
  | '"' :: rest => some ('"', rest)
  | '\\' :: rest => some ('\\', rest)
  | 'u' :: rest => hexEscape? 4 rest
  | 'U' :: rest => hexEscape? 8 rest
  | _ => none

/-- What follows the opening quote of a string on one line; `read` holds its characters so far, last
first. -/
def basic? : Nat → List Char → List Char → Read String
  | 0, _, _ => none
  | fuel + 1, read, text =>
      match text with
      | [] => none
      | '"' :: rest => some (String.ofList read.reverse, rest)
      | '\\' :: rest => (escape? rest).bind fun (c, rest) => basic? fuel (c :: read) rest
      | c :: rest => if isForbidden c then none else basic? fuel (c :: read) rest

/-- What follows the opening quote of a string without escapes. -/
def literal? (text : List Char) : Read String :=
  let body := text.takeWhile fun c => c != '\'' && !isForbidden c
  match text.drop body.length with
  | '\'' :: rest => some (String.ofList body, rest)
  | _ => none

def skipGap : List Char → List Char
  | ' ' :: rest => skipGap rest
  | '\t' :: rest => skipGap rest
  | '\n' :: rest => skipGap rest
  | '\r' :: '\n' :: rest => skipGap rest
  | text => text

/-- Where a backslash ends a line, the blanks and line ends that follow are skipped. -/
def skipContinuation? (text : List Char) : Option (List Char) :=
  match skipBlanks text with
  | '\n' :: rest => some (skipGap rest)
  | '\r' :: '\n' :: rest => some (skipGap rest)
  | _ => none

/-- What follows the three opening quotes of a string over several lines.  Up to two quotes may
stand before the closing three. -/
def multiline? (quote : Char) (escapes : Bool) : Nat → List Char → List Char → Read String
  | 0, _, _ => none
  | fuel + 1, read, text =>
      let quotes := text.takeWhile (· == quote)
      if 3 ≤ quotes.length then
        if quotes.length ≤ 5 then
          some (String.ofList (read.reverse ++ List.replicate (quotes.length - 3) quote),
            text.drop quotes.length)
        else none
      else
        match text with
        | [] => none
        | '\r' :: '\n' :: rest => multiline? quote escapes fuel ('\n' :: read) rest
        | c :: rest =>
            if c == '\\' && escapes then
              match skipContinuation? rest with
              | some rest => multiline? quote escapes fuel read rest
              | none =>
                  (escape? rest).bind fun (c, rest) =>
                    multiline? quote escapes fuel (c :: read) rest
            else if isForbidden c && c != '\n' then none
            else multiline? quote escapes fuel (c :: read) rest

/-- A line end right after the opening quotes does not count. -/
def dropFirstLineEnd : List Char → List Char
  | '\n' :: rest => rest
  | '\r' :: '\n' :: rest => rest
  | text => text

/-- A string of any of the four kinds. -/
def string? (text : List Char) : Read String :=
  match text with
  | '"' :: '"' :: '"' :: rest => multiline? '"' true (text.length + 1) [] (dropFirstLineEnd rest)
  | '\'' :: '\'' :: '\'' :: rest =>
      multiline? '\'' false (text.length + 1) [] (dropFirstLineEnd rest)
  | '"' :: rest => basic? (text.length + 1) [] rest
  | '\'' :: rest => literal? rest
  | _ => none

/-! ## Keys -/

def simpleKey? (text : List Char) : Read String :=
  match text with
  | '"' :: rest => basic? (text.length + 1) [] rest
  | '\'' :: rest => literal? rest
  | _ =>
      let bare := text.takeWhile isBareKey
      if bare.isEmpty then none else some (String.ofList bare, text.drop bare.length)

def keyTail? : Nat → List Char → Read (List String)
  | 0, _ => none
  | fuel + 1, text =>
      match skipBlanks text with
      | '.' :: rest =>
          (simpleKey? (skipBlanks rest)).bind fun (part, rest) =>
            (keyTail? fuel rest).map fun (parts, rest) => (part :: parts, rest)
      | rest => some ([], rest)

/-- A key, its parts joined by points. -/
def key? (text : List Char) : Read (List String) :=
  (simpleKey? (skipBlanks text)).bind fun (part, rest) =>
    (keyTail? (rest.length + 1) rest).bind fun (parts, rest) =>
      if parts.length + 1 < depthLimit then some (part :: parts, rest) else none

/-! ## Values -/

/-- The characters of an unquoted value.  A date may be parted from its time by one space. -/
def token (text : List Char) : List Char :=
  let isPart := fun c => c.isAlphanum || c == '+' || c == '-' || c == '_' || c == '.' || c == ':'
  let first := text.takeWhile isPart
  match text.drop first.length with
  | ' ' :: rest =>
      let second := rest.takeWhile isPart
      if isDate first && (second.head?.map Char.isDigit).getD false then first ++ ' ' :: second
      else first
  | _ => first

mutual

/-- A value, which may open at most `room` arrays and inline tables, one within the other. -/
def value? (room : Nat) : Nat → List Char → Read Tree
  | 0, _ => none
  | fuel + 1, text =>
      match text with
      | '[' :: rest =>
          match room with
          | 0 => none
          | room + 1 => (items? room fuel rest).map fun (items, rest) => (.list items, rest)
      | '\x7b' :: rest =>
          match room with
          | 0 => none
          | room + 1 =>
              match skipBlanks rest with
              | '\x7d' :: rest => some (.table [], rest)
              | rest =>
                  (fields? room fuel [] rest).map fun (entries, rest) =>
                    (.table (Node.toTrees entries), rest)
      | '"' :: _ => (string? text).map fun (s, rest) => (.text s, rest)
      | '\'' :: _ => (string? text).map fun (s, rest) => (.text s, rest)
      | _ =>
          let part := token text
          (scalar? part).map fun value => (value, text.drop part.length)

/-- The items of an array and its closing bracket.  A comma may follow the last item. -/
def items? (room : Nat) : Nat → List Char → Read (List Tree)
  | 0, _ => none
  | fuel + 1, text =>
      match skipLines text.length text with
      | ']' :: rest => some ([], rest)
      | rest =>
          (value? room fuel rest).bind fun (item, rest) =>
            match skipLines rest.length rest with
            | ',' :: rest => (items? room fuel rest).map fun (items, rest) => (item :: items, rest)
            | ']' :: rest => some ([item], rest)
            | _ => none

/-- The entries of an inline table and its closing brace, on one line. -/
def fields? (room : Nat) : Nat → Node.Entries → List Char → Read Node.Entries
  | 0, _, _ => none
  | fuel + 1, entries, text =>
      (key? text).bind fun (key, rest) =>
        match skipBlanks rest with
        | '=' :: rest =>
            (value? room fuel (skipBlanks rest)).bind fun (value, rest) =>
              (Node.define entries key value).bind fun entries =>
                match skipBlanks rest with
                | ',' :: rest => fields? room fuel entries rest
                | '\x7d' :: rest => some (entries, rest)
                | _ => none
        | _ => none

end

/-! ## Lines -/

/-- A document that is being read: its tables, and the header under which the next entry stands. -/
structure Draft where
  root : Node.Entries
  path : List String
  deriving Inhabited

def header? (draft : Draft) (text : List Char) : Read Draft :=
  match text with
  | '[' :: rest =>
      (key? rest).bind fun (key, rest) =>
        match rest with
        | ']' :: ']' :: rest =>
            (Node.atHeader draft.root key.dropLast (key.getLast?.getD "") Node.startTable).map
              fun root => (⟨root, key⟩, rest)
        | _ => none
  | _ =>
      (key? text).bind fun (key, rest) =>
        match rest with
        | ']' :: rest =>
            (Node.atHeader draft.root key.dropLast (key.getLast?.getD "") Node.nameTable).map
              fun root => (⟨root, key⟩, rest)
        | _ => none

def entry? (draft : Draft) (text : List Char) : Read Draft :=
  (key? text).bind fun (key, rest) =>
    match rest with
    | '=' :: rest =>
        let rest := skipBlanks rest
        (value? (depthLimit - 1) (rest.length + 1) rest).bind fun (value, rest) =>
          (Node.within draft.root (fun entries => Node.define entries key value) draft.path).map
            fun root => (⟨root, draft.path⟩, rest)
    | _ => none

def lines? : Nat → Draft → List Char → Option Draft
  | 0, _, _ => none
  | fuel + 1, draft, text =>
      match skipBlanks text with
      | [] => some draft
      | c :: rest =>
          let read :=
            if c == '[' then header? draft rest
            else if c == '#' || c == '\n' || c == '\r' then some (draft, c :: rest)
            else entry? draft (c :: rest)
          read.bind fun (draft, rest) => (endLine? rest).bind fun rest => lines? fuel draft rest

def parse (text : String) : Option (List (String × Tree)) :=
  let characters :=
    match text.toList with
    | '\uFEFF' :: rest => rest
    | characters => characters
  (lines? (characters.length + 1) ⟨[], []⟩ characters).map fun draft => Node.toTrees draft.root

end Cadence.Document
