import BooleanSearch.Toml.Scalar

/-! # Keys and values of a TOML document

A value is a scalar, an array, or a table written between braces. Both kinds of brackets may run
over several lines and may end in a comma; they nest at most `nestingLimit` deep.
-/

namespace BooleanSearch.Toml

/-- The names on the way to an entry, and its own name at the end. -/
structure KeyPath where
  above : List String
  key : String

/-- A value as it is written. -/
inductive Value
  | scalar (scalar : Scalar)
  | array (items : List Value)
  | inlineTable (entries : List (KeyPath × Value))

/-- An entry of a table as it is written. -/
abbrev Assignment := KeyPath × Value

/-- How deep brackets may nest, and how many names may stand above a key. -/
def nestingLimit : Nat := 80

/-- Whether a character may stand in a key without quotes. -/
def isKeyChar (c : Char) : Bool := c.isAlphanum || c == '_' || c == '-'

/-- One name, with or without quotes. -/
def simpleKey (input : List Char) : Option (String × List Char) :=
  match input with
  | '"' :: _ | '\'' :: _ => (lineText input).map fun (key, rest) => (String.ofList key, rest)
  | _ =>
    if (input.takeWhile isKeyChar).isEmpty then none
    else some (String.ofList (input.takeWhile isKeyChar), input.dropWhile isKeyChar)

/-- Names with points between them. Reading goes on only where it has moved forward. -/
def names (input : List Char) : Option (KeyPath × List Char) := do
  let (key, rest) ← simpleKey input
  match skipSpaces rest with
  | '.' :: rest =>
    if (skipSpaces rest).length < input.length then
      let (path, rest) ← names (skipSpaces rest)
      return (⟨key :: path.above, path.key⟩, rest)
    else none
  | rest => return (⟨[], key⟩, rest)
termination_by input.length

/-- The path of an entry or of a table. -/
def keyPath (input : List Char) : Option (KeyPath × List Char) := do
  let (path, rest) ← names input
  if path.above.length < nestingLimit then some (path, rest) else none

/-- Items with commas between them, up to the closing bracket. -/
def separated {α : Type} (close : Char) (item : List Char → Option (α × List Char))
    (input : List Char) : Option (List α × List Char) :=
  match skipLayout false input with
  | [] => none
  | c :: rest =>
    if c = close then some ([], rest)
    else do
      let (first, rest) ← item (c :: rest)
      match skipLayout false rest with
      | [] => none
      | c :: rest =>
        if c = close then some ([first], rest)
        else if c = ',' && rest.length < input.length then
          let (others, rest) ← separated close item rest
          return (first :: others, rest)
        else none
termination_by input.length
decreasing_by simp_all

/-- A path, an equals sign and a value. `skip` drops what may stand around the equals sign: spaces
in a line of its own, any layout between braces. -/
def assignment (skip : List Char → List Char) (value : List Char → Option (Value × List Char))
    (input : List Char) : Option (Assignment × List Char) := do
  let (path, rest) ← keyPath input
  let '=' :: rest := skip rest | none
  let (value, rest) ← value (skip rest)
  return ((path, value), rest)

/-- A value whose brackets nest at most `levels` deep. -/
def value : (levels : Nat) → List Char → Option (Value × List Char)
  | levels + 1, '[' :: rest =>
    (separated ']' (value levels) rest).map fun (items, rest) => (.array items, rest)
  | levels + 1, '\x7b' :: rest =>
    (separated '\x7d' (assignment (skipLayout false) (value levels)) rest).map
      fun (entries, rest) => (.inlineTable entries, rest)
  | _, input => (scalar input).map fun (scalar, rest) => (.scalar scalar, rest)

end BooleanSearch.Toml
