import BooleanSearch.Toml.Value

/-! # TOML documents as they are written

A document opens with entries of its own and goes on with sections, each under a header in
brackets. Every entry and every header has a line of its own.
-/

namespace BooleanSearch.Toml

/-- A header and the entries below it. -/
structure Section where
  path : KeyPath
  /-- Whether the header adds an element to an array of tables. -/
  repeated : Bool
  assignments : List Assignment

/-- A whole document. -/
structure Document where
  opening : List Assignment
  sections : List Section

/-- The entries up to the next header or the end. -/
def assignments (input : List Char) : Option (List Assignment × List Char) :=
  match skipLayout false input with
  | [] => some ([], [])
  | '[' :: rest => some ([], '[' :: rest)
  | start => do
    let (first, rest) ← assignment skipSpaces (value nestingLimit) start
    let rest ← endOfLine rest
    if rest.length < input.length then
      let (others, rest) ← assignments rest
      return (first :: others, rest)
    else none
termination_by input.length

/-- The path and the kind of a header, behind its first bracket. -/
def header (input : List Char) : Option ((KeyPath × Bool) × List Char) :=
  match input with
  | '[' :: rest => do
    let (path, rest) ← keyPath (skipSpaces rest)
    let ']' :: ']' :: rest := skipSpaces rest | none
    return ((path, true), rest)
  | _ => do
    let (path, rest) ← keyPath (skipSpaces input)
    let ']' :: rest := skipSpaces rest | none
    return ((path, false), rest)

/-- Headers with their entries, up to the end. -/
def sections (input : List Char) : Option (List Section) :=
  match input with
  | [] => some []
  | '[' :: start => do
    let ((path, repeated), rest) ← header start
    let rest ← endOfLine rest
    let (entries, rest) ← assignments rest
    if rest.length ≤ start.length then
      let others ← sections rest
      return ⟨path, repeated, entries⟩ :: others
    else none
  | _ => none
termination_by input.length
decreasing_by simp only [List.length_cons]; omega

/-- Reads a document. A byte order mark at the front means nothing. -/
def document (input : List Char) : Option Document := do
  let input := match input with
    | '\ufeff' :: rest => rest
    | _ => input
  let (opening, rest) ← assignments input
  let others ← sections rest
  return ⟨opening, others⟩

end BooleanSearch.Toml
