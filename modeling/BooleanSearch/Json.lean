import BooleanSearch.Text.Quoted

/-! # JSON documents

The documents that the reports are made of: texts, natural numbers, lists, and records whose
fields keep their order. `compact` writes one without any space, `pretty` with one item a line.
-/

namespace BooleanSearch

/-- A JSON document. -/
inductive Json
  | text (value : String)
  | number (value : Nat)
  | list (items : List Json)
  | record (fields : List (String × Json))

namespace Json

/-- The written form of one character of a text. Only quote, backslash and controls are escaped. -/
def escapedChar (c : Char) : List Char :=
  if c = '"' then ['\\', '"']
  else if c = '\\' then ['\\', '\\']
  else if c = '\x08' then ['\\', 'b']
  else if c = '\x0c' then ['\\', 'f']
  else if c = '\n' then ['\\', 'n']
  else if c = '\r' then ['\\', 'r']
  else if c = '\t' then ['\\', 't']
  else if c.toNat < 0x20 then
    ['\\', 'u', '0', '0', Nat.digitChar (c.toNat / 16), Nat.digitChar (c.toNat % 16)]
  else [c]

/-- A text between quotes. -/
def quotedText (text : String) : String :=
  String.ofList ('"' :: text.toList.flatMap escapedChar ++ ['"'])

mutual

/-- The document on one line, without spaces. -/
def compact : Json → String
  | .text value => quotedText value
  | .number value => toString value
  | .list items => "[" ++ compactItems items ++ "]"
  | .record fields => "\x7b" ++ compactFields fields ++ "\x7d"

/-- The items of a list, with commas between them. -/
def compactItems : List Json → String
  | [] => ""
  | [item] => item.compact
  | item :: rest => item.compact ++ "," ++ compactItems rest

/-- The fields of a record, with commas between them. -/
def compactFields : List (String × Json) → String
  | [] => ""
  | [(name, value)] => quotedText name ++ ":" ++ value.compact
  | (name, value) :: rest =>
    quotedText name ++ ":" ++ value.compact ++ "," ++ compactFields rest

end

/-- A line break, and the indentation of the next line. -/
def lineBreak (level : Nat) : String := "\n" ++ String.ofList (List.replicate (2 * level) ' ')

mutual

/-- The document with one item a line, two spaces a level; `level` is that of its first line. -/
def pretty (level : Nat) : Json → String
  | .text value => quotedText value
  | .number value => toString value
  | .list [] => "[]"
  | .list (item :: rest) => "[" ++ prettyItems (level + 1) (item :: rest) ++ lineBreak level ++ "]"
  | .record [] => "\x7b\x7d"
  | .record (field :: rest) =>
    "\x7b" ++ prettyFields (level + 1) (field :: rest) ++ lineBreak level ++ "\x7d"

/-- The items of a list, each after a line break, with commas between them. -/
def prettyItems (level : Nat) : List Json → String
  | [] => ""
  | [item] => lineBreak level ++ item.pretty level
  | item :: rest => lineBreak level ++ item.pretty level ++ "," ++ prettyItems level rest

/-- The fields of a record, each after a line break, with commas between them. -/
def prettyFields (level : Nat) : List (String × Json) → String
  | [] => ""
  | [(name, value)] => lineBreak level ++ quotedText name ++ ": " ++ value.pretty level
  | (name, value) :: rest =>
    lineBreak level ++ quotedText name ++ ": " ++ value.pretty level ++ "," ++
      prettyFields level rest

end

end Json

end BooleanSearch
