/-! # The layout of a TOML document

Spaces, line ends and comments: everything between the parts of a document that means nothing.
-/

namespace BooleanSearch.Toml

/-- Whether a character separates within a line. -/
def isSpace (c : Char) : Bool := c == ' ' || c == '\t'

/-- Whether a character may stand in a comment. Controls may not, the tab apart. -/
def isCommentChar (c : Char) : Bool := c == '\t' || (' ' ≤ c && c != '\x7f')

/-- Drops the spaces at the front. -/
def skipSpaces (input : List Char) : List Char := input.dropWhile isSpace

/-- Drops spaces, line ends and comments at the front; `comment` tells that one has begun. It stops
before a character that a comment may not hold, which no other part of a document accepts. -/
def skipLayout (comment : Bool) : List Char → List Char
  | [] => []
  | '\n' :: rest => skipLayout false rest
  | '\r' :: '\n' :: rest => skipLayout false rest
  | c :: rest =>
    if comment then if isCommentChar c then skipLayout true rest else c :: rest
    else if isSpace c then skipLayout false rest
    else if c == '#' then skipLayout true rest
    else c :: rest

/-- The rest after one line end; the end of the document counts as one. -/
def lineEnd : List Char → Option (List Char)
  | [] => some []
  | '\n' :: rest => some rest
  | '\r' :: '\n' :: rest => some rest
  | _ => none

/-- The rest after a line that holds nothing more but spaces and a comment. -/
def endOfLine (input : List Char) : Option (List Char) :=
  match skipSpaces input with
  | '#' :: rest => lineEnd (rest.dropWhile isCommentChar)
  | rest => lineEnd rest

end BooleanSearch.Toml
