/-! # Tokens of a search expression

A lexeme is one item of an expression: an operator, a parenthesis, a word, or a quoted phrase.
A token is a lexeme together with the number of characters before it.
-/

namespace BooleanSearch

/-- One item of a search expression. -/
inductive Lexeme
  | and
  | or
  | not
  | openParen
  | closeParen
  /-- The text between two quotes, escapes resolved. -/
  | phrase (text : String)
  | word (text : String)
deriving DecidableEq

namespace Lexeme

/-- The lexeme that a run of word characters stands for: an operator only in capitals. -/
def ofRun (run : List Char) : Lexeme :=
  if run = ['A', 'N', 'D'] then .and
  else if run = ['O', 'R'] then .or
  else if run = ['N', 'O', 'T'] then .not
  else .word (String.ofList run)

/-- The text of a lexeme, without the quotes of a phrase. -/
def text : Lexeme → String
  | .and => "AND"
  | .or => "OR"
  | .not => "NOT"
  | .openParen => "("
  | .closeParen => ")"
  | .phrase text => text
  | .word text => text

/-- The name of the kind that a lexeme belongs to. -/
def kindName : Lexeme → String
  | .and => "And"
  | .or => "Or"
  | .not => "Not"
  | .openParen => "OpenParen"
  | .closeParen => "CloseParen"
  | .phrase _ => "Phrase"
  | .word _ => "Word"

end Lexeme

/-- A lexeme and the number of characters before it. -/
structure Token where
  lexeme : Lexeme
  offset : Nat
deriving DecidableEq

end BooleanSearch
