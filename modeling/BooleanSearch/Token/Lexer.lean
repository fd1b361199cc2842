import BooleanSearch.Token.Scan

/-! # A lexer that can look ahead

A lexer hands out one token after the other and can show the next one beforehand. A fault is
reported once, by the call that meets it, and the lexer goes on behind it.
-/

namespace BooleanSearch

/-- An input, the part of it still unread, and what was shown but not handed out. -/
structure Lexer where
  input : String
  rest : List Char
  position : Nat
  shown : Option Found

namespace Lexer

/-- The lexer at the start of an input. -/
def ofString (input : String) : Lexer := ⟨input, input.toList, 0, none⟩

/-- Reads past whatever stands next in the unread part. -/
def read (lexer : Lexer) : Except PhraseFault Found × Lexer :=
  let step := scan lexer.position lexer.rest
  (step.outcome, { lexer with rest := step.rest, position := step.position })

/-- Hands out what stands next. -/
def next (lexer : Lexer) : Except PhraseFault Found × Lexer :=
  match lexer.shown with
  | some found => (.ok found, { lexer with shown := none })
  | none => lexer.read

/-- Shows what stands next and keeps it. -/
def peek (lexer : Lexer) : Except PhraseFault Found × Lexer :=
  match lexer.shown with
  | some found => (.ok found, lexer)
  | none =>
    match lexer.read with
    | (.ok found, after) => (.ok found, { after with shown := some found })
    | (.error fault, after) => (.error fault, after)

end Lexer

end BooleanSearch
