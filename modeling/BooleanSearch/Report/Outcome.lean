import BooleanSearch.Query.Document
import BooleanSearch.Query.Outline
import BooleanSearch.Report.Grid
import BooleanSearch.Settings
import BooleanSearch.Tokenize

/-! # What the commands print

An output is what a command prints on its two channels and whether it succeeded. Parsing several
expressions fails if one of them fails, but every one of them is reported, in order.
-/

namespace BooleanSearch

/-- What a command prints, and whether it succeeded. -/
structure Output where
  stdout : String := ""
  stderr : String := ""
  succeeded : Bool
deriving DecidableEq

namespace Output

/-- A success with something to print. -/
def success (stdout : String) : Output := ⟨stdout, "", true⟩

/-- A failure with its message. -/
def failure (stderr : String) : Output := ⟨"", stderr, false⟩

/-- The exit code of a command. -/
def exitCode (output : Output) : Nat := if output.succeeded then 0 else 1

end Output

/-- An expression and what came of parsing it. -/
structure Outcome where
  expression : String
  result : Except SearchError Query

namespace Outcome

/-- Parses an expression. -/
def ofExpression (parser : SearchParser) (expression : String) : Outcome :=
  ⟨expression, parser.parse expression⟩

/-- Whether the expression could be parsed. -/
def isOk (outcome : Outcome) : Bool := outcome.result.isOk

/-- The document of a fault. -/
def errorDocument (error : SearchError) : Json :=
  .record ([("kind", .text error.kindName), ("message", .text error.message)] ++
    error.position?.toList.map fun position => ("position", .number position))

/-- The document of an outcome, with the query or the fault. -/
def toJson (outcome : Outcome) : Json :=
  .record [("expression", .text outcome.expression),
    match outcome.result with
    | .ok query => ("ast", query.toJson)
    | .error error => ("error", errorDocument error)]

/-- The outline of the query, if there is one. -/
def outline (outcome : Outcome) : String :=
  match outcome.result with
  | .ok query => query.outline
  | .error _ => ""

/-- The outline between a line with the expression and an empty one. -/
def framed (outcome : Outcome) : String := outcome.expression ++ ":\n" ++ outcome.outline ++ "\n"

/-- The fault with its expression and a caret, if there is one. -/
def diagnostic (outcome : Outcome) : String :=
  match outcome.result with
  | .ok _ => ""
  | .error error => error.diagnostic outcome.expression ++ "\n"

end Outcome

/-- All outcomes as one document. -/
def outcomesDocument (outcomes : List Outcome) : Json :=
  .record [("results", .list (outcomes.map Outcome.toJson))]

/-- The report on parsed expressions. Outlines are framed if there are several. -/
def parseReport (format : OutputFormat) (outcomes : List Outcome) : Output :=
  let succeeded := outcomes.all Outcome.isOk
  match format with
  | .json => ⟨(outcomesDocument outcomes).pretty 0 ++ "\n", "", succeeded⟩
  | .tree =>
    let shown := if 1 < outcomes.length then Outcome.framed else Outcome.outline
    ⟨String.join (outcomes.map shown), String.join (outcomes.map Outcome.diagnostic), succeeded⟩

/-- The grid of a token list. -/
def tokenGrid (tokens : List Token) : Grid :=
  ⟨["Offset", "Kind", "Text"], tokens.map fun token =>
    [toString token.offset, token.lexeme.kindName, token.lexeme.text]⟩

/-- The report on the tokens of an expression. -/
def tokenReport (expression : String) (json : Bool) : Output :=
  match tokenize expression with
  | .error error => .failure (error.diagnostic expression ++ "\n")
  | .ok tokens =>
    if json then .success ((Json.list (tokens.map Token.toJson)).pretty 0 ++ "\n")
    else .success ((tokenGrid tokens).render ++ "\n")

end BooleanSearch
