import BooleanSearch.Token.Scan

/-! # What can be wrong with a search expression

Each fault is a cause of its own. The wording, the hint and the caret under the offending
character are made here and nowhere else.
-/

namespace BooleanSearch

/-- A fault of a search expression. Positions count characters from the start. -/
inductive SearchError
  /-- A group is still open where something else than an operator or `)` stands. -/
  | unclosedGroup (position : Nat) (input : String)
  /-- A word, phrase or group has to stand here. -/
  | missingOperand (position : Nat) (input : String)
  /-- A phrase has nothing between its quotes. -/
  | emptyPhrase (position : Nat)
  /-- The expression nests deeper than the limit. -/
  | tooDeep (maxDepth : Nat)
  /-- A whole expression is followed by something that cannot continue it. -/
  | strayToken (position : Nat) (input : String)
deriving DecidableEq

namespace SearchError

/-- The fault of an expression that holds a faulty phrase. -/
def ofPhrase (input : String) : PhraseFault → SearchError
  | .unterminated position => .missingOperand position input
  | .empty position => .emptyPhrase position

/-- A short name for the kind of fault. -/
def kindName : SearchError → String
  | .unclosedGroup .. => "close_paren_or_operator_expected"
  | .missingOperand .. => "expression_expected"
  | .emptyPhrase _ => "identifier_expected"
  | .tooDeep _ => "limit_exceeded"
  | .strayToken .. => "syntax_error"

/-- Faults of different kinds have different names, and what a fault remembers is not named. -/
theorem kindName_eq_iff {error other : SearchError} :
    error.kindName = other.kindName ↔ error.ctorIdx = other.ctorIdx := by
  cases error <;> cases other <;> simp [kindName, SearchError.ctorIdx]

/-- The number of characters before the fault, for a fault that has a place. -/
def position? : SearchError → Option Nat
  | .unclosedGroup position _ | .missingOperand position _ | .emptyPhrase position
  | .strayToken position _ => some position
  | .tooDeep _ => none

/-- The expression that the fault remembers. -/
def input? : SearchError → Option String
  | .unclosedGroup _ input | .missingOperand _ input | .strayToken _ input => some input
  | .emptyPhrase _ | .tooDeep _ => none

/-- The fault in one sentence. -/
def message : SearchError → String
  | .unclosedGroup position input =>
    "')' or operator expected at position " ++ toString position ++ " in '" ++ input ++ "'."
  | .missingOperand position input =>
    "Expression expected at position " ++ toString position ++ " in '" ++ input ++ "'."
  | .emptyPhrase position =>
    "An identifier was expected at position " ++ toString position ++ "."
  | .tooDeep maxDepth =>
    "The recursion limit has been exceeded (max depth " ++ toString maxDepth ++ ")."
  | .strayToken position input =>
    "Syntax error at position " ++ toString position ++ " in '" ++ input ++ "'."

/-- What to do about the fault. -/
def suggestion : SearchError → String
  | .unclosedGroup .. => "Add a closing parenthesis ) to match the opening one"
  | .missingOperand .. => "AND, OR and NOT need a term, phrase, or group to apply to"
  | .emptyPhrase _ => "Remove the empty phrase or put a word between the quotes"
  | .tooDeep _ =>
    "Reduce the nesting of parentheses and NOT operators, or split long chains of terms"
  | .strayToken .. => "Remove the unmatched closing parenthesis"

/-- The column of the caret below a text: the position, or one past the end if it lies beyond. -/
def caretColumn (text : String) (position : Nat) : Nat := min position text.length

/-- The line with the caret. -/
def caretLine (text : String) (position : Nat) : String :=
  "  " ++ String.ofList (List.replicate (caretColumn text position) ' ') ++ "^\n"

/-- The fault with its expression, a caret and a hint. A fault that does not remember its
expression shows `query`. -/
def diagnostic (error : SearchError) (query : String) : String :=
  let shown := error.input?.getD query
  "search syntax error: " ++ error.message ++ "\n" ++
    "  " ++ shown ++ "\n" ++
    (error.position?.map (caretLine shown)).getD "" ++
    "hint: " ++ error.suggestion

end SearchError

end BooleanSearch
