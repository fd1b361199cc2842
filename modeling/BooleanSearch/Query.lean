/-! # Search queries

A query is a tree of texts joined by `AND` and `OR` and negated by `NOT`.
-/

namespace BooleanSearch

/-- How two queries are joined. -/
inductive Connective
  /-- Both have to match. -/
  | and
  /-- One has to match. -/
  | or
deriving DecidableEq

/-- The name of a connective. -/
def Connective.name : Connective → String
  | .and => "And"
  | .or => "Or"

/-- A search query. -/
inductive Query
  /-- A word, or what stands between the quotes of a phrase. -/
  | literal (text : String)
  | binary (op : Connective) (left right : Query)
  | negation (operand : Query)
deriving DecidableEq

namespace Query

/-- The number of nodes on the longest way down; one for a literal. -/
def depth : Query → Nat
  | .literal _ => 1
  | .binary _ left right => 1 + max left.depth right.depth
  | .negation operand => 1 + operand.depth

/-- The text of a literal. -/
def literal? : Query → Option String
  | .literal text => some text
  | .binary .. | .negation _ => none

end Query

end BooleanSearch
