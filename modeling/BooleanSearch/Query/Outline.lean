import BooleanSearch.Query
import BooleanSearch.Text.Quoted

/-! # The outline of a query

One line a node, each parent before its operands, indented by two spaces a level. Literals are
quoted, so that no line breaks inside.
-/

namespace BooleanSearch.Query

open Text (quoted)

/-- One line of an outline. -/
def outlineLine (level : Nat) (label : String) : String :=
  String.ofList (List.replicate (2 * level) ' ') ++ label

/-- The lines of a query whose root stands at `level`. -/
def outlineLines (level : Nat) : Query → List String
  | .literal text => [outlineLine level (quoted text)]
  | .binary op left right =>
    outlineLine level op.name :: (left.outlineLines (level + 1) ++ right.outlineLines (level + 1))
  | .negation operand => outlineLine level "Not" :: operand.outlineLines (level + 1)

/-- The outline of a query, each line ended by a line feed. -/
def outline (query : Query) : String :=
  String.join ((query.outlineLines 0).map (· ++ "\n"))

end BooleanSearch.Query
