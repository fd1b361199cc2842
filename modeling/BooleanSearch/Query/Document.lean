import BooleanSearch.Json
import BooleanSearch.Query
import BooleanSearch.Token

/-! # Queries and tokens as JSON documents

Every node is a record whose first field tells its type.
-/

namespace BooleanSearch

/-- The document of a query. -/
def Query.toJson : Query → Json
  | .literal text => .record [("type", .text "string_literal"), ("value", .text text)]
  | .binary op left right =>
    .record [("type", .text "binary_operator"), ("op", .text op.name), ("left", left.toJson),
      ("right", right.toJson)]
  | .negation operand =>
    .record [("type", .text "unary_operator"), ("op", .text "Not"), ("operand", operand.toJson)]

/-- The document of a token. -/
def Token.toJson (token : Token) : Json :=
  .record [("kind", .text token.lexeme.kindName), ("text", .text token.lexeme.text),
    ("offset", .number token.offset)]

end BooleanSearch
