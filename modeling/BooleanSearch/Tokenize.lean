import BooleanSearch.SearchError
import BooleanSearch.Token.Stream

/-! # Tokenizing an expression -/

namespace BooleanSearch

/-- All tokens of an expression, or its first faulty phrase. -/
def tokenize (input : String) : Except SearchError (List Token) :=
  let stream := TokenStream.ofString input
  match stream.ending with
  | .ok _ => .ok stream.tokens
  | .error fault => .error (.ofPhrase input fault)

end BooleanSearch
