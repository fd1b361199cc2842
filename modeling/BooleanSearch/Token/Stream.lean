import BooleanSearch.Token.Scan

/-! # The tokens of a whole input

A token stream is every token up to the end of the input or up to the first faulty phrase.
-/

namespace BooleanSearch

/-- The tokens of an input, and what comes after the last one: the end of the input, at its
number of characters, or a phrase that cannot be read. -/
structure TokenStream where
  tokens : List Token
  ending : Except PhraseFault Nat

namespace TokenStream

/-- Reads tokens for as long as there are any. -/
def ofChars (position : Nat) (input : List Char) : TokenStream :=
  match _found : (scan position input).outcome with
  | .ok (.token token) =>
    let others := ofChars (scan position input).position (scan position input).rest
    ⟨token :: others.tokens, others.ending⟩
  | .ok (.finish offset) => ⟨[], .ok offset⟩
  | .error fault => ⟨[], .error fault⟩
termination_by input.length
decreasing_by exact length_rest_scan_lt _found

/-- The tokens of an expression. -/
def ofString (input : String) : TokenStream := ofChars 0 input.toList

end TokenStream

end BooleanSearch
