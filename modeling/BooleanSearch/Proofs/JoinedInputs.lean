import BooleanSearch.Proofs.Pieces

/-! # The tokens of joined inputs

Where two inputs meet outside a word, the first of which can be tokenized, the tokens of both stand
one behind the other. Those of the second input, and its fault if it has one, stand as many
characters further on as the first input has.
-/

namespace BooleanSearch

namespace TokenStream

/-- A joined input has the tokens of the first input, and behind them the stream of the second. -/
theorem ofString_append {before after : String} {tokens : List Token}
    (tokenized : tokenize before = .ok tokens) (seam : CleanSeam before.toList after.toList) :
    ofString (before ++ after) = ((ofString after).shift before.length).behind tokens := by
  have hbefore : ofChars 0 before.toList = ⟨tokens, .ok before.length⟩ :=
    (Cut.of_tokenize tokenized).ofString_eq
  have hafter := ofChars_add 0 before.length after.toList
  have ending : (ofChars 0 before.toList).ending = .ok before.length := by rw [hbefore]
  rw [ofString, String.toList_append, ofChars_append ending seam, hbefore, String.length_toList,
    hafter]
  rfl

end TokenStream

/-- The fault of a phrase that stands further on, in another input, is the same fault there. -/
theorem SearchError.ofPhrase_shift (input other : String) (distance : Nat) (fault : PhraseFault) :
    (ofPhrase other (fault.shift distance)).kindName = (ofPhrase input fault).kindName ∧
      (ofPhrase other (fault.shift distance)).position? =
        (ofPhrase input fault).position?.map (· + distance) ∧
      (ofPhrase other (fault.shift distance)).input? =
        (ofPhrase input fault).input?.map fun _ => other := by
  cases fault <;> exact ⟨rfl, rfl, rfl⟩

/-- If the first of two inputs can be tokenized and they meet outside a word, the joined input has
the tokens of the first one and, so many characters further on, those of the second; or if the
second one has a fault, the joined input has it, so many characters further on. -/
theorem tokenize_append {before after : String} {tokens : List Token}
    (tokenized : tokenize before = .ok tokens)
    (seam : TokenStream.CleanSeam before.toList after.toList) :
    (∀ others, tokenize after = .ok others →
      tokenize (before ++ after) = .ok (tokens ++ others.map (Token.shift before.length))) ∧
    ∀ error, tokenize after = .error error →
      ∃ moved, tokenize (before ++ after) = .error moved ∧ moved.kindName = error.kindName ∧
        moved.position? = error.position?.map (· + before.length) ∧
        moved.input? = error.input?.map fun _ => before ++ after := by
  have joined := TokenStream.ofString_append tokenized seam
  simp only [tokenize, joined, TokenStream.behind, TokenStream.shift]
  cases (TokenStream.ofString after).ending with
  | ok offset =>
    refine ⟨?_, by rintro error ⟨⟩⟩
    rintro others ⟨⟩
    rfl
  | error fault =>
    refine ⟨by rintro others ⟨⟩, ?_⟩
    rintro error ⟨⟩
    exact ⟨_, rfl, SearchError.ofPhrase_shift after (before ++ after) before.length fault⟩

/-- A phrase of one backslash ends where the inputs meet: once the name of an operator follows, and
once a phrase that does not end. -/
theorem tokenize_append_behind_phrase :
    tokenize ("é \"\\\\\"" ++ "OR(") =
      .ok [⟨.word "é", 0⟩, ⟨.phrase "\\", 2⟩, ⟨.or, 6⟩, ⟨.openParen, 8⟩] ∧
    ∃ moved, tokenize ("é \"\\\\\"" ++ "NOT \"b\\\"") = .error moved ∧
      moved.kindName = "expression_expected" ∧ moved.position? = some 14 ∧
      moved.input? = some "é \"\\\\\"NOT \"b\\\"" := by
  have tokenized : tokenize "é \"\\\\\"" = .ok [⟨.word "é", 0⟩, ⟨.phrase "\\", 2⟩] := by cbv
  have operator : tokenize "OR(" = .ok [⟨.or, 0⟩, ⟨.openParen, 2⟩] := by cbv
  have unterminated : tokenize "NOT \"b\\\"" = .error (.missingOperand 8 "NOT \"b\\\"") := by cbv
  exact ⟨(tokenize_append tokenized (by decide)).1 _ operator,
    (tokenize_append tokenized (by decide)).2 _ unterminated⟩

end BooleanSearch
