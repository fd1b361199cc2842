import BooleanSearch.Proofs.GrammarExactness
import BooleanSearch.Proofs.Lockstep
import BooleanSearch.Proofs.Pieces

/-! # What a result depends on

A limit that is high enough to be silent does not shape the result. Of the input only the sequence
of lexemes matters, in which a phrase is as good as a word; faults stand at the same token.
-/

namespace BooleanSearch

/-! ### Limits -/

/-- A result that says nothing but that the limit is too low. -/
def ReportsLimit (result : Except SearchError Query) : Prop :=
  ∃ maxDepth, result = .error (.tooDeep maxDepth)

/-- Faults of one input at the same place are equal. -/
theorem SearchError.Corresponds.eq {input : String} {error error' : SearchError}
    (h : error.Corresponds Eq input input error') : error' = error := by
  cases h with
  | unclosedGroup h | missingOperand h | emptyPhrase h | strayToken h => rw [h]

/-- An input keeps step with itself under a higher limit. -/
theorem Source.inStep_self {lower higher : Nat} (h : lower ≤ higher) (input : String) :
    (Source.ofInput lower input).InStep Eq (Source.ofInput higher input) where
  limit_le := h
  finish := by
    unfold Source.finish
    simp only [Source.ofInput]
    cases (TokenStream.ofString input).ending with
    | ok offset => exact .ok rfl
    | error fault =>
      cases fault with
      | unterminated position => exact .fault (.missingOperand rfl)
      | empty position => exact .fault (.emptyPhrase rfl)

/-- A parser with a higher limit gives the same result, unless the lower limit is reported. -/
theorem SearchParser.parse_eq_of_le {parser other : SearchParser}
    (h : parser.maxDepth ≤ other.maxDepth) {input : String}
    (silent : ¬ ReportsLimit (parser.parse input)) : other.parse input = parser.parse input := by
  have tokens : List.Forall₂ (Token.Alike Eq) (TokenStream.ofString input).tokens
      (TokenStream.ofString input).tokens :=
    List.forall₂_same.mpr fun _ _ => ⟨Or.inl rfl, rfl⟩
  have related := SearchParser.parse_related (Source.inStep_self h input) tokens
  generalize parser.parse input = result at related silent ⊢
  generalize other.parse input = result' at related ⊢
  cases related with
  | ok h => rw [h]
  | fault h => rw [h.eq]
  | tooDeep => exact absurd ⟨_, rfl⟩ silent
  | cutOff h => exact absurd ⟨_, rfl⟩ silent

/-- Whatever a parser answers, other than that its limit is too low, it answers under every higher
limit. So the limits that are not reported are all above some limit, and give one answer. -/
theorem parse_eq_of_limit_le (input : String) :
    (∀ limit higher, limit ≤ higher → ¬ ReportsLimit ((SearchParser.ofLimit limit).parse input) →
      (SearchParser.ofLimit higher).parse input = (SearchParser.ofLimit limit).parse input) ∧
    (∀ limit higher, limit ≤ higher → ¬ ReportsLimit ((SearchParser.ofLimit limit).parse input) →
      ¬ ReportsLimit ((SearchParser.ofLimit higher).parse input)) ∧
    ∀ limit limit', ¬ ReportsLimit ((SearchParser.ofLimit limit).parse input) →
      ¬ ReportsLimit ((SearchParser.ofLimit limit').parse input) →
      (SearchParser.ofLimit limit').parse input = (SearchParser.ofLimit limit).parse input := by
  have stable : ∀ limit higher, limit ≤ higher →
      ¬ ReportsLimit ((SearchParser.ofLimit limit).parse input) →
      (SearchParser.ofLimit higher).parse input = (SearchParser.ofLimit limit).parse input := by
    intro limit higher hle silent
    refine SearchParser.parse_eq_of_le ?_ silent
    rw [SearchParser.maxDepth_ofLimit, SearchParser.maxDepth_ofLimit]
    omega
  refine ⟨stable, ?_, ?_⟩
  · intro limit higher hle silent
    rwa [stable limit higher hle silent]
  · intro limit limit' silent silent'
    rcases Nat.le_total limit limit' with hle | hle
    · exact stable limit limit' hle silent
    · exact (stable limit' limit hle silent').symm

/-- The missing operand is reported under the lowest limit that is high enough to look for it, and
so under every higher one, although a faulty phrase follows. -/
theorem parse_eq_of_limit_le_missing_operand :
    ¬ ReportsLimit ((SearchParser.ofLimit 4).parse "AND \"\"") ∧
    (SearchParser.ofLimit 900).parse "AND \"\"" = .error (.missingOperand 0 "AND \"\"") := by
  have operator : Cut ([] ++ ['A', 'N', 'D']) [' ', '"', '"'] ([] ++ [⟨.and, 0⟩]) :=
    .run (.start _) (by decide) ⟨rfl, Or.inl (by decide)⟩
  have blank : Cut (['A', 'N', 'D'] ++ [' ']) ['"', '"'] [⟨.and, 0⟩] :=
    .blanks operator (by decide)
  have stream : TokenStream.ofString "AND \"\"" = ⟨[⟨.and, 0⟩], .error (.empty 4)⟩ :=
    blank.ofString_eq_of_faulty rfl (.empty [])
  have atFour : (SearchParser.ofLimit 4).parse "AND \"\"" =
      .error (.missingOperand 0 "AND \"\"") := by
    rw [SearchParser.parse_eq_run, stream, Source.run_disjunction, Cursor.enter,
      Source.run_conjunction, Cursor.enter, Source.run_unary_cons _ _ _ (by simp),
      Source.run_primary_other _ _ _ (Or.inl rfl)]
    rfl
  have silent : ¬ ReportsLimit ((SearchParser.ofLimit 4).parse "AND \"\"") := by
    rw [atFour]
    rintro ⟨_, h⟩
    cases h
  refine ⟨silent, ?_⟩
  rw [(parse_eq_of_limit_le "AND \"\"").1 4 900 (by decide) silent, atFour]

/-! ### Tokens -/

/-- Where a fault can stand: at a token or at the end of the input. -/
def places (input : String) (tokens : List Token) : List Nat :=
  tokens.map Token.offset ++ [input.length]

/-- Two places stand at one token of both inputs, or both at the end. -/
def SamePlace (places others : List Nat) (place other : Nat) : Prop :=
  ∃ index : Nat, places[index]? = some place ∧ others[index]? = some other

/-- A fault has a place, and a fault that corresponds is of the same kind. -/
theorem SearchError.Corresponds.exists_place {Same : Nat → Nat → Prop} {input otherInput : String}
    {error error' : SearchError} (h : error.Corresponds Same input otherInput error') :
    error.kindName = error'.kindName ∧
      ∃ place other, error.position? = some place ∧ error'.position? = some other ∧
        Same place other := by
  cases h with
  | unclosedGroup h | missingOperand h | emptyPhrase h | strayToken h =>
    exact ⟨rfl, _, _, rfl, rfl, h⟩

section SameLexemes

variable {input otherInput : String} {tokens others : List Token}

/-- Tokens with lexemes that are alike stand at the same places, one by one. -/
theorem forall₂_alike_samePlace
    (alike : List.Forall₂ (fun token other : Token => token.lexeme.Alike other.lexeme) tokens
      others) :
    List.Forall₂ (Token.Alike (SamePlace (places input tokens) (places otherInput others)))
      tokens others := by
  obtain ⟨hlength, hlexeme⟩ := List.forall₂_iff_get.mp alike
  refine List.forall₂_iff_get.mpr ⟨hlength, fun index h h' => ⟨hlexeme index h h', index, ?_⟩⟩
  constructor
  · rw [places, List.getElem?_append_left (by simpa using h)]
    simp [h]
  · rw [places, List.getElem?_append_left (by simpa using h')]
    simp [h']

/-- Two inputs whose tokens are alike keep step under one limit. -/
theorem inStep_samePlace (maxDepth : Nat) (cut : Cut input.toList [] tokens)
    (cut' : Cut otherInput.toList [] others) (hlength : tokens.length = others.length) :
    (Source.ofInput maxDepth input).InStep
      (SamePlace (places input tokens) (places otherInput others))
      (Source.ofInput maxDepth otherInput) where
  limit_le := Nat.le_refl _
  finish := by
    simp only [Source.finish, Source.ofInput, cut.ofString_eq, cut'.ofString_eq]
    exact .ok ⟨tokens.length, by simp [places], by simp [places, hlength]⟩

end SameLexemes

/-- Two inputs with the same sequence of lexemes, in which a phrase and a word with the same text
count as equal, give the same query, or both report the limit, or have faults of the same kind at
the same token or both at the end. -/
theorem parse_eq_of_alike (limit : Nat) {input otherInput : String} {tokens others : List Token}
    (tokenized : tokenize input = .ok tokens) (tokenized' : tokenize otherInput = .ok others)
    (alike : List.Forall₂ (fun token other : Token => token.lexeme.Alike other.lexeme) tokens
      others) :
    (∃ query, (SearchParser.ofLimit limit).parse input = .ok query ∧
      (SearchParser.ofLimit limit).parse otherInput = .ok query) ∨
    ((SearchParser.ofLimit limit).parse input =
        .error (.tooDeep (SearchParser.ofLimit limit).maxDepth) ∧
      (SearchParser.ofLimit limit).parse otherInput =
        .error (.tooDeep (SearchParser.ofLimit limit).maxDepth)) ∨
    ∃ (error error' : SearchError) (index place other : Nat),
      (SearchParser.ofLimit limit).parse input = .error error ∧
      (SearchParser.ofLimit limit).parse otherInput = .error error' ∧
      error.kindName = error'.kindName ∧
      error.position? = some place ∧ (places input tokens)[index]? = some place ∧
      error'.position? = some other ∧ (places otherInput others)[index]? = some other := by
  have cut := Cut.of_tokenize tokenized
  have cut' := Cut.of_tokenize tokenized'
  have steps := inStep_samePlace (SearchParser.ofLimit limit).maxDepth cut cut' alike.length_eq
  have related := SearchParser.parse_related steps (by
    rw [cut.ofString_eq, cut'.ofString_eq]
    exact forall₂_alike_samePlace alike)
  generalize (SearchParser.ofLimit limit).parse input = result at related ⊢
  generalize (SearchParser.ofLimit limit).parse otherInput = result' at related ⊢
  cases related with
  | ok h => exact Or.inl ⟨_, rfl, by rw [h]⟩
  | fault h =>
    obtain ⟨hkind, place, other, hplace, hother, index, hindex, hindex'⟩ := h.exists_place
    exact Or.inr (Or.inr ⟨_, _, index, place, other, rfl, rfl, hkind, hplace, hindex, hother,
      hindex'⟩)
  | tooDeep => exact Or.inr (Or.inl ⟨rfl, rfl⟩)
  | cutOff h => exact absurd h (Nat.lt_irrefl _)

/-- Quotes around words and other blanks, or none, leave the query as it is. -/
theorem parse_eq_of_alike_quoted :
    let query : Query := .binary .and (.literal "a") (.negation (.literal "b"))
    (SearchParser.ofLimit 5).parse "a NOT b" = .ok query ∧
      (SearchParser.ofLimit 5).parse "\t\"a\"NOT\"b\"" = .ok query := by
  intro query
  have tokenized : tokenize "a NOT b" = .ok [⟨.word "a", 0⟩, ⟨.not, 2⟩, ⟨.word "b", 6⟩] := by cbv
  have tokenized' : tokenize "\t\"a\"NOT\"b\"" =
      .ok [⟨.phrase "a", 1⟩, ⟨.not, 4⟩, ⟨.phrase "b", 7⟩] := by cbv
  have derived : Derives .disjunction ([.word "a"] ++ [.not, .word "b"]) query :=
    .disjunct (.adjoin (.conjunct (.operand (.word "a"))) (.negation (.operand (.word "b"))))
  have accepted : (SearchParser.ofLimit 5).parse "a NOT b" = .ok query := by
    rw [SearchParser.parse_of_derives _ tokenized derived]
    decide
  refine ⟨accepted, ?_⟩
  have alike : List.Forall₂ (fun token other : Token => token.lexeme.Alike other.lexeme)
      [⟨.word "a", 0⟩, ⟨.not, 2⟩, ⟨.word "b", 6⟩] [⟨.phrase "a", 1⟩, ⟨.not, 4⟩, ⟨.phrase "b", 7⟩] :=
    .cons (Or.inr ⟨"a", rfl, rfl⟩) (.cons (Or.inl rfl) (.cons (Or.inr ⟨"b", rfl, rfl⟩) .nil))
  rcases parse_eq_of_alike 5 tokenized tokenized' alike with
    ⟨found, hfound, hother⟩ | ⟨hdeep, -⟩ | ⟨_, _, _, _, _, hfault, -⟩
  · rw [hother, ← hfound, accepted]
  · rw [accepted] at hdeep
    cases hdeep
  · rw [accepted] at hfault
    cases hfault

end BooleanSearch
