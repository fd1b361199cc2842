import BooleanSearch.Proofs.ExactReading
import BooleanSearch.Proofs.Spelling

/-! # The parser and the grammar

A parser accepts only what the grammar derives, and of that everything that is within its limit.
Two bounds decide on the limit: the depth of the query, and the number of rules that are being read
at each of its operands.
-/

namespace BooleanSearch

namespace SearchParser

/-- What a parser accepts is an expression, and has been read to its end. -/
theorem exists_derivation {parser : SearchParser} {input : String} {query : Query}
    (h : parser.parse input = .ok query) :
    ∃ tokens, tokenize input = .ok tokens ∧ Derives .disjunction (lexemes tokens) query := by
  rw [parse_eq_run] at h
  obtain ⟨whole, hwhole, h⟩ := Source.bind_eq_ok.mp h
  obtain ⟨tokens, htokens, -, derived⟩ := Source.run_sound _ hwhole
  unfold Source.conclude at h
  split at h
  · rename_i following
    obtain ⟨offset, hfinish, h⟩ := Source.bind_eq_ok.mp h
    obtain rfl := Source.pure_eq_ok.mp h
    refine ⟨tokens, tokenize_eq_ok_iff.mpr ⟨?_, ?_⟩, derived⟩
    · simpa [following] using htokens
    · unfold Source.finish at hfinish
      split at hfinish
      · exact ⟨_, ‹_›⟩
      · cases hfinish
  · cases h

end SearchParser

/-- An expression of the grammar is read to its end with one check. -/
theorem Source.run_disjunction_of_derives {source : Source} {tokens : List Token} {query : Query}
    {offset : Nat} (ends : source.ending = .ok offset)
    (derived : Derives .disjunction (lexemes tokens) query) :
    source.run .disjunction ⟨tokens, 0⟩ = (do
      source.checkDepth (required 0 0 (lexemes tokens) query)
      return ⟨⟨query, query.depth⟩, ⟨[], 0⟩⟩) := by
  have deep := level_lt_required derived (show 0 = 4 * 0 + 0 by omega)
  have read : source.ReadsExactly 0 0 0 tokens [] query .disjunction :=
    readsExactly derived (by omega)
  simpa using read.run_disjunction (source.endsConjunction_nil ends)
    (source.endsDisjunction_nil ends) (by omega)

/-- A parser accepts an expression of the grammar, or reports its limit. -/
theorem SearchParser.parse_of_derives (parser : SearchParser) {input : String} {tokens : List Token}
    {query : Query} (tokenized : tokenize input = .ok tokens)
    (derived : Derives .disjunction (lexemes tokens) query) :
    parser.parse input =
      if Source.required 0 0 (lexemes tokens) query ≤ parser.maxDepth then .ok query
      else .error (.tooDeep parser.maxDepth) := by
  obtain ⟨rfl, offset, hending⟩ := tokenize_eq_ok_iff.mp tokenized
  have ends : (Source.ofInput parser.maxDepth input).ending = .ok offset := hending
  rw [parse_eq_run, Source.run_disjunction_of_derives ends derived, bind_assoc,
    Source.checkDepth_bind]
  congr 1
  simp only [Source.conclude, Source.finish, pure_bind, ends]
  rfl

/-- What a parser accepts, in terms of the grammar. -/
theorem SearchParser.parse_eq_ok_iff {parser : SearchParser} {input : String} {query : Query} :
    parser.parse input = .ok query ↔
      ∃ read, Tokenizes input.toList read ∧ Derives .disjunction read query ∧
        Source.required 0 0 read query ≤ parser.maxDepth := by
  constructor
  · intro h
    obtain ⟨tokens, tokenized, derived⟩ := exists_derivation h
    rw [parse_of_derives _ tokenized derived] at h
    split at h
    · rename_i deep
      exact ⟨_, tokenizes_iff_tokenize.mpr ⟨tokens, tokenized, rfl⟩, derived, deep⟩
    · cases h
  · rintro ⟨read, hread, derived, deep⟩
    obtain ⟨tokens, tokenized, rfl⟩ := tokenizes_iff_tokenize.mp hread
    rw [parse_of_derives _ tokenized derived, if_pos deep]

/-- The grammar is unambiguous, since reading under a limit that is high enough for two queries
gives one of them. -/
theorem Derives.query_unique {read : List Lexeme} {first second : Query}
    (h : Derives .disjunction read first) (h' : Derives .disjunction read second) :
    first = second := by
  let tokens : List Token := read.map fun lexeme => ⟨lexeme, 0⟩
  have hread : read = lexemes tokens := by simp [tokens, lexemes, Function.comp_def]
  rw [hread] at h h'
  let source : Source := ⟨max (Source.required 0 0 (lexemes tokens) first)
    (Source.required 0 0 (lexemes tokens) second), "", .ok 0⟩
  have ends : source.ending = .ok 0 := rfl
  have hfirst := Source.run_disjunction_of_derives ends h
  have hsecond := Source.run_disjunction_of_derives ends h'
  rw [Source.checkDepth_bind, if_pos (Nat.le_max_left _ _)] at hfirst
  rw [Source.checkDepth_bind, if_pos (Nat.le_max_right _ _)] at hsecond
  have same := Except.ok.inj (hfirst.symm.trans hsecond)
  exact congrArg (fun progress => progress.node.query) same

/-- A parser accepts an input as a query only if its tokens derive the query; if they do, it accepts
them as this query or reports its limit; and no lexemes derive two queries. -/
theorem parse_iff_derives_or_tooDeep :
    (∀ input limit query, (SearchParser.ofLimit limit).parse input = .ok query →
      ∃ tokens, tokenize input = .ok tokens ∧ Derives .disjunction (lexemes tokens) query) ∧
    (∀ input limit tokens query, tokenize input = .ok tokens →
      Derives .disjunction (lexemes tokens) query →
      (SearchParser.ofLimit limit).parse input = .ok query ∨
        (SearchParser.ofLimit limit).parse input =
          .error (.tooDeep (SearchParser.ofLimit limit).maxDepth)) ∧
    ∀ read first second, Derives .disjunction read first → Derives .disjunction read second →
      first = second := by
  refine ⟨fun input limit query h => SearchParser.exists_derivation h, ?_,
    fun read first second h h' => h.query_unique h'⟩
  intro input limit tokens query tokenized derived
  rw [SearchParser.parse_of_derives _ tokenized derived]
  split
  · exact Or.inl rfl
  · exact Or.inr rfl

/-- A group under `OR` and `NOT`, with a word and a phrase side by side. -/
theorem parse_iff_derives_or_tooDeep_negated_group :
    let query : Query := .binary .or (.literal "a")
      (.negation (.binary .and (.literal "b") (.literal "c d")))
    (∃ tokens, tokenize "a OR NOT (b \"c d\")" = .ok tokens ∧
      Derives .disjunction (lexemes tokens) query) ∧
    ((SearchParser.ofLimit 8).parse "a OR NOT (b \"c d\")" = .ok query ∨
      (SearchParser.ofLimit 8).parse "a OR NOT (b \"c d\")" = .error (.tooDeep 8)) ∧
    ∀ other, Derives .disjunction [.word "a", .or, .not, .openParen, .word "b", .phrase "c d",
      .closeParen] other → other = query := by
  intro query
  have tokenized : tokenize "a OR NOT (b \"c d\")" = .ok [⟨.word "a", 0⟩, ⟨.or, 2⟩, ⟨.not, 5⟩,
      ⟨.openParen, 9⟩, ⟨.word "b", 10⟩, ⟨.phrase "c d", 12⟩, ⟨.closeParen, 17⟩] := by cbv
  have group : Derives .conjunction ([.word "b"] ++ [.phrase "c d"])
      (.binary .and (.literal "b") (.literal "c d")) :=
    .adjoin (.conjunct (.operand (.word "b"))) (.operand (.phrase "c d"))
  have derived : Derives .disjunction [.word "a", .or, .not, .openParen, .word "b", .phrase "c d",
      .closeParen] query :=
    .disjoin (.disjunct (.conjunct (.operand (.word "a"))))
      (.conjunct (.negation (.operand (.group (.disjunct group)))))
  have accepted : (SearchParser.ofLimit 50).parse "a OR NOT (b \"c d\")" = .ok query := by
    rw [SearchParser.parse_of_derives _ tokenized derived]
    decide
  exact ⟨parse_iff_derives_or_tooDeep.1 _ 50 query accepted,
    parse_iff_derives_or_tooDeep.2.1 _ 8 _ query tokenized derived,
    fun other h => parse_iff_derives_or_tooDeep.2.2 _ other query h derived⟩

/-- For an expression of the grammar, the limit allows the query exactly if the query is not deeper
and if at every word and phrase not more rules are being read: four, four for every open group, and
one for every negation above its literal. Otherwise the limit is reported. -/
theorem parse_eq_ok_iff_within_limit (limit : Nat) {input : String} {tokens : List Token}
    {query : Query} (tokenized : tokenize input = .ok tokens)
    (derived : Derives .disjunction (lexemes tokens) query) :
    query.literals = operands (lexemes tokens) ∧
    (openGroups 0 (lexemes tokens)).length = (operands (lexemes tokens)).length ∧
    (query.negationsAbove 0).length = query.literals.length ∧
    ((SearchParser.ofLimit limit).parse input = .ok query ↔
      query.depth ≤ min limit maxSupportedDepth ∧
      ∀ (i groups negations : Nat), (openGroups 0 (lexemes tokens))[i]? = some groups →
        (query.negationsAbove 0)[i]? = some negations →
        4 + 4 * groups + negations ≤ min limit maxSupportedDepth) ∧
    ((SearchParser.ofLimit limit).parse input ≠ .ok query →
      (SearchParser.ofLimit limit).parse input =
        .error (.tooDeep (min limit maxSupportedDepth))) := by
  refine ⟨derived.literals_eq, length_openGroups 0 _, length_negationsAbove 0 _, ?_, ?_⟩
  · rw [SearchParser.parse_of_derives _ tokenized derived, ← nesting_le_iff, ← Nat.max_le]
    split
    · rename_i deep
      exact iff_of_true rfl deep
    · rename_i deep
      exact iff_of_false (by simp) deep
  · intro h
    rw [SearchParser.parse_of_derives _ tokenized derived] at h ⊢
    split at h
    · exact absurd rfl h
    · rename_i deep
      rw [if_neg deep, SearchParser.maxDepth_ofLimit]

/-- Nine rules are being read at a word in a group under a negation. -/
theorem parse_eq_ok_iff_within_limit_nine_rules :
    (SearchParser.ofLimit 9).parse "NOT (a)" = .ok (.negation (.literal "a")) ∧
    (SearchParser.ofLimit 8).parse "NOT (a)" = .error (.tooDeep 8) := by
  have tokenized : tokenize "NOT (a)" =
      .ok [⟨.not, 0⟩, ⟨.openParen, 4⟩, ⟨.word "a", 5⟩, ⟨.closeParen, 6⟩] := by cbv
  have word : Derives .disjunction [.word "a"] (.literal "a") :=
    .disjunct (.conjunct (.operand (.word "a")))
  have derived : Derives .disjunction [.not, .openParen, .word "a", .closeParen]
      (.negation (.literal "a")) := .disjunct (.conjunct (.negation (.operand (.group word))))
  obtain ⟨-, -, -, atNine, -⟩ := parse_eq_ok_iff_within_limit 9 tokenized derived
  obtain ⟨-, -, -, atEight, refused⟩ := parse_eq_ok_iff_within_limit 8 tokenized derived
  constructor
  · rw [atNine, ← nesting_le_iff]
    decide
  · apply refused
    rw [ne_eq, atEight, ← nesting_le_iff]
    decide

end BooleanSearch
