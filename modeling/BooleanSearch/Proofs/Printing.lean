import BooleanSearch.Proofs.GrammarExactness

/-! # Printing a query

A query is printed with quoted literals and with the fewest groups. What is printed is read as the
query, and no other text of the same query nests less, so a limit that allows any text of it allows
the printed one.
-/

namespace BooleanSearch

namespace Query

/-- Whether a query joins two others by `OR`. -/
def isOr : Query → Bool
  | .binary .or _ _ => true
  | .binary .and _ _ | .literal _ | .negation _ => false

/-- Whether a query joins two others. -/
def isBinary : Query → Bool
  | .binary _ _ _ => true
  | .literal _ | .negation _ => false

theorem isBinary_of_isOr {query : Query} (h : query.isOr = true) : query.isBinary = true := by
  cases query <;> simp_all [isOr, isBinary]

/-- A text, in parentheses if they are needed. -/
def parenthesized (needed : Bool) (text : List Char) : List Char :=
  if needed then '(' :: (text ++ [')']) else text

/-- The characters of a printed query. Literals stand in quotes, with quotes and backslashes
escaped. A group is made of an `Or` under `And`, of an `And` on the right of `And`, of an `Or` on
the right of `Or`, and of an `And` or `Or` under `Not`. -/
def printed : Query → List Char
  | .literal text => '"' :: (escape text.toList ++ ['"'])
  | .binary .and left right =>
    parenthesized left.isOr left.printed ++ " AND ".toList ++
      parenthesized right.isBinary right.printed
  | .binary .or left right =>
    left.printed ++ " OR ".toList ++ parenthesized right.isOr right.printed
  | .negation operand => "NOT ".toList ++ parenthesized operand.isBinary operand.printed

/-- The text of a query. -/
def print (query : Query) : String := String.ofList query.printed

/-- Lexemes, in parentheses if they are needed. -/
def grouped (needed : Bool) (inner : List Lexeme) : List Lexeme :=
  if needed then .openParen :: (inner ++ [.closeParen]) else inner

/-- The lexemes of a printed query. -/
def minimal : Query → List Lexeme
  | .literal text => [.phrase text]
  | .binary .and left right =>
    grouped left.isOr left.minimal ++ .and :: grouped right.isBinary right.minimal
  | .binary .or left right => left.minimal ++ .or :: grouped right.isOr right.minimal
  | .negation operand => .not :: grouped operand.isBinary operand.minimal

/-- The lexemes of a query that is printed where an expression of some kind has to stand. -/
def minimalAt (query : Query) : Nonterminal → List Lexeme
  | .disjunction => query.minimal
  | .conjunction => grouped query.isOr query.minimal
  | .unary | .primary => grouped query.isBinary query.minimal

/-! ### What is printed is read -/

theorem spells_parenthesized {text : List Char} {read : List Lexeme} (h : Spells text read)
    (needed : Bool) : Spells (parenthesized needed text) (grouped needed read) := by
  cases needed with
  | false => exact h
  | true => exact Spells.openParen.append (h.append .closeParen)

theorem spells_and : Spells " AND ".toList [.and] := by
  have word : Spells ['A', 'N', 'D', ' '] [.ofRun ['A', 'N', 'D']] := .run (by decide)
  exact (Spells.blank (by decide)).append word

theorem spells_or : Spells " OR ".toList [.or] := by
  have word : Spells ['O', 'R', ' '] [.ofRun ['O', 'R']] := .run (by decide)
  exact (Spells.blank (by decide)).append word

theorem spells_not : Spells "NOT ".toList [.not] := by
  have word : Spells ['N', 'O', 'T', ' '] [.ofRun ['N', 'O', 'T']] := .run (by decide)
  exact word

/-- The characters of a printed query spell its lexemes. -/
theorem spells_printed {query : Query} (filled : ∀ text ∈ query.literals, text ≠ "") :
    Spells query.printed query.minimal := by
  induction query with
  | literal text =>
    have hne : text.toList ≠ [] := by simpa using filled text (by simp [literals])
    simpa [printed, minimal] using Spells.phrase hne
  | binary op left right ihl ihr =>
    have hl := ihl fun text h => filled text (by simp [literals, h])
    have hr := ihr fun text h => filled text (by simp [literals, h])
    cases op with
    | and =>
      have := (spells_parenthesized hl left.isOr).append
        (spells_and.append (spells_parenthesized hr right.isBinary))
      simpa [printed, minimal] using this
    | or =>
      have := hl.append (spells_or.append (spells_parenthesized hr right.isOr))
      simpa [printed, minimal] using this
  | negation operand ih =>
    exact spells_not.append (spells_parenthesized (ih filled) operand.isBinary)

theorem tokenizes_print {query : Query} (filled : ∀ text ∈ query.literals, text ≠ "") :
    Tokenizes query.print.toList query.minimal := by
  simpa [print] using (spells_printed filled).tokenizes

/-! ### What is printed is derived -/

/-- A printed query is an expression of each kind, once it is put into a group where its kind asks
for one. -/
theorem derives_minimalAt (query : Query) :
    Derives .disjunction (query.minimalAt .disjunction) query ∧
      Derives .conjunction (query.minimalAt .conjunction) query ∧
      Derives .unary (query.minimalAt .unary) query := by
  induction query with
  | literal text =>
    have h : Derives .unary [.phrase text] (.literal text) := .operand (.phrase text)
    exact ⟨h.disjunction_of_unary, .conjunct h, h⟩
  | binary op left right ihl ihr =>
    obtain ⟨hl, hl', -⟩ := ihl
    obtain ⟨-, hr', hr''⟩ := ihr
    cases op with
    | and =>
      have h : Derives .conjunction (binary .and left right).minimal (.binary .and left right) :=
        .conjoin hl' hr''
      exact ⟨.disjunct h, h, .unary_group (.disjunct h)⟩
    | or =>
      have h : Derives .disjunction (binary .or left right).minimal (.binary .or left right) :=
        .disjoin hl hr'
      exact ⟨h, .conjunct (.unary_group h), .unary_group h⟩
  | negation operand ih =>
    have h : Derives .unary (negation operand).minimal (.negation operand) := .negation ih.2.2
    exact ⟨h.disjunction_of_unary, .conjunct h, h⟩

/-! ### No other expression of a query nests less -/

variable (query : Query) (opened above : Nat)

/-- A group adds to the nesting, so more groups nest deeper. -/
theorem nesting_grouped_le {needed : Bool} :
    nesting opened above (grouped needed query.minimal) query ≤
      nesting (opened + 1) above query.minimal query := by
  have derived := (derives_minimalAt query).1
  cases needed with
  | false =>
    have := derived.nesting_add opened above 1 0
    simp only [Nat.add_zero] at this
    rw [minimalAt] at this
    rw [this]
    exact Nat.le_add_right _ _
  | true => exact (derived.nesting_group opened above).le

theorem nesting_grouped_mono (needed needed' : Bool) (h : needed = true → needed' = true) :
    nesting opened above (grouped needed query.minimal) query ≤
      nesting opened above (grouped needed' query.minimal) query := by
  cases needed with
  | true => rw [h rfl]
  | false =>
    cases needed' with
    | false => exact le_rfl
    | true =>
      calc nesting opened above (grouped false query.minimal) query
        _ ≤ nesting (opened + 1) above query.minimal query := nesting_grouped_le query opened above
        _ = nesting opened above (grouped true query.minimal) query :=
          ((derives_minimalAt query).1.nesting_group opened above).symm

variable {query}

/-- Whatever expression of a query there is, the printed one of the same kind nests as little. -/
theorem nesting_minimalAt_le {place : Nonterminal} {read : List Lexeme}
    (h : Derives place read query) :
    nesting opened above (query.minimalAt place) query ≤ nesting opened above read query := by
  induction h generalizing opened above with
  | word text => simp [minimalAt, minimal, grouped, isBinary]
  | phrase text => exact le_rfl
  | group h ih =>
    rw [h.nesting_group]
    exact (nesting_grouped_le _ opened above).trans (ih (opened + 1) above)
  | operand h ih => exact ih opened above
  | negation h ih => exact ih opened (above + 1)
  | conjunct h ih =>
    exact (nesting_grouped_mono _ opened above _ _ isBinary_of_isOr).trans (ih opened above)
  | @conjoin _ _ left right hl hr ihl ihr | @adjoin _ _ left right hl hr ihl ihr =>
    have derived := (derives_minimalAt left).2.1
    exact derived.nesting_binary_mono hl .and (ihl opened above) (ihr opened above)
  | @disjunct _ query h ih =>
    have ungrouped := nesting_grouped_mono query opened above false query.isOr (by simp)
    exact ungrouped.trans (ih opened above)
  | @disjoin _ _ left right hl hr ihl ihr =>
    have derived := (derives_minimalAt left).1
    exact derived.nesting_binary_mono hl .or (ihl opened above) (ihr opened above)

end Query

/-- The literals of what a parser accepts are not empty. -/
theorem SearchParser.literals_ne_empty {parser : SearchParser} {input : String} {query : Query}
    (h : parser.parse input = .ok query) : ∀ text ∈ query.literals, text ≠ "" := by
  obtain ⟨read, ⟨-, rfl⟩, derived, -⟩ := parse_eq_ok_iff.mp h
  rw [derived.literals_eq]
  exact fun text htext => operands_ofChars_ne_empty htext

/-- A printed query is read as the query or reported as too deep; and wherever some text is accepted
as a query, the printed query is accepted under the same limit. -/
theorem parse_print (query : Query) (limit : Nat) :
    ((∀ text ∈ query.literals, text ≠ "") →
      (SearchParser.ofLimit limit).parse query.print = .ok query ∨
        (SearchParser.ofLimit limit).parse query.print =
          .error (.tooDeep (SearchParser.ofLimit limit).maxDepth)) ∧
    ∀ input, (SearchParser.ofLimit limit).parse input = .ok query →
      (SearchParser.ofLimit limit).parse query.print = .ok query := by
  have printed : Derives .disjunction query.minimal query := (Query.derives_minimalAt query).1
  constructor
  · intro filled
    obtain ⟨tokens, tokenized, hread⟩ := tokenizes_iff_tokenize.mp (Query.tokenizes_print filled)
    rw [SearchParser.parse_of_derives _ tokenized (hread ▸ printed)]
    split
    · exact Or.inl rfl
    · exact Or.inr rfl
  · intro input h
    have filled := SearchParser.literals_ne_empty h
    obtain ⟨read, -, derived, deep⟩ := SearchParser.parse_eq_ok_iff.mp h
    apply SearchParser.parse_eq_ok_iff.mpr
    refine ⟨query.minimal, Query.tokenizes_print filled, printed, ?_⟩
    calc Source.required 0 0 query.minimal query
      _ ≤ Source.required 0 0 read query :=
        max_le_max le_rfl (Query.nesting_minimalAt_le 0 0 derived)
      _ ≤ (SearchParser.ofLimit limit).maxDepth := deep

/-- The parentheses around the disjunction are needed, and those around the phrase are not. -/
theorem parse_print_negated_disjunction :
    let query : Query := .binary .and (.negation (.binary .or (.literal "a") (.literal "b")))
      (.literal "c\"d")
    query.print = "NOT (\"a\" OR \"b\") AND \"c\\\"d\"" ∧
    ((SearchParser.ofLimit 8).parse query.print = .ok query ∨
      (SearchParser.ofLimit 8).parse query.print = .error (.tooDeep 8)) ∧
    (SearchParser.ofLimit 9).parse "NOT (a OR b) (\"c\\\"d\")" = .ok query ∧
    (SearchParser.ofLimit 9).parse query.print = .ok query := by
  intro query
  have tokenized : tokenize "NOT (a OR b) (\"c\\\"d\")" = .ok [⟨.not, 0⟩, ⟨.openParen, 4⟩,
      ⟨.word "a", 5⟩, ⟨.or, 7⟩, ⟨.word "b", 10⟩, ⟨.closeParen, 11⟩, ⟨.openParen, 13⟩,
      ⟨.phrase "c\"d", 14⟩, ⟨.closeParen, 20⟩] := by cbv
  have inside : Derives .disjunction ([.word "a"] ++ .or :: [.word "b"])
      (.binary .or (.literal "a") (.literal "b")) :=
    .disjoin (.disjunct (.conjunct (.operand (.word "a")))) (.conjunct (.operand (.word "b")))
  have phrase : Derives .disjunction [.phrase "c\"d"] (.literal "c\"d") :=
    .disjunct (.conjunct (.operand (.phrase _)))
  have derived : Derives .disjunction [.not, .openParen, .word "a", .or, .word "b", .closeParen,
      .openParen, .phrase "c\"d", .closeParen] query :=
    .disjunct (.adjoin (.conjunct (.negation (.operand (.group inside)))) (.unary_group phrase))
  have accepted : (SearchParser.ofLimit 9).parse "NOT (a OR b) (\"c\\\"d\")" = .ok query := by
    rw [SearchParser.parse_of_derives _ tokenized derived]
    decide
  refine ⟨by decide, (parse_print query 8).1 (by decide), accepted, ?_⟩
  exact (parse_print query 9).2 _ accepted

end BooleanSearch
