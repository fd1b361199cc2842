import BooleanSearch.Proofs.Pieces
import BooleanSearch.Proofs.GrammarExactness

/-! # The faults that a parser reports

A rule fails because of its limit, because of the phrase at which the tokens stop, at the end of the
input, or at a token that it cannot read. To tell these apart one has to know what a rule leaves
ahead when it succeeds: behind an expression only `)` or the end of the input comes, so that a group
is found open nowhere else than at the end. From this the faults of the parser and those of the
tokenizer are compared.
-/

namespace BooleanSearch

namespace Source

variable (source : Source)

/-- Nothing comes next but one of these lexemes, or the end of an input without a faulty phrase. -/
def StopsAt (stops : List Lexeme) : List Token → Prop
  | [] => ∃ offset, source.ending = .ok offset
  | token :: _ => token.lexeme ∈ stops

/-- What comes next where a rule is called. -/
def Enters : Rule → List Token → Prop
  | .moreDisjuncts _, ahead => source.StopsAt [.or, .closeParen] ahead
  | .primary, ahead => ∀ token ∈ ahead.head?, token.lexeme ≠ .not
  | .disjunction, _ | .conjunction, _ | .moreConjuncts _, _ | .unary, _ => True

/-- What comes next where a rule has succeeded. -/
def Leaves : Rule → List Token → Prop
  | .disjunction, ahead | .moreDisjuncts _, ahead => source.StopsAt [.closeParen] ahead
  | .conjunction, ahead | .moreConjuncts _, ahead => source.StopsAt [.or, .closeParen] ahead
  | .unary, _ | .primary, _ => True

/-- Why a rule can fail before these tokens. -/
inductive Fault (ahead : List Token) : SearchError → Prop
  | tooDeep : Fault ahead (.tooDeep source.maxDepth)
  | phrase {fault : PhraseFault} (h : source.ending = .error fault) :
      Fault ahead (.ofPhrase source.input fault)
  | unclosedGroup {offset : Nat} (h : source.ending = .ok offset) :
      Fault ahead (.unclosedGroup offset source.input)
  | missingAtEnd {offset : Nat} (h : source.ending = .ok offset) :
      Fault ahead (.missingOperand offset source.input)
  | missingAtToken {token : Token} (h : token ∈ ahead)
      (other : token.lexeme.startsOperand = false) :
      Fault ahead (.missingOperand token.offset source.input)

/-- A result with a property, or with one of the faults that are possible before these tokens. -/
def Gives {α : Type} (ahead : List Token) (property : α → Prop) : Except SearchError α → Prop
  | .ok value => property value
  | .error error => source.Fault ahead error

variable {source}

namespace Gives

variable {α β : Type} {ahead : List Token} {property : α → Prop} {property' : β → Prop}

theorem bind {first : Except SearchError α} {next : α → Except SearchError β}
    (h : source.Gives ahead property first)
    (hnext : ∀ value, first = .ok value → property value →
      source.Gives ahead property' (next value)) :
    source.Gives ahead property' (first >>= next) := by
  cases first with
  | ok value => exact hnext value rfl h
  | error error => exact h

/-- What can go wrong further on can go wrong from here. -/
theorem further {others : List Token} {result : Except SearchError α}
    (h : source.Gives others property result) (hsub : others ⊆ ahead) :
    source.Gives ahead property result := by
  cases result with
  | ok value => exact h
  | error error =>
    cases h with
    | tooDeep => exact .tooDeep
    | phrase h => exact .phrase h
    | unclosedGroup h => exact .unclosedGroup h
    | missingAtEnd h => exact .missingAtEnd h
    | missingAtToken h other => exact .missingAtToken (hsub h) other

theorem checkDepth (ahead : List Token) (depth : Nat) :
    source.Gives ahead (fun _ => True) (source.checkDepth depth) := by
  unfold Source.checkDepth
  split
  · trivial
  · exact .tooDeep

theorem finish (ahead : List Token) :
    source.Gives ahead (fun offset => source.ending = .ok offset) source.finish := by
  unfold Source.finish
  split
  · assumption
  · exact .phrase ‹_›

theorem join (ahead : List Token) (op : Connective) (left right : Node) :
    source.Gives ahead (fun _ => True) (source.join op left right) :=
  (checkDepth ahead _).bind fun _ _ _ => trivial

theorem negate (ahead : List Token) (operand : Node) :
    source.Gives ahead (fun _ => True) (source.negate operand) :=
  (checkDepth ahead _).bind fun _ _ _ => trivial

/-- A group closes, or the input has ended. -/
theorem closeGroup (ahead : List Token) {inner : Progress}
    (h : source.StopsAt [.closeParen] inner.next.ahead) :
    source.Gives ahead (fun _ => True) (source.closeGroup inner) := by
  obtain ⟨node, tokens, depth⟩ := inner
  cases tokens with
  | nil => exact (finish ahead).bind fun offset _ hoffset => .unclosedGroup hoffset
  | cons token rest =>
    obtain ⟨lexeme, offset⟩ := token
    obtain rfl : lexeme = .closeParen := List.mem_singleton.mp h
    trivial

end Gives

/-- Reading only goes forward. -/
theorem next_subset {rule : Rule} {cursor : Cursor} {progress : Progress}
    (h : source.run rule cursor = .ok progress) : progress.next.ahead ⊆ cursor.ahead := by
  obtain ⟨tokens, hahead, -⟩ := source.run_sound h
  rw [hahead]
  exact List.subset_append_right _ _

/-- A rule that is called where it can be called leaves what it has to leave, or fails for one of
the reasons there are. -/
theorem run_gives {rule : Rule} {cursor : Cursor} (h : source.Enters rule cursor.ahead) :
    source.Gives cursor.ahead (fun progress => source.Leaves rule progress.next.ahead)
      (source.run rule cursor) := by
  -- A rule that is called behind another one has fewer tokens ahead, and fails at one of them.
  induction rule, cursor using source.run_induction with
  | disjunction cursor ih more =>
    rw [run_disjunction]
    apply (Gives.checkDepth _ _).bind
    intro _ _ _
    apply (ih trivial).bind
    intro first hfirst hstops
    apply ((more first hfirst hstops).further (next_subset hfirst)).bind
    exact fun whole _ hwhole => hwhole
  | moreDisjuncts_or left offset rest depth ih more =>
    rw [run_moreDisjuncts_or]
    apply ((ih trivial).further (List.subset_cons_self _ _)).bind
    intro right hright hstops
    apply (Gives.join _ .or left right.node).bind
    intro both _ _
    exact (more right both hright hstops).further
      (List.subset_cons_of_subset _ (next_subset hright))
  | moreDisjuncts_nil left depth =>
    rw [run_moreDisjuncts_nil]
    exact (Gives.finish _).bind fun offset _ hoffset => ⟨offset, hoffset⟩
  | moreDisjuncts_cons left token rest depth other =>
    rw [run_moreDisjuncts_cons source left rest depth other]
    have hstops : token.lexeme = .or ∨ token.lexeme = .closeParen := by
      simpa [Enters, StopsAt] using h
    exact List.mem_singleton.mpr (hstops.resolve_left other)
  | conjunction cursor ih more =>
    rw [run_conjunction]
    apply (Gives.checkDepth _ _).bind
    intro _ _ _
    apply (ih trivial).bind
    intro first hfirst _
    apply ((more first hfirst trivial).further (next_subset hfirst)).bind
    exact fun whole _ hwhole => hwhole
  | moreConjuncts_and left offset rest depth ih more =>
    rw [run_moreConjuncts_and]
    apply ((ih trivial).further (List.subset_cons_self _ _)).bind
    intro right hright _
    apply (Gives.join _ .and left right.node).bind
    intro both _ _
    exact (more right both hright trivial).further
      (List.subset_cons_of_subset _ (next_subset hright))
  | moreConjuncts_nil left depth =>
    rw [run_moreConjuncts_nil]
    exact (Gives.finish _).bind fun offset _ hoffset => ⟨offset, hoffset⟩
  | moreConjuncts_operand left token rest depth starts ih more =>
    rw [run_moreConjuncts_operand source left rest depth starts]
    apply (ih trivial).bind
    intro right hright _
    apply (Gives.join _ .and left right.node).bind
    intro both _ _
    exact (more right both hright trivial).further (next_subset hright)
  | moreConjuncts_cons left token rest depth other starts =>
    rw [run_moreConjuncts_cons source left rest depth other starts]
    obtain ⟨lexeme, offset⟩ := token
    cases lexeme <;> simp_all [Gives, Leaves, StopsAt, Lexeme.startsOperand]
  | unary_not offset rest depth ih =>
    rw [run_unary_not]
    apply (Gives.checkDepth _ _).bind
    intro _ _ _
    apply ((ih trivial).further (List.subset_cons_self _ _)).bind
    intro operand _ _
    apply (Gives.negate _ operand.node).bind
    exact fun _ _ _ => trivial
  | unary_nil depth ih =>
    rw [run_unary_nil]
    apply (Gives.checkDepth _ _).bind
    intro _ _ _
    apply (Gives.finish _).bind
    intro _ _ _
    apply (ih (by rintro _ ⟨⟩)).bind
    exact fun _ _ _ => trivial
  | unary_cons token rest depth other ih =>
    rw [run_unary_cons source rest depth other]
    apply (Gives.checkDepth _ _).bind
    intro _ _ _
    apply (ih (by rintro _ ⟨⟩; exact other)).bind
    exact fun _ _ _ => trivial
  | primary_nil depth =>
    rw [run_primary_nil]
    apply (Gives.checkDepth _ _).bind
    intro _ _ _
    exact (Gives.finish _).bind fun offset _ hoffset => .missingAtEnd hoffset
  | primary_open offset rest depth ih =>
    rw [run_primary_open]
    apply (Gives.checkDepth _ _).bind
    intro _ _ _
    apply ((ih trivial).further (List.subset_cons_self _ _)).bind
    exact fun inner _ hstops => Gives.closeGroup _ hstops
  | primary_operand token text rest depth hlexeme =>
    rw [run_primary_operand source rest depth hlexeme]
    apply (Gives.checkDepth _ _).bind
    exact fun _ _ _ => trivial
  | primary_other token rest depth other =>
    rw [run_primary_other source rest depth other]
    apply (Gives.checkDepth _ _).bind
    intro _ _ _
    exact .missingAtToken List.mem_cons_self (other.resolve_right (h token rfl))

/-- A `)` or nothing follows what is read as a whole expression. -/
theorem gives_disjunction (source : Source) (cursor : Cursor) :
    source.Gives cursor.ahead (fun whole => source.StopsAt [.closeParen] whole.next.ahead)
      (source.run .disjunction cursor) :=
  run_gives trivial

/-- A whole expression is read, and either the input ends behind it or a `)` follows. -/
theorem fault_of_whole {tokens : List Token} {error : SearchError}
    (h : (do let whole ← source.run .disjunction ⟨tokens, 0⟩; source.conclude whole) =
      .error error) :
    source.Fault tokens error ∨ ∃ token ∈ tokens, token.lexeme = .closeParen ∧
      error = .strayToken token.offset source.input := by
  have gives := source.gives_disjunction ⟨tokens, 0⟩
  cases hrun : source.run .disjunction ⟨tokens, 0⟩ with
  | error fault =>
    rw [hrun] at h gives
    cases h
    exact Or.inl gives
  | ok whole =>
    have hsub := next_subset hrun
    rw [hrun] at h gives
    obtain ⟨node, ahead, depth⟩ := whole
    change source.conclude ⟨node, ahead, depth⟩ = .error error at h
    cases ahead with
    | nil =>
      obtain ⟨offset, hending⟩ := gives
      simp only [conclude, finish, hending] at h
      cases h
    | cons token rest =>
      cases h
      exact Or.inr ⟨token, hsub List.mem_cons_self, List.mem_singleton.mp gives, rfl⟩

end Source

/-! ### The parser and the tokenizer -/

/-- A parser fails as its rules do, or at a `)` behind a whole expression. -/
theorem SearchParser.fault_of_parse {parser : SearchParser} {input : String} {error : SearchError}
    (h : parser.parse input = .error error) :
    (Source.ofInput parser.maxDepth input).Fault (TokenStream.ofString input).tokens error ∨
      ∃ token ∈ (TokenStream.ofString input).tokens, token.lexeme = .closeParen ∧
        error = .strayToken token.offset input := by
  rw [parse_eq_run] at h
  exact Source.fault_of_whole h

/-- The fault of the tokenizer is that of the phrase that begins behind `position` characters: the
text before it is cut into pieces, and there stands a phrase that cannot be read. -/
def RaisedAt (input : String) (position : Nat) (error : SearchError) : Prop :=
  ∃ read rest tokens fault, input.toList = read ++ rest ∧ read.length = position ∧
    Cut read rest tokens ∧ FaultyPhrase position rest fault ∧ error = .ofPhrase input fault

/-- Before a faulty phrase all tokens stand, and behind them nothing but its fault. -/
theorem RaisedAt.exists_stream {input : String} {position : Nat} {error : SearchError}
    (h : RaisedAt input position error) :
    ∃ tokens fault, TokenStream.ofString input = ⟨tokens, .error fault⟩ ∧
      error = .ofPhrase input fault ∧ ∀ token ∈ tokens, token.offset < position := by
  obtain ⟨read, rest, tokens, fault, hinput, rfl, cut, faulty, rfl⟩ := h
  exact ⟨tokens, fault, cut.ofString_eq_of_faulty hinput faulty, rfl, fun _ => cut.offset_lt⟩

theorem RaisedAt.tokenize_eq {input : String} {position : Nat} {error : SearchError}
    (h : RaisedAt input position error) : tokenize input = .error error := by
  obtain ⟨tokens, fault, stream, rfl, -⟩ := h.exists_stream
  rw [tokenize, stream]

/-- The tokenizer fails only at a phrase. -/
theorem exists_raisedAt {input : String} {error : SearchError} (h : tokenize input = .error error) :
    ∃ position, RaisedAt input position error := by
  rcases exists_cut input with
    ⟨tokens, -, tokenized⟩ | ⟨read, rest, tokens, fault, hinput, cut, faulty, hfault⟩
  · rw [h] at tokenized
    cases tokenized
  · rw [h] at hfault
    exact ⟨_, read, rest, tokens, fault, hinput, rfl, cut, faulty, Except.error.inj hfault⟩

/-- With a faulty phrase the parser reports its fault, unless it has stopped before. -/
theorem RaisedAt.parse_eq {input : String} {position : Nat} {error : SearchError}
    (h : RaisedAt input position error) (parser : SearchParser) :
    parser.parse input = .error error ∨ parser.parse input = .error (.tooDeep parser.maxDepth) ∨
      ∃ place < position, parser.parse input = .error (.missingOperand place input) ∨
        parser.parse input = .error (.strayToken place input) := by
  obtain ⟨tokens, fault, stream, rfl, before⟩ := h.exists_stream
  cases hparse : parser.parse input with
  | ok query =>
    obtain ⟨others, tokenized, -⟩ := SearchParser.exists_derivation hparse
    rw [h.tokenize_eq] at tokenized
    cases tokenized
  | error reported =>
    have ending : (Source.ofInput parser.maxDepth input).ending = .error fault := by
      rw [Source.ofInput, stream]
    have reasons := SearchParser.fault_of_parse hparse
    rw [stream] at reasons
    rcases reasons with reason | ⟨token, hmem, -, rfl⟩
    · cases reason with
      | tooDeep => exact Or.inr (Or.inl rfl)
      | phrase hending =>
        rw [ending] at hending
        cases hending
        exact Or.inl rfl
      | unclosedGroup hending | missingAtEnd hending =>
        rw [ending] at hending
        cases hending
      | @missingAtToken token hmem _ =>
        exact Or.inr (Or.inr ⟨token.offset, before token hmem, Or.inl rfl⟩)
    · exact Or.inr (Or.inr ⟨token.offset, before token hmem, Or.inr rfl⟩)

/-- The parser reports an empty phrase only where the tokenizer does. -/
theorem SearchParser.tokenize_of_parse_emptyPhrase {parser : SearchParser} {input : String}
    {place : Nat} (h : parser.parse input = .error (.emptyPhrase place)) :
    tokenize input = .error (.emptyPhrase place) := by
  cases tokenized : tokenize input with
  | ok tokens =>
    have ending : (Source.ofInput parser.maxDepth input).ending = .ok input.length := by
      rw [Source.ofInput, (Cut.of_tokenize tokenized).ofString_eq]
    rcases fault_of_parse h with reason | ⟨token, -, -, hstray⟩
    · generalize herror : SearchError.emptyPhrase place = error at reason
      cases reason with
      | phrase hending =>
        rw [ending] at hending
        cases hending
      | _ => cases herror
    · cases hstray
  | error error =>
    obtain ⟨position, raised⟩ := exists_raisedAt tokenized
    rcases raised.parse_eq parser with hsame | hdeep | ⟨_, _, hmissing | hstray⟩
    · rw [h] at hsame
      cases hsame
      rfl
    · rw [h] at hdeep
      cases hdeep
    · rw [h] at hmissing
      cases hmissing
    · rw [h] at hstray
      cases hstray

/-- If the tokenizer fails, it does so at a phrase, and the parser never succeeds: it reports the
same fault, or its limit, or a missing operand or a stray `)` before the phrase. The parser finds an
empty phrase exactly where the tokenizer does, and none if the tokenizer succeeds. -/
theorem parse_of_tokenize_error (limit : Nat) (input : String) :
    (∀ error, tokenize input = .error error →
      (∃ position, RaisedAt input position error) ∧
      (∀ query, (SearchParser.ofLimit limit).parse input ≠ .ok query) ∧
      ∀ position, RaisedAt input position error →
        (SearchParser.ofLimit limit).parse input = .error error ∨
        (SearchParser.ofLimit limit).parse input =
          .error (.tooDeep (SearchParser.ofLimit limit).maxDepth) ∨
        ∃ place < position,
          (SearchParser.ofLimit limit).parse input = .error (.missingOperand place input) ∨
          (SearchParser.ofLimit limit).parse input = .error (.strayToken place input)) ∧
    (∀ tokens place, tokenize input = .ok tokens →
      (SearchParser.ofLimit limit).parse input ≠ .error (.emptyPhrase place)) ∧
    ∀ place, (SearchParser.ofLimit limit).parse input = .error (.emptyPhrase place) →
      tokenize input = .error (.emptyPhrase place) := by
  constructor
  · intro error h
    refine ⟨exists_raisedAt h, ?_, fun position raised => raised.parse_eq _⟩
    intro query accepted
    obtain ⟨tokens, tokenized, -⟩ := SearchParser.exists_derivation accepted
    rw [h] at tokenized
    cases tokenized
  · constructor
    · intro tokens place tokenized h
      rw [SearchParser.tokenize_of_parse_emptyPhrase h] at tokenized
      cases tokenized
    · intro place h
      exact SearchParser.tokenize_of_parse_emptyPhrase h

/-- Under the lower limit the phrase behind `NOT` is not looked at. -/
theorem parse_of_tokenize_error_empty_phrase :
    (SearchParser.ofLimit 4).parse "NOT \"\"" = .error (.emptyPhrase 4) ∧
    tokenize "NOT \"\"" = .error (.emptyPhrase 4) ∧
    RaisedAt "NOT \"\"" 4 (.emptyPhrase 4) ∧
    ((SearchParser.ofLimit 3).parse "NOT \"\"" = .error (.emptyPhrase 4) ∨
      (SearchParser.ofLimit 3).parse "NOT \"\"" = .error (.tooDeep 3) ∨
      ∃ place < 4, (SearchParser.ofLimit 3).parse "NOT \"\"" =
          .error (.missingOperand place "NOT \"\"") ∨
        (SearchParser.ofLimit 3).parse "NOT \"\"" = .error (.strayToken place "NOT \"\"")) := by
  have operator : Cut ([] ++ ['N', 'O', 'T']) [' ', '"', '"'] ([] ++ [⟨.not, 0⟩]) :=
    .run (.start _) (by decide) ⟨rfl, Or.inl (by decide)⟩
  have blank : Cut (['N', 'O', 'T'] ++ [' ']) ['"', '"'] [⟨.not, 0⟩] :=
    .blanks operator (by decide)
  have raised : RaisedAt "NOT \"\"" 4 (.emptyPhrase 4) :=
    ⟨_, _, _, .empty 4, rfl, rfl, blank, .empty [], rfl⟩
  have stream : TokenStream.ofString "NOT \"\"" = ⟨[⟨.not, 0⟩], .error (.empty 4)⟩ :=
    blank.ofString_eq_of_faulty rfl (.empty [])
  have parsed : (SearchParser.ofLimit 4).parse "NOT \"\"" = .error (.emptyPhrase 4) := by
    rw [SearchParser.parse_eq_run, stream, Source.run_disjunction, Cursor.enter,
      Source.run_conjunction, Cursor.enter, Source.run_unary_not, Source.run_unary_nil,
      Source.finish, Source.ofInput, stream]
    rfl
  have tokenized := (parse_of_tokenize_error 4 "NOT \"\"").2.2 4 parsed
  exact ⟨parsed, tokenized, raised, ((parse_of_tokenize_error 3 _).1 _ tokenized).2.2 4 raised⟩

end BooleanSearch
