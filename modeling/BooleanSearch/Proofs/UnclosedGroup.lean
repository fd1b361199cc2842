import BooleanSearch.Proofs.Completion
import BooleanSearch.Proofs.Invariance
import BooleanSearch.Proofs.StrayParenthesis

/-! # Groups that are left open

The parser reports an unclosed group exactly if the text lacks nothing but `)` at its end. That the
report never comes without cause follows from how readings break off; that it always comes, from a
second run, on the text with the parentheses behind it, which goes as the first one does up to the
end of the text.
-/

namespace BooleanSearch

/-! ### Texts with parentheses behind them -/

/-- A text with so many `)` behind it. -/
def closed (input : String) (count : Nat) : String :=
  input ++ String.ofList (List.replicate count ')')

/-- A text that the tokenizer accepts and whose lexemes the grammar derives. -/
def IsSentence (text : String) : Prop :=
  ∃ tokens query, tokenize text = .ok tokens ∧ Derives .disjunction (lexemes tokens) query

theorem toList_closed (input : String) (count : Nat) :
    (closed input count).toList = input.toList ++ List.replicate count ')' := by
  rw [closed, String.toList_append, String.toList_ofList]

theorem PhraseText.getLast?_eq {body text : List Char} (h : PhraseText body text) :
    body.getLast? = some '"' := by
  obtain ⟨body, rfl, -⟩ := h.phraseBody_append
  exact List.getLast?_concat

/-- A `)` at the end of a cut text is a piece by itself. -/
theorem Cut.exists_of_closeParen {read rest : List Char} {tokens : List Token}
    (h : Cut (read ++ [')']) rest tokens) :
    ∃ front, tokens = front ++ [⟨.closeParen, read.length⟩] ∧ Cut read [] front := by
  generalize hwhole : read ++ [')'] = whole at h
  have last : whole.getLast? = some ')' := by rw [← hwhole, List.getLast?_concat]
  cases h with
  | start => cases last
  | blanks h maximal => cases maximal.kind_of_mem_getLast? _ last
  | openParen h =>
    rw [List.getLast?_concat] at last
    cases last
  | closeParen h =>
    obtain rfl := List.append_cancel_right hwhole
    exact ⟨_, rfl, h.alone⟩
  | run h maximal named => cases maximal.kind_of_mem_getLast? _ last
  | @phrase read body text _ _ h quoted filled =>
    have hbody : ('"' :: body).getLast? = some '"' := by
      simp [List.getLast?_cons, quoted.getLast?_eq]
    rw [List.getLast?_append, hbody] at last
    cases last

theorem tokenizes_iff_cut {text : List Char} {read : List Lexeme} :
    Tokenizes text read ↔ ∃ tokens, Cut text [] tokens ∧ lexemes tokens = read := by
  rw [← String.toList_ofList (l := text), tokenizes_iff_tokenize]
  constructor
  · rintro ⟨tokens, tokenized, hread⟩
    exact ⟨tokens, .of_tokenize tokenized, hread⟩
  · rintro ⟨tokens, cut, hread⟩
    exact ⟨tokens, cut.tokenize_eq, hread⟩

theorem tokenizes_concat_iff {text : List Char} {read : List Lexeme} :
    Tokenizes (text ++ [')']) read ↔
      ∃ first, Tokenizes text first ∧ read = first ++ [.closeParen] := by
  constructor
  · intro h
    obtain ⟨tokens, cut, rfl⟩ := tokenizes_iff_cut.mp h
    obtain ⟨front, rfl, hfront⟩ := cut.exists_of_closeParen
    exact ⟨lexemes front, tokenizes_iff_cut.mpr ⟨front, hfront, rfl⟩, by simp⟩
  · rintro ⟨first, h, rfl⟩
    obtain ⟨front, hfront, rfl⟩ := tokenizes_iff_cut.mp h
    have cut := Cut.closeParen (hfront.before_closeParen [])
    exact tokenizes_iff_cut.mpr ⟨_, cut, by simp⟩

/-- The parentheses behind a text are read as such, and the text as if it stood alone. -/
theorem tokenizes_append_replicate_iff {text : List Char} {count : Nat} {read : List Lexeme} :
    Tokenizes (text ++ List.replicate count ')') read ↔
      ∃ first, Tokenizes text first ∧ read = first ++ closings count := by
  induction count generalizing read with
  | zero => simp [closings]
  | succ count ih =>
    rw [List.replicate_succ', ← List.append_assoc, tokenizes_concat_iff]
    simp only [ih, closings_succ, ← List.append_assoc]
    constructor
    · rintro ⟨_, ⟨first, h, rfl⟩, rfl⟩
      exact ⟨first, h, rfl⟩
    · rintro ⟨first, h, rfl⟩
      exact ⟨_, ⟨first, h, rfl⟩, rfl⟩

/-- A text with parentheses behind it is a sentence if its own lexemes and theirs make one. -/
theorem isSentence_closed_iff {input : String} {count : Nat} :
    IsSentence (closed input count) ↔
      ∃ tokens query, tokenize input = .ok tokens ∧
        Derives .disjunction (lexemes tokens ++ closings count) query := by
  constructor
  · rintro ⟨tokens, query, tokenized, derived⟩
    have whole : Tokenizes (closed input count).toList (lexemes tokens) :=
      tokenizes_iff_tokenize.mpr ⟨tokens, tokenized, rfl⟩
    rw [toList_closed, tokenizes_append_replicate_iff] at whole
    obtain ⟨first, hfirst, hread⟩ := whole
    obtain ⟨front, tokenized, rfl⟩ := tokenizes_iff_tokenize.mp hfirst
    exact ⟨front, query, tokenized, hread ▸ derived⟩
  · rintro ⟨front, query, tokenized, derived⟩
    have whole : Tokenizes (closed input count).toList (lexemes front ++ closings count) := by
      rw [toList_closed, tokenizes_append_replicate_iff]
      exact ⟨_, tokenizes_iff_tokenize.mpr ⟨front, tokenized, rfl⟩, rfl⟩
    obtain ⟨tokens, tokenized, hread⟩ := tokenizes_iff_tokenize.mp whole
    exact ⟨tokens, query, tokenized, hread ▸ derived⟩

/-! ### A reading that goes on -/

namespace Source

/-- The result of a rule at the end of an input, and its result if other tokens come there. A rule
that succeeds has read the same, and one that fails for another reason than an unclosed group still
fails for it. -/
inductive GoesOn (more : List Token) : Except SearchError Progress → Except SearchError Progress →
    Prop
  | ok (node : Node) (ahead : List Token) (depth : Nat) :
      GoesOn more (.ok ⟨node, ⟨ahead, depth⟩⟩) (.ok ⟨node, ⟨ahead ++ more, depth⟩⟩)
  | same (error : SearchError) : GoesOn more (.error error) (.error error)
  | missingOperand (place other : Nat) (text text' : String) :
      GoesOn more (.error (.missingOperand place text)) (.error (.missingOperand other text'))
  | unclosedGroup (place : Nat) (text : String) (result : Except SearchError Progress) :
      GoesOn more (.error (.unclosedGroup place text)) result

namespace GoesOn

variable {more : List Token}

theorem bind {first first' : Except SearchError Progress}
    {next next' : Progress → Except SearchError Progress} (h : GoesOn more first first')
    (hnext : ∀ node ahead depth, first = .ok ⟨node, ⟨ahead, depth⟩⟩ →
      GoesOn more (next ⟨node, ⟨ahead, depth⟩⟩) (next' ⟨node, ⟨ahead ++ more, depth⟩⟩)) :
    GoesOn more (first >>= next) (first' >>= next') := by
  cases h with
  | ok node ahead depth => exact hnext node ahead depth rfl
  | same error => exact .same error
  | missingOperand place other text text' => exact .missingOperand place other text text'
  | unclosedGroup place text result => exact .unclosedGroup place text _

/-- What does not look ahead goes in the same way. -/
theorem bind_same {α : Type} (first : Except SearchError α)
    {next next' : α → Except SearchError Progress}
    (h : ∀ value, GoesOn more (next value) (next' value)) :
    GoesOn more (first >>= next) (first >>= next') := by
  cases first with
  | ok value => exact h value
  | error error => exact .same error

theorem leave {whole whole' : Except SearchError Progress} (h : GoesOn more whole whole') :
    GoesOn more (do let whole ← whole; return ⟨whole.node, whole.next.leave⟩)
      (do let whole ← whole'; return ⟨whole.node, whole.next.leave⟩) :=
  h.bind fun node ahead depth _ => .ok node ahead (depth - 1)

/-- If the second run is at its end, the first one cannot have stopped before the other tokens. -/
theorem unclosedGroup_of_ok {token : Token} {rest : List Token}
    {result : Except SearchError Progress} {progress : Progress}
    (h : GoesOn (token :: rest) result (.ok progress)) (read : progress.next.ahead = []) :
    ∃ place text, result = .error (.unclosedGroup place text) := by
  generalize hlonger : Except.ok progress = longer at h
  cases h with
  | ok node ahead depth =>
    obtain rfl := Except.ok.inj hlonger
    exact absurd read (by simp)
  | same | missingOperand => cases hlonger
  | unclosedGroup place text => exact ⟨place, text, rfl⟩

theorem eq_or_unclosedGroup_of_tooDeep {result : Except SearchError Progress} {maxDepth : Nat}
    (h : GoesOn more result (.error (.tooDeep maxDepth))) :
    result = .error (.tooDeep maxDepth) ∨
      ∃ place text, result = .error (.unclosedGroup place text) := by
  cases h with
  | same => exact Or.inl rfl
  | unclosedGroup place text => exact Or.inr ⟨place, text, rfl⟩

end GoesOn

variable {source other : Source}

theorem checkDepth_eq (h : other.maxDepth = source.maxDepth) :
    other.checkDepth = source.checkDepth := by
  funext depth
  simp only [checkDepth, h]

theorem join_eq_of_maxDepth (h : other.maxDepth = source.maxDepth) :
    other.join = source.join := by
  funext op left right
  simp only [join, checkDepth_eq h]

theorem negate_eq_of_maxDepth (h : other.maxDepth = source.maxDepth) :
    other.negate = source.negate := by
  funext operand
  simp only [negate, checkDepth_eq h]

/-- A group that is not closed at the end of the input is all that a `)` there can change. -/
theorem closeGroup_goesOn (more : List Token) {offset : Nat} (ending : source.ending = .ok offset)
    (node : Node) (ahead : List Token) (depth : Nat) :
    GoesOn more (source.closeGroup ⟨node, ⟨ahead, depth⟩⟩)
      (other.closeGroup ⟨node, ⟨ahead ++ more, depth⟩⟩) := by
  cases ahead with
  | nil =>
    simp only [closeGroup, finish, ending]
    exact .unclosedGroup offset source.input _
  | cons token rest =>
    by_cases hclose : token.lexeme = .closeParen
    · rw [source.closeGroup_close node rest depth hclose, List.cons_append,
        other.closeGroup_close node (rest ++ more) depth hclose]
      exact .ok node rest (depth - 1)
    · rw [source.closeGroup_other node rest depth hclose]
      exact .unclosedGroup _ _ _

/-- A rule that is called at the end of an input, or comes to it, goes on in the same way if a `)`
stands there. -/
theorem run_goesOn (limit : other.maxDepth = source.maxDepth) {offset : Nat}
    (ending : source.ending = .ok offset) (close : Nat) (rest : List Token) {rule : Rule}
    {cursor : Cursor} :
    GoesOn (⟨.closeParen, close⟩ :: rest) (source.run rule cursor)
      (other.run rule ⟨cursor.ahead ++ ⟨.closeParen, close⟩ :: rest, cursor.depth⟩) := by
  have hcheck := checkDepth_eq limit
  have hjoin := join_eq_of_maxDepth limit
  have hnegate := negate_eq_of_maxDepth limit
  have hfinish : source.finish = .ok offset := by rw [finish, ending]
  induction rule, cursor using source.run_induction with
  | disjunction cursor ih more =>
    rw [run_disjunction, run_disjunction, hcheck]
    apply GoesOn.bind_same
    intro _
    apply ih.bind
    exact fun node ahead depth hfirst => (more _ hfirst).leave
  | moreDisjuncts_or left offset ahead depth ih more =>
    rw [run_moreDisjuncts_or, List.cons_append, run_moreDisjuncts_or, hjoin]
    apply ih.bind
    intro node ahead depth hright
    apply GoesOn.bind_same
    exact fun both => more _ both hright
  | moreDisjuncts_nil left depth =>
    rw [run_moreDisjuncts_nil, hfinish, List.nil_append,
      run_moreDisjuncts_cons other left rest depth (by simp)]
    exact .ok left [] depth
  | moreDisjuncts_cons left token ahead depth hother =>
    rw [run_moreDisjuncts_cons source left ahead depth hother, List.cons_append,
      run_moreDisjuncts_cons other left _ depth hother]
    exact .ok left (token :: ahead) depth
  | conjunction cursor ih more =>
    rw [run_conjunction, run_conjunction, hcheck]
    apply GoesOn.bind_same
    intro _
    apply ih.bind
    exact fun node ahead depth hfirst => (more _ hfirst).leave
  | moreConjuncts_and left offset ahead depth ih more =>
    rw [run_moreConjuncts_and, List.cons_append, run_moreConjuncts_and, hjoin]
    apply ih.bind
    intro node ahead depth hright
    apply GoesOn.bind_same
    exact fun both => more _ both hright
  | moreConjuncts_nil left depth =>
    rw [run_moreConjuncts_nil, hfinish, List.nil_append,
      run_moreConjuncts_cons other left rest depth (by simp) rfl]
    exact .ok left [] depth
  | moreConjuncts_operand left token ahead depth starts ih more =>
    rw [run_moreConjuncts_operand source left ahead depth starts, List.cons_append,
      run_moreConjuncts_operand other left _ depth starts, hjoin]
    apply ih.bind
    intro node ahead depth hright
    apply GoesOn.bind_same
    exact fun both => more _ both hright
  | moreConjuncts_cons left token ahead depth hother starts =>
    rw [run_moreConjuncts_cons source left ahead depth hother starts, List.cons_append,
      run_moreConjuncts_cons other left _ depth hother starts]
    exact .ok left (token :: ahead) depth
  | unary_not offset ahead depth ih =>
    rw [run_unary_not, List.cons_append, run_unary_not, hcheck, hnegate]
    apply GoesOn.bind_same
    intro _
    apply ih.bind
    intro node ahead depth _
    apply GoesOn.bind_same
    exact fun negated => .ok negated ahead (depth - 1)
  | unary_nil depth ih =>
    rw [run_unary_nil, hfinish, List.nil_append, run_unary_cons other rest depth (by simp), hcheck]
    apply GoesOn.bind_same
    exact fun _ => ih.leave
  | unary_cons token ahead depth hother ih =>
    rw [run_unary_cons source ahead depth hother, List.cons_append,
      run_unary_cons other _ depth hother, hcheck]
    apply GoesOn.bind_same
    exact fun _ => ih.leave
  | primary_nil depth =>
    rw [run_primary_nil, hfinish, List.nil_append, run_primary_other other rest depth (Or.inl rfl),
      hcheck]
    apply GoesOn.bind_same
    exact fun _ => .missingOperand offset close source.input other.input
  | primary_open place ahead depth ih =>
    rw [run_primary_open, List.cons_append, run_primary_open, hcheck]
    apply GoesOn.bind_same
    intro _
    apply ih.bind
    exact fun node ahead depth _ => closeGroup_goesOn _ ending node ahead depth
  | primary_operand token text ahead depth hlexeme =>
    rw [run_primary_operand source ahead depth hlexeme, List.cons_append,
      run_primary_operand other _ depth hlexeme, hcheck]
    apply GoesOn.bind_same
    exact fun _ => .ok _ ahead depth
  | primary_other token ahead depth hother =>
    rw [run_primary_other source ahead depth hother, List.cons_append,
      run_primary_other other _ depth hother, hcheck]
    apply GoesOn.bind_same
    exact fun _ => .missingOperand token.offset token.offset source.input other.input

/-- If the grammar derives what stands before a `)` only together with it and what follows, then
what stands before it leaves a group open, or the limit is reported. -/
theorem run_disjunction_of_derives_closed (limit : other.maxDepth = source.maxDepth)
    {offset offset' : Nat} (ending : source.ending = .ok offset)
    (ending' : other.ending = .ok offset')
    {front back : List Token} {close : Nat} {query : Query}
    (derived : Derives .disjunction (lexemes (front ++ ⟨.closeParen, close⟩ :: back)) query) :
    (source.run .disjunction ⟨front, 0⟩ = .error (.tooDeep other.maxDepth) ∧
        other.run .disjunction ⟨front ++ ⟨.closeParen, close⟩ :: back, 0⟩ =
          .error (.tooDeep other.maxDepth)) ∨
      ∃ place text, source.run .disjunction ⟨front, 0⟩ = .error (.unclosedGroup place text) := by
  have longer := run_disjunction_of_derives ending' derived
  have goes : GoesOn (⟨.closeParen, close⟩ :: back) (source.run .disjunction ⟨front, 0⟩)
      (other.run .disjunction ⟨front ++ ⟨.closeParen, close⟩ :: back, 0⟩) :=
    run_goesOn limit ending close back
  rw [checkDepth_bind] at longer
  split at longer
  · rw [longer] at goes
    exact Or.inr (goes.unclosedGroup_of_ok rfl)
  · rw [longer] at goes
    exact goes.eq_or_unclosedGroup_of_tooDeep.imp_left fun h => ⟨h, longer⟩

end Source

/-! ### The parser -/

namespace SearchParser

variable {parser : SearchParser} {input : String}

/-- A text with an unclosed group is complete with parentheses behind it, and the group is found
open at the end of the text. -/
theorem isSentence_of_unclosedGroup {place : Nat} {text : String}
    (h : parser.parse input = .error (.unclosedGroup place text)) :
    place = input.length ∧ text = input ∧ ∃ count > 0, IsSentence (closed input count) := by
  rw [parse_eq_run] at h
  obtain h | ⟨whole, hwhole, h⟩ := Source.bind_eq_error.mp h
  · have breaks := Source.run_breaks h
    generalize herror : SearchError.unclosedGroup place text = error at breaks
    cases breaks with
    | tooDeep => cases herror
    | @phrase fault _ => cases fault <;> cases herror
    | wants front count split wants complete =>
      cases wants with
      | operandAtEnd | operand => cases herror
      | @closeParen offset ending =>
        cases herror
        obtain ⟨query, derived⟩ := complete
        rw [List.append_nil] at split
        have tokenized : tokenize input = .ok front := tokenize_eq_ok_iff.mpr ⟨split, _, ending⟩
        have hending := (Cut.of_tokenize tokenized).ofString_eq
        rw [Source.ofInput, hending] at ending
        cases ending
        refine ⟨rfl, rfl, count + 1, Nat.succ_pos count, isSentence_closed_iff.mpr ?_⟩
        refine ⟨front, query, tokenized, ?_⟩
        rwa [Nat.add_comm, closings_one_add]
  · obtain ⟨_, _, -, hstray⟩ := Source.exists_closeParen_of_conclude hwhole h
    cases hstray

/-- A text that is complete with parentheses behind it has an unclosed group, or it is too deep for
the limit with and without them. -/
theorem unclosedGroup_of_isSentence (parser : SearchParser) {count : Nat} (hcount : count > 0)
    (h : IsSentence (closed input count)) :
    (ReportsLimit (parser.parse input) ∧ ReportsLimit (parser.parse (closed input count))) ∨
      ∃ place text, parser.parse input = .error (.unclosedGroup place text) := by
  obtain ⟨count, rfl⟩ := Nat.exists_eq_add_one_of_ne_zero (Nat.ne_of_gt hcount)
  obtain ⟨front, -, tokenized, -⟩ := isSentence_closed_iff.mp h
  obtain ⟨tokens, query, tokenized', derived⟩ := h
  have cut := Cut.of_tokenize tokenized
  have hsplit : (closed input (count + 1)).toList =
      input.toList ++ ')' :: List.replicate count ')' := toList_closed input (count + 1)
  obtain ⟨back, htokens⟩ :=
    TokenStream.exists_closeParen_iff.mpr ⟨_, _, hsplit, String.length_toList, cut⟩
  obtain ⟨rfl, offset, hoffset⟩ := tokenize_eq_ok_iff.mp tokenized'
  rw [htokens] at derived
  have ending : (Source.ofInput parser.maxDepth input).ending = .ok input.length :=
    congrArg TokenStream.ending cut.ofString_eq
  have outcome := Source.run_disjunction_of_derives_closed
    (show (Source.ofInput parser.maxDepth (closed input (count + 1))).maxDepth = parser.maxDepth
      from rfl) ending hoffset derived
  rw [parse_eq_run, parse_eq_run, cut.ofString_eq, htokens]
  rcases outcome with ⟨hdeep, hdeep'⟩ | ⟨place, text, hopen⟩
  · rw [hdeep, hdeep']
    exact Or.inl ⟨⟨_, rfl⟩, ⟨_, rfl⟩⟩
  · rw [hopen]
    exact Or.inr ⟨place, text, rfl⟩

end SearchParser

theorem count_closings (count : Nat) :
    (closings count).count .openParen = 0 ∧ (closings count).count .closeParen = count := by
  simp [closings, List.count_replicate]

/-- Unless the limit is reported, the parser reports an unclosed group exactly if the text with some
`)` behind it is a sentence. It does so at the end of the text, the number of parentheses is that of
the groups that are open there, and with them the text is accepted or too deep for the limit. -/
theorem parse_eq_unclosedGroup_iff (limit : Nat) {input : String}
    (silent : ¬ ReportsLimit ((SearchParser.ofLimit limit).parse input)) :
    ((∃ place text, (SearchParser.ofLimit limit).parse input =
        .error (.unclosedGroup place text)) ↔
      ∃ count > 0, IsSentence (closed input count)) ∧
    (∀ place text, (SearchParser.ofLimit limit).parse input = .error (.unclosedGroup place text) →
      place = input.length ∧ text = input) ∧
    ∀ count > 0, IsSentence (closed input count) →
      (∃ tokens, tokenize input = .ok tokens ∧
        (lexemes tokens).count .openParen = (lexemes tokens).count .closeParen + count) ∧
      ((∃ query, (SearchParser.ofLimit limit).parse (closed input count) = .ok query) ∨
        ReportsLimit ((SearchParser.ofLimit limit).parse (closed input count))) := by
  refine ⟨⟨?_, ?_⟩, ?_, ?_⟩
  · rintro ⟨place, text, h⟩
    exact (SearchParser.isSentence_of_unclosedGroup h).2.2
  · rintro ⟨count, hcount, h⟩
    exact (SearchParser.unclosedGroup_of_isSentence _ hcount h).resolve_left fun hdeep =>
      silent hdeep.1
  · intro place text h
    obtain ⟨hplace, htext, -⟩ := SearchParser.isSentence_of_unclosedGroup h
    exact ⟨hplace, htext⟩
  · intro count hcount h
    constructor
    · obtain ⟨tokens, query, tokenized, derived⟩ := isSentence_closed_iff.mp h
      refine ⟨tokens, tokenized, ?_⟩
      have balanced := derived.count_openParen
      rwa [List.count_append, List.count_append, (count_closings count).1,
        (count_closings count).2, Nat.add_zero] at balanced
    · obtain ⟨tokens, query, tokenized, derived⟩ := h
      rw [SearchParser.parse_of_derives _ tokenized derived]
      split
      · exact Or.inl ⟨query, rfl⟩
      · exact Or.inr ⟨_, rfl⟩

/-- Two groups are open, one inside the other. -/
theorem parse_eq_unclosedGroup_iff_two_groups :
    ¬ ReportsLimit ((SearchParser.ofLimit 12).parse "(a (b") ∧
      ∃ place text, (SearchParser.ofLimit 12).parse "(a (b" =
        .error (.unclosedGroup place text) := by
  have tokenized : tokenize (closed "(a (b" 2) = .ok [⟨.openParen, 0⟩, ⟨.word "a", 1⟩,
      ⟨.openParen, 3⟩, ⟨.word "b", 4⟩, ⟨.closeParen, 5⟩, ⟨.closeParen, 6⟩] := by cbv
  have inner : Derives .unary (.openParen :: ([.word "b"] ++ [.closeParen])) (.literal "b") :=
    .unary_group (.disjunct (.conjunct (.operand (.word "b"))))
  have derived : Derives .disjunction (.openParen ::
      (([.word "a"] ++ [.openParen, .word "b", .closeParen]) ++ [.closeParen]))
      (.binary .and (.literal "a") (.literal "b")) :=
    .disjunction_of_unary (.unary_group
      (.disjunct (.adjoin (.conjunct (.operand (.word "a"))) inner)))
  have sentence : IsSentence (closed "(a (b" 2) := ⟨_, _, tokenized, derived⟩
  have accepted : (SearchParser.ofLimit 12).parse (closed "(a (b" 2) =
      .ok (.binary .and (.literal "a") (.literal "b")) := by
    rw [SearchParser.parse_of_derives _ tokenized derived]
    decide
  -- The limit is high enough for the longer text, so that it is high enough for the text itself.
  have silent : ¬ ReportsLimit ((SearchParser.ofLimit 12).parse "(a (b") := by
    rintro ⟨maxDepth, hdeep⟩
    rcases SearchParser.unclosedGroup_of_isSentence (.ofLimit 12) (by decide) sentence with
      ⟨-, _, hdeep'⟩ | ⟨_, _, hopen⟩
    · rw [accepted] at hdeep'
      cases hdeep'
    · rw [hdeep] at hopen
      cases hopen
  exact ⟨silent, (parse_eq_unclosedGroup_iff 12 silent).1.mpr ⟨2, by decide, sentence⟩⟩

end BooleanSearch
