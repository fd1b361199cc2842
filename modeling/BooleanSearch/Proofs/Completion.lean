import BooleanSearch.Proofs.Faults

/-! # Readings that break off

Where a rule fails for want of an operand or of a parenthesis, what it has read so far is the
beginning of an expression of its kind: with what is wanted there, and parentheses for the groups
that are still open, the expression is complete. So such a fault never comes too late.
-/

namespace BooleanSearch

/-- So many groups close. -/
def closings (count : Nat) : List Lexeme := List.replicate count .closeParen

theorem closings_succ (count : Nat) : closings (count + 1) = closings count ++ [.closeParen] :=
  List.replicate_succ'

theorem closings_one_add (count : Nat) : closings (1 + count) = .closeParen :: closings count := by
  rw [Nat.add_comm]
  rfl

namespace Source

variable (source : Source)

/-- What is wanted before some tokens where a rule fails: a parenthesis at the end of the input, or
any operand. -/
inductive Wants : List Token → SearchError → List Lexeme → Prop
  | closeParen {offset : Nat} (h : source.ending = .ok offset) :
      Wants [] (.unclosedGroup offset source.input) [.closeParen]
  | operandAtEnd {offset : Nat} (h : source.ending = .ok offset) (text : String) :
      Wants [] (.missingOperand offset source.input) [.word text]
  | operand (token : Token) (rest : List Token) (text : String) :
      Wants (token :: rest) (.missingOperand token.offset source.input) [.word text]

/-- A rule fails before these tokens because of its limit or of the phrase at which the tokens stop,
or it has read something that can be completed. -/
inductive Breaks (ahead : List Token) (meaning : List Lexeme → Prop) : SearchError → Prop
  | tooDeep : Breaks ahead meaning (.tooDeep source.maxDepth)
  | phrase {fault : PhraseFault} (h : source.ending = .error fault) :
      Breaks ahead meaning (.ofPhrase source.input fault)
  | wants (front : List Token) {back : List Token} {wanted : List Lexeme} (count : Nat)
      {error : SearchError} (split : ahead = front ++ back) (h : source.Wants back error wanted)
      (complete : meaning (lexemes front ++ (wanted ++ closings count))) :
      Breaks ahead meaning error

variable {source}

theorem ending_of_finish {offset : Nat} (h : source.finish = .ok offset) :
    source.ending = .ok offset := by
  unfold finish at h
  split at h
  · cases h
    assumption
  · cases h

namespace Breaks

variable {ahead rest : List Token} {meaning first second : List Lexeme → Prop}
  {error : SearchError}

/-- What completes an expression of one kind completes one of another kind. -/
theorem map {place other : Query → List Lexeme → Prop} (grow : Query → Query)
    (h : source.Breaks ahead (fun read => ∃ query, place query read) error)
    (hgrow : ∀ query read, place query read → other (grow query) read) :
    source.Breaks ahead (fun read => ∃ query, other query read) error := by
  cases h with
  | tooDeep => exact .tooDeep
  | phrase h => exact .phrase h
  | wants front count split h complete =>
    obtain ⟨query, complete⟩ := complete
    exact .wants front count split h ⟨grow query, hgrow query _ complete⟩

theorem token {token : Token}
    (h : source.Breaks rest (fun read => meaning (token.lexeme :: read)) error) :
    source.Breaks (token :: rest) meaning error := by
  cases h with
  | tooDeep => exact .tooDeep
  | phrase h => exact .phrase h
  | wants front count split h complete =>
    exact .wants (token :: front) count (congrArg (token :: ·) split) h complete

/-- A rule that fails behind another one fails behind what that one has read. -/
theorem behind {start middle : Cursor}
    (h : source.Breaks middle.ahead second error) (moves : start.Moves middle first)
    (join : ∀ read others, first read → second others → meaning (read ++ others)) :
    source.Breaks start.ahead meaning error := by
  obtain ⟨tokens, hahead, -, hfirst⟩ := moves
  cases h with
  | tooDeep => exact .tooDeep
  | phrase h => exact .phrase h
  | @wants front back wanted count _ split h complete =>
    have hsplit : start.ahead = (tokens ++ front) ++ back := by
      rw [hahead, split, List.append_assoc]
    refine .wants (tokens ++ front) count hsplit h ?_
    simpa using join _ _ hfirst complete

/-- A group that breaks off inside is closed by one more parenthesis. -/
theorem group {offset : Nat}
    (h : source.Breaks rest (fun read => ∃ query, Derives .disjunction read query) error) :
    source.Breaks (⟨.openParen, offset⟩ :: rest)
      (fun read => ∃ query, Derives .primary read query) error := by
  apply Breaks.token
  cases h with
  | tooDeep => exact .tooDeep
  | phrase h => exact .phrase h
  | wants front count split h complete =>
    obtain ⟨query, derived⟩ := complete
    refine .wants front (count + 1) split h ⟨query, ?_⟩
    simpa [closings_succ] using Derives.group derived

theorem of_checkDepth {depth : Nat} (h : source.checkDepth depth = .error error) :
    source.Breaks ahead meaning error := by
  unfold checkDepth at h
  split at h
  · cases h
  · cases h
    exact .tooDeep

theorem of_finish (h : source.finish = .error error) : source.Breaks ahead meaning error := by
  unfold finish at h
  split at h
  · cases h
  · cases h
    exact .phrase ‹_›

theorem of_join {op : Connective} {left right : Node}
    (h : source.join op left right = .error error) : source.Breaks ahead meaning error := by
  obtain h | ⟨_, _, h⟩ := bind_eq_error.mp h
  · exact of_checkDepth h
  · cases h

theorem of_negate {operand : Node} (h : source.negate operand = .error error) :
    source.Breaks ahead meaning error := by
  obtain h | ⟨_, _, h⟩ := bind_eq_error.mp h
  · exact of_checkDepth h
  · cases h

end Breaks

/-- A group that does not close is closed by a parenthesis at the end of the input. -/
theorem breaks_of_closeGroup {rest : List Token} {offset depth : Nat} {inner : Progress}
    {error : SearchError} (hinner : source.run .disjunction ⟨rest, depth⟩ = .ok inner)
    (h : source.closeGroup inner = .error error) :
    source.Breaks (⟨.openParen, offset⟩ :: rest)
      (fun read => ∃ query, Derives .primary read query) error := by
  obtain ⟨front, hahead, -, derived⟩ := run_sound source hinner
  have stops := source.gives_disjunction ⟨rest, depth⟩
  rw [hinner] at stops
  obtain ⟨node, ahead, depth'⟩ := inner
  cases ahead with
  | nil =>
    obtain h | ⟨place, hplace, h⟩ := bind_eq_error.mp h
    · exact .of_finish h
    · cases h
      have hsplit : (⟨.openParen, offset⟩ :: rest) = (⟨.openParen, offset⟩ :: front) ++ [] :=
        congrArg _ hahead
      exact .wants _ 0 hsplit (.closeParen (ending_of_finish hplace)) ⟨_, .group derived⟩
  | cons token back =>
    obtain ⟨lexeme, place⟩ := token
    obtain rfl : lexeme = .closeParen := List.mem_singleton.mp stops
    cases h

/-- A rule that fails for want of something has read the beginning of an expression of its kind. -/
theorem run_breaks {rule : Rule} {cursor : Cursor} {error : SearchError}
    (h : source.run rule cursor = .error error) :
    source.Breaks cursor.ahead (fun read => ∃ query, rule.Reads query read) error := by
  induction rule, cursor using source.run_induction generalizing error with
  | disjunction cursor ih more =>
    simp only [run_disjunction, bind_eq_error] at h
    change source.Breaks cursor.enter.ahead _ _
    obtain h | ⟨_, _, h | ⟨first, hfirst, h | ⟨_, _, h⟩⟩⟩ := h
    · exact .of_checkDepth h
    · exact (ih h).map id fun _ _ => .disjunct
    · apply (more first hfirst h).behind (run_sound source hfirst)
      rintro read others hread ⟨query, hmore⟩
      exact ⟨query, hmore read (.disjunct hread)⟩
    · cases h
  | moreDisjuncts_or left offset rest depth ih more =>
    simp only [run_moreDisjuncts_or, bind_eq_error] at h
    obtain h | ⟨right, hright, h | ⟨both, hboth, h⟩⟩ := h
    · apply Breaks.token
      exact (ih h).map (.binary .or left.query) fun _ _ => .disjoin left.query
    · exact .of_join h
    · apply Breaks.token
      apply (more right both hright h).behind (run_sound source hright)
      rintro read others hread ⟨query, hmore⟩
      exact ⟨query, source.extends_of_join hboth (.disjoin left.query hread) hmore⟩
  | moreDisjuncts_nil left depth =>
    simp only [run_moreDisjuncts_nil, bind_eq_error] at h
    obtain h | ⟨_, _, h⟩ := h
    · exact .of_finish h
    · cases h
  | moreDisjuncts_cons left token rest depth other =>
    rw [run_moreDisjuncts_cons source left rest depth other] at h
    cases h
  | conjunction cursor ih more =>
    simp only [run_conjunction, bind_eq_error] at h
    change source.Breaks cursor.enter.ahead _ _
    obtain h | ⟨_, _, h | ⟨first, hfirst, h | ⟨_, _, h⟩⟩⟩ := h
    · exact .of_checkDepth h
    · exact (ih h).map id fun _ _ => .conjunct
    · apply (more first hfirst h).behind (run_sound source hfirst)
      rintro read others hread ⟨query, hmore⟩
      exact ⟨query, hmore read (.conjunct hread)⟩
    · cases h
  | moreConjuncts_and left offset rest depth ih more =>
    simp only [run_moreConjuncts_and, bind_eq_error] at h
    obtain h | ⟨right, hright, h | ⟨both, hboth, h⟩⟩ := h
    · apply Breaks.token
      exact (ih h).map (.binary .and left.query) fun _ _ => .conjoin left.query
    · exact .of_join h
    · apply Breaks.token
      apply (more right both hright h).behind (run_sound source hright)
      rintro read others hread ⟨query, hmore⟩
      exact ⟨query, source.extends_of_join hboth (.conjoin left.query hread) hmore⟩
  | moreConjuncts_nil left depth =>
    simp only [run_moreConjuncts_nil, bind_eq_error] at h
    obtain h | ⟨_, _, h⟩ := h
    · exact .of_finish h
    · cases h
  | moreConjuncts_operand left token rest depth starts ih more =>
    simp only [run_moreConjuncts_operand source left rest depth starts, bind_eq_error] at h
    obtain h | ⟨right, hright, h | ⟨both, hboth, h⟩⟩ := h
    · exact (ih h).map (.binary .and left.query) fun _ _ => .adjoin left.query
    · exact .of_join h
    · apply (more right both hright h).behind (run_sound source hright)
      rintro read others hread ⟨query, hmore⟩
      exact ⟨query, source.extends_of_join hboth (.adjoin left.query hread) hmore⟩
  | moreConjuncts_cons left token rest depth other starts =>
    rw [run_moreConjuncts_cons source left rest depth other starts] at h
    cases h
  | unary_not offset rest depth ih =>
    simp only [run_unary_not, bind_eq_error] at h
    obtain h | ⟨_, _, h | ⟨operand, _, h | ⟨_, _, h⟩⟩⟩ := h
    · exact .of_checkDepth h
    · apply Breaks.token
      exact (ih h).map .negation fun _ _ => .negation
    · exact .of_negate h
    · cases h
  | unary_nil depth ih =>
    simp only [run_unary_nil, bind_eq_error] at h
    obtain h | ⟨_, _, h | ⟨_, _, h | ⟨_, _, h⟩⟩⟩ := h
    · exact .of_checkDepth h
    · exact .of_finish h
    · exact (ih h).map id fun _ _ => .operand
    · cases h
  | unary_cons token rest depth other ih =>
    simp only [run_unary_cons source rest depth other, bind_eq_error] at h
    obtain h | ⟨_, _, h | ⟨_, _, h⟩⟩ := h
    · exact .of_checkDepth h
    · exact (ih h).map id fun _ _ => .operand
    · cases h
  | primary_nil depth =>
    simp only [run_primary_nil, bind_eq_error] at h
    obtain h | ⟨_, _, h | ⟨offset, hfinish, h⟩⟩ := h
    · exact .of_checkDepth h
    · exact .of_finish h
    · cases h
      exact .wants [] 0 rfl (.operandAtEnd (ending_of_finish hfinish) "") ⟨_, .word ""⟩
  | primary_open offset rest depth ih =>
    simp only [run_primary_open, bind_eq_error] at h
    obtain h | ⟨_, _, h | ⟨inner, hinner, h⟩⟩ := h
    · exact .of_checkDepth h
    · exact (ih h).group
    · exact breaks_of_closeGroup hinner h
  | primary_operand token text rest depth hlexeme =>
    simp only [run_primary_operand source rest depth hlexeme, bind_eq_error] at h
    obtain h | ⟨_, _, h⟩ := h
    · exact .of_checkDepth h
    · cases h
  | primary_other token rest depth other =>
    simp only [run_primary_other source rest depth other, bind_eq_error] at h
    obtain h | ⟨_, _, h⟩ := h
    · exact .of_checkDepth h
    · cases h
      exact .wants [] 0 rfl (.operand token rest "") ⟨_, .word ""⟩

end Source

end BooleanSearch
