import BooleanSearch.Proofs.CallRecord

/-! # How many calls the rules make

Every rule moves forward before it is called again at the same place, and goes back with its counter
as it was. So a rule ends, with a number of calls that the tokens bound, and never with more calls
active than the limit allows, however long the input is.
-/

namespace BooleanSearch

theorem Derives.ne_nil {place : Nonterminal} {read : List Lexeme} {query : Query}
    (h : Derives place read query) : read ≠ [] := by
  induction h with
  | word text | phrase text | group h ih | negation h ih => simp
  | operand h ih | conjunct h ih | disjunct h ih => exact ih
  | conjoin hl hr ihl ihr | adjoin hl hr ihl ihr | disjoin hl hr ihl ihr => simp [ihl]

/-- The calls that can still be made where a rule has stopped. -/
def Progress.credit (progress : Progress) : Nat := 4 * progress.next.ahead.length + 4

namespace Source

variable {source : Source}

/-- The place of a rule among those that may follow each other without a token between them. -/
def rank : Rule → Nat
  | .disjunction | .moreDisjuncts _ | .moreConjuncts _ => 3
  | .conjunction => 2
  | .unary => 1
  | .primary => 0

/-- A rule needs more steps than this, and makes at most one call more. -/
def size (rule : Rule) (cursor : Cursor) : Nat := 4 * cursor.ahead.length + rank rule

theorem rank_le (rule : Rule) : rank rule ≤ 3 := by
  cases rule <;> simp [rank]

/-- Behind a token any rule is smaller than any rule before it. -/
theorem size_lt_of_length_lt {rule other : Rule} {cursor before : Cursor}
    (h : cursor.ahead.length < before.ahead.length) : size rule cursor < size other before := by
  have := rank_le rule
  simp only [size]
  omega

section Tokens

variable {token : Token} (rest : List Token) (depth : Nat)

theorem perform_moreConjuncts_operand (left : Node) (h : token.lexeme.startsOperand = true)
    (steps : Nat) :
    source.perform (steps + 1) (.moreConjuncts left) ⟨token :: rest, depth⟩ = (do
      let right ← source.perform steps .unary ⟨token :: rest, depth⟩
      let both ← source.join .and left right.node
      source.perform steps (.moreConjuncts both) right.next) := by
  obtain ⟨lexeme, offset⟩ := token
  cases lexeme with
  | and | or | closeParen => cases h
  | not | openParen | phrase text | word text => rfl

theorem perform_unary_cons (h : token.lexeme ≠ .not) (steps : Nat) :
    source.perform (steps + 1) .unary ⟨token :: rest, depth⟩ =
      .called .unary ⟨token :: rest, depth⟩ (do
        source.checkDepth (depth + 1)
        let operand ← source.perform steps .primary ⟨token :: rest, depth + 1⟩
        return ⟨operand.node, ← Recorded.leave operand.next⟩) := by
  obtain ⟨lexeme, offset⟩ := token
  cases lexeme with
  | not => exact absurd rfl h
  | _ => rfl

theorem perform_primary_operand {text : String}
    (h : token.lexeme = .word text ∨ token.lexeme = .phrase text) (steps : Nat) :
    source.perform (steps + 1) .primary ⟨token :: rest, depth⟩ =
      .called .primary ⟨token :: rest, depth⟩ (do
        source.checkDepth (depth + 1)
        return ⟨⟨.literal text, 1⟩, ← Recorded.leave ⟨rest, depth + 1⟩⟩) := by
  obtain ⟨lexeme, offset⟩ := token
  rcases h with rfl | rfl <;> rfl

end Tokens

theorem closeGroup_eq (inner : Progress) : source.closeGroup inner = (do
    let behind ← source.closing inner.next
    return ⟨inner.node, behind.leave⟩) := by
  obtain ⟨node, ahead, depth⟩ := inner
  unfold closeGroup closing
  rcases ahead with _ | ⟨⟨lexeme, offset⟩, after⟩
  · cases source.finish <;> rfl
  · cases lexeme <;> rfl

theorem closing_ok {cursor behind : Cursor} (h : source.closing cursor = .ok behind) :
    behind.depth = cursor.depth ∧ behind.ahead.length < cursor.ahead.length := by
  unfold closing at h
  split at h
  · next following =>
    cases h
    simp [following]
  · cases h
  · obtain ⟨_, _, h⟩ := bind_eq_ok.mp h
    cases h

/-- With enough steps a rule does what it does in the parser, and makes no more calls than it has
steps. -/
def Performs (source : Source) (rule : Rule) (cursor : Cursor) : Prop :=
  cursor.depth ≤ source.maxDepth → ∀ steps, size rule cursor < steps →
    Recorded.Spends source cursor.depth (size rule cursor + 1) []
      (source.perform steps rule cursor) (source.run rule cursor) Progress.credit

theorem Performs.of_succ {rule : Rule} {cursor : Cursor}
    (h : cursor.depth ≤ source.maxDepth → ∀ steps, size rule cursor ≤ steps →
      Recorded.Spends source cursor.depth (size rule cursor + 1) []
        (source.perform (steps + 1) rule cursor) (source.run rule cursor) Progress.credit) :
    source.Performs rule cursor := by
  intro hdepth steps hsteps
  cases steps with
  | zero => exact absurd hsteps (Nat.not_lt_zero _)
  | succ steps => exact h hdepth steps (Nat.le_of_lt_succ hsteps)

theorem next_of_run {rule : Rule} {cursor : Cursor} {progress : Progress}
    (h : source.run rule cursor = .ok progress) :
    progress.next.depth = cursor.depth ∧ progress.next.ahead.length ≤ cursor.ahead.length := by
  obtain ⟨tokens, hahead, hdepth, -⟩ := source.run_sound h
  exact ⟨hdepth, by simp [hahead]⟩

/-- A rule that gives a node is back at its level and has read at least one token. -/
theorem next_of_run_rule {place : Nonterminal} {cursor : Cursor} {progress : Progress}
    (h : source.run place.rule cursor = .ok progress) :
    progress.next.depth = cursor.depth ∧
      ∃ tokens, tokens ≠ [] ∧ cursor.ahead = tokens ++ progress.next.ahead := by
  obtain ⟨tokens, hahead, hdepth, hread⟩ := source.run_sound h
  have derives : Derives place (lexemes tokens) progress.node.query := by
    cases place <;> exact hread
  exact ⟨hdepth, tokens, by simpa using derives.ne_nil, hahead⟩

theorem length_next_of_run_rule {place : Nonterminal} {cursor : Cursor} {progress : Progress}
    (h : source.run place.rule cursor = .ok progress) :
    progress.next.ahead.length < cursor.ahead.length := by
  obtain ⟨-, tokens, ne, hahead⟩ := next_of_run_rule h
  have := List.length_pos_iff.mpr ne
  rw [hahead, List.length_append]
  omega

/-- Entering a rule makes a call whose body is only carried out within the limit. -/
theorem spends_entered (place : Nonterminal) {cursor : Cursor} {credit : Nat}
    {body : Recorded Progress} {result : Except SearchError Progress} {rest : Progress → Nat}
    (hrun : source.run place.rule cursor =
      (source.checkDepth (cursor.depth + 1) >>= fun _ => result))
    (h : cursor.depth ≤ source.maxDepth)
    (hbody : cursor.depth + 1 ≤ source.maxDepth →
      Recorded.Spends source (cursor.depth + 1) credit [cursor.depth + 1] body result rest) :
    Recorded.Spends source cursor.depth (credit + 1) []
      (.called place cursor
        (Recorded.plain (source.checkDepth (cursor.depth + 1)) >>= fun _ => body))
      (source.run place.rule cursor) rest := by
  refine .called h ?_
  rw [hrun]
  exact .plain_bind fun _ hcheck => hbody (le_of_checkDepth source hcheck)

/-- Leaving a rule gives its node and makes no call. -/
theorem spends_left (node : Node) (next : Cursor) {level : Nat} (h : next.depth = level)
    (positive : 0 < level) :
    Recorded.Spends source level (4 * next.ahead.length + 4) [level]
      (Recorded.leave next >>= fun left => pure ⟨node, left⟩) (pure ⟨node, next.leave⟩)
      Progress.credit := by
  subst h
  refine ⟨rfl, .leave positive .nil, .leave .nil, Nat.zero_le _, ?_⟩
  rintro _ ⟨⟩
  exact Nat.le_of_eq (Nat.zero_add _)

/-- What stands behind an expression is read at the same level and with fewer tokens, so the steps
suffice for any rule there, and the expression has left enough calls for it. -/
theorem Performs.then (place : Nonterminal) {cursor : Cursor} {steps credit : Nat}
    {lowered : List Nat} {next : Progress → Recorded Progress}
    {nextResult : Progress → Except SearchError Progress}
    (h : source.Performs place.rule cursor) (hdepth : cursor.depth ≤ source.maxDepth)
    (hsteps : size place.rule cursor < steps) (hcredit : size place.rule cursor < credit)
    (hnext : ∀ first, source.run place.rule cursor = .ok first →
      first.next.depth = cursor.depth →
      (∀ rule, source.Performs rule first.next →
        Recorded.Spends source cursor.depth first.credit []
          (source.perform steps rule first.next) (source.run rule first.next) Progress.credit) →
      Recorded.Spends source cursor.depth first.credit lowered (next first) (nextResult first)
        Progress.credit) :
    Recorded.Spends source cursor.depth credit lowered
      (source.perform steps place.rule cursor >>= next)
      (source.run place.rule cursor >>= nextResult) Progress.credit := by
  refine ((h hdepth steps hsteps).mono hcredit).bind fun first hfirst => ?_
  have hlevel := (next_of_run_rule hfirst).1
  refine hnext first hfirst hlevel fun rule performs => ?_
  have smaller : size rule first.next < size place.rule cursor :=
    size_lt_of_length_lt (length_next_of_run_rule hfirst)
  have enough : size rule first.next + 1 ≤ first.credit :=
    Nat.add_le_add_left (Nat.succ_le_succ (rank_le rule)) _
  have spends := performs (hlevel.symm ▸ hdepth) steps (Nat.lt_trans smaller hsteps)
  rw [hlevel] at spends
  exact spends.mono enough

theorem performs (rule : Rule) (cursor : Cursor) : source.Performs rule cursor := by
  induction rule, cursor using source.run_induction with
  | disjunction cursor ih more =>
    refine .of_succ fun hdepth steps hsteps => ?_
    exact spends_entered .disjunction (source.run_disjunction cursor) hdepth fun within =>
      ih.then .conjunction within hsteps (Nat.le_refl _) fun first hfirst hlevel loop =>
        (loop _ (more first hfirst)).bind fun whole hwhole =>
          spends_left _ _ ((next_of_run hwhole).1.trans hlevel) (Nat.succ_pos _)
  | moreDisjuncts_or left offset rest depth ih more =>
    refine .of_succ fun hdepth steps hsteps => ?_
    have smaller : size .conjunction ⟨rest, depth⟩ <
        size (.moreDisjuncts left) ⟨⟨.or, offset⟩ :: rest, depth⟩ :=
      size_lt_of_length_lt (Nat.lt_succ_self _)
    rw [run_moreDisjuncts_or]
    exact ih.then .conjunction hdepth (Nat.lt_of_lt_of_le smaller hsteps)
      (Nat.lt_succ_of_lt smaller) fun right hright _ loop => .plain_bind fun both _ =>
        loop _ (more right both hright)
  | moreDisjuncts_nil left depth =>
    refine .of_succ fun hdepth steps hsteps => ?_
    rw [run_moreDisjuncts_nil]
    exact .plain_bind fun _ _ => Recorded.spends_pure (Nat.le_refl _)
  | moreDisjuncts_cons left token rest depth other =>
    refine .of_succ fun hdepth steps hsteps => ?_
    rw [run_moreDisjuncts_cons source left rest depth other]
    obtain ⟨lexeme, offset⟩ := token
    cases lexeme with
    | or => exact absurd rfl other
    | _ => exact Recorded.spends_pure (Nat.le_refl _)
  | conjunction cursor ih more =>
    refine .of_succ fun hdepth steps hsteps => ?_
    exact spends_entered .conjunction (source.run_conjunction cursor) hdepth fun within =>
      ih.then .unary within hsteps (Nat.le_refl _) fun first hfirst hlevel loop =>
        (loop _ (more first hfirst)).bind fun whole hwhole =>
          spends_left _ _ ((next_of_run hwhole).1.trans hlevel) (Nat.succ_pos _)
  | moreConjuncts_and left offset rest depth ih more =>
    refine .of_succ fun hdepth steps hsteps => ?_
    have smaller : size .unary ⟨rest, depth⟩ <
        size (.moreConjuncts left) ⟨⟨.and, offset⟩ :: rest, depth⟩ :=
      size_lt_of_length_lt (Nat.lt_succ_self _)
    rw [run_moreConjuncts_and]
    exact ih.then .unary hdepth (Nat.lt_of_lt_of_le smaller hsteps) (Nat.lt_succ_of_lt smaller)
      fun right hright _ loop => .plain_bind fun both _ => loop _ (more right both hright)
  | moreConjuncts_nil left depth =>
    refine .of_succ fun hdepth steps hsteps => ?_
    rw [run_moreConjuncts_nil]
    exact .plain_bind fun _ _ => Recorded.spends_pure (Nat.le_refl _)
  | moreConjuncts_operand left token rest depth starts ih more =>
    refine .of_succ fun hdepth steps hsteps => ?_
    have smaller : size .unary ⟨token :: rest, depth⟩ <
        size (.moreConjuncts left) ⟨token :: rest, depth⟩ :=
      Nat.add_lt_add_left (by decide : 1 < 3) _
    rw [run_moreConjuncts_operand source left rest depth starts,
      perform_moreConjuncts_operand rest depth left starts steps]
    exact ih.then .unary hdepth (Nat.lt_of_lt_of_le smaller hsteps) (Nat.lt_succ_of_lt smaller)
      fun right hright _ loop => .plain_bind fun both _ => loop _ (more right both hright)
  | moreConjuncts_cons left token rest depth other starts =>
    refine .of_succ fun hdepth steps hsteps => ?_
    rw [run_moreConjuncts_cons source left rest depth other starts]
    obtain ⟨lexeme, offset⟩ := token
    cases lexeme with
    | and => exact absurd rfl other
    | or | closeParen => exact Recorded.spends_pure (Nat.le_refl _)
    | not | openParen | phrase text | word text => cases starts
  | unary_not offset rest depth ih =>
    refine .of_succ fun hdepth steps hsteps => ?_
    have smaller : size .unary ⟨rest, depth + 1⟩ < size .unary ⟨⟨.not, offset⟩ :: rest, depth⟩ :=
      size_lt_of_length_lt (Nat.lt_succ_self _)
    exact spends_entered .unary (source.run_unary_not ..) hdepth fun within =>
      ih.then .unary within (Nat.lt_of_lt_of_le smaller hsteps) smaller fun operand _ hlevel _ =>
        .plain_bind fun negated _ => spends_left _ _ hlevel (Nat.succ_pos _)
  | unary_nil depth ih =>
    refine .of_succ fun hdepth steps hsteps => ?_
    exact spends_entered .unary (source.run_unary_nil depth) hdepth fun within =>
      .plain_bind fun _ _ => ih.then .primary within hsteps (Nat.le_refl _)
        fun operand _ hlevel _ => spends_left _ _ hlevel (Nat.succ_pos _)
  | unary_cons token rest depth other ih =>
    refine .of_succ fun hdepth steps hsteps => ?_
    rw [perform_unary_cons rest depth other steps]
    exact spends_entered .unary (source.run_unary_cons rest depth other) hdepth fun within =>
      ih.then .primary within hsteps (Nat.le_refl _) fun operand _ hlevel _ =>
        spends_left _ _ hlevel (Nat.succ_pos _)
  | primary_nil depth =>
    refine .of_succ fun hdepth steps hsteps => ?_
    exact spends_entered .primary (source.run_primary_nil depth) hdepth fun _ =>
      .plain_bind fun _ _ => Recorded.spends_fault _
  | primary_open offset rest depth ih =>
    refine .of_succ fun hdepth steps hsteps => ?_
    have smaller : size .disjunction ⟨rest, depth + 1⟩ <
        size .primary ⟨⟨.openParen, offset⟩ :: rest, depth⟩ :=
      size_lt_of_length_lt (Nat.lt_succ_self _)
    have hrun := source.run_primary_open offset rest depth
    simp only [closeGroup_eq] at hrun
    refine spends_entered .primary hrun hdepth fun within =>
      ih.then .disjunction within (Nat.lt_of_lt_of_le smaller hsteps) smaller
        fun inner _ hlevel _ => .plain_bind fun behind hbehind => ?_
    -- The parenthesis is a token more that is read; its calls are left over.
    obtain ⟨hlevel', shorter⟩ := closing_ok hbehind
    refine (spends_left _ _ (hlevel'.trans hlevel) (Nat.succ_pos _)).mono ?_
    simp only [Progress.credit]
    omega
  | primary_operand token text rest depth hlexeme =>
    refine .of_succ fun hdepth steps hsteps => ?_
    rw [perform_primary_operand rest depth hlexeme steps]
    exact spends_entered .primary (source.run_primary_operand rest depth hlexeme) hdepth fun _ =>
      spends_left ⟨.literal text, 1⟩ ⟨rest, depth + 1⟩ rfl (Nat.succ_pos _)
  | primary_other token rest depth other =>
    refine .of_succ fun hdepth steps hsteps => ?_
    refine spends_entered .primary (source.run_primary_other rest depth other) hdepth fun _ => ?_
    obtain ⟨lexeme, offset⟩ := token
    cases lexeme with
    | and | or | closeParen | not => exact Recorded.spends_fault _
    | openParen | phrase text | word text => simp [Lexeme.startsOperand] at other

/-- What a rule does where it is called within the limit. -/
theorem spends_of_steps (source : Source) (place : Nonterminal) (cursor : Cursor) {steps : Nat}
    (h : cursor.depth ≤ source.maxDepth) (hsteps : 4 * cursor.ahead.length + 4 ≤ steps) :
    Recorded.Spends source cursor.depth (4 * cursor.ahead.length + 4) []
      (source.perform steps place.rule cursor) (source.run place.rule cursor) Progress.credit := by
  have small : size place.rule cursor + 1 ≤ 4 * cursor.ahead.length + 4 := by
    exact Nat.add_le_add_left (Nat.succ_le_succ (rank_le _)) _
  exact (performs place.rule cursor h steps (Nat.le_trans small hsteps)).mono small

/-- What a rule does is recorded as a call of it. -/
theorem exists_perform_eq_called (source : Source) (place : Nonterminal) (cursor : Cursor)
    (steps : Nat) :
    ∃ body, source.perform (steps + 1) place.rule cursor = .called place cursor body := by
  cases place <;> exact ⟨_, rfl⟩

/-- The record of a rule that is called within the limit is that of its own call, which goes back at
the end. Every call of the record goes back, and each that gives a node lowers the counter once. -/
theorem events_of_steps (source : Source) (place : Nonterminal) (cursor : Cursor) {steps : Nat}
    (h : cursor.depth ≤ source.maxDepth) (hsteps : 4 * cursor.ahead.length + 4 ≤ steps) :
    ∃ inner, (source.perform steps place.rule cursor).events =
        .call place cursor :: (inner ++ [.back]) ∧
      Nested source [] (source.perform steps place.rule cursor).events := by
  have spends := source.spends_of_steps place cursor h hsteps
  have nested := spends.nested
  rw [ite_self] at nested
  obtain ⟨fewer, rfl⟩ := Nat.exists_eq_add_one.mpr (Nat.lt_of_lt_of_le (Nat.succ_pos _) hsteps)
  obtain ⟨body, hbody⟩ := source.exists_perform_eq_called place cursor fewer
  have outcome : body.outcome = some (source.run place.rule cursor) := by
    have := spends.outcome
    rwa [hbody] at this
  refine ⟨body.events, ?_, nested⟩
  rw [hbody, Recorded.called, outcome]
  rfl

end Source

/-- The record of a whole parse. -/
def SearchParser.record (parser : SearchParser) (input : String) : Recorded Progress :=
  let tokens := (TokenStream.ofString input).tokens
  (Source.ofInput parser.maxDepth input).perform (4 * tokens.length + 4) .disjunction ⟨tokens, 0⟩

theorem SearchParser.spends_record (parser : SearchParser) (input : String) :
    Recorded.Spends (Source.ofInput parser.maxDepth input) 0
      (4 * (TokenStream.ofString input).tokens.length + 4) [] (parser.record input)
      ((Source.ofInput parser.maxDepth input).run .disjunction
        ⟨(TokenStream.ofString input).tokens, 0⟩) Progress.credit :=
  (Source.ofInput parser.maxDepth input).spends_of_steps .disjunction
    ⟨(TokenStream.ofString input).tokens, 0⟩ (Nat.zero_le _) (Nat.le_refl _)

/-- A rule that is called within the limit, wherever it starts, goes back after finitely many steps
with what it gives in the parser, and with no more than four calls for a token and four more. The
first of them is its own, which goes back last; all of them go back, and each that gives a node
lowers the counter once. If the rule gives a node, then the counter is as it was and at least one
token has been read, none put back. The counter is never lowered below zero, and together with those
calls that it tells, never more calls are active than one beyond the limit. So in a parse it tells
how many calls are active wherever a rule is called, which is within the limit, and never more than
1001 calls are active at once. -/
theorem calls_are_bounded :
    (∀ (source : Source) place cursor steps, cursor.depth ≤ source.maxDepth →
      4 * cursor.ahead.length + 4 ≤ steps →
      (source.perform steps (Nonterminal.rule place) cursor).outcome =
        some (source.run place.rule cursor) ∧
      calls (source.perform steps place.rule cursor).events ≤ 4 * cursor.ahead.length + 4 ∧
      (∃ inner, (source.perform steps place.rule cursor).events =
        .call place cursor :: (inner ++ [.back])) ∧
      backs (source.perform steps place.rule cursor).events =
        calls (source.perform steps place.rule cursor).events ∧
      (source.perform steps place.rule cursor).events.countP Event.isLeave =
        (source.perform steps place.rule cursor).events.countP source.isGiven ∧
      (∀ progress, source.run place.rule cursor = .ok progress →
        progress.next.depth = cursor.depth ∧
        ∃ tokens, tokens ≠ [] ∧ cursor.ahead = tokens ++ progress.next.ahead) ∧
      (∀ depth, .leave depth ∈ (source.perform steps place.rule cursor).events → 0 < depth) ∧
      ∀ before, before <+: (source.perform steps place.rule cursor).events →
        cursor.depth + calls before ≤ backs before + (source.maxDepth + 1)) ∧
    ∀ (parser : SearchParser) input,
      (∃ whole, (parser.record input).outcome = some whole ∧
        parser.parse input = whole >>= (Source.ofInput parser.maxDepth input).conclude) ∧
      (∀ before place cursor after,
        (parser.record input).events = before ++ .call place cursor :: after →
        cursor.depth ≤ parser.maxDepth ∧ calls before = backs before + cursor.depth) ∧
      ∀ before, before <+: (parser.record input).events →
        calls before ≤ backs before + (parser.maxDepth + 1) ∧ parser.maxDepth + 1 ≤ 1001 := by
  constructor
  · intro source place cursor steps hdepth hsteps
    have spends := source.spends_of_steps place cursor hdepth hsteps
    obtain ⟨inner, hinner, nested⟩ := source.events_of_steps place cursor hdepth hsteps
    refine ⟨spends.outcome, spends.calls_le, ⟨inner, hinner⟩, nested.backs_eq_calls,
      nested.countP_isLeave.trans (Nat.zero_add _), ?_, ?_, ?_⟩
    · intro progress hprogress
      exact Source.next_of_run_rule hprogress
    · intro depth hmem
      exact spends.tallies.pos_of_leave hmem
    · intro before hbefore
      exact spends.tallies.active_le (Nat.le_succ_of_le hdepth) hbefore
  · intro parser input
    have spends := parser.spends_record input
    refine ⟨⟨_, spends.outcome, parser.parse_eq_run input⟩, ?_, ?_⟩
    · intro before place cursor after split
      have := spends.tallies.depth_of_call split
      rwa [Nat.zero_add] at this
    · intro before hbefore
      have := spends.tallies.active_le (Nat.zero_le _) hbefore
      rw [Nat.zero_add] at this
      exact ⟨this, Nat.succ_le_succ parser.maxDepth_le⟩

/-- A word is read by the innermost of the four rules that the limit leaves room for. -/
theorem calls_are_bounded_word :
    let source : Source := ⟨4, "a", .ok 1⟩
    let cursor : Cursor := ⟨[⟨.word "a", 0⟩], 3⟩
    cursor.depth ≤ source.maxDepth ∧ ∃ progress,
      (source.perform 8 .primary cursor).outcome = some (.ok progress) ∧
      progress.next.depth = 3 ∧
      ∃ tokens, tokens ≠ [] ∧ cursor.ahead = tokens ++ progress.next.ahead := by
  intro source cursor
  have within : cursor.depth ≤ source.maxDepth := by decide
  have read : source.run .primary cursor = .ok ⟨⟨.literal "a", 1⟩, ⟨[], 3⟩⟩ :=
    (source.run_primary_operand [] 3 (Or.inl rfl)).trans rfl
  obtain ⟨outcome, -, -, -, -, moves, -⟩ :=
    calls_are_bounded.1 source .primary cursor 8 within (Nat.le_refl 8)
  exact ⟨within, _, outcome.trans (congrArg some read), moves _ read⟩

end BooleanSearch
