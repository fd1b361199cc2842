import BooleanSearch.Proofs.Rules
import Mathlib.Logic.Relation

/-! # A parse step by step

The rules once more, one step at a time, with a stack of what is pending in the rules that wait for
another one. What a rule has read of its own by then stands on the stack. So the moments of a parse
show every node that there is at any time, also in a parse that fails later on.
-/

namespace BooleanSearch

/-- What a rule that waits for another one still has to do when it gets a node. -/
inductive Pending
  /-- To go on behind the node, which is the first operand of the connective. -/
  | goOn (op : Connective)
  /-- To join the node to what has been joined so far, and to go on behind both. -/
  | join (op : Connective) (left : Node)
  | negate
  /-- To read the parenthesis behind the node. -/
  | close
  /-- To go back with the node as it is. -/
  | leave

/-- What is done next. -/
inductive Task
  | call (rule : Rule) (cursor : Cursor)
  /-- To hand a node to the innermost rule that waits. -/
  | give (progress : Progress)

/-- A moment of a parse: what is done next, and what is pending, the innermost first. -/
structure Moment where
  task : Task
  pending : List Pending

/-- The moment at which a parse starts. -/
def Moment.initial (input : String) : Moment :=
  ⟨.call .disjunction ⟨(TokenStream.ofString input).tokens, 0⟩, []⟩

/-- The rule that goes on behind operands that have been joined. -/
def Connective.more (left : Node) : Connective → Rule
  | .and => .moreConjuncts left
  | .or => .moreDisjuncts left

namespace Source

variable (source : Source)

/-- The first step of a rule. -/
def start (pending : List Pending) : Rule → Cursor → Except SearchError Moment
  | .disjunction, cursor => do
    source.checkDepth (cursor.depth + 1)
    return ⟨.call .conjunction cursor.enter, .goOn .or :: pending⟩
  | .moreDisjuncts left, ⟨⟨.or, _⟩ :: rest, depth⟩ =>
    return ⟨.call .conjunction ⟨rest, depth⟩, .join .or left :: pending⟩
  | .moreDisjuncts left, ⟨[], depth⟩ => do
    let _ ← source.finish
    return ⟨.give ⟨left, ⟨[], depth⟩⟩, pending⟩
  | .moreDisjuncts left, cursor => return ⟨.give ⟨left, cursor⟩, pending⟩
  | .conjunction, cursor => do
    source.checkDepth (cursor.depth + 1)
    return ⟨.call .unary cursor.enter, .goOn .and :: pending⟩
  | .moreConjuncts left, ⟨⟨.and, _⟩ :: rest, depth⟩ =>
    return ⟨.call .unary ⟨rest, depth⟩, .join .and left :: pending⟩
  | .moreConjuncts left, ⟨[], depth⟩ => do
    let _ ← source.finish
    return ⟨.give ⟨left, ⟨[], depth⟩⟩, pending⟩
  | .moreConjuncts left, ⟨token :: rest, depth⟩ =>
    if token.lexeme.startsOperand then
      return ⟨.call .unary ⟨token :: rest, depth⟩, .join .and left :: pending⟩
    else return ⟨.give ⟨left, ⟨token :: rest, depth⟩⟩, pending⟩
  | .unary, ⟨⟨.not, _⟩ :: rest, depth⟩ => do
    source.checkDepth (depth + 1)
    return ⟨.call .unary ⟨rest, depth + 1⟩, .negate :: pending⟩
  | .unary, ⟨[], depth⟩ => do
    source.checkDepth (depth + 1)
    let _ ← source.finish
    return ⟨.call .primary ⟨[], depth + 1⟩, .leave :: pending⟩
  | .unary, cursor => do
    source.checkDepth (cursor.depth + 1)
    return ⟨.call .primary cursor.enter, .leave :: pending⟩
  | .primary, ⟨[], depth⟩ => do
    source.checkDepth (depth + 1)
    let offset ← source.finish
    throw (.missingOperand offset source.input)
  | .primary, ⟨⟨.openParen, _⟩ :: rest, depth⟩ => do
    source.checkDepth (depth + 1)
    return ⟨.call .disjunction ⟨rest, depth + 1⟩, .close :: pending⟩
  | .primary, ⟨⟨.phrase text, _⟩ :: rest, depth⟩
  | .primary, ⟨⟨.word text, _⟩ :: rest, depth⟩ => do
    source.checkDepth (depth + 1)
    return ⟨.give ⟨⟨.literal text, 1⟩, ⟨rest, depth⟩⟩, pending⟩
  | .primary, ⟨token :: _, depth⟩ => do
    source.checkDepth (depth + 1)
    throw (.missingOperand token.offset source.input)

/-- The step of a rule that has got a node. -/
def resume (pending : List Pending) (progress : Progress) : Pending → Except SearchError Moment
  | .goOn op => return ⟨.call (op.more progress.node) progress.next, .leave :: pending⟩
  | .join op left => do
    let both ← source.join op left progress.node
    return ⟨.call (op.more both) progress.next, pending⟩
  | .negate => do
    let negated ← source.negate progress.node
    return ⟨.give ⟨negated, progress.next.leave⟩, pending⟩
  | .close => do
    let group ← source.closeGroup progress
    return ⟨.give group, pending⟩
  | .leave => return ⟨.give ⟨progress.node, progress.next.leave⟩, pending⟩

/-- One step of a parse, to its next moment or to its query. -/
def step : Moment → Except SearchError (Moment ⊕ Query)
  | ⟨.call rule cursor, pending⟩ => Sum.inl <$> source.start pending rule cursor
  | ⟨.give progress, top :: pending⟩ => Sum.inl <$> source.resume pending progress top
  | ⟨.give progress, []⟩ => Sum.inr <$> source.conclude progress

/-- One moment follows another one. -/
def Follows (moment next : Moment) : Prop := source.step moment = .ok (.inl next)

/-- One moment comes after another one, or is the same. -/
def Reaches : Moment → Moment → Prop := Relation.ReflTransGen source.Follows

/-! ### The steps do what the rules do -/

/-- From a moment on, a rule comes to its result: it gives its node to what is pending, or its fault
ends the parse. -/
def Delivers (moment : Moment) (pending : List Pending) : Except SearchError Progress → Prop
  | .ok progress => source.Reaches moment ⟨.give progress, pending⟩
  | .error error => ∃ last, source.Reaches moment last ∧ source.step last = .error error

/-- The same from the outcome of a step on, which is a moment or the fault itself. -/
def DeliversFrom (pending : List Pending) (result : Except SearchError Progress) :
    Except SearchError Moment → Prop
  | .ok next => source.Delivers next pending result
  | .error error => result = .error error

variable {source : Source} {pending : List Pending} {result : Except SearchError Progress}

namespace DeliversFrom

theorem bind {α : Type} {check : Except SearchError α} {next : α → Except SearchError Moment}
    {nextResult : α → Except SearchError Progress}
    (h : ∀ value, check = .ok value →
      source.DeliversFrom pending (nextResult value) (next value)) :
    source.DeliversFrom pending (check >>= nextResult) (check >>= next) := by
  cases check with
  | error error => exact rfl
  | ok value => exact h value rfl

theorem fault (error : SearchError) :
    source.DeliversFrom pending (throw error) (throw error) := rfl

theorem moment {next : Moment} (h : source.Delivers next pending result) :
    source.DeliversFrom pending result (pure next) := h

theorem given (progress : Progress) :
    source.DeliversFrom pending (pure progress) (pure ⟨.give progress, pending⟩) :=
  Relation.ReflTransGen.refl

theorem given_bind (result : Except SearchError Progress) :
    source.DeliversFrom pending result (do return ⟨.give (← result), pending⟩) := by
  cases result with
  | error error => exact rfl
  | ok progress => exact given progress

end DeliversFrom

namespace Delivers

variable {moment : Moment}

theorem of_reaches {next : Moment} (reaches : source.Reaches moment next)
    (h : source.Delivers next pending result) : source.Delivers moment pending result := by
  cases result with
  | ok progress => exact Relation.ReflTransGen.trans reaches h
  | error error =>
    obtain ⟨last, hreaches, hlast⟩ := h
    exact ⟨last, Relation.ReflTransGen.trans reaches hreaches, hlast⟩

theorem of_step {started : Except SearchError Moment}
    (hstep : source.step moment = Sum.inl <$> started)
    (h : source.DeliversFrom pending result started) :
    source.Delivers moment pending result := by
  cases started with
  | ok next => exact of_reaches (.single hstep) h
  | error error =>
    have hresult : result = .error error := h
    rw [hresult]
    exact ⟨moment, .refl, hstep⟩

theorem of_start {rule : Rule} {cursor : Cursor}
    (h : source.DeliversFrom pending result (source.start pending rule cursor)) :
    source.Delivers ⟨.call rule cursor, pending⟩ pending result := of_step rfl h

/-- A rule that waits for another one goes on with the node that it gets, and a fault of the other
one is its own. -/
theorem bind {top : Pending} {nextResult : Progress → Except SearchError Progress}
    (h : source.Delivers moment (top :: pending) result)
    (h' : ∀ progress, result = .ok progress →
      source.DeliversFrom pending (nextResult progress) (source.resume pending progress top)) :
    source.Delivers moment pending (result >>= nextResult) := by
  cases result with
  | error error => exact h
  | ok progress => exact of_reaches h (of_step rfl (h' progress rfl))

end Delivers

section Tokens

variable {token : Token} (rest : List Token) (depth : Nat)

theorem start_moreConjuncts_operand (left : Node) (h : token.lexeme.startsOperand = true) :
    source.start pending (.moreConjuncts left) ⟨token :: rest, depth⟩ =
      pure ⟨.call .unary ⟨token :: rest, depth⟩, .join .and left :: pending⟩ := by
  obtain ⟨lexeme, offset⟩ := token
  cases lexeme with
  | and | or | closeParen => cases h
  | not | openParen | phrase text | word text => rfl

theorem start_unary_cons (h : token.lexeme ≠ .not) :
    source.start pending .unary ⟨token :: rest, depth⟩ = (do
      source.checkDepth (depth + 1)
      return ⟨.call .primary ⟨token :: rest, depth + 1⟩, .leave :: pending⟩) := by
  obtain ⟨lexeme, offset⟩ := token
  cases lexeme with
  | not => exact absurd rfl h
  | _ => rfl

theorem start_primary_operand {text : String}
    (h : token.lexeme = .word text ∨ token.lexeme = .phrase text) :
    source.start pending .primary ⟨token :: rest, depth⟩ = (do
      source.checkDepth (depth + 1)
      return ⟨.give ⟨⟨.literal text, 1⟩, ⟨rest, depth⟩⟩, pending⟩) := by
  obtain ⟨lexeme, offset⟩ := token
  rcases h with rfl | rfl <;> rfl

end Tokens

/-- A rule that is called comes to the result that it has in the parser, whatever is pending. -/
theorem delivers_run (source : Source) (rule : Rule) (cursor : Cursor) (pending : List Pending) :
    source.Delivers ⟨.call rule cursor, pending⟩ pending (source.run rule cursor) := by
  induction rule, cursor using source.run_induction generalizing pending with
  | disjunction cursor ih more =>
    refine .of_start ?_
    rw [run_disjunction]
    refine .bind fun _ _ => .moment ((ih _).bind fun first hfirst => .moment ?_)
    exact (more first hfirst _).bind fun whole _ => .given _
  | moreDisjuncts_or left offset rest depth ih more =>
    refine .of_start ?_
    rw [run_moreDisjuncts_or]
    refine .moment ((ih _).bind fun right hright => .bind fun both _ => .moment ?_)
    exact more right both hright pending
  | moreDisjuncts_nil left depth =>
    refine .of_start ?_
    rw [run_moreDisjuncts_nil]
    exact .bind fun _ _ => .given _
  | moreDisjuncts_cons left token rest depth other =>
    refine .of_start ?_
    rw [run_moreDisjuncts_cons source left rest depth other]
    obtain ⟨lexeme, offset⟩ := token
    cases lexeme with
    | or => exact absurd rfl other
    | _ => exact .given _
  | conjunction cursor ih more =>
    refine .of_start ?_
    rw [run_conjunction]
    refine .bind fun _ _ => .moment ((ih _).bind fun first hfirst => .moment ?_)
    exact (more first hfirst _).bind fun whole _ => .given _
  | moreConjuncts_and left offset rest depth ih more =>
    refine .of_start ?_
    rw [run_moreConjuncts_and]
    refine .moment ((ih _).bind fun right hright => .bind fun both _ => .moment ?_)
    exact more right both hright pending
  | moreConjuncts_nil left depth =>
    refine .of_start ?_
    rw [run_moreConjuncts_nil]
    exact .bind fun _ _ => .given _
  | moreConjuncts_operand left token rest depth starts ih more =>
    refine .of_start ?_
    rw [run_moreConjuncts_operand source left rest depth starts,
      start_moreConjuncts_operand rest depth left starts]
    refine .moment ((ih _).bind fun right hright => .bind fun both _ => .moment ?_)
    exact more right both hright pending
  | moreConjuncts_cons left token rest depth other starts =>
    refine .of_start ?_
    rw [run_moreConjuncts_cons source left rest depth other starts]
    obtain ⟨lexeme, offset⟩ := token
    cases lexeme with
    | and => exact absurd rfl other
    | or | closeParen => exact .given _
    | not | openParen | phrase text | word text => cases starts
  | unary_not offset rest depth ih =>
    refine .of_start ?_
    rw [run_unary_not]
    refine .bind fun _ _ => .moment ((ih _).bind fun operand _ => ?_)
    exact .bind fun negated _ => .given _
  | unary_nil depth ih =>
    refine .of_start ?_
    rw [run_unary_nil]
    refine .bind fun _ _ => .bind fun _ _ => .moment ?_
    exact (ih _).bind fun operand _ => .given _
  | unary_cons token rest depth other ih =>
    refine .of_start ?_
    rw [run_unary_cons source rest depth other, start_unary_cons rest depth other]
    exact .bind fun _ _ => .moment ((ih _).bind fun operand _ => .given _)
  | primary_nil depth =>
    refine .of_start ?_
    rw [run_primary_nil]
    exact .bind fun _ _ => .bind fun offset _ => .fault _
  | primary_open offset rest depth ih =>
    refine .of_start ?_
    rw [run_primary_open]
    exact .bind fun _ _ => .moment ((ih _).bind fun inner _ => .given_bind _)
  | primary_operand token text rest depth hlexeme =>
    refine .of_start ?_
    rw [run_primary_operand source rest depth hlexeme, start_primary_operand rest depth hlexeme]
    exact .bind fun _ _ => .given _
  | primary_other token rest depth other =>
    refine .of_start ?_
    rw [run_primary_other source rest depth other]
    obtain ⟨lexeme, offset⟩ := token
    cases lexeme with
    | and | or | closeParen | not => exact .bind fun _ _ => .fault _
    | openParen | phrase text | word text => simp [Lexeme.startsOperand] at other

/-- A call that a parse comes to is answered with the node that its rule gives. -/
theorem Reaches.give {start : Moment} {rule : Rule} {cursor : Cursor} {progress : Progress}
    (h : source.Reaches start ⟨.call rule cursor, pending⟩)
    (run : source.run rule cursor = .ok progress) :
    source.Reaches start ⟨.give progress, pending⟩ := by
  have delivers := source.delivers_run rule cursor pending
  rw [run] at delivers
  exact Relation.ReflTransGen.trans h delivers

/-! ### The outcome of a parse -/

theorem follows_unique : Relator.RightUnique source.Follows := by
  intro moment next other h h'
  exact Sum.inl.inj (Except.ok.inj (h.symm.trans h'))

theorem not_follows_of_ends {last next : Moment} {outcome : Except SearchError Query}
    (ends : source.step last = Sum.inr <$> outcome) : ¬ source.Follows last next := by
  intro follows
  cases outcome with
  | error error => cases follows.symm.trans ends
  | ok query => cases follows.symm.trans ends

/-- Every moment of a parse lies before its end. -/
theorem Reaches.of_ends {start moment last : Moment} {outcome : Except SearchError Query}
    (h : source.Reaches start moment) (h' : source.Reaches start last)
    (ends : source.step last = Sum.inr <$> outcome) : source.Reaches moment last := by
  rcases Relation.ReflTransGen.total_of_right_unique follows_unique h h' with behind | ahead
  · exact behind
  · rcases Relation.ReflTransGen.cases_head ahead with rfl | ⟨next, follows, -⟩
    · exact .refl
    · exact absurd follows (not_follows_of_ends ends)

end Source

/-- The steps of a parse end with the outcome that it has in the parser. -/
theorem SearchParser.reaches_outcome (parser : SearchParser) (input : String) :
    ∃ last, (Source.ofInput parser.maxDepth input).Reaches (.initial input) last ∧
      (Source.ofInput parser.maxDepth input).step last = Sum.inr <$> parser.parse input := by
  have delivers := (Source.ofInput parser.maxDepth input).delivers_run .disjunction
    ⟨(TokenStream.ofString input).tokens, 0⟩ []
  rw [parser.parse_eq_run]
  generalize (Source.ofInput parser.maxDepth input).run .disjunction
    ⟨(TokenStream.ofString input).tokens, 0⟩ = result at delivers ⊢
  cases result with
  | error error => exact delivers
  | ok whole => exact ⟨_, delivers, rfl⟩

end BooleanSearch
