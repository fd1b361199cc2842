import BooleanSearch.Proofs.Grammar
import BooleanSearch.Proofs.Rules
import Mathlib.Data.List.Forall2

/-! # Two runs in step

Two inputs are read side by side, and the limit of the second run may be higher. While their lexemes
are alike the rules decide in the same way, so that both runs give the same node or faults of the
same kind at places that correspond. Only the lower limit can part them, by ending the first run.
Which places correspond is left open: it is a parameter of everything below.
-/

namespace BooleanSearch

/-! ### What corresponds -/

/-- Lexemes that the parser does not tell apart: equal ones, and words and phrases with the same
text. -/
def Lexeme.Alike (lexeme other : Lexeme) : Prop :=
  lexeme = other ∨ ∃ text, lexeme.operand? = some text ∧ other.operand? = some text

variable (Same : Nat → Nat → Prop)

/-- Tokens with lexemes that are alike, at places that correspond. -/
structure Token.Alike (token other : Token) : Prop where
  lexeme : token.lexeme.Alike other.lexeme
  offset : Same token.offset other.offset

/-- Cursors with the same rules around them, before tokens that are alike. -/
structure Cursor.Alike (cursor other : Cursor) : Prop where
  ahead : List.Forall₂ (Token.Alike Same) cursor.ahead other.ahead
  depth : cursor.depth = other.depth

/-- The same node, with cursors behind it that are alike. -/
structure Progress.Alike (progress other : Progress) : Prop where
  node : progress.node = other.node
  next : progress.next.Alike Same other.next

/-- Faults of the same kind at places that correspond, each with its own input. -/
inductive SearchError.Corresponds (input otherInput : String) : SearchError → SearchError → Prop
  | unclosedGroup {place other : Nat} (h : Same place other) :
      Corresponds input otherInput (.unclosedGroup place input) (.unclosedGroup other otherInput)
  | missingOperand {place other : Nat} (h : Same place other) :
      Corresponds input otherInput (.missingOperand place input) (.missingOperand other otherInput)
  | emptyPhrase {place other : Nat} (h : Same place other) :
      Corresponds input otherInput (.emptyPhrase place) (.emptyPhrase other)
  | strayToken {place other : Nat} (h : Same place other) :
      Corresponds input otherInput (.strayToken place input) (.strayToken other otherInput)

/-- The results of two runs: values that correspond, faults that correspond, or both limits. If the
first limit is the lower one, it may also end the first run alone. -/
inductive Related {α : Type} (Values : α → α → Prop) (source other : Source) :
    Except SearchError α → Except SearchError α → Prop
  | ok {value value' : α} (h : Values value value') :
      Related Values source other (.ok value) (.ok value')
  | fault {error error' : SearchError}
      (h : error.Corresponds Same source.input other.input error') :
      Related Values source other (.error error) (.error error')
  | tooDeep : Related Values source other (.error (.tooDeep source.maxDepth))
      (.error (.tooDeep other.maxDepth))
  | cutOff {result : Except SearchError α} (h : source.maxDepth < other.maxDepth) :
      Related Values source other (.error (.tooDeep source.maxDepth)) result

/-- Two inputs that end alike, the second one read under a limit that is not lower. -/
structure Source.InStep (source other : Source) : Prop where
  limit_le : source.maxDepth ≤ other.maxDepth
  finish : Related Same Same source other source.finish other.finish

variable {Same}

theorem Lexeme.operand?_eq_some_iff {lexeme : Lexeme} {text : String} :
    lexeme.operand? = some text ↔ lexeme = .word text ∨ lexeme = .phrase text := by
  cases lexeme <;> simp [Lexeme.operand?]

namespace Lexeme.Alike

variable {lexeme other : Lexeme}

theorem symm (h : lexeme.Alike other) : other.Alike lexeme := by
  rcases h with rfl | ⟨text, htext, hother⟩
  · exact Or.inl rfl
  · exact Or.inr ⟨text, hother, htext⟩

/-- A lexeme that is no operand is like itself alone. -/
theorem eq_of_operand?_eq_none (h : lexeme.Alike other) (hnone : lexeme.operand? = none) :
    other = lexeme := by
  rcases h with rfl | ⟨text, htext, -⟩
  · rfl
  · rw [hnone] at htext
    cases htext

theorem ne_of_operand?_eq_none (h : lexeme.Alike other) {operator : Lexeme}
    (hnone : operator.operand? = none) (hne : lexeme ≠ operator) : other ≠ operator := by
  rintro rfl
  exact hne (h.symm.eq_of_operand?_eq_none hnone)

theorem operand?_eq (h : lexeme.Alike other) : other.operand? = lexeme.operand? := by
  rcases h with rfl | ⟨text, htext, hother⟩
  · rfl
  · rw [htext, hother]

theorem startsOperand_eq (h : lexeme.Alike other) : other.startsOperand = lexeme.startsOperand := by
  rcases h with rfl | ⟨text, htext, hother⟩
  · rfl
  · rcases operand?_eq_some_iff.mp htext with rfl | rfl <;>
      rcases operand?_eq_some_iff.mp hother with rfl | rfl <;> rfl

end Lexeme.Alike

namespace Cursor.Alike

theorem of_ahead {ahead ahead' : List Token} (h : List.Forall₂ (Token.Alike Same) ahead ahead')
    (depth : Nat) : Cursor.Alike Same ⟨ahead, depth⟩ ⟨ahead', depth⟩ := ⟨h, rfl⟩

theorem eq_of_nil {depth : Nat} {other : Cursor} (h : Cursor.Alike Same ⟨[], depth⟩ other) :
    other = ⟨[], depth⟩ := by
  obtain ⟨ahead, depth'⟩ := other
  obtain ⟨hahead, rfl⟩ := h
  obtain rfl := List.forall₂_nil_left_iff.mp hahead
  rfl

theorem exists_of_cons {token : Token} {rest : List Token} {depth : Nat} {other : Cursor}
    (h : Cursor.Alike Same ⟨token :: rest, depth⟩ other) :
    ∃ token' rest', other = ⟨token' :: rest', depth⟩ ∧ token.Alike Same token' ∧
      List.Forall₂ (Token.Alike Same) rest rest' := by
  obtain ⟨ahead, depth'⟩ := other
  obtain ⟨hahead, rfl⟩ := h
  obtain ⟨token', rest', htoken, hrest, rfl⟩ := List.forall₂_cons_left_iff.mp hahead
  exact ⟨token', rest', rfl, htoken, hrest⟩

theorem enter {cursor other : Cursor} (h : cursor.Alike Same other) :
    cursor.enter.Alike Same other.enter :=
  ⟨h.ahead, congrArg (· + 1) h.depth⟩

theorem leave {cursor other : Cursor} (h : cursor.Alike Same other) :
    cursor.leave.Alike Same other.leave :=
  ⟨h.ahead, congrArg (· - 1) h.depth⟩

end Cursor.Alike

/-! ### Results -/

namespace Related

variable {α β : Type} {Values : α → α → Prop} {Results : β → β → Prop} {source other : Source}

theorem bind {first first' : Except SearchError α} {next next' : α → Except SearchError β}
    (h : Related Same Values source other first first')
    (hnext : ∀ value value', first = .ok value → Values value value' →
      Related Same Results source other (next value) (next' value')) :
    Related Same Results source other (first >>= next) (first' >>= next') := by
  cases h with
  | ok h => exact hnext _ _ rfl h
  | fault h => exact .fault h
  | tooDeep => exact .tooDeep
  | cutOff h => exact .cutOff h

/-- A rule that reads another one inside itself goes back to its own level behind it. -/
theorem leave {whole whole' : Except SearchError Progress}
    (h : Related Same (Progress.Alike Same) source other whole whole') :
    Related Same (Progress.Alike Same) source other
      (do let whole ← whole; return ⟨whole.node, whole.next.leave⟩)
      (do let whole ← whole'; return ⟨whole.node, whole.next.leave⟩) := by
  apply h.bind
  intro progress progress' _ hprogress
  exact .ok ⟨hprogress.node, hprogress.next.leave⟩

end Related

/-! ### Rules -/

namespace Source

theorem closeGroup_close (source : Source) (node : Node) {token : Token} (rest : List Token)
    (depth : Nat) (h : token.lexeme = .closeParen) :
    source.closeGroup ⟨node, ⟨token :: rest, depth⟩⟩ = .ok ⟨node, ⟨rest, depth - 1⟩⟩ := by
  obtain ⟨lexeme, offset⟩ := token
  obtain rfl : lexeme = .closeParen := h
  rfl

theorem closeGroup_other (source : Source) (node : Node) {token : Token} (rest : List Token)
    (depth : Nat) (h : token.lexeme ≠ .closeParen) :
    source.closeGroup ⟨node, ⟨token :: rest, depth⟩⟩ =
      .error (.unclosedGroup token.offset source.input) := by
  obtain ⟨lexeme, offset⟩ := token
  cases lexeme with
  | closeParen => exact absurd rfl h
  | and | or | not | openParen | phrase text | word text => rfl

end Source

namespace Source.InStep

variable {source other : Source}

theorem checkDepth (steps : source.InStep Same other) {depth depth' : Nat} (h : depth = depth') :
    Related Same Eq source other (source.checkDepth depth) (other.checkDepth depth') := by
  subst h
  have hle := steps.limit_le
  unfold Source.checkDepth
  by_cases hfirst : depth ≤ source.maxDepth
  · rw [if_pos hfirst, if_pos (Nat.le_trans hfirst hle)]
    exact .ok rfl
  · rw [if_neg hfirst]
    by_cases hsecond : depth ≤ other.maxDepth
    · exact .cutOff (by omega)
    · rw [if_neg hsecond]
      exact .tooDeep

theorem join (steps : source.InStep Same other) (op : Connective) (left right : Node) :
    Related Same Eq source other (source.join op left right) (other.join op left right) := by
  apply (steps.checkDepth rfl).bind
  intro _ _ _ _
  exact .ok rfl

theorem negate (steps : source.InStep Same other) (operand : Node) :
    Related Same Eq source other (source.negate operand) (other.negate operand) := by
  apply (steps.checkDepth rfl).bind
  intro _ _ _ _
  exact .ok rfl

/-- What is read next joins what has been read, and reading goes on behind it. -/
theorem join_then (steps : source.InStep Same other) (op : Connective) (left : Node)
    {next next' : Except SearchError Progress}
    {more more' : Node → Cursor → Except SearchError Progress}
    (h : Related Same (Progress.Alike Same) source other next next')
    (hmore : ∀ right both, next = .ok right → ∀ {cursor : Cursor}, right.next.Alike Same cursor →
      Related Same (Progress.Alike Same) source other (more both right.next) (more' both cursor)) :
    Related Same (Progress.Alike Same) source other
      (do let right ← next; let both ← source.join op left right.node; more both right.next)
      (do let right ← next'; let both ← other.join op left right.node; more' both right.next) := by
  apply h.bind
  rintro right ⟨_, cursor⟩ hright ⟨rfl, hcursor⟩
  apply (steps.join op left right.node).bind
  rintro both _ _ rfl
  exact hmore right both hright hcursor

theorem closeGroup (steps : source.InStep Same other) {inner inner' : Progress}
    (h : inner.Alike Same inner') :
    Related Same (Progress.Alike Same) source other (source.closeGroup inner)
      (other.closeGroup inner') := by
  obtain ⟨node, ahead, depth⟩ := inner
  obtain ⟨node', next⟩ := inner'
  obtain ⟨rfl, hnext⟩ := h
  cases ahead with
  | nil =>
    obtain rfl := hnext.eq_of_nil
    apply steps.finish.bind
    intro place place' _ hplace
    exact .fault (.unclosedGroup hplace)
  | cons token rest =>
    obtain ⟨token', rest', rfl, htoken, hrest⟩ := hnext.exists_of_cons
    by_cases hclose : token.lexeme = .closeParen
    · have hclose' : token'.lexeme = .closeParen := by
        rw [htoken.lexeme.eq_of_operand?_eq_none (by rw [hclose]; rfl), hclose]
      rw [source.closeGroup_close node rest depth hclose,
        other.closeGroup_close node rest' depth hclose']
      exact .ok ⟨rfl, hrest, rfl⟩
    · have hclose' := htoken.lexeme.ne_of_operand?_eq_none rfl hclose
      rw [source.closeGroup_other node rest depth hclose,
        other.closeGroup_other node rest' depth hclose']
      exact .fault (.unclosedGroup htoken.offset)

/-- The rules give results that correspond when they start at cursors that are alike. -/
theorem run (steps : source.InStep Same other) {rule : Rule} {cursor cursor' : Cursor}
    (h : cursor.Alike Same cursor') :
    Related Same (Progress.Alike Same) source other (source.run rule cursor)
      (other.run rule cursor') := by
  -- Along the calls of the first run. The second one makes the same calls, at cursors of its own.
  induction rule, cursor using source.run_induction generalizing cursor' with
  | disjunction cursor ih more =>
    rw [run_disjunction, run_disjunction]
    apply (steps.checkDepth (congrArg (· + 1) h.depth)).bind
    intro _ _ _ _
    apply (ih h.enter).bind
    rintro first ⟨_, next⟩ hfirst ⟨rfl, hnext⟩
    exact (more first hfirst hnext).leave
  | moreDisjuncts_or left offset rest depth ih more =>
    obtain ⟨⟨lexeme, offset'⟩, rest', rfl, htoken, hrest⟩ := h.exists_of_cons
    obtain rfl : lexeme = .or := htoken.lexeme.eq_of_operand?_eq_none rfl
    rw [run_moreDisjuncts_or, run_moreDisjuncts_or]
    exact steps.join_then .or left (ih (.of_ahead hrest _)) more
  | moreDisjuncts_nil left depth =>
    obtain rfl := h.eq_of_nil
    rw [run_moreDisjuncts_nil, run_moreDisjuncts_nil]
    apply steps.finish.bind
    intro _ _ _ _
    exact .ok ⟨rfl, h⟩
  | moreDisjuncts_cons left token rest depth hother =>
    obtain ⟨token', rest', rfl, htoken, -⟩ := h.exists_of_cons
    have hother' := htoken.lexeme.ne_of_operand?_eq_none rfl hother
    rw [run_moreDisjuncts_cons source left rest depth hother,
      run_moreDisjuncts_cons other left rest' depth hother']
    exact .ok ⟨rfl, h⟩
  | conjunction cursor ih more =>
    rw [run_conjunction, run_conjunction]
    apply (steps.checkDepth (congrArg (· + 1) h.depth)).bind
    intro _ _ _ _
    apply (ih h.enter).bind
    rintro first ⟨_, next⟩ hfirst ⟨rfl, hnext⟩
    exact (more first hfirst hnext).leave
  | moreConjuncts_and left offset rest depth ih more =>
    obtain ⟨⟨lexeme, offset'⟩, rest', rfl, htoken, hrest⟩ := h.exists_of_cons
    obtain rfl : lexeme = .and := htoken.lexeme.eq_of_operand?_eq_none rfl
    rw [run_moreConjuncts_and, run_moreConjuncts_and]
    exact steps.join_then .and left (ih (.of_ahead hrest _)) more
  | moreConjuncts_nil left depth =>
    obtain rfl := h.eq_of_nil
    rw [run_moreConjuncts_nil, run_moreConjuncts_nil]
    apply steps.finish.bind
    intro _ _ _ _
    exact .ok ⟨rfl, h⟩
  | moreConjuncts_operand left token rest depth starts ih more =>
    obtain ⟨token', rest', rfl, htoken, -⟩ := h.exists_of_cons
    have starts' := htoken.lexeme.startsOperand_eq.trans starts
    rw [run_moreConjuncts_operand source left rest depth starts,
      run_moreConjuncts_operand other left rest' depth starts']
    exact steps.join_then .and left (ih h) more
  | moreConjuncts_cons left token rest depth hother starts =>
    obtain ⟨token', rest', rfl, htoken, -⟩ := h.exists_of_cons
    have hother' := htoken.lexeme.ne_of_operand?_eq_none rfl hother
    have starts' := htoken.lexeme.startsOperand_eq.trans starts
    rw [run_moreConjuncts_cons source left rest depth hother starts,
      run_moreConjuncts_cons other left rest' depth hother' starts']
    exact .ok ⟨rfl, h⟩
  | unary_not offset rest depth ih =>
    obtain ⟨⟨lexeme, offset'⟩, rest', rfl, htoken, hrest⟩ := h.exists_of_cons
    obtain rfl : lexeme = .not := htoken.lexeme.eq_of_operand?_eq_none rfl
    rw [run_unary_not, run_unary_not]
    apply (steps.checkDepth rfl).bind
    intro _ _ _ _
    apply (ih (.of_ahead hrest _)).bind
    rintro operand ⟨_, next⟩ _ ⟨rfl, hnext⟩
    apply (steps.negate operand.node).bind
    rintro negated _ _ rfl
    exact .ok ⟨rfl, hnext.leave⟩
  | unary_nil depth ih =>
    obtain rfl := h.eq_of_nil
    rw [run_unary_nil, run_unary_nil]
    apply (steps.checkDepth rfl).bind
    intro _ _ _ _
    apply steps.finish.bind
    intro _ _ _ _
    exact (ih (.of_ahead h.ahead _)).leave
  | unary_cons token rest depth hother ih =>
    obtain ⟨token', rest', rfl, htoken, -⟩ := h.exists_of_cons
    have hother' := htoken.lexeme.ne_of_operand?_eq_none rfl hother
    rw [run_unary_cons source rest depth hother, run_unary_cons other rest' depth hother']
    apply (steps.checkDepth rfl).bind
    intro _ _ _ _
    exact (ih (.of_ahead h.ahead _)).leave
  | primary_nil depth =>
    obtain rfl := h.eq_of_nil
    rw [run_primary_nil, run_primary_nil]
    apply (steps.checkDepth rfl).bind
    intro _ _ _ _
    apply steps.finish.bind
    intro _ _ _ hplace
    exact .fault (.missingOperand hplace)
  | primary_open offset rest depth ih =>
    obtain ⟨⟨lexeme, offset'⟩, rest', rfl, htoken, hrest⟩ := h.exists_of_cons
    obtain rfl : lexeme = .openParen := htoken.lexeme.eq_of_operand?_eq_none rfl
    rw [run_primary_open, run_primary_open]
    apply (steps.checkDepth rfl).bind
    intro _ _ _ _
    apply (ih (.of_ahead hrest _)).bind
    intro inner inner' _ hinner
    exact steps.closeGroup hinner
  | primary_operand token text rest depth hlexeme =>
    obtain ⟨token', rest', rfl, htoken, hrest⟩ := h.exists_of_cons
    have hlexeme' : token'.lexeme = .word text ∨ token'.lexeme = .phrase text := by
      rw [← Lexeme.operand?_eq_some_iff] at hlexeme ⊢
      rw [htoken.lexeme.operand?_eq, hlexeme]
    rw [run_primary_operand source rest depth hlexeme,
      run_primary_operand other rest' depth hlexeme']
    apply (steps.checkDepth rfl).bind
    intro _ _ _ _
    exact .ok ⟨rfl, hrest, rfl⟩
  | primary_other token rest depth hother =>
    obtain ⟨token', rest', rfl, htoken, -⟩ := h.exists_of_cons
    have hother' : token'.lexeme.startsOperand = false ∨ token'.lexeme = .not := by
      apply hother.imp
      · exact htoken.lexeme.startsOperand_eq.trans
      · intro hnot
        rw [htoken.lexeme.eq_of_operand?_eq_none (by rw [hnot]; rfl), hnot]
    rw [run_primary_other source rest depth hother, run_primary_other other rest' depth hother']
    apply (steps.checkDepth rfl).bind
    intro _ _ _ _
    exact .fault (.missingOperand htoken.offset)

/-- What comes after the whole expression corresponds as well. -/
theorem conclude (steps : source.InStep Same other) {whole whole' : Progress}
    (h : whole.Alike Same whole') :
    Related Same Eq source other (source.conclude whole) (other.conclude whole') := by
  obtain ⟨node, ahead, depth⟩ := whole
  obtain ⟨node', next⟩ := whole'
  obtain ⟨rfl, hnext⟩ := h
  cases ahead with
  | nil =>
    obtain rfl := hnext.eq_of_nil
    apply steps.finish.bind
    intro _ _ _ _
    exact .ok rfl
  | cons token rest =>
    obtain ⟨token', rest', rfl, htoken, -⟩ := hnext.exists_of_cons
    exact .fault (.strayToken htoken.offset)

end Source.InStep

/-- The results of two parsers on two inputs correspond if their tokens are alike and end alike, and
the second limit is not lower. -/
theorem SearchParser.parse_related {parser other : SearchParser} {input otherInput : String}
    (steps : (Source.ofInput parser.maxDepth input).InStep Same
      (Source.ofInput other.maxDepth otherInput))
    (tokens : List.Forall₂ (Token.Alike Same) (TokenStream.ofString input).tokens
      (TokenStream.ofString otherInput).tokens) :
    Related Same Eq (Source.ofInput parser.maxDepth input)
      (Source.ofInput other.maxDepth otherInput) (parser.parse input) (other.parse otherInput) := by
  rw [parse_eq_run, parse_eq_run]
  apply (steps.run (.of_ahead tokens 0)).bind
  intro whole whole' _ hwhole
  exact steps.conclude hwhole

end BooleanSearch
