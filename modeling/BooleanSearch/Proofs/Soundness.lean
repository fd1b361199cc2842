import BooleanSearch.Proofs.Grammar
import BooleanSearch.Proofs.Rules

/-! # What the parser reads is an expression

Every rule that succeeds has read lexemes that the grammar derives. The two rules that go on behind
a node extend whatever has been read of it so far.
-/

namespace BooleanSearch

/-! ### What stands between two cursors -/

/-- Reading goes on behind some tokens, whose lexemes mean something, and is back at its level. -/
def Cursor.Moves (start stop : Cursor) (meaning : List Lexeme → Prop) : Prop :=
  ∃ tokens, start.ahead = tokens ++ stop.ahead ∧ stop.depth = start.depth ∧ meaning (lexemes tokens)

namespace Cursor.Moves

variable {start middle stop : Cursor} {meaning first second : List Lexeme → Prop}

theorem stay (h : meaning []) : start.Moves start meaning := ⟨[], rfl, rfl, h⟩

theorem token {token : Token} {rest : List Token} {depth : Nat}
    (h : Cursor.Moves ⟨rest, depth⟩ stop fun read => meaning (token.lexeme :: read)) :
    Cursor.Moves ⟨token :: rest, depth⟩ stop meaning := by
  obtain ⟨tokens, hahead, hdepth, hmeaning⟩ := h
  exact ⟨token :: tokens, congrArg (token :: ·) hahead, hdepth, hmeaning⟩

theorem imp (h : start.Moves stop first) (himp : ∀ read, first read → meaning read) :
    start.Moves stop meaning := by
  obtain ⟨tokens, hahead, hdepth, hfirst⟩ := h
  exact ⟨tokens, hahead, hdepth, himp _ hfirst⟩

theorem trans (h : start.Moves middle first) (h' : middle.Moves stop second)
    (hmeaning : ∀ read others, first read → second others → meaning (read ++ others)) :
    start.Moves stop meaning := by
  obtain ⟨tokens, hahead, hdepth, hfirst⟩ := h
  obtain ⟨others, hahead', hdepth', hsecond⟩ := h'
  refine ⟨tokens ++ others, ?_, hdepth'.trans hdepth, ?_⟩
  · rw [hahead, hahead', List.append_assoc]
  · rw [lexemes, List.map_append]
    exact hmeaning _ _ hfirst hsecond

theorem leave (h : start.enter.Moves stop meaning) : start.Moves stop.leave meaning := by
  obtain ⟨tokens, hahead, hdepth, hmeaning⟩ := h
  refine ⟨tokens, hahead, ?_, hmeaning⟩
  rw [Cursor.leave, hdepth]
  exact Nat.add_sub_cancel start.depth 1

end Cursor.Moves

/-- Behind any expression of `left`, these lexemes make an expression of `query`. -/
def Extends (place : Nonterminal) (left : Query) (read : List Lexeme) (query : Query) : Prop :=
  ∀ before, Derives place before left → Derives place (before ++ read) query

theorem Extends.refl (place : Nonterminal) (query : Query) : Extends place query [] query := by
  intro before h
  rwa [List.append_nil]

theorem Extends.trans {place : Nonterminal} {left both query : Query} {read others : List Lexeme}
    (h : Extends place left read both) (h' : Extends place both others query) :
    Extends place left (read ++ others) query := by
  intro before hbefore
  rw [← List.append_assoc]
  exact h' _ (h before hbefore)

theorem Extends.disjoin {read : List Lexeme} {right : Query} (left : Query)
    (h : Derives .conjunction read right) :
    Extends .disjunction left (.or :: read) (.binary .or left right) :=
  fun _ hbefore => .disjoin hbefore h

theorem Extends.conjoin {read : List Lexeme} {right : Query} (left : Query)
    (h : Derives .unary read right) :
    Extends .conjunction left (.and :: read) (.binary .and left right) :=
  fun _ hbefore => .conjoin hbefore h

theorem Extends.adjoin {read : List Lexeme} {right : Query} (left : Query)
    (h : Derives .unary read right) :
    Extends .conjunction left read (.binary .and left right) :=
  fun _ hbefore => .adjoin hbefore h

/-- What the grammar tells of the lexemes that a rule has read up to its node. -/
def Rule.Reads : Rule → Query → List Lexeme → Prop
  | .disjunction, query, read => Derives .disjunction read query
  | .moreDisjuncts left, query, read => Extends .disjunction left.query read query
  | .conjunction, query, read => Derives .conjunction read query
  | .moreConjuncts left, query, read => Extends .conjunction left.query read query
  | .unary, query, read => Derives .unary read query
  | .primary, query, read => Derives .primary read query

/-! ### Rules that succeed -/

namespace Source

variable (source : Source)

theorem bind_eq_ok {α β : Type} {first : Except SearchError α} {next : α → Except SearchError β}
    {result : β} :
    (first >>= next) = .ok result ↔ ∃ value, first = .ok value ∧ next value = .ok result := by
  constructor
  · intro h
    cases first with
    | error fault => cases h
    | ok value => exact ⟨value, rfl, h⟩
  · rintro ⟨value, rfl, h⟩
    exact h

theorem bind_eq_error {α β : Type} {first : Except SearchError α}
    {next : α → Except SearchError β} {error : SearchError} :
    (first >>= next) = .error error ↔
      first = .error error ∨ ∃ value, first = .ok value ∧ next value = .error error := by
  constructor
  · intro h
    cases first with
    | error fault =>
      cases h
      exact Or.inl rfl
    | ok value => exact Or.inr ⟨value, rfl, h⟩
  · rintro (rfl | ⟨value, rfl, h⟩)
    · rfl
    · exact h

theorem pure_eq_ok {α : Type} {value result : α} :
    (pure value : Except SearchError α) = .ok result ↔ value = result :=
  ⟨Except.ok.inj, congrArg Except.ok⟩

theorem le_of_checkDepth {depth : Nat} {done : Unit} (h : source.checkDepth depth = .ok done) :
    depth ≤ source.maxDepth := by
  unfold checkDepth at h
  split at h
  · next within => exact within
  · cases h

theorem join_ok {op : Connective} {left right both : Node}
    (h : source.join op left right = .ok both) :
    both.query = .binary op left.query right.query := by
  obtain ⟨_, _, h⟩ := bind_eq_ok.mp h
  rw [← pure_eq_ok.mp h]

/-- Behind an operand that has been joined, the rest extends what stood before it. -/
theorem extends_of_join {place : Nonterminal} {op : Connective} {left right both : Node}
    {read others : List Lexeme} {query : Query} (h : source.join op left right = .ok both)
    (first : Extends place left.query read (.binary op left.query right.query))
    (more : Extends place both.query others query) :
    Extends place left.query (read ++ others) query := by
  rw [join_ok source h] at more
  exact first.trans more

theorem negate_ok {operand negated : Node} (h : source.negate operand = .ok negated) :
    negated.query = .negation operand.query := by
  obtain ⟨_, _, h⟩ := bind_eq_ok.mp h
  rw [← pure_eq_ok.mp h]

theorem closeGroup_ok {inner progress : Progress} (h : source.closeGroup inner = .ok progress) :
    ∃ offset, inner.next.ahead = ⟨.closeParen, offset⟩ :: progress.next.ahead ∧
      progress.node = inner.node ∧ progress.next.depth = inner.next.depth - 1 := by
  unfold closeGroup at h
  split at h
  · rename_i offset after following
    cases h
    exact ⟨offset, following, rfl, rfl⟩
  · cases h
  · obtain ⟨_, _, h⟩ := bind_eq_ok.mp h
    cases h

/-- A group is read up to its own parenthesis. -/
theorem moves_group {offset depth : Nat} {rest : List Token} {inner progress : Progress}
    (h : source.closeGroup inner = .ok progress)
    (hinner : Cursor.Moves ⟨rest, depth + 1⟩ inner.next
      (Derives .disjunction · inner.node.query)) :
    Cursor.Moves ⟨⟨.openParen, offset⟩ :: rest, depth⟩ progress.next
      (Derives .primary · progress.node.query) := by
  obtain ⟨close, hclose, hnode, hdepth⟩ := closeGroup_ok source h
  obtain ⟨tokens, hahead, hlevel, hread⟩ := hinner
  refine ⟨⟨.openParen, offset⟩ :: (tokens ++ [⟨.closeParen, close⟩]), ?_, ?_, ?_⟩
  · simpa [hclose] using hahead
  · rw [hdepth, hlevel]
    exact Nat.add_sub_cancel depth 1
  · simpa [hnode] using Derives.group hread

/-- A rule that succeeds has read some tokens, is back at its level, and has read an expression of
its kind. -/
theorem run_sound {rule : Rule} {cursor : Cursor} {progress : Progress}
    (h : source.run rule cursor = .ok progress) :
    cursor.Moves progress.next (rule.Reads progress.node.query) := by
  induction rule, cursor using source.run_induction generalizing progress with
  | disjunction cursor ih more =>
    simp only [run_disjunction, bind_eq_ok, pure_eq_ok] at h
    obtain ⟨_, _, first, hfirst, whole, hwhole, rfl⟩ := h
    apply Cursor.Moves.leave
    apply (ih hfirst).trans (more first hfirst hwhole)
    intro read others hread hmore
    exact hmore read (.disjunct hread)
  | moreDisjuncts_or left offset rest depth ih more =>
    simp only [run_moreDisjuncts_or, bind_eq_ok] at h
    obtain ⟨right, hright, both, hboth, h⟩ := h
    apply Cursor.Moves.token
    apply (ih hright).trans (more right both hright h)
    intro read others hread hmore
    exact source.extends_of_join hboth (.disjoin left.query hread) hmore
  | moreDisjuncts_nil left depth =>
    simp only [run_moreDisjuncts_nil, bind_eq_ok, pure_eq_ok] at h
    obtain ⟨_, _, rfl⟩ := h
    exact .stay (.refl _ _)
  | moreDisjuncts_cons left token rest depth other =>
    rw [run_moreDisjuncts_cons source left rest depth other] at h
    cases h
    exact .stay (.refl _ _)
  | conjunction cursor ih more =>
    simp only [run_conjunction, bind_eq_ok, pure_eq_ok] at h
    obtain ⟨_, _, first, hfirst, whole, hwhole, rfl⟩ := h
    apply Cursor.Moves.leave
    apply (ih hfirst).trans (more first hfirst hwhole)
    intro read others hread hmore
    exact hmore read (.conjunct hread)
  | moreConjuncts_and left offset rest depth ih more =>
    simp only [run_moreConjuncts_and, bind_eq_ok] at h
    obtain ⟨right, hright, both, hboth, h⟩ := h
    apply Cursor.Moves.token
    apply (ih hright).trans (more right both hright h)
    intro read others hread hmore
    exact source.extends_of_join hboth (.conjoin left.query hread) hmore
  | moreConjuncts_nil left depth =>
    simp only [run_moreConjuncts_nil, bind_eq_ok, pure_eq_ok] at h
    obtain ⟨_, _, rfl⟩ := h
    exact .stay (.refl _ _)
  | moreConjuncts_operand left token rest depth starts ih more =>
    simp only [run_moreConjuncts_operand source left rest depth starts, bind_eq_ok] at h
    obtain ⟨right, hright, both, hboth, h⟩ := h
    apply (ih hright).trans (more right both hright h)
    intro read others hread hmore
    exact source.extends_of_join hboth (.adjoin left.query hread) hmore
  | moreConjuncts_cons left token rest depth other starts =>
    rw [run_moreConjuncts_cons source left rest depth other starts] at h
    cases h
    exact .stay (.refl _ _)
  | unary_not offset rest depth ih =>
    simp only [run_unary_not, bind_eq_ok, pure_eq_ok] at h
    obtain ⟨_, _, operand, hoperand, negated, hnegated, rfl⟩ := h
    apply Cursor.Moves.leave
    apply Cursor.Moves.token
    apply (ih hoperand).imp
    intro read hread
    rw [negate_ok source hnegated]
    exact .negation hread
  | unary_nil depth ih =>
    simp only [run_unary_nil, bind_eq_ok, pure_eq_ok] at h
    obtain ⟨_, _, _, _, operand, hoperand, rfl⟩ := h
    apply Cursor.Moves.leave
    exact (ih hoperand).imp fun _ => .operand
  | unary_cons token rest depth other ih =>
    simp only [run_unary_cons source rest depth other, bind_eq_ok, pure_eq_ok] at h
    obtain ⟨_, _, operand, hoperand, rfl⟩ := h
    apply Cursor.Moves.leave
    exact (ih hoperand).imp fun _ => .operand
  | primary_nil depth =>
    simp only [run_primary_nil, bind_eq_ok] at h
    obtain ⟨_, _, _, _, h⟩ := h
    cases h
  | primary_open offset rest depth ih =>
    simp only [run_primary_open, bind_eq_ok] at h
    obtain ⟨_, _, inner, hinner, h⟩ := h
    exact source.moves_group h (ih hinner)
  | primary_operand token text rest depth hlexeme =>
    simp only [run_primary_operand source rest depth hlexeme, bind_eq_ok, pure_eq_ok] at h
    obtain ⟨_, _, rfl⟩ := h
    apply Cursor.Moves.token
    apply Cursor.Moves.stay
    rcases hlexeme with hword | hphrase
    · rw [hword]
      exact .word text
    · rw [hphrase]
      exact .phrase text
  | primary_other token rest depth other =>
    simp only [run_primary_other source rest depth other, bind_eq_ok] at h
    obtain ⟨_, _, h⟩ := h
    cases h

end Source

end BooleanSearch
