import BooleanSearch.Query
import BooleanSearch.Token

/-! # The grammar of search expressions

The grammar is stated without a parser: which lexemes derive which query. A disjunction is a list
of conjunctions joined by `OR`, a conjunction a list of operands joined by `AND` or by nothing,
and both lists are folded to the left.
-/

namespace BooleanSearch

/-- The lexemes of some tokens. -/
abbrev lexemes (tokens : List Token) : List Lexeme := tokens.map Token.lexeme

/-- The text of a lexeme that is an operand by itself. -/
def Lexeme.operand? : Lexeme → Option String
  | .phrase text | .word text => some text
  | .and | .or | .not | .openParen | .closeParen => none

/-- The texts of the words and phrases among some lexemes, in order. -/
def operands (lexemes : List Lexeme) : List String := lexemes.filterMap Lexeme.operand?

@[simp] theorem operands_nil : operands [] = [] := rfl

@[simp] theorem operands_append (before after : List Lexeme) :
    operands (before ++ after) = operands before ++ operands after := List.filterMap_append

@[simp] theorem operands_cons (lexeme : Lexeme) (rest : List Lexeme) :
    operands (lexeme :: rest) = lexeme.operand?.toList ++ operands rest := by
  cases lexeme <;> rfl

/-- The texts of the literals of a query, from left to right. -/
def Query.literals : Query → List String
  | .literal text => [text]
  | .binary _ left right => left.literals ++ right.literals
  | .negation operand => operand.literals

/-- The kinds of expression that the grammar tells apart, from the loosest to the tightest. -/
inductive Nonterminal
  | disjunction
  | conjunction
  | unary
  | primary

/-- Which lexemes are an expression of which kind, and the query that they stand for. -/
inductive Derives : Nonterminal → List Lexeme → Query → Prop
  | word (text : String) : Derives .primary [.word text] (.literal text)
  | phrase (text : String) : Derives .primary [.phrase text] (.literal text)
  | group {inner query} (h : Derives .disjunction inner query) :
      Derives .primary (.openParen :: (inner ++ [.closeParen])) query
  | operand {lexemes query} (h : Derives .primary lexemes query) :
      Derives .unary lexemes query
  | negation {lexemes query} (h : Derives .unary lexemes query) :
      Derives .unary (.not :: lexemes) (.negation query)
  | conjunct {lexemes query} (h : Derives .unary lexemes query) :
      Derives .conjunction lexemes query
  /-- Two operands with `AND` between them. -/
  | conjoin {before after left right} (hl : Derives .conjunction before left)
      (hr : Derives .unary after right) :
      Derives .conjunction (before ++ .and :: after) (.binary .and left right)
  /-- Two operands side by side. -/
  | adjoin {before after left right} (hl : Derives .conjunction before left)
      (hr : Derives .unary after right) :
      Derives .conjunction (before ++ after) (.binary .and left right)
  | disjunct {lexemes query} (h : Derives .conjunction lexemes query) :
      Derives .disjunction lexemes query
  | disjoin {before after left right} (hl : Derives .disjunction before left)
      (hr : Derives .conjunction after right) :
      Derives .disjunction (before ++ .or :: after) (.binary .or left right)

namespace Derives

/-- Every word and every phrase becomes a literal, in the same order. -/
theorem literals_eq {place : Nonterminal} {lexemes : List Lexeme} {query : Query}
    (h : Derives place lexemes query) : query.literals = operands lexemes := by
  induction h with
  | word text => rfl
  | phrase text => rfl
  | group h ih => simp [ih, Lexeme.operand?]
  | operand h ih => exact ih
  | negation h ih => simpa [Query.literals, Lexeme.operand?] using ih
  | conjunct h ih => exact ih
  | conjoin hl hr ihl ihr => simp [Query.literals, ihl, ihr, Lexeme.operand?]
  | adjoin hl hr ihl ihr => simp [Query.literals, ihl, ihr]
  | disjunct h ih => exact ih
  | disjoin hl hr ihl ihr => simp [Query.literals, ihl, ihr, Lexeme.operand?]

/-- An expression can stand wherever a looser one is asked for. -/
theorem disjunction_of_unary {lexemes : List Lexeme} {query : Query}
    (h : Derives .unary lexemes query) : Derives .disjunction lexemes query :=
  .disjunct (.conjunct h)

/-- A disjunction becomes an operand between parentheses. -/
theorem unary_group {inner : List Lexeme} {query : Query} (h : Derives .disjunction inner query) :
    Derives .unary (.openParen :: (inner ++ [.closeParen])) query :=
  .operand (.group h)

/-- A rule that extends an expression on its right derives exactly the lists of parts, joined from
left to right. -/
theorem iff_foldl {place part : Nonterminal} {op : Connective} (More : List Lexeme → Query → Prop)
    (rule : ∀ lexemes query, Derives place lexemes query ↔ Derives part lexemes query ∨
      ∃ before after left right, Derives place before left ∧ More after right ∧
        lexemes = before ++ after ∧ query = .binary op left right)
    {lexemes : List Lexeme} {query : Query} :
    Derives place lexemes query ↔
      ∃ before first, ∃ others : List (List Lexeme × Query), Derives part before first ∧
        (∀ other ∈ others, More other.1 other.2) ∧
        lexemes = before ++ others.flatMap Prod.fst ∧
        query = others.foldl (fun left other => .binary op left other.2) first := by
  constructor
  -- On the query, since the rule takes its last part off the right end.
  · induction query generalizing lexemes with
    | binary _ left right ihl ihr =>
      intro h
      rcases (rule _ _).mp h with hpart | ⟨before, after, l, r, hl, hr, rfl, heq⟩
      · exact ⟨lexemes, _, [], hpart, by simp, by simp, rfl⟩
      · obtain ⟨rfl, rfl, rfl⟩ := Query.binary.inj heq
        obtain ⟨start, first, others, hfirst, hothers, rfl, rfl⟩ := ihl hl
        refine ⟨start, first, others ++ [(after, right)], hfirst, ?_, by simp, by simp⟩
        intro other hmem
        rcases List.mem_append.mp hmem with hmem | hmem
        · exact hothers other hmem
        · rw [List.mem_singleton.mp hmem]
          exact hr
    | _ =>
      intro h
      rcases (rule _ _).mp h with hpart | ⟨_, _, _, _, _, _, _, heq⟩
      · exact ⟨lexemes, _, [], hpart, by simp, by simp, rfl⟩
      · cases heq
  · rintro ⟨before, first, others, hfirst, hothers, rfl, rfl⟩
    have h : Derives place before first := (rule _ _).mpr (Or.inl hfirst)
    clear hfirst
    induction others generalizing before first with
    | nil => simpa using h
    | cons other others ih =>
      have hother : More other.1 other.2 := hothers other List.mem_cons_self
      have hjoin : Derives place (before ++ other.1) (.binary op first other.2) :=
        (rule _ _).mpr (Or.inr ⟨before, other.1, first, other.2, h, hother, rfl, rfl⟩)
      simpa using ih _ _ (fun p hp => hothers p (by simp [hp])) hjoin

/-- A disjunction is a conjunction and a list of conjunctions after `OR`, folded to the left. -/
theorem disjunction_iff_foldl {lexemes : List Lexeme} {query : Query} :
    Derives .disjunction lexemes query ↔
      ∃ before first, ∃ others : List (List Lexeme × Query), Derives .conjunction before first ∧
        (∀ other ∈ others, ∃ inner, other.1 = .or :: inner ∧ Derives .conjunction inner other.2) ∧
        lexemes = before ++ others.flatMap Prod.fst ∧
        query = others.foldl (fun left other => .binary .or left other.2) first := by
  apply iff_foldl (fun after right =>
    ∃ inner, after = .or :: inner ∧ Derives .conjunction inner right)
  intro lexemes query
  constructor
  · intro h
    cases h with
    | disjunct h => exact Or.inl h
    | disjoin hl hr => exact Or.inr ⟨_, _, _, _, hl, ⟨_, rfl, hr⟩, rfl, rfl⟩
  · rintro (h | ⟨_, _, _, _, hl, ⟨_, rfl, hr⟩, rfl, rfl⟩)
    · exact .disjunct h
    · exact .disjoin hl hr

/-- A conjunction is an operand and a list of operands, each after `AND` or after nothing, folded
to the left. -/
theorem conjunction_iff_foldl {lexemes : List Lexeme} {query : Query} :
    Derives .conjunction lexemes query ↔
      ∃ before first, ∃ others : List (List Lexeme × Query), Derives .unary before first ∧
        (∀ other ∈ others, ∃ inner, (other.1 = .and :: inner ∨ other.1 = inner) ∧
          Derives .unary inner other.2) ∧
        lexemes = before ++ others.flatMap Prod.fst ∧
        query = others.foldl (fun left other => .binary .and left other.2) first := by
  apply iff_foldl (fun after right =>
    ∃ inner, (after = .and :: inner ∨ after = inner) ∧ Derives .unary inner right)
  intro lexemes query
  constructor
  · intro h
    cases h with
    | conjunct h => exact Or.inl h
    | conjoin hl hr => exact Or.inr ⟨_, _, _, _, hl, ⟨_, Or.inl rfl, hr⟩, rfl, rfl⟩
    | adjoin hl hr => exact Or.inr ⟨_, _, _, _, hl, ⟨_, Or.inr rfl, hr⟩, rfl, rfl⟩
  · rintro (h | ⟨_, _, _, _, hl, ⟨_, rfl | rfl, hr⟩, rfl, rfl⟩)
    · exact .conjunct h
    · exact .conjoin hl hr
    · exact .adjoin hl hr

end Derives

end BooleanSearch
