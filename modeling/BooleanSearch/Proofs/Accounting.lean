import BooleanSearch.Proofs.Printing
import BooleanSearch.Proofs.StrayParenthesis

/-! # What a query keeps of its tokens

Every word and every phrase becomes one literal, every `OR` one disjunction and every `NOT` one
negation. A conjunction may have no token of its own, but the literals and the disjunctions tell how
many there are. Groups leave no trace in a query, and each is closed behind the place where it is
opened.
-/

namespace BooleanSearch

/-! ### Counting in queries -/

namespace Query

/-- The number of nodes that join two operands by a connective. -/
def joins (op : Connective) : Query → Nat
  | .literal _ => 0
  | .binary other left right => left.joins op + right.joins op + if other = op then 1 else 0
  | .negation operand => operand.joins op

/-- The number of nodes that negate an operand. -/
def negations : Query → Nat
  | .literal _ => 0
  | .binary _ left right => left.negations + right.negations
  | .negation operand => operand.negations + 1

/-- A query has one literal more than it has joints. -/
theorem joins_add_joins (query : Query) :
    query.joins .and + query.joins .or + 1 = query.literals.length := by
  induction query with
  | literal text => rfl
  | binary op left right ihl ihr =>
    rw [literals, List.length_append, ← ihl, ← ihr]
    cases op <;> simp only [joins, reduceCtorEq, if_true, if_false] <;> omega
  | negation operand ih => exact ih

end Query

namespace Derives

variable {place : Nonterminal} {read : List Lexeme} {query : Query}

/-- Every `OR` becomes a disjunction. -/
theorem joins_or (h : Derives place read query) : query.joins .or = read.count .or := by
  induction h with
  | word text | phrase text => rfl
  | group h ih => simpa using ih
  | negation h ih => simpa [Query.joins] using ih
  | operand h ih | conjunct h ih | disjunct h ih => exact ih
  | conjoin hl hr ihl ihr | adjoin hl hr ihl ihr => simp [Query.joins, ihl, ihr]
  | disjoin hl hr ihl ihr => simp [Query.joins, ihl, ihr, Nat.add_assoc]

/-- Every `NOT` becomes a negation. -/
theorem negations_eq (h : Derives place read query) : query.negations = read.count .not := by
  induction h with
  | word text | phrase text => rfl
  | group h ih => simpa using ih
  | negation h ih => simp [Query.negations, ih]
  | operand h ih | conjunct h ih | disjunct h ih => exact ih
  | conjoin hl hr ihl ihr | adjoin hl hr ihl ihr | disjoin hl hr ihl ihr =>
    simp [Query.negations, ihl, ihr]

end Derives

/-! ### Groups that are opened before they are closed -/

/-- Wherever some lexemes are cut, no more groups have been closed than opened. -/
def Opened (read : List Lexeme) : Prop :=
  ∀ start, start <+: read → start.count .closeParen ≤ start.count .openParen

namespace Opened

variable {read before after : List Lexeme}

theorem nil : Opened [] := by
  intro start hstart
  rw [List.prefix_nil.mp hstart]
  exact le_rfl

/-- A lexeme that is no parenthesis opens and closes nothing. -/
theorem cons {lexeme : Lexeme} (hopen : lexeme ≠ .openParen) (hclose : lexeme ≠ .closeParen)
    (h : Opened read) : Opened (lexeme :: read) := by
  intro start hstart
  rcases List.prefix_cons_iff.mp hstart with rfl | ⟨front, rfl, hfront⟩
  · exact le_rfl
  · rw [List.count_cons_of_ne hopen, List.count_cons_of_ne hclose]
    exact h front hfront

/-- Lexemes that have closed all their groups can stand before others. -/
theorem append (hl : Opened before) (closed : before.count .openParen = before.count .closeParen)
    (hr : Opened after) : Opened (before ++ after) := by
  intro start hstart
  rcases List.prefix_or_prefix_of_prefix hstart (List.prefix_append before after) with
    h | ⟨front, rfl⟩
  · exact hl start h
  · have hfront : front <+: after := (List.prefix_append_right_inj before).mp hstart
    rw [List.count_append, List.count_append, closed]
    exact Nat.add_le_add_left (hr front hfront) _

/-- Lexemes that have closed all their groups can stand between parentheses. -/
theorem group (h : Opened read) (closed : read.count .openParen = read.count .closeParen) :
    Opened (.openParen :: (read ++ [.closeParen])) := by
  intro start hstart
  rcases List.prefix_cons_iff.mp hstart with rfl | ⟨inner, rfl, hinner⟩
  · exact le_rfl
  · -- Only the last parenthesis closes the group that the first one opens.
    have step : inner.count .closeParen ≤ inner.count .openParen + 1 := by
      rcases List.prefix_concat_iff.mp hinner with rfl | hinner
      · simp [closed]
      · exact Nat.le_succ_of_le (h inner hinner)
    simpa using step

end Opened

/-- An expression opens its groups before it closes them. -/
theorem Derives.opened {place : Nonterminal} {read : List Lexeme} {query : Query}
    (h : Derives place read query) : Opened read := by
  induction h with
  | word text | phrase text => exact .cons (by simp) (by simp) .nil
  | group h ih => exact ih.group h.count_openParen
  | negation h ih => exact .cons (by simp) (by simp) ih
  | operand h ih | conjunct h ih | disjunct h ih => exact ih
  | conjoin hl hr ihl ihr | disjoin hl hr ihl ihr =>
    exact ihl.append hl.count_openParen (.cons (by simp) (by simp) ihr)
  | adjoin hl hr ihl ihr => exact ihl.append hl.count_openParen ihr

/-- What a parser accepts has one literal for every word and phrase, in order and none of them
empty, one disjunction for every `OR` and one negation for every `NOT`, and all other joints are
conjunctions. It closes as many groups as it opens, and none before it is opened. -/
theorem parse_keeps_tokens (limit : Nat) {input : String} {query : Query}
    (h : (SearchParser.ofLimit limit).parse input = .ok query) :
    ∃ tokens, tokenize input = .ok tokens ∧
      query.literals = operands (lexemes tokens) ∧ (∀ text ∈ query.literals, text ≠ "") ∧
      query.joins .or = (lexemes tokens).count .or ∧
      query.negations = (lexemes tokens).count .not ∧
      query.joins .and + query.joins .or + 1 = query.literals.length ∧
      (lexemes tokens).count .openParen = (lexemes tokens).count .closeParen ∧
      ∀ start, start <+: tokens →
        (lexemes start).count .closeParen ≤ (lexemes start).count .openParen := by
  obtain ⟨tokens, tokenized, derived⟩ := SearchParser.exists_derivation h
  refine ⟨tokens, tokenized, derived.literals_eq, SearchParser.literals_ne_empty h,
    derived.joins_or, derived.negations_eq, query.joins_add_joins, derived.count_openParen, ?_⟩
  intro start hstart
  exact derived.opened (lexemes start) (hstart.map Token.lexeme)

/-- Of the three joints one has no token, and the groups leave nothing behind. -/
theorem parse_keeps_tokens_adjacent_group :
    let query : Query := .binary .or
      (.binary .and (.literal "a") (.binary .or (.negation (.literal "b")) (.literal "c d")))
      (.literal "e")
    (SearchParser.ofLimit 50).parse "a (NOT b OR \"c d\") OR (e)" = .ok query ∧
    query.joins .and = 1 ∧
    ∃ tokens, tokenize "a (NOT b OR \"c d\") OR (e)" = .ok tokens ∧
      operands (lexemes tokens) = ["a", "b", "c d", "e"] ∧ (lexemes tokens).count .or = 2 ∧
      (lexemes tokens).count .not = 1 ∧
      (lexemes tokens).count .openParen = (lexemes tokens).count .closeParen := by
  intro query
  have tokenized : tokenize "a (NOT b OR \"c d\") OR (e)" = .ok [⟨.word "a", 0⟩, ⟨.openParen, 2⟩,
      ⟨.not, 3⟩, ⟨.word "b", 7⟩, ⟨.or, 9⟩, ⟨.phrase "c d", 12⟩, ⟨.closeParen, 17⟩, ⟨.or, 19⟩,
      ⟨.openParen, 22⟩, ⟨.word "e", 23⟩, ⟨.closeParen, 24⟩] := by cbv
  have word (text : String) : Derives .conjunction [.word text] (.literal text) :=
    .conjunct (.operand (.word text))
  have inner : Derives .disjunction ([.not, .word "b"] ++ .or :: [.phrase "c d"])
      (.binary .or (.negation (.literal "b")) (.literal "c d")) :=
    .disjoin (.disjunct (.conjunct (.negation (.operand (.word "b")))))
      (.conjunct (.operand (.phrase "c d")))
  have derived : Derives .disjunction (([.word "a"] ++ [.openParen, .not, .word "b", .or,
      .phrase "c d", .closeParen]) ++ .or :: [.openParen, .word "e", .closeParen]) query :=
    .disjoin (.disjunct (.adjoin (word "a") (.operand (.group inner))))
      (.conjunct (.operand (.group (.disjunct (word "e")))))
  have accepted : (SearchParser.ofLimit 50).parse "a (NOT b OR \"c d\") OR (e)" = .ok query := by
    rw [SearchParser.parse_of_derives _ tokenized derived]
    decide
  obtain ⟨tokens, htokens, hliterals, -, hor, hnot, hand, hgroups, -⟩ :=
    parse_keeps_tokens 50 accepted
  have conjunctions : query.joins .and + 2 + 1 = 4 := hand
  exact ⟨accepted, by omega, tokens, htokens, hliterals.symm, hor.symm, hnot.symm,
    hgroups⟩

end BooleanSearch
