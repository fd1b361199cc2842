import BooleanSearch.Proofs.Grammar
import Mathlib.Data.List.MinMax
import Mathlib.Order.Nat

/-! # How deep the operands of an expression stand

A word or phrase stands in a number of open groups, which its lexemes show, and under a number of
negations, which the query shows. Reading it takes four rules, four more for every open group, and
one more for every negation. The nesting of an expression is the largest of these numbers.
-/

namespace BooleanSearch

/-- For every word and phrase, in order, the number of groups that are open there when `opened`
are open at the start. -/
def openGroups (opened : Nat) : List Lexeme → List Nat
  | [] => []
  | .openParen :: rest => openGroups (opened + 1) rest
  | .closeParen :: rest => openGroups (opened - 1) rest
  | .phrase _ :: rest | .word _ :: rest => opened :: openGroups opened rest
  | .and :: rest | .or :: rest | .not :: rest => openGroups opened rest

/-- For every literal, from left to right, the number of negations above it when the query itself
stands under `above` of them. -/
def Query.negationsAbove (above : Nat) : Query → List Nat
  | .literal _ => [above]
  | .binary _ left right => left.negationsAbove above ++ right.negationsAbove above
  | .negation operand => operand.negationsAbove (above + 1)

/-- For every operand, the number of rules that are being read there. -/
def ruleLevels (opened above : Nat) (lexemes : List Lexeme) (query : Query) : List Nat :=
  (openGroups opened lexemes).zipWith (fun groups negations => 4 + 4 * groups + negations)
    (query.negationsAbove above)

/-- The largest number of rules that are being read at once. -/
def nesting (opened above : Nat) (lexemes : List Lexeme) (query : Query) : Nat :=
  (ruleLevels opened above lexemes query).foldr max 0

theorem length_openGroups (opened : Nat) (lexemes : List Lexeme) :
    (openGroups opened lexemes).length = (operands lexemes).length := by
  fun_induction openGroups opened lexemes <;> simp_all [Lexeme.operand?]

theorem length_negationsAbove (above : Nat) (query : Query) :
    (query.negationsAbove above).length = query.literals.length := by
  induction query generalizing above with
  | literal text => rfl
  | binary op left right ihl ihr => simp [Query.negationsAbove, Query.literals, ihl, ihr]
  | negation operand ih => exact ih (above + 1)

private theorem foldr_max_append (levels others : List Nat) :
    (levels ++ others).foldr max 0 = max (levels.foldr max 0) (others.foldr max 0) := by
  induction levels with
  | nil => simp
  | cons level levels ih => simp [ih, max_assoc]

/-- The nesting is within a bound exactly if every operand is. -/
theorem nesting_le_iff {opened above bound : Nat} {lexemes : List Lexeme} {query : Query} :
    nesting opened above lexemes query ≤ bound ↔
      ∀ (i groups negations : Nat), (openGroups opened lexemes)[i]? = some groups →
        (query.negationsAbove above)[i]? = some negations →
        4 + 4 * groups + negations ≤ bound := by
  constructor
  · intro h i groups negations hgroups hnegations
    have hlevel : (ruleLevels opened above lexemes query)[i]? =
        some (4 + 4 * groups + negations) := by
      simp [ruleLevels, List.getElem?_zipWith, hgroups, hnegations]
    have hmem := List.mem_of_getElem? hlevel
    exact (List.le_max_of_le hmem le_rfl).trans h
  · intro h
    apply List.max_le_of_forall_le
    intro level hlevel
    obtain ⟨i, hi⟩ := List.mem_iff_getElem?.mp hlevel
    obtain ⟨groups, negations, hgroups, hnegations, rfl⟩ := List.getElem?_zipWith_eq_some.mp hi
    exact h i groups negations hgroups hnegations

namespace Derives

variable {place : Nonterminal} {before lexemes : List Lexeme} {left query : Query}

/-- An expression closes every group that it opens. -/
theorem openGroups_append (h : Derives place before query) (opened : Nat) (after : List Lexeme) :
    openGroups opened (before ++ after) = openGroups opened before ++ openGroups opened after := by
  induction h generalizing opened after with
  | word text => rfl
  | phrase text => rfl
  | group h ih => simp [openGroups, ih]
  | operand h ih => exact ih opened after
  | negation h ih => exact ih opened after
  | conjunct h ih => exact ih opened after
  | conjoin hl hr ihl ihr => simp [openGroups, ihl, ihr]
  | adjoin hl hr ihl ihr => simp [ihl, ihr]
  | disjunct h ih => exact ih opened after
  | disjoin hl hr ihl ihr => simp [openGroups, ihl, ihr]

theorem length_openGroups_eq (h : Derives place lexemes query) (opened above : Nat) :
    (openGroups opened lexemes).length = (query.negationsAbove above).length := by
  rw [length_openGroups, length_negationsAbove, h.literals_eq]

/-- Two expressions side by side nest as deep as the deeper one. -/
theorem nesting_binary (h : Derives place before left) (opened above : Nat) (op : Connective)
    (after : List Lexeme) (right : Query) :
    nesting opened above (before ++ after) (.binary op left right) =
      max (nesting opened above before left) (nesting opened above after right) := by
  simp only [nesting, ruleLevels, Query.negationsAbove, h.openGroups_append]
  rw [List.zipWith_append (h.length_openGroups_eq opened above), foldr_max_append]

/-- Two expressions side by side nest less if both of them do. -/
theorem nesting_binary_mono {place' : Nonterminal} {others after after' : List Lexeme}
    {right : Query} {opened above : Nat} (h : Derives place before left)
    (h' : Derives place' others left) (op : Connective)
    (hl : nesting opened above before left ≤ nesting opened above others left)
    (hr : nesting opened above after right ≤ nesting opened above after' right) :
    nesting opened above (before ++ after) (.binary op left right) ≤
      nesting opened above (others ++ after') (.binary op left right) := by
  calc nesting opened above (before ++ after) (.binary op left right)
    _ = max (nesting opened above before left) (nesting opened above after right) :=
      h.nesting_binary opened above op after right
    _ ≤ max (nesting opened above others left) (nesting opened above after' right) :=
      max_le_max hl hr
    _ = nesting opened above (others ++ after') (.binary op left right) :=
      (h'.nesting_binary opened above op after' right).symm

theorem nesting_group (h : Derives place lexemes query) (opened above : Nat) :
    nesting opened above (.openParen :: (lexemes ++ [.closeParen])) query =
      nesting (opened + 1) above lexemes query := by
  simp [nesting, ruleLevels, openGroups, h.openGroups_append]

end Derives

@[simp] theorem nesting_and (opened above : Nat) (lexemes : List Lexeme) (query : Query) :
    nesting opened above (.and :: lexemes) query = nesting opened above lexemes query := rfl

@[simp] theorem nesting_or (opened above : Nat) (lexemes : List Lexeme) (query : Query) :
    nesting opened above (.or :: lexemes) query = nesting opened above lexemes query := rfl

@[simp] theorem nesting_negation (opened above : Nat) (lexemes : List Lexeme) (query : Query) :
    nesting opened above (.not :: lexemes) (.negation query) =
      nesting opened (above + 1) lexemes query := rfl

@[simp] theorem nesting_word (opened above : Nat) (text : String) :
    nesting opened above [.word text] (.literal text) = 4 + 4 * opened + above := by
  simp [nesting, ruleLevels, openGroups, Query.negationsAbove]

@[simp] theorem nesting_phrase (opened above : Nat) (text : String) :
    nesting opened above [.phrase text] (.literal text) = 4 + 4 * opened + above := by
  simp [nesting, ruleLevels, openGroups, Query.negationsAbove]

/-- Groups and negations around an expression add to the nesting of its operands. -/
theorem Derives.nesting_add {place : Nonterminal} {lexemes : List Lexeme} {query : Query}
    (h : Derives place lexemes query) (opened above groups negations : Nat) :
    nesting (opened + groups) (above + negations) lexemes query =
      nesting opened above lexemes query + (4 * groups + negations) := by
  induction h generalizing opened above with
  | word text => simp only [nesting_word]; omega
  | phrase text => simp only [nesting_phrase]; omega
  | group h ih =>
    rw [h.nesting_group, h.nesting_group, Nat.add_right_comm]
    exact ih (opened + 1) above
  | operand h ih => exact ih opened above
  | negation h ih =>
    rw [nesting_negation, nesting_negation, Nat.add_right_comm above]
    exact ih opened (above + 1)
  | conjunct h ih => exact ih opened above
  | conjoin hl hr ihl ihr =>
    rw [hl.nesting_binary, hl.nesting_binary, nesting_and, nesting_and, ihl, ihr]
    exact Nat.add_max_add_right _ _ _
  | adjoin hl hr ihl ihr =>
    rw [hl.nesting_binary, hl.nesting_binary, ihl, ihr]
    exact Nat.add_max_add_right _ _ _
  | disjunct h ih => exact ih opened above
  | disjoin hl hr ihl ihr =>
    rw [hl.nesting_binary, hl.nesting_binary, nesting_or, nesting_or, ihl, ihr]
    exact Nat.add_max_add_right _ _ _

/-- Every expression has an operand, so it takes the four rules of one. -/
theorem Derives.le_nesting {place : Nonterminal} {lexemes : List Lexeme} {query : Query}
    (h : Derives place lexemes query) (opened above : Nat) :
    4 + 4 * opened + above ≤ nesting opened above lexemes query := by
  induction h generalizing opened above with
  | word text => simp
  | phrase text => simp
  | group h ih =>
    rw [h.nesting_group]
    exact (by omega : 4 + 4 * opened + above ≤ 4 + 4 * (opened + 1) + above).trans
      (ih (opened + 1) above)
  | operand h ih => exact ih opened above
  | negation h ih =>
    rw [nesting_negation]
    exact (by omega : 4 + 4 * opened + above ≤ 4 + 4 * opened + (above + 1)).trans
      (ih opened (above + 1))
  | conjunct h ih => exact ih opened above
  | conjoin hl hr ihl ihr => exact (ihl opened above).trans (by simp [hl.nesting_binary])
  | adjoin hl hr ihl ihr => exact (ihl opened above).trans (by simp [hl.nesting_binary])
  | disjunct h ih => exact ih opened above
  | disjoin hl hr ihl ihr => exact (ihl opened above).trans (by simp [hl.nesting_binary])

end BooleanSearch
