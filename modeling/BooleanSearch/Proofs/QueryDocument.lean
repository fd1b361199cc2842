import BooleanSearch.Query.Document
import BooleanSearch.Proofs.JsonText

/-! # Queries read back from their documents

The document of a query tells it by its fields: the type of a node, and what a node of this type is
made of. Where the fields stand in their record does not matter to the reader. The text of the
document on one line is no text of another document, so no two queries have the same text.
-/

namespace BooleanSearch

namespace Json

/-- The text that a document is. -/
def text? : Json → Option String
  | .text value => some value
  | _ => none

/-- The text of a field of a record. -/
def textField? (document : Json) (name : String) : Option String :=
  (document.field? name).bind text?

/-- What a field holds is smaller than the record. -/
theorem sizeOf_lt_of_field? {document value : Json} {name : String}
    (h : document.field? name = some value) : sizeOf value < sizeOf document := by
  cases document with
  | record fields =>
    obtain ⟨before, after, rfl, -⟩ := List.lookup_eq_some_iff.mp h
    have field : sizeOf (name, value) < sizeOf (before ++ (name, value) :: after) :=
      List.sizeOf_lt_of_mem (by simp)
    simp only [Prod.mk.sizeOf_spec, record.sizeOf_spec] at field ⊢
    omega
  | text | number | list => cases h

end Json

/-- The connective of this name. -/
def Connective.ofName? : String → Option Connective
  | "And" => some .and
  | "Or" => some .or
  | _ => none

theorem Connective.ofName?_name (op : Connective) : ofName? op.name = some op := by
  cases op <;> rfl

namespace Query

/-- Reads a query from the fields of its document. -/
def ofJson? (document : Json) : Option Query := do
  let type ← document.textField? "type"
  if type = "string_literal" then
    return .literal (← document.textField? "value")
  else if type = "binary_operator" then
    let op ← (document.textField? "op").bind Connective.ofName?
    let left ← (document.field? "left").pbind fun left _ => ofJson? left
    let right ← (document.field? "right").pbind fun right _ => ofJson? right
    return .binary op left right
  else if type = "unary_operator" ∧ document.textField? "op" = some "Not" then
    return .negation (← (document.field? "operand").pbind fun operand _ => ofJson? operand)
  else
    none
termination_by document
decreasing_by all_goals exact Json.sizeOf_lt_of_field? ‹_›

/-- The document of a query is read as that query. -/
theorem ofJson?_toJson (query : Query) : ofJson? query.toJson = some query := by
  induction query with
  | literal text =>
    rw [ofJson?]
    rfl
  | binary op left right ihl ihr =>
    have type : (binary op left right).toJson.textField? "type" = some "binary_operator" := rfl
    have name : (binary op left right).toJson.textField? "op" = some op.name := rfl
    have onLeft : (binary op left right).toJson.field? "left" = some left.toJson := rfl
    have onRight : (binary op left right).toJson.field? "right" = some right.toJson := rfl
    rw [ofJson?]
    simp [type, name, onLeft, onRight, ihl, ihr, Connective.ofName?_name]
  | negation operand ih =>
    have type : operand.negation.toJson.textField? "type" = some "unary_operator" := rfl
    have name : operand.negation.toJson.textField? "op" = some "Not" := rfl
    have inside : operand.negation.toJson.field? "operand" = some operand.toJson := rfl
    rw [ofJson?]
    simp [type, name, inside, ih]

/-- The text of a query on one line is a JSON document, of one meaning only, and the fields of this
document tell the query. No two queries have the same text. -/
theorem compact_tells_query :
    (∀ query : Query, ∃ document,
      (∀ other, Json.IsTextOf other query.toJson.compact ↔ other = document) ∧
      ofJson? document = some query) ∧
    ∀ first second : Query, first.toJson.compact = second.toJson.compact → first = second := by
  constructor
  · intro query
    exact ⟨query.toJson, fun other => Json.isTextOf_compact_iff, query.ofJson?_toJson⟩
  · intro first second h
    have same : first.toJson = second.toJson := by
      rw [← Json.isTextOf_compact_iff, ← h, Json.isTextOf_compact_iff]
    have read := congrArg ofJson? same
    rw [ofJson?_toJson, ofJson?_toJson] at read
    exact Option.some.inj read

/-- The quote and the braces inside the literal do not end its record. -/
theorem compact_tells_query_closing_brace :
    let query : Query := .negation (.literal "a\"\x7d")
    let other : Query := .negation (.literal "a")
    query.toJson.compact = "\x7b\"type\":\"unary_operator\",\"op\":\"Not\",\"operand\":" ++
      "\x7b\"type\":\"string_literal\",\"value\":\"a\\\"\x7d\"\x7d\x7d" ∧
    (∃ document, Json.IsTextOf document query.toJson.compact ∧ ofJson? document = some query) ∧
    query.toJson.compact ≠ other.toJson.compact := by
  intro query other
  obtain ⟨document, text, read⟩ := compact_tells_query.1 query
  refine ⟨by decide +kernel, ⟨document, (text document).mpr rfl, read⟩, fun h => ?_⟩
  exact absurd (compact_tells_query.2 query other h) (by simp [query, other])

end Query

end BooleanSearch
