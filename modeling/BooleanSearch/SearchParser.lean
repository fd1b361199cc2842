import BooleanSearch.Query
import BooleanSearch.SearchError
import BooleanSearch.Token.Stream

/-! # Parsing search expressions

An expression is a disjunction of conjunctions of negated or plain operands; an operand is a
word, a phrase or an expression in parentheses. Operands that stand side by side are joined as
by `AND`, and both connectives associate to the left.

One limit bounds two things. Reading a rule inside another one counts as one level, so that a
word nests four levels deep; and no node of the query may be deeper than the limit, which also
bounds flat chains.
-/

namespace BooleanSearch

/-- The limit of a parser that is not given any. -/
def defaultMaxDepth : Nat := 50

/-- The highest limit that is honoured. -/
def maxSupportedDepth : Nat := 1000

/-- A query that has been read, with its depth. -/
structure Node where
  query : Query
  depth : Nat

/-- The tokens still to be read, and the number of rules that are being read. -/
structure Cursor where
  ahead : List Token
  depth : Nat

namespace Cursor

/-- The cursor inside one more rule. -/
def enter (cursor : Cursor) : Cursor := { cursor with depth := cursor.depth + 1 }

/-- The cursor outside the innermost rule. -/
def leave (cursor : Cursor) : Cursor := { cursor with depth := cursor.depth - 1 }

@[simp] theorem ahead_enter (cursor : Cursor) : cursor.enter.ahead = cursor.ahead := rfl

@[simp] theorem ahead_leave (cursor : Cursor) : cursor.leave.ahead = cursor.ahead := rfl

end Cursor

/-- A node that has been read from fewer than `size` tokens, and what follows it. -/
structure Reading (size : Nat) where
  node : Node
  next : Cursor
  shorter : next.ahead.length < size

/-- What stays the same while one expression is read: the limit, the expression, and what comes
after its last token. -/
structure Source where
  maxDepth : Nat
  input : String
  ending : Except PhraseFault Nat

/-- Whether an operand can start with this lexeme. -/
def Lexeme.startsOperand : Lexeme → Bool
  | .not | .openParen | .phrase _ | .word _ => true
  | .and | .or | .closeParen => false

namespace Source

/-- Refuses a depth beyond the limit. -/
def checkDepth (source : Source) (depth : Nat) : Except SearchError Unit :=
  if depth ≤ source.maxDepth then .ok () else .error (.tooDeep source.maxDepth)

/-- The end of the expression, once all tokens are read. A phrase that cannot be read is only
found here. -/
def finish (source : Source) : Except SearchError Nat :=
  match source.ending with
  | .ok offset => .ok offset
  | .error fault => .error (.ofPhrase source.input fault)

/-- Joins two nodes. -/
def join (source : Source) (op : Connective) (left right : Node) : Except SearchError Node := do
  let depth := 1 + max left.depth right.depth
  source.checkDepth depth
  return ⟨.binary op left.query right.query, depth⟩

/-- Negates a node. -/
def negate (source : Source) (operand : Node) : Except SearchError Node := do
  let depth := 1 + operand.depth
  source.checkDepth depth
  return ⟨.negation operand.query, depth⟩

mutual

/-- Reads a conjunction and those that follow it after `OR`. -/
def disjunction (source : Source) (cursor : Cursor) :
    Except SearchError (Reading cursor.ahead.length) := do
  source.checkDepth (cursor.depth + 1)
  let first ← source.conjunction cursor.enter
  let whole ← source.moreDisjuncts first.node first.next
  return ⟨whole.node, whole.next.leave, by
    have := first.shorter
    have := whole.shorter
    simp only [Cursor.ahead_enter, Cursor.ahead_leave] at *
    omega⟩
termination_by 4 * cursor.ahead.length + 3
decreasing_by
  · simp
  · have := first.shorter
    simp only [Cursor.ahead_enter] at this
    omega

/-- Joins the conjunctions that follow `left` after `OR`. -/
def moreDisjuncts (source : Source) (left : Node) :
    (cursor : Cursor) → Except SearchError (Reading (cursor.ahead.length + 1))
  | ⟨⟨.or, _⟩ :: rest, depth⟩ => do
    let right ← source.conjunction ⟨rest, depth⟩
    let both ← source.join .or left right.node
    let whole ← source.moreDisjuncts both right.next
    return ⟨whole.node, whole.next, by
      have := right.shorter
      have := whole.shorter
      simp only [List.length_cons] at *
      omega⟩
  | ⟨[], depth⟩ => do
    let _ ← source.finish
    return ⟨left, ⟨[], depth⟩, by simp⟩
  | ⟨token :: rest, depth⟩ => return ⟨left, ⟨token :: rest, depth⟩, by simp⟩
termination_by cursor => 4 * cursor.ahead.length + 3
decreasing_by
  · simp only [List.length_cons]; omega
  · have := right.shorter
    simp only [List.length_cons] at *
    omega

/-- Reads an operand and those that follow it after `AND` or side by side. -/
def conjunction (source : Source) (cursor : Cursor) :
    Except SearchError (Reading cursor.ahead.length) := do
  source.checkDepth (cursor.depth + 1)
  let first ← source.unary cursor.enter
  let whole ← source.moreConjuncts first.node first.next
  return ⟨whole.node, whole.next.leave, by
    have := first.shorter
    have := whole.shorter
    simp only [Cursor.ahead_enter, Cursor.ahead_leave] at *
    omega⟩
termination_by 4 * cursor.ahead.length + 2
decreasing_by
  · simp
  · have := first.shorter
    simp only [Cursor.ahead_enter] at this
    omega

/-- Joins the operands that follow `left`, with or without `AND`. -/
def moreConjuncts (source : Source) (left : Node) :
    (cursor : Cursor) → Except SearchError (Reading (cursor.ahead.length + 1))
  | ⟨⟨.and, _⟩ :: rest, depth⟩ => do
    let right ← source.unary ⟨rest, depth⟩
    let both ← source.join .and left right.node
    let whole ← source.moreConjuncts both right.next
    return ⟨whole.node, whole.next, by
      have := right.shorter
      have := whole.shorter
      simp only [List.length_cons] at *
      omega⟩
  | ⟨[], depth⟩ => do
    let _ ← source.finish
    return ⟨left, ⟨[], depth⟩, by simp⟩
  | ⟨token :: rest, depth⟩ =>
    if token.lexeme.startsOperand then do
      let right ← source.unary ⟨token :: rest, depth⟩
      let both ← source.join .and left right.node
      let whole ← source.moreConjuncts both right.next
      return ⟨whole.node, whole.next, by
        have := right.shorter
        have := whole.shorter
        simp only [List.length_cons] at *
        omega⟩
    else
      return ⟨left, ⟨token :: rest, depth⟩, by simp⟩
termination_by cursor => 4 * cursor.ahead.length + 2
decreasing_by
  · simp only [List.length_cons]; omega
  · have := right.shorter
    simp only [List.length_cons] at *
    omega
  · simp
  · have := right.shorter
    simp only [List.length_cons] at *
    omega

/-- Reads an operand with the `NOT`s before it. -/
def unary (source : Source) : (cursor : Cursor) → Except SearchError (Reading cursor.ahead.length)
  | ⟨⟨.not, _⟩ :: rest, depth⟩ => do
    source.checkDepth (depth + 1)
    let operand ← source.unary ⟨rest, depth + 1⟩
    let negated ← source.negate operand.node
    return ⟨negated, operand.next.leave, by
      have := operand.shorter
      simp only [List.length_cons, Cursor.ahead_leave] at *
      omega⟩
  | ⟨[], depth⟩ => do
    source.checkDepth (depth + 1)
    let _ ← source.finish
    let operand ← source.primary ⟨[], depth + 1⟩
    return ⟨operand.node, operand.next.leave, operand.shorter⟩
  | ⟨token :: rest, depth⟩ => do
    source.checkDepth (depth + 1)
    let operand ← source.primary ⟨token :: rest, depth + 1⟩
    return ⟨operand.node, operand.next.leave, operand.shorter⟩
termination_by cursor => 4 * cursor.ahead.length + 1
decreasing_by
  · simp only [List.length_cons]; omega
  · simp
  · simp

/-- Reads a word, a phrase or a group. -/
def primary (source : Source) : (cursor : Cursor) → Except SearchError (Reading cursor.ahead.length)
  | ⟨[], depth⟩ => do
    source.checkDepth (depth + 1)
    throw (.missingOperand (← source.finish) source.input)
  | ⟨⟨.openParen, _⟩ :: rest, depth⟩ => do
    source.checkDepth (depth + 1)
    let inner ← source.disjunction ⟨rest, depth + 1⟩
    match following : inner.next.ahead with
    | ⟨.closeParen, _⟩ :: after =>
      return ⟨inner.node, { inner.next.leave with ahead := after }, by
        have := inner.shorter
        simp only [following, List.length_cons] at *
        omega⟩
    | token :: _ => throw (.unclosedGroup token.offset source.input)
    | [] => throw (.unclosedGroup (← source.finish) source.input)
  | ⟨⟨.phrase text, _⟩ :: rest, depth⟩ | ⟨⟨.word text, _⟩ :: rest, depth⟩ => do
    source.checkDepth (depth + 1)
    return ⟨⟨.literal text, 1⟩, (Cursor.mk rest (depth + 1)).leave, by simp⟩
  | ⟨token :: _, depth⟩ => do
    source.checkDepth (depth + 1)
    throw (.missingOperand token.offset source.input)
termination_by cursor => 4 * cursor.ahead.length
decreasing_by simp only [List.length_cons]; omega

end

end Source

/-- A parser with a limit that is honoured. -/
structure SearchParser where
  maxDepth : Nat
  maxDepth_le : maxDepth ≤ maxSupportedDepth

namespace SearchParser

/-- The parser for a limit, which is cut down to the highest one honoured. -/
def ofLimit (limit : Nat) : SearchParser :=
  ⟨min limit maxSupportedDepth, Nat.min_le_right limit maxSupportedDepth⟩

@[simp] theorem maxDepth_ofLimit (limit : Nat) :
    (ofLimit limit).maxDepth = min limit maxSupportedDepth := rfl

/-- Reads a whole expression. -/
def parse (parser : SearchParser) (input : String) : Except SearchError Query := do
  let stream := TokenStream.ofString input
  let source : Source := ⟨parser.maxDepth, input, stream.ending⟩
  let whole ← source.disjunction ⟨stream.tokens, 0⟩
  match whole.next.ahead with
  | [] =>
    let _ ← source.finish
    return whole.node.query
  | token :: _ => throw (.strayToken token.offset input)

end SearchParser

/-- Reads an expression under the default limit. -/
def parse (input : String) : Except SearchError Query :=
  (SearchParser.ofLimit defaultMaxDepth).parse input

end BooleanSearch
