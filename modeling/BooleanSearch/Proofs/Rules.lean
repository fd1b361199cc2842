import BooleanSearch.SearchParser

/-! # The rules of the parser as one function

The six reading functions call each other. Here they are one function of a rule and a cursor,
which forgets that the cursor moves forward, and one induction follows their calls.
-/

namespace BooleanSearch

/-- The rules of the parser. Two of them go on reading to the right of a node. -/
inductive Rule
  | disjunction
  | moreDisjuncts (left : Node)
  | conjunction
  | moreConjuncts (left : Node)
  | unary
  | primary

/-- What a rule has read, and where reading goes on. -/
structure Progress where
  node : Node
  next : Cursor

/-- A reading without the bound on what is left. -/
def Reading.progress {size : Nat} (reading : Reading size) : Progress :=
  ⟨reading.node, reading.next⟩

namespace Source

variable (source : Source)

/-- Applies one rule. -/
def run : Rule → Cursor → Except SearchError Progress
  | .disjunction, cursor => Reading.progress <$> source.disjunction cursor
  | .moreDisjuncts left, cursor => Reading.progress <$> source.moreDisjuncts left cursor
  | .conjunction, cursor => Reading.progress <$> source.conjunction cursor
  | .moreConjuncts left, cursor => Reading.progress <$> source.moreConjuncts left cursor
  | .unary, cursor => Reading.progress <$> source.unary cursor
  | .primary, cursor => Reading.progress <$> source.primary cursor

theorem run_disjunction (cursor : Cursor) :
    source.run .disjunction cursor = (do
      source.checkDepth (cursor.depth + 1)
      let first ← source.run .conjunction cursor.enter
      let whole ← source.run (.moreDisjuncts first.node) first.next
      return ⟨whole.node, whole.next.leave⟩) := by
  simp only [run, disjunction, map_bind, bind_map_left, map_pure, Reading.progress]

theorem run_moreDisjuncts_or (left : Node) (offset : Nat) (rest : List Token) (depth : Nat) :
    source.run (.moreDisjuncts left) ⟨⟨.or, offset⟩ :: rest, depth⟩ = (do
      let right ← source.run .conjunction ⟨rest, depth⟩
      let both ← source.join .or left right.node
      source.run (.moreDisjuncts both) right.next) := by
  simp only [run, moreDisjuncts, map_bind, bind_map_left, bind_pure_comp, Functor.map_map]
  rfl

theorem run_moreDisjuncts_nil (left : Node) (depth : Nat) :
    source.run (.moreDisjuncts left) ⟨[], depth⟩ = (do
      let _ ← source.finish
      return ⟨left, ⟨[], depth⟩⟩) := by
  simp [run, moreDisjuncts, Reading.progress]

theorem run_moreDisjuncts_cons (left : Node) {token : Token} (rest : List Token) (depth : Nat)
    (h : token.lexeme ≠ .or) :
    source.run (.moreDisjuncts left) ⟨token :: rest, depth⟩ =
      .ok ⟨left, ⟨token :: rest, depth⟩⟩ := by
  have other : ∀ offset, token = ⟨.or, offset⟩ → False := by
    rintro offset rfl
    exact h rfl
  simp only [run, moreDisjuncts.eq_3 _ _ _ _ _ other]
  rfl

theorem run_conjunction (cursor : Cursor) :
    source.run .conjunction cursor = (do
      source.checkDepth (cursor.depth + 1)
      let first ← source.run .unary cursor.enter
      let whole ← source.run (.moreConjuncts first.node) first.next
      return ⟨whole.node, whole.next.leave⟩) := by
  simp only [run, conjunction, map_bind, bind_map_left, map_pure, Reading.progress]

theorem run_moreConjuncts_and (left : Node) (offset : Nat) (rest : List Token) (depth : Nat) :
    source.run (.moreConjuncts left) ⟨⟨.and, offset⟩ :: rest, depth⟩ = (do
      let right ← source.run .unary ⟨rest, depth⟩
      let both ← source.join .and left right.node
      source.run (.moreConjuncts both) right.next) := by
  simp only [run, moreConjuncts, map_bind, bind_map_left, bind_pure_comp, Functor.map_map]
  rfl

theorem run_moreConjuncts_nil (left : Node) (depth : Nat) :
    source.run (.moreConjuncts left) ⟨[], depth⟩ = (do
      let _ ← source.finish
      return ⟨left, ⟨[], depth⟩⟩) := by
  simp [run, moreConjuncts, Reading.progress]

theorem run_moreConjuncts_operand (left : Node) {token : Token} (rest : List Token) (depth : Nat)
    (h : token.lexeme.startsOperand = true) :
    source.run (.moreConjuncts left) ⟨token :: rest, depth⟩ = (do
      let right ← source.run .unary ⟨token :: rest, depth⟩
      let both ← source.join .and left right.node
      source.run (.moreConjuncts both) right.next) := by
  have other : ∀ offset, token = ⟨.and, offset⟩ → False := by
    rintro offset rfl
    cases h
  simp only [run, moreConjuncts.eq_3 _ _ _ _ _ other, h, if_true, map_bind, bind_map_left,
    bind_pure_comp, Functor.map_map]
  rfl

theorem run_moreConjuncts_cons (left : Node) {token : Token} (rest : List Token) (depth : Nat)
    (h : token.lexeme ≠ .and) (h' : token.lexeme.startsOperand = false) :
    source.run (.moreConjuncts left) ⟨token :: rest, depth⟩ =
      .ok ⟨left, ⟨token :: rest, depth⟩⟩ := by
  have other : ∀ offset, token = ⟨.and, offset⟩ → False := by
    rintro offset rfl
    exact h rfl
  simp only [run, moreConjuncts.eq_3 _ _ _ _ _ other, h', Bool.false_eq_true, if_false]
  rfl

theorem run_unary_not (offset : Nat) (rest : List Token) (depth : Nat) :
    source.run .unary ⟨⟨.not, offset⟩ :: rest, depth⟩ = (do
      source.checkDepth (depth + 1)
      let operand ← source.run .unary ⟨rest, depth + 1⟩
      let negated ← source.negate operand.node
      return ⟨negated, operand.next.leave⟩) := by
  simp [run, unary, Reading.progress]

theorem run_unary_nil (depth : Nat) :
    source.run .unary ⟨[], depth⟩ = (do
      source.checkDepth (depth + 1)
      let _ ← source.finish
      let operand ← source.run .primary ⟨[], depth + 1⟩
      return ⟨operand.node, operand.next.leave⟩) := by
  simp [run, unary, Reading.progress]

theorem run_unary_cons {token : Token} (rest : List Token) (depth : Nat)
    (h : token.lexeme ≠ .not) :
    source.run .unary ⟨token :: rest, depth⟩ = (do
      source.checkDepth (depth + 1)
      let operand ← source.run .primary ⟨token :: rest, depth + 1⟩
      return ⟨operand.node, operand.next.leave⟩) := by
  have other : ∀ offset, token = ⟨.not, offset⟩ → False := by
    rintro offset rfl
    exact h rfl
  simp [run, unary.eq_3 _ _ _ _ other, Reading.progress]

theorem run_primary_nil (depth : Nat) :
    source.run .primary ⟨[], depth⟩ = (do
      source.checkDepth (depth + 1)
      let offset ← source.finish
      throw (.missingOperand offset source.input)) := by
  simp only [run, primary, map_bind]
  rfl

/-- What comes after the expression inside a group: its parenthesis, or a fault. -/
def closeGroup (inner : Progress) : Except SearchError Progress :=
  match inner.next.ahead with
  | ⟨.closeParen, _⟩ :: after => .ok ⟨inner.node, ⟨after, inner.next.depth - 1⟩⟩
  | token :: _ => .error (.unclosedGroup token.offset source.input)
  | [] => do
    let offset ← source.finish
    throw (.unclosedGroup offset source.input)

theorem run_primary_open (offset : Nat) (rest : List Token) (depth : Nat) :
    source.run .primary ⟨⟨.openParen, offset⟩ :: rest, depth⟩ = (do
      source.checkDepth (depth + 1)
      let inner ← source.run .disjunction ⟨rest, depth + 1⟩
      source.closeGroup inner) := by
  simp only [run, primary, map_bind, bind_map_left]
  apply bind_congr
  intro _
  apply bind_congr
  intro inner
  split
  · rename_i following
    simp only [closeGroup, map_pure, Reading.progress, following]
    rfl
  · rename_i other following
    simp only [closeGroup, Reading.progress, following]
    rfl
  · rename_i following
    simp only [closeGroup, map_bind, Reading.progress, following]
    rfl

theorem run_primary_other {token : Token} (rest : List Token) (depth : Nat)
    (h : token.lexeme.startsOperand = false ∨ token.lexeme = .not) :
    source.run .primary ⟨token :: rest, depth⟩ = (do
      source.checkDepth (depth + 1)
      throw (.missingOperand token.offset source.input)) := by
  obtain ⟨lexeme, offset⟩ := token
  cases lexeme with
  | and | or | closeParen | not =>
    simp only [run, primary, map_bind]
    rfl
  | openParen | phrase text | word text => simp [Lexeme.startsOperand] at h

theorem run_primary_operand {token : Token} {text : String} (rest : List Token) (depth : Nat)
    (h : token.lexeme = .word text ∨ token.lexeme = .phrase text) :
    source.run .primary ⟨token :: rest, depth⟩ = (do
      source.checkDepth (depth + 1)
      return ⟨⟨.literal text, 1⟩, ⟨rest, depth⟩⟩) := by
  obtain ⟨lexeme, offset⟩ := token
  rcases h with rfl | rfl <;> simp [run, primary, Reading.progress, Cursor.leave]

/-- What a rule reads ends behind fewer tokens than there were, or as many for a rule that may
read none. -/
private theorem exists_reading {size : Nat} {read : Except SearchError (Reading size)}
    {progress : Progress} (h : Reading.progress <$> read = .ok progress) :
    ∃ reading : Reading size, progress = reading.progress := by
  cases read with
  | error fault => cases h
  | ok reading => exact ⟨reading, (Except.ok.inj h).symm⟩

/-- Follows the calls of the rules. A rule that is called behind another one starts where that one
has stopped. -/
theorem run_induction {motive : Rule → Cursor → Prop}
    (disjunction : ∀ cursor, motive .conjunction cursor.enter →
      (∀ first, source.run .conjunction cursor.enter = .ok first →
        motive (.moreDisjuncts first.node) first.next) →
      motive .disjunction cursor)
    (moreDisjuncts_or : ∀ left offset rest depth, motive .conjunction ⟨rest, depth⟩ →
      (∀ right both, source.run .conjunction ⟨rest, depth⟩ = .ok right →
        motive (.moreDisjuncts both) right.next) →
      motive (.moreDisjuncts left) ⟨⟨.or, offset⟩ :: rest, depth⟩)
    (moreDisjuncts_nil : ∀ left depth, motive (.moreDisjuncts left) ⟨[], depth⟩)
    (moreDisjuncts_cons : ∀ left (token : Token) rest depth, token.lexeme ≠ .or →
      motive (.moreDisjuncts left) ⟨token :: rest, depth⟩)
    (conjunction : ∀ cursor, motive .unary cursor.enter →
      (∀ first, source.run .unary cursor.enter = .ok first →
        motive (.moreConjuncts first.node) first.next) →
      motive .conjunction cursor)
    (moreConjuncts_and : ∀ left offset rest depth, motive .unary ⟨rest, depth⟩ →
      (∀ right both, source.run .unary ⟨rest, depth⟩ = .ok right →
        motive (.moreConjuncts both) right.next) →
      motive (.moreConjuncts left) ⟨⟨.and, offset⟩ :: rest, depth⟩)
    (moreConjuncts_nil : ∀ left depth, motive (.moreConjuncts left) ⟨[], depth⟩)
    (moreConjuncts_operand : ∀ left (token : Token) rest depth,
      token.lexeme.startsOperand = true → motive .unary ⟨token :: rest, depth⟩ →
      (∀ right both, source.run .unary ⟨token :: rest, depth⟩ = .ok right →
        motive (.moreConjuncts both) right.next) →
      motive (.moreConjuncts left) ⟨token :: rest, depth⟩)
    (moreConjuncts_cons : ∀ left (token : Token) rest depth, token.lexeme ≠ .and →
      token.lexeme.startsOperand = false → motive (.moreConjuncts left) ⟨token :: rest, depth⟩)
    (unary_not : ∀ offset rest depth, motive .unary ⟨rest, depth + 1⟩ →
      motive .unary ⟨⟨.not, offset⟩ :: rest, depth⟩)
    (unary_nil : ∀ depth, motive .primary ⟨[], depth + 1⟩ → motive .unary ⟨[], depth⟩)
    (unary_cons : ∀ (token : Token) rest depth, token.lexeme ≠ .not →
      motive .primary ⟨token :: rest, depth + 1⟩ → motive .unary ⟨token :: rest, depth⟩)
    (primary_nil : ∀ depth, motive .primary ⟨[], depth⟩)
    (primary_open : ∀ offset rest depth, motive .disjunction ⟨rest, depth + 1⟩ →
      motive .primary ⟨⟨.openParen, offset⟩ :: rest, depth⟩)
    (primary_operand : ∀ (token : Token) text rest depth,
      token.lexeme = .word text ∨ token.lexeme = .phrase text →
      motive .primary ⟨token :: rest, depth⟩)
    (primary_other : ∀ (token : Token) rest depth,
      token.lexeme.startsOperand = false ∨ token.lexeme = .not →
      motive .primary ⟨token :: rest, depth⟩)
    (rule : Rule) (cursor : Cursor) : motive rule cursor := by
  have all := Source.disjunction.mutual_induct (motive .disjunction)
    (fun left => motive (.moreDisjuncts left)) (motive .conjunction)
    (fun left => motive (.moreConjuncts left)) (motive .unary) (motive .primary)
    ?_ ?_ ?_ ?_ ?_ ?_ ?_ ?_ ?_ ?_ ?_ ?_ ?_ ?_ ?_ ?_ ?_
  · obtain ⟨h₁, h₂, h₃, h₄, h₅, h₆⟩ := all
    cases rule with
    | disjunction => exact h₁ cursor
    | moreDisjuncts left => exact h₂ left cursor
    | conjunction => exact h₃ cursor
    | moreConjuncts left => exact h₄ left cursor
    | unary => exact h₅ cursor
    | primary => exact h₆ cursor
  · intro cursor inner more
    apply disjunction cursor inner
    intro first h
    obtain ⟨reading, rfl⟩ := exists_reading h
    exact more reading
  · intro left offset rest depth inner more
    apply moreDisjuncts_or left offset rest depth inner
    intro right both h
    obtain ⟨reading, rfl⟩ := exists_reading h
    exact more reading both
  · exact moreDisjuncts_nil
  · intro left token rest depth other
    apply moreDisjuncts_cons left token rest depth
    intro h
    exact other token.offset (by rw [← h])
  · intro cursor inner more
    apply conjunction cursor inner
    intro first h
    obtain ⟨reading, rfl⟩ := exists_reading h
    exact more reading
  · intro left offset rest depth inner more
    apply moreConjuncts_and left offset rest depth inner
    intro right both h
    obtain ⟨reading, rfl⟩ := exists_reading h
    exact more reading both
  · exact moreConjuncts_nil
  · intro left token rest depth _ starts inner more
    apply moreConjuncts_operand left token rest depth starts inner
    intro right both h
    obtain ⟨reading, rfl⟩ := exists_reading h
    exact more reading both
  · intro left token rest depth other starts
    apply moreConjuncts_cons left token rest depth
    · intro h
      exact other token.offset (by rw [← h])
    · exact Bool.eq_false_iff.mpr starts
  · exact unary_not
  · exact unary_nil
  · intro token rest depth other inner
    apply unary_cons token rest depth _ inner
    intro h
    exact other token.offset (by rw [← h])
  · exact primary_nil
  · exact primary_open
  · intro text offset rest depth
    exact primary_operand _ text rest depth (Or.inr rfl)
  · intro text offset rest depth
    exact primary_operand _ text rest depth (Or.inl rfl)
  · intro token rest depth notOpen notPhrase notWord
    apply primary_other token rest depth
    obtain ⟨lexeme, offset⟩ := token
    cases lexeme with
    | openParen => exact (notOpen offset rfl).elim
    | phrase text => exact (notPhrase text offset rfl).elim
    | word text => exact (notWord text offset rfl).elim
    | not => exact Or.inr rfl
    | and | or | closeParen => exact Or.inl rfl

/-- What stays the same while an input is read. -/
def ofInput (maxDepth : Nat) (input : String) : Source :=
  ⟨maxDepth, input, (TokenStream.ofString input).ending⟩

/-- What comes after a whole expression: the end of the input, or a fault. -/
def conclude (whole : Progress) : Except SearchError Query :=
  match whole.next.ahead with
  | [] => do
    let _ ← source.finish
    return whole.node.query
  | token :: _ => .error (.strayToken token.offset source.input)

end Source

/-- A parser reads a disjunction, and the input has to end behind it. -/
theorem SearchParser.parse_eq_run (parser : SearchParser) (input : String) :
    parser.parse input = (do
      let whole ← (Source.ofInput parser.maxDepth input).run .disjunction
        ⟨(TokenStream.ofString input).tokens, 0⟩
      (Source.ofInput parser.maxDepth input).conclude whole) := by
  simp only [SearchParser.parse, Source.run, bind_map_left]
  apply bind_congr
  intro whole
  simp only [Source.conclude, Reading.progress]
  cases whole.next.ahead with
  | nil => rfl
  | cons token tail => rfl

end BooleanSearch
