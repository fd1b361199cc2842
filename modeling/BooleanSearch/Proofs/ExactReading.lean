import BooleanSearch.Proofs.Nesting
import BooleanSearch.Proofs.Soundness

/-! # How the parser reads an expression

An expression that the grammar derives is read with a single depth check, of a depth that is known
beforehand, and reading goes on right behind it. There is one statement for every rule of the
grammar; the parser's lists are followed from the left, as the grammar builds them.
-/

namespace BooleanSearch

/-- An expression starts with a lexeme that an operand can start with, and a plain operand not
with `NOT`. -/
theorem Derives.exists_cons {place : Nonterminal} {read : List Lexeme} {query : Query}
    (h : Derives place read query) :
    ∃ first others, read = first :: others ∧ first.startsOperand = true ∧
      (place = .primary → first ≠ .not) := by
  induction h with
  | word text => exact ⟨_, _, rfl, rfl, fun _ => by simp⟩
  | phrase text => exact ⟨_, _, rfl, rfl, fun _ => by simp⟩
  | group h ih => exact ⟨_, _, rfl, rfl, fun _ => by simp⟩
  | negation h ih => exact ⟨_, _, rfl, rfl, fun h => by cases h⟩
  | operand h ih | conjunct h ih | disjunct h ih =>
    obtain ⟨first, others, rfl, hstarts, _⟩ := ih
    exact ⟨first, others, rfl, hstarts, fun h => by cases h⟩
  | conjoin hl hr ihl ihr | adjoin hl hr ihl ihr | disjoin hl hr ihl ihr =>
    obtain ⟨first, others, rfl, hstarts, _⟩ := ihl
    exact ⟨first, _, rfl, hstarts, fun h => by cases h⟩

namespace Source

variable (source : Source)

/-- Two depth checks are one, of the larger depth. -/
theorem checkDepth_checkDepth {α : Type} (first second : Nat)
    (continuation : Except SearchError α) :
    (do source.checkDepth first; source.checkDepth second; continuation) =
      (do source.checkDepth (max first second); continuation) := by
  by_cases h : first ≤ source.maxDepth <;> by_cases h' : second ≤ source.maxDepth <;>
    simp [checkDepth, h, h'] <;> rfl

/-- A check before a deeper one tells nothing. -/
theorem checkDepth_of_le {α : Type} {first second : Nat} (h : first ≤ second)
    (continuation : Except SearchError α) :
    (do source.checkDepth first; source.checkDepth second; continuation) =
      (do source.checkDepth second; continuation) := by
  rw [checkDepth_checkDepth, Nat.max_eq_right h]

/-- A check passes and nothing is done, or the limit is reported. -/
theorem checkDepth_bind {α : Type} (depth : Nat) (continuation : Except SearchError α) :
    (do source.checkDepth depth; continuation) =
      if depth ≤ source.maxDepth then continuation else .error (.tooDeep source.maxDepth) := by
  by_cases h : depth ≤ source.maxDepth <;> simp [checkDepth, h] <;> rfl

/-- No operand of a conjunction comes next. -/
def EndsConjunction (rest : List Token) : Prop :=
  ∀ left depth, source.run (.moreConjuncts left) ⟨rest, depth⟩ = .ok ⟨left, ⟨rest, depth⟩⟩

/-- No part of a disjunction comes next. -/
def EndsDisjunction (rest : List Token) : Prop :=
  ∀ left depth, source.run (.moreDisjuncts left) ⟨rest, depth⟩ = .ok ⟨left, ⟨rest, depth⟩⟩

theorem endsConjunction_or (offset : Nat) (rest : List Token) :
    source.EndsConjunction (⟨.or, offset⟩ :: rest) := by
  intro left depth
  apply source.run_moreConjuncts_cons left rest depth
  · simp
  · rfl

theorem endsConjunction_close (offset : Nat) (rest : List Token) :
    source.EndsConjunction (⟨.closeParen, offset⟩ :: rest) := by
  intro left depth
  apply source.run_moreConjuncts_cons left rest depth
  · simp
  · rfl

theorem endsDisjunction_close (offset : Nat) (rest : List Token) :
    source.EndsDisjunction (⟨.closeParen, offset⟩ :: rest) := by
  intro left depth
  apply source.run_moreDisjuncts_cons left rest depth
  simp

theorem endsConjunction_nil {offset : Nat} (h : source.ending = .ok offset) :
    source.EndsConjunction [] := by
  intro left depth
  rw [run_moreConjuncts_nil, finish, h]
  rfl

theorem endsDisjunction_nil {offset : Nat} (h : source.ending = .ok offset) :
    source.EndsDisjunction [] := by
  intro left depth
  rw [run_moreDisjuncts_nil, finish, h]
  rfl

/-- The depth that has to be within the limit for an expression to be read. -/
def required (opened above : Nat) (read : List Lexeme) (query : Query) : Nat :=
  max query.depth (nesting opened above read query)

/-- How an expression is read that has `rest` behind it and stands in `opened` groups under
`above` negations, while `level` rules are being read: after one check, the rule of its kind ends
behind it. The two rules for lists have read it as a part of what they are about to read. -/
def ReadsExactly (level opened above : Nat) (read rest : List Token) (query : Query) :
    Nonterminal → Prop
  | .primary =>
    source.run .primary ⟨read ++ rest, level + 3⟩ = (do
      source.checkDepth (required opened above (lexemes read) query)
      return ⟨⟨query, query.depth⟩, ⟨rest, level + 3⟩⟩)
  | .unary =>
    source.run .unary ⟨read ++ rest, level + 2⟩ = (do
      source.checkDepth (required opened above (lexemes read) query)
      return ⟨⟨query, query.depth⟩, ⟨rest, level + 2⟩⟩)
  | .conjunction =>
    (do
      let first ← source.run .unary ⟨read ++ rest, level + 2⟩
      source.run (.moreConjuncts first.node) first.next) = (do
      source.checkDepth (required opened above (lexemes read) query)
      source.run (.moreConjuncts ⟨query, query.depth⟩) ⟨rest, level + 2⟩)
  | .disjunction => source.EndsConjunction rest →
    (do
      let first ← source.run .conjunction ⟨read ++ rest, level + 1⟩
      source.run (.moreDisjuncts first.node) first.next) = (do
      source.checkDepth (required opened above (lexemes read) query)
      source.run (.moreDisjuncts ⟨query, query.depth⟩) ⟨rest, level + 1⟩)

variable {source} {level opened above : Nat} {read rest : List Token} {query : Query}

/-- A rule that reads another one inside itself checks its own level on the way, which tells
nothing if the other one makes a deeper check. -/
theorem run_within {inside : Except SearchError Progress} {node : Node} {depth deeper : Nat}
    (h : inside = (do
      source.checkDepth deeper
      return ⟨node, ⟨rest, depth + 1⟩⟩))
    (deep : depth + 1 ≤ deeper) :
    (do
      source.checkDepth (depth + 1)
      let whole ← inside
      return ⟨whole.node, whole.next.leave⟩) = (do
      source.checkDepth deeper
      return (⟨node, ⟨rest, depth⟩⟩ : Progress)) := by
  rw [h]
  simp only [bind_assoc, pure_bind]
  exact source.checkDepth_of_le deep _

/-- A whole conjunction is read if no operand comes next. -/
theorem ReadsExactly.run_conjunction
    (h : source.ReadsExactly level opened above read rest query .conjunction)
    (ends : source.EndsConjunction rest)
    (deep : level + 2 ≤ required opened above (lexemes read) query) :
    source.run .conjunction ⟨read ++ rest, level + 1⟩ = (do
      source.checkDepth (required opened above (lexemes read) query)
      return ⟨⟨query, query.depth⟩, ⟨rest, level + 1⟩⟩) := by
  rw [ReadsExactly, ends] at h
  have whole := run_within h deep
  rw [bind_assoc] at whole
  rw [Source.run_conjunction]
  exact whole

/-- A whole disjunction is read if nothing comes next that it could go on with. -/
theorem ReadsExactly.run_disjunction
    (h : source.ReadsExactly level opened above read rest query .disjunction)
    (ends : source.EndsConjunction rest) (ends' : source.EndsDisjunction rest)
    (deep : level + 1 ≤ required opened above (lexemes read) query) :
    source.run .disjunction ⟨read ++ rest, level⟩ = (do
      source.checkDepth (required opened above (lexemes read) query)
      return ⟨⟨query, query.depth⟩, ⟨rest, level⟩⟩) := by
  replace h := h ends
  rw [ends'] at h
  have whole := run_within h deep
  rw [bind_assoc] at whole
  rw [Source.run_disjunction]
  exact whole

/-- The check for two parts and their node is the check for both together. -/
theorem required_binary {place : Nonterminal} {before : List Lexeme} {left : Query}
    (h : Derives place before left) (opened above : Nat) (op : Connective) (after : List Lexeme)
    (right : Query) :
    required opened above (before ++ after) (.binary op left right) =
      max (required opened above before left)
        (max (required opened above after right) (1 + max left.depth right.depth)) := by
  simp only [required, h.nesting_binary, Query.depth]
  omega

theorem join_eq (op : Connective) (left right : Query) :
    source.join op ⟨left, left.depth⟩ ⟨right, right.depth⟩ = (do
      source.checkDepth (1 + max left.depth right.depth)
      return ⟨.binary op left right, (Query.binary op left right).depth⟩) := rfl

theorem negate_eq (operand : Query) :
    source.negate ⟨operand, operand.depth⟩ = (do
      source.checkDepth (1 + operand.depth)
      return ⟨.negation operand, (Query.negation operand).depth⟩) := rfl

/-- A check that is made on the way to a literal is implied by the check of the literal. -/
theorem level_lt_required {place : Nonterminal} {before : List Lexeme}
    (h : Derives place before query) (hlevel : level = 4 * opened + above) :
    level + 4 ≤ required opened above before query := by
  have hnesting := h.le_nesting opened above
  simp only [required]
  omega

/-! One statement for every rule of the grammar. -/

theorem ReadsExactly.literal {token : Token} {text : String}
    (h : token.lexeme = .word text ∨ token.lexeme = .phrase text)
    (hlevel : level = 4 * opened + above) :
    source.ReadsExactly level opened above [token] rest (.literal text) .primary := by
  have hnesting : nesting opened above (lexemes [token]) (.literal text) = level + 4 := by
    rcases h with h | h
    · rw [lexemes, List.map_singleton, h, nesting_word]
      omega
    · rw [lexemes, List.map_singleton, h, nesting_phrase]
      omega
  have hrequired : required opened above (lexemes [token]) (.literal text) = level + 3 + 1 := by
    simp only [required, hnesting, Query.depth]
    omega
  rw [ReadsExactly, hrequired, List.singleton_append, run_primary_operand source rest _ h]
  rfl

theorem ReadsExactly.group {offset close : Nat}
    (inside : source.ReadsExactly (level + 4) (opened + 1) above read
      (⟨.closeParen, close⟩ :: rest) query .disjunction)
    (derived : Derives .disjunction (lexemes read) query) (hlevel : level = 4 * opened + above) :
    source.ReadsExactly level opened above
      (⟨.openParen, offset⟩ :: (read ++ [⟨.closeParen, close⟩])) rest query .primary := by
  have deep := level_lt_required derived (show level + 4 = 4 * (opened + 1) + above by omega)
  have hrequired : required opened above
      (lexemes (⟨.openParen, offset⟩ :: (read ++ [⟨.closeParen, close⟩]))) query =
      required (opened + 1) above (lexemes read) query := by
    simp [required, derived.nesting_group]
  rw [ReadsExactly, hrequired, List.cons_append, run_primary_open, List.append_assoc,
    List.singleton_append, inside.run_disjunction (source.endsConjunction_close close rest)
      (source.endsDisjunction_close close rest) (by omega)]
  simp only [bind_assoc]
  exact source.checkDepth_of_le (by omega) _

theorem ReadsExactly.operand
    (inside : source.ReadsExactly level opened above read rest query .primary)
    (derived : Derives .primary (lexemes read) query) (hlevel : level = 4 * opened + above) :
    source.ReadsExactly level opened above read rest query .unary := by
  have deep := level_lt_required derived hlevel
  obtain ⟨token, others, rfl, hnot⟩ : ∃ token others, read = token :: others ∧
      token.lexeme ≠ .not := by
    obtain ⟨first, others, hread, -, hnot⟩ := derived.exists_cons
    obtain ⟨token, tokens, rfl, rfl, rfl⟩ := List.map_eq_cons_iff.mp hread
    exact ⟨token, tokens, rfl, hnot rfl⟩
  rw [ReadsExactly, List.cons_append, run_unary_cons source _ _ hnot]
  exact run_within inside (by omega)

theorem ReadsExactly.negation {offset : Nat}
    (inside : source.ReadsExactly (level + 1) opened (above + 1) read rest query .unary)
    (derived : Derives .unary (lexemes read) query) (hlevel : level = 4 * opened + above) :
    source.ReadsExactly level opened above (⟨.not, offset⟩ :: read) rest (.negation query)
      .unary := by
  have deep := level_lt_required derived (show level + 1 = 4 * opened + (above + 1) by omega)
  have hrequired : required opened above (lexemes (⟨.not, offset⟩ :: read)) (.negation query) =
      max (required opened (above + 1) (lexemes read) query) (1 + query.depth) := by
    simp only [required, lexemes, List.map_cons, nesting_negation, Query.depth]
    omega
  simp only [ReadsExactly] at inside ⊢
  rw [hrequired, List.cons_append, run_unary_not, inside, ← source.checkDepth_checkDepth]
  simp only [bind_assoc, pure_bind, negate_eq]
  exact source.checkDepth_of_le (by omega) _

theorem ReadsExactly.conjunct
    (inside : source.ReadsExactly level opened above read rest query .unary) :
    source.ReadsExactly level opened above read rest query .conjunction := by
  simp only [ReadsExactly] at inside ⊢
  rw [inside]
  simp only [bind_assoc, pure_bind]

/-- The second operand of a conjunction joins the first one, once the rule that goes on calls for
it. -/
theorem ReadsExactly.join_conjunct (between : List Token) {after : List Token} {left right : Query}
    (first : source.ReadsExactly level opened above read (between ++ after ++ rest) left
      .conjunction)
    (second : source.ReadsExactly level opened above after rest right .unary)
    (derived : Derives .conjunction (lexemes read) left)
    (calls : source.run (.moreConjuncts ⟨left, left.depth⟩) ⟨between ++ after ++ rest, level + 2⟩ =
      (do
        let right ← source.run .unary ⟨after ++ rest, level + 2⟩
        let both ← source.join .and ⟨left, left.depth⟩ right.node
        source.run (.moreConjuncts both) right.next))
    (silent : ∀ query, nesting opened above (lexemes (between ++ after)) query =
      nesting opened above (lexemes after) query) :
    source.ReadsExactly level opened above (read ++ (between ++ after)) rest
      (.binary .and left right) .conjunction := by
  have hrequired : required opened above (lexemes (read ++ (between ++ after)))
      (.binary .and left right) = max (required opened above (lexemes read) left)
        (max (required opened above (lexemes after) right) (1 + max left.depth right.depth)) := by
    rw [lexemes, List.map_append, required_binary derived]
    simp only [required, silent]
  simp only [ReadsExactly] at first second ⊢
  rw [hrequired, List.append_assoc, first, calls, second,
    ← source.checkDepth_checkDepth, ← source.checkDepth_checkDepth]
  simp only [bind_assoc, pure_bind, join_eq]

/-- The next part of a disjunction joins what has been read. -/
theorem ReadsExactly.join_disjunct {offset : Nat} {after : List Token} {left right : Query}
    (first : source.ReadsExactly level opened above read (⟨.or, offset⟩ :: (after ++ rest)) left
      .disjunction)
    (second : source.ReadsExactly level opened above after rest right .conjunction)
    (derived : Derives .disjunction (lexemes read) left)
    (derived' : Derives .conjunction (lexemes after) right) (hlevel : level = 4 * opened + above) :
    source.ReadsExactly level opened above (read ++ ⟨.or, offset⟩ :: after) rest
      (.binary .or left right) .disjunction := by
  intro ends
  have deep := level_lt_required derived' hlevel
  have hrequired : required opened above (lexemes (read ++ ⟨.or, offset⟩ :: after))
      (.binary .or left right) = max (required opened above (lexemes read) left)
        (max (required opened above (lexemes after) right) (1 + max left.depth right.depth)) := by
    rw [lexemes, List.map_append, required_binary derived]
    simp only [required, List.map_cons, nesting_or]
  have hfirst := first (source.endsConjunction_or offset (after ++ rest))
  rw [hrequired, List.append_assoc, List.cons_append, hfirst, run_moreDisjuncts_or,
    second.run_conjunction ends (by omega), ← source.checkDepth_checkDepth,
    ← source.checkDepth_checkDepth]
  simp only [bind_assoc, pure_bind, join_eq]

theorem ReadsExactly.disjunct
    (inside : source.ReadsExactly level opened above read rest query .conjunction)
    (derived : Derives .conjunction (lexemes read) query) (hlevel : level = 4 * opened + above) :
    source.ReadsExactly level opened above read rest query .disjunction := by
  intro ends
  have deep := level_lt_required derived hlevel
  rw [inside.run_conjunction ends (by omega)]
  simp only [bind_assoc, pure_bind]

/-- Every expression that is derived is read exactly. -/
theorem readsExactly {place : Nonterminal} (derived : Derives place (lexemes read) query)
    (hlevel : level = 4 * opened + above) :
    source.ReadsExactly level opened above read rest query place := by
  -- The derivation is of lexemes, so every case first splits the tokens in the same way.
  generalize hread : lexemes read = before at derived
  induction derived generalizing read rest level opened above with
  | word text =>
    obtain ⟨token, rfl, htoken⟩ := List.map_eq_singleton_iff.mp hread
    exact .literal (Or.inl htoken) hlevel
  | phrase text =>
    obtain ⟨token, rfl, htoken⟩ := List.map_eq_singleton_iff.mp hread
    exact .literal (Or.inr htoken) hlevel
  | group h ih =>
    obtain ⟨⟨_, offset⟩, tail, rfl, rfl, htail⟩ := List.map_eq_cons_iff.mp hread
    obtain ⟨tokens, closing, rfl, rfl, hclosing⟩ := List.map_eq_append_iff.mp htail
    obtain ⟨⟨_, close⟩, rfl, rfl⟩ := List.map_eq_singleton_iff.mp hclosing
    exact .group (ih (by omega) rfl) h hlevel
  | operand h ih =>
    subst hread
    exact .operand (ih hlevel rfl) h hlevel
  | negation h ih =>
    obtain ⟨⟨_, offset⟩, tail, rfl, rfl, rfl⟩ := List.map_eq_cons_iff.mp hread
    exact .negation (ih (by omega) rfl) h hlevel
  | conjunct h ih => exact .conjunct (ih hlevel hread)
  | conjoin hl hr ihl ihr =>
    obtain ⟨ls, tail, rfl, rfl, htail⟩ := List.map_eq_append_iff.mp hread
    obtain ⟨⟨_, offset⟩, rs, rfl, rfl, rfl⟩ := List.map_eq_cons_iff.mp htail
    exact .join_conjunct [⟨.and, offset⟩] (ihl hlevel rfl) (ihr hlevel rfl) hl
      (source.run_moreConjuncts_and _ offset _ _) fun _ => rfl
  | adjoin hl hr ihl ihr =>
    obtain ⟨ls, rs, rfl, rfl, rfl⟩ := List.map_eq_append_iff.mp hread
    obtain ⟨first, others, hcons, hstarts, -⟩ := hr.exists_cons
    obtain ⟨token, tokens, rfl, rfl, rfl⟩ := List.map_eq_cons_iff.mp hcons
    exact .join_conjunct [] (ihl hlevel rfl) (ihr hlevel rfl) hl
      (source.run_moreConjuncts_operand _ _ _ hstarts) fun _ => rfl
  | disjunct h ih =>
    subst hread
    exact .disjunct (ih hlevel rfl) h hlevel
  | disjoin hl hr ihl ihr =>
    obtain ⟨ls, tail, rfl, rfl, htail⟩ := List.map_eq_append_iff.mp hread
    obtain ⟨⟨_, offset⟩, rs, rfl, rfl, rfl⟩ := List.map_eq_cons_iff.mp htail
    exact .join_disjunct (ihl hlevel rfl) (ihr hlevel rfl) hl hr hlevel

end Source

end BooleanSearch
