import BooleanSearch.Proofs.BoundedCalls
import BooleanSearch.Proofs.PendingRules
import BooleanSearch.Proofs.Pieces

/-! # The depth that is kept beside a query

The parser never measures a query that it has read. It keeps a depth beside the query, and makes the
depth of a new node from those of its parts. The nodes that there are at a moment of a parse form a
stack of their own. A step puts a literal on it, or makes one node of the two topmost ones or of the
topmost one; so every node on it has the depth of its query, and a depth within the limit.
-/

namespace BooleanSearch

/-- The depth that is kept beside a query is its depth, and is within a limit. -/
structure Node.Tracked (limit : Nat) (node : Node) : Prop where
  depth_eq : node.depth = node.query.depth
  depth_le : node.depth ≤ limit

/-! ### The nodes of a moment -/

/-- The node behind which a loop goes on. -/
def Rule.nodes : Rule → List Node
  | .moreDisjuncts left | .moreConjuncts left => [left]
  | .disjunction | .conjunction | .unary | .primary => []

def Task.nodes : Task → List Node
  | .call rule _ => rule.nodes
  | .give progress => [progress.node]

/-- What a rule that waits for an operand has joined so far. -/
def Pending.nodes : Pending → List Node
  | .join _ left => [left]
  | .goOn _ | .negate | .close | .leave => []

/-- All nodes that there are at a moment: the one that is given or behind which a loop goes on, and
below it those that have been joined in the rules that wait, the innermost first. -/
def Moment.nodes (moment : Moment) : List Node :=
  moment.task.nodes ++ moment.pending.flatMap Pending.nodes

@[simp] theorem Moment.nodes_initial (input : String) : (initial input).nodes = [] := rfl

@[simp] theorem Moment.nodes_call (place : Nonterminal) (cursor : Cursor) :
    nodes ⟨.call place.rule cursor, []⟩ = [] := by
  cases place <;> rfl

namespace Source

variable {source : Source}

/-- What a step does to the nodes: nothing, or it makes one of a text, of the two topmost ones or of
the topmost one. -/
inductive Builds (source : Source) : List Node → List Node → Prop
  | keep (nodes) : Builds source nodes nodes
  | literal (text : String) (nodes) (h : 0 < source.maxDepth) :
      Builds source nodes (⟨.literal text, 1⟩ :: nodes)
  | join {op left right both} (h : source.join op left right = .ok both) (nodes) :
      Builds source (right :: left :: nodes) (both :: nodes)
  | negate {operand negated} (h : source.negate operand = .ok negated) (nodes) :
      Builds source (operand :: nodes) (negated :: nodes)

variable {nodes after : List Node}

/-- The same for a step that may fail. -/
def BuildsFrom (source : Source) (nodes : List Node) : Except SearchError Moment → Prop
  | .ok next => source.Builds nodes next.nodes
  | .error _ => True

namespace BuildsFrom

theorem bind {α : Type} {check : Except SearchError α} {next : α → Except SearchError Moment}
    (h : ∀ value, check = .ok value → source.BuildsFrom nodes (next value)) :
    source.BuildsFrom nodes (check >>= next) := by
  cases check with
  | error error => trivial
  | ok value => exact h value rfl

theorem moment {next : Moment} (h : source.Builds nodes next.nodes) :
    source.BuildsFrom nodes (pure next) := h

theorem next {started : Except SearchError Moment} {next : Moment}
    (h : source.BuildsFrom nodes started)
    (hnext : (Sum.inl <$> started : Except SearchError (Moment ⊕ Query)) = .ok (.inl next)) :
    source.Builds nodes next.nodes := by
  cases started with
  | error error => cases hnext
  | ok moment =>
    cases hnext
    exact h

end BuildsFrom

/-- A rule starts with the nodes that there are, and only a word or a phrase adds one. -/
theorem builds_start (pending : List Pending) (rule : Rule) (cursor : Cursor) :
    source.BuildsFrom (Moment.nodes ⟨.call rule cursor, pending⟩)
      (source.start pending rule cursor) := by
  cases rule with
  | disjunction | conjunction => exact .bind fun _ _ => .moment (.keep _)
  | moreDisjuncts left | moreConjuncts left =>
    rcases cursor with ⟨_ | ⟨⟨lexeme, offset⟩, rest⟩, depth⟩
    · exact .bind fun _ _ => .moment (.keep _)
    · cases lexeme <;> exact .moment (.keep _)
  | unary =>
    rcases cursor with ⟨_ | ⟨⟨lexeme, offset⟩, rest⟩, depth⟩
    · exact .bind fun _ _ => .bind fun _ _ => .moment (.keep _)
    · cases lexeme <;> exact .bind fun _ _ => .moment (.keep _)
  | primary =>
    rcases cursor with ⟨_ | ⟨⟨lexeme, offset⟩, rest⟩, depth⟩
    · exact .bind fun _ _ => .bind fun _ _ => trivial
    · cases lexeme with
      | openParen => exact .bind fun _ _ => .moment (.keep _)
      | phrase text | word text =>
        -- The depth of a literal is never checked: it is within the limit because its rule is.
        refine .bind fun _ within => .moment (.literal text _ ?_)
        exact Nat.lt_of_lt_of_le (Nat.succ_pos depth) (le_of_checkDepth source within)
      | and | or | not | closeParen => exact .bind fun _ _ => trivial

/-- A rule that waits gets the topmost node, and has the one below if it joins them. -/
theorem builds_resume (pending : List Pending) (progress : Progress) (top : Pending) :
    source.BuildsFrom (Moment.nodes ⟨.give progress, top :: pending⟩)
      (source.resume pending progress top) := by
  cases top with
  | goOn op => cases op <;> exact .moment (.keep _)
  | join op left =>
    refine .bind fun both hboth => ?_
    cases op <;> exact .moment (.join hboth _)
  | negate => exact .bind fun negated hnegated => .moment (.negate hnegated _)
  | close =>
    refine .bind fun group hgroup => ?_
    obtain ⟨_, _, hnode, _⟩ := closeGroup_ok source hgroup
    apply BuildsFrom.moment
    simp only [Moment.nodes, Task.nodes, hnode]
    exact .keep _
  | leave => exact .moment (.keep _)

theorem Follows.builds {moment next : Moment} (h : source.Follows moment next) :
    source.Builds moment.nodes next.nodes := by
  obtain ⟨⟨rule, cursor⟩ | progress, pending⟩ := moment
  · exact (builds_start pending rule cursor).next h
  · cases pending with
    | nil => exact absurd h (not_follows_of_ends rfl)
    | cons top pending => exact (builds_resume pending progress top).next h

/-! ### The depth of the nodes -/

theorem tracked_of_join {op : Connective} {left right both : Node} {limit : Nat}
    (h : source.join op left right = .ok both) (hl : left.Tracked limit)
    (hr : right.Tracked limit) : both.Tracked source.maxDepth := by
  obtain ⟨_, within, hboth⟩ := bind_eq_ok.mp h
  rw [← pure_eq_ok.mp hboth]
  refine ⟨?_, le_of_checkDepth source within⟩
  rw [Query.depth, hl.depth_eq, hr.depth_eq]

theorem tracked_of_negate {operand negated : Node} {limit : Nat}
    (h : source.negate operand = .ok negated) (hoperand : operand.Tracked limit) :
    negated.Tracked source.maxDepth := by
  obtain ⟨_, within, hnegated⟩ := bind_eq_ok.mp h
  rw [← pure_eq_ok.mp hnegated]
  refine ⟨?_, le_of_checkDepth source within⟩
  rw [Query.depth, hoperand.depth_eq]

theorem Builds.tracked (h : source.Builds nodes after)
    (tracked : ∀ node ∈ nodes, node.Tracked source.maxDepth) :
    ∀ node ∈ after, node.Tracked source.maxDepth := by
  cases h with
  | keep => exact tracked
  | literal text nodes hpos => exact List.forall_mem_cons.mpr ⟨⟨rfl, hpos⟩, tracked⟩
  | join hboth nodes =>
    obtain ⟨hright, hleft, below⟩ := by simpa only [List.forall_mem_cons] using tracked
    exact List.forall_mem_cons.mpr ⟨tracked_of_join hboth hleft hright, below⟩
  | negate hnegated nodes =>
    obtain ⟨hoperand, below⟩ := List.forall_mem_cons.mp tracked
    exact List.forall_mem_cons.mpr ⟨tracked_of_negate hnegated hoperand, below⟩

/-- If all nodes are tracked at a moment, then also at every later one. -/
theorem Reaches.tracked {start moment : Moment} (h : source.Reaches start moment)
    (tracked : ∀ node ∈ start.nodes, node.Tracked source.maxDepth) :
    ∀ node ∈ moment.nodes, node.Tracked source.maxDepth := by
  induction h with
  | refl => exact tracked
  | tail _ follows ih => exact follows.builds.tracked ih

/-- A rule only gives nodes that are tracked, wherever it is called. -/
theorem tracked_of_run {place : Nonterminal} {cursor : Cursor} {progress : Progress}
    (h : source.run place.rule cursor = .ok progress) :
    progress.node.Tracked source.maxDepth := by
  have delivers := source.delivers_run place.rule cursor []
  rw [h] at delivers
  exact Reaches.tracked delivers (by simp) progress.node List.mem_cons_self

end Source

/-- A moment of the parse of an input. -/
def SearchParser.Passes (parser : SearchParser) (input : String) (moment : Moment) : Prop :=
  (Source.ofInput parser.maxDepth input).Reaches (.initial input) moment

/-- Every node that a rule gives has the depth of its query, and a depth within the limit. So has
every node that there is at any moment of a parse, whether it fails later on or not: what the loops
have joined so far, and every negation. The moments are those of the parser: a rule or a loop that
is called is answered with what it gives there, and from every moment on the steps lead to the
outcome that the parse has. -/
theorem nodes_are_tracked (parser : SearchParser) (input : String) :
    (∀ place cursor progress,
      (Source.ofInput parser.maxDepth input).run (Nonterminal.rule place) cursor = .ok progress →
      progress.node.Tracked parser.maxDepth) ∧
    (∀ moment, parser.Passes input moment →
      ∀ node ∈ moment.nodes, node.Tracked parser.maxDepth) ∧
    (∀ rule cursor pending progress, parser.Passes input ⟨.call rule cursor, pending⟩ →
      (Source.ofInput parser.maxDepth input).run rule cursor = .ok progress →
      parser.Passes input ⟨.give progress, pending⟩) ∧
    ∀ moment, parser.Passes input moment →
      ∃ last, (Source.ofInput parser.maxDepth input).Reaches moment last ∧
        (Source.ofInput parser.maxDepth input).step last = Sum.inr <$> parser.parse input := by
  refine ⟨?_, ?_, ?_, ?_⟩
  · intro place cursor progress run
    exact Source.tracked_of_run run
  · intro moment passes
    exact Source.Reaches.tracked passes (by simp)
  · intro rule cursor pending progress passes run
    exact Source.Reaches.give passes run
  · intro moment passes
    obtain ⟨last, reaches, ends⟩ := parser.reaches_outcome input
    exact ⟨last, Source.Reaches.of_ends passes reaches ends, ends⟩

/-- The first operand is given and joined to the second one before the third one is missing. -/
theorem nodes_are_tracked_before_missing_operand :
    let parser : SearchParser := ⟨4, by decide⟩
    let source := Source.ofInput 4 "a b AND"
    let tokens : List Token := [⟨.word "a", 0⟩, ⟨.word "b", 2⟩, ⟨.and, 4⟩]
    let call : Moment := ⟨.call .unary ⟨tokens, 2⟩, [.goOn .and, .goOn .or]⟩
    let first : Node := ⟨.literal "a", 1⟩
    let both : Node := ⟨.binary .and (.literal "a") (.literal "b"), 2⟩
    let loop : Moment := ⟨.call (.moreConjuncts both) ⟨[⟨.and, 4⟩], 2⟩, [.leave, .goOn .or]⟩
    (parser.Passes "a b AND" call ∧
      source.run .unary ⟨tokens, 2⟩ = .ok ⟨first, ⟨tokens.tail, 2⟩⟩ ∧ first.Tracked 4) ∧
    parser.Passes "a b AND" loop ∧ both ∈ loop.nodes ∧ both.Tracked 4 := by
  intro parser source tokens call first both loop
  have tokenized : tokenize "a b AND" = .ok tokens := by cbv
  have stream := (Cut.of_tokenize tokenized).ofString_eq
  obtain ⟨given, held, answered, -⟩ := nodes_are_tracked parser "a b AND"
  have start : Moment.initial "a b AND" = ⟨.call .disjunction ⟨tokens, 0⟩, []⟩ := by
    rw [Moment.initial, stream]
  have called : parser.Passes "a b AND" call := by
    rw [SearchParser.Passes, start]
    exact .head rfl (.head rfl .refl)
  have read : source.run .unary ⟨tokens, 2⟩ = .ok ⟨first, ⟨tokens.tail, 2⟩⟩ := by
    rw [Source.run_unary_cons _ _ _ (by simp), Source.run_primary_operand _ _ _ (Or.inl rfl)]
    rfl
  have passes : parser.Passes "a b AND" loop :=
    -- The loop calls for the second operand, which is read in four steps and then joined.
    (answered _ _ _ _ called read).trans
      (.head rfl (.head rfl (.head rfl (.head rfl (.head rfl (.head rfl .refl))))))
  have hmem : both ∈ loop.nodes := List.mem_cons_self
  exact ⟨⟨called, read, given .unary _ _ read⟩, passes, hmem, held loop passes both hmem⟩

end BooleanSearch
