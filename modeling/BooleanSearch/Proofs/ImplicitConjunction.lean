import BooleanSearch.Proofs.Invariance
import BooleanSearch.Proofs.JoinedInputs
import BooleanSearch.Proofs.StrayParenthesis

/-! # Operands side by side

Between two operands `AND` can be left out in every input, right or wrong. The run on the input
without it and the run on the input with it are followed side by side: they take the same steps up
to the seam, there one of them reads `AND`, and behind it they are in step again.
-/

namespace BooleanSearch

/-- Whether an operand can end with this lexeme. -/
def Lexeme.endsOperand : Lexeme → Bool
  | .closeParen | .phrase _ | .word _ => true
  | .and | .or | .not | .openParen => false

/-! ### Before, at and behind the seam -/

section Seam

variable (Same : Nat → Nat → Prop)

/-- Tokens before the seam. An operand ends with the last one of them, and they stand at places that
correspond to themselves. -/
structure IsFront (front : List Token) : Prop where
  ends : ∀ token ∈ front.getLast?, token.lexeme.endsOperand = true
  same : ∀ token ∈ front, Same token.offset token.offset

/-- What stands behind the seam in two inputs, an operand first, and how the inputs end. -/
structure Source.Adjoins (source other : Source) (back back' : List Token) : Prop where
  steps : source.InStep Same other
  alike : List.Forall₂ (Token.Alike Same) back back'
  starts : ∃ first rest, back = first :: rest ∧ first.lexeme.startsOperand = true

variable (back back' : List Token) (place : Nat)

/-- Two cursors in step: before the same tokens up to the seam, where the second input has `AND`, or
both of them behind the seam. -/
inductive Cursor.Across : Cursor → Cursor → Prop
  | before {front : List Token} (h : IsFront Same front) (depth : Nat) :
      Across ⟨front ++ back, depth⟩ ⟨front ++ ⟨.and, place⟩ :: back', depth⟩
  | behind {cursor other : Cursor} (h : cursor.Alike Same other) : Across cursor other

/-- The same node, with cursors behind it that are in step across the seam. -/
structure Progress.Across (progress other : Progress) : Prop where
  node : progress.node = other.node
  next : progress.next.Across Same back back' place other.next

variable {Same back back' place}

namespace IsFront

theorem of_cons {token : Token} {rest : List Token} (h : IsFront Same (token :: rest)) :
    IsFront Same rest where
  ends := fun last hlast => h.ends last (by
    rw [List.getLast?_cons, Option.mem_def.mp hlast]
    rfl)
  same := fun other hmem => h.same other (List.mem_cons_of_mem token hmem)

/-- A token with which no operand ends is not the last one. -/
theorem ne_nil_of_cons {token : Token} {rest : List Token} (h : IsFront Same (token :: rest))
    (hends : token.lexeme.endsOperand = false) : rest ≠ [] := by
  rintro rfl
  rw [h.ends token rfl] at hends
  cases hends

end IsFront

/-- The first of some tokens is the first one before the seam, if there is any. -/
theorem exists_eq_cons_of_append {token : Token} {rest front back : List Token} (hne : front ≠ [])
    (h : token :: rest = front ++ back) : ∃ others, front = token :: others ∧ rest = others ++ back :=
  (List.cons_eq_append_iff.mp h).resolve_left fun hnil => hne hnil.1

theorem Cursor.Across.leave {cursor other : Cursor}
    (h : cursor.Across Same back back' place other) :
    cursor.leave.Across Same back back' place other.leave := by
  cases h with
  | before h depth => exact .before h (depth - 1)
  | behind h => exact .behind h.leave

/-! ### Results -/

namespace Related

variable {source other : Source} {whole whole' : Except SearchError Progress}

/-- Progress that is alike lies behind the seam. -/
theorem behind (h : Related Same (Progress.Alike Same) source other whole whole') :
    Related Same (Progress.Across Same back back' place) source other whole whole' := by
  cases h with
  | ok h => exact .ok ⟨h.node, .behind h.next⟩
  | fault h => exact .fault h
  | tooDeep => exact .tooDeep
  | cutOff h => exact .cutOff h

theorem leave_across
    (h : Related Same (Progress.Across Same back back' place) source other whole whole') :
    Related Same (Progress.Across Same back back' place) source other
      (do let whole ← whole; return ⟨whole.node, whole.next.leave⟩)
      (do let whole ← whole'; return ⟨whole.node, whole.next.leave⟩) := by
  apply h.bind
  intro progress progress' _ hprogress
  exact .ok ⟨hprogress.node, hprogress.next.leave⟩

end Related

end Seam

/-! ### Rules -/

namespace Source.Adjoins

variable {Same : Nat → Nat → Prop} {source other : Source} {back back' : List Token} {place : Nat}

/-- At the seam a conjunction goes on: the first run calls for an operand because one can start
there, the second one because of `AND`. -/
theorem run_moreConjuncts (seam : source.Adjoins Same other back back') (left : Node)
    (depth : Nat) :
    Related Same (Progress.Across Same back back' place) source other
      (source.run (.moreConjuncts left) ⟨back, depth⟩)
      (other.run (.moreConjuncts left) ⟨⟨.and, place⟩ :: back', depth⟩) := by
  obtain ⟨first, rest, hback, starts⟩ := seam.starts
  have next : Related Same (Progress.Alike Same) source other (source.run .unary ⟨back, depth⟩)
      (other.run .unary ⟨back', depth⟩) := seam.steps.run (.of_ahead seam.alike depth)
  rw [run_moreConjuncts_and]
  subst hback
  rw [run_moreConjuncts_operand source left rest depth starts]
  exact (seam.steps.join_then .and left next fun _ _ _ _ h => seam.steps.run h).behind

/-- At the seam a disjunction stops. -/
theorem run_moreDisjuncts (seam : source.Adjoins Same other back back') (left : Node)
    (depth : Nat) :
    Related Same (Progress.Across Same back back' place) source other
      (source.run (.moreDisjuncts left) ⟨back, depth⟩)
      (other.run (.moreDisjuncts left) ⟨⟨.and, place⟩ :: back', depth⟩) := by
  obtain ⟨first, rest, rfl, starts⟩ := seam.starts
  have hor : first.lexeme ≠ .or := by
    intro h
    rw [h] at starts
    cases starts
  rw [run_moreDisjuncts_cons source left rest depth hor,
    run_moreDisjuncts_cons other left back' depth (by simp)]
  have front : IsFront Same [] := ⟨by simp, by simp⟩
  exact .ok ⟨rfl, .before front depth⟩

/-- A rule that goes on where another one has stopped finds itself before the seam, at the seam or
behind it. -/
theorem run_across (seam : source.Adjoins Same other back back') {rule : Rule}
    {cursor cursor' : Cursor} (h : cursor.Across Same back back' place cursor')
    (before : ∀ front, IsFront Same front → front ≠ [] → cursor.ahead = front ++ back →
      Related Same (Progress.Across Same back back' place) source other (source.run rule cursor)
        (other.run rule ⟨front ++ ⟨.and, place⟩ :: back', cursor.depth⟩))
    (atSeam : ∀ depth, Related Same (Progress.Across Same back back' place) source other
      (source.run rule ⟨back, depth⟩) (other.run rule ⟨⟨.and, place⟩ :: back', depth⟩)) :
    Related Same (Progress.Across Same back back' place) source other (source.run rule cursor)
      (other.run rule cursor') := by
  cases h with
  | @before front hfront depth =>
    by_cases hne : front = []
    · subst hne
      exact atSeam depth
    · exact before front hfront hne rfl
  | behind h => exact (seam.steps.run h).behind

/-- What is read next joins what has been read, and reading goes on behind it. -/
theorem join_then (seam : source.Adjoins Same other back back') (op : Connective) (left : Node)
    {next next' : Except SearchError Progress} {more : Node → Rule}
    (h : Related Same (Progress.Across Same back back' place) source other next next')
    (hmore : ∀ right both, next = .ok right → ∀ front, IsFront Same front → front ≠ [] →
      right.next.ahead = front ++ back →
      Related Same (Progress.Across Same back back' place) source other
        (source.run (more both) right.next)
        (other.run (more both) ⟨front ++ ⟨.and, place⟩ :: back', right.next.depth⟩))
    (atSeam : ∀ both depth, Related Same (Progress.Across Same back back' place) source other
      (source.run (more both) ⟨back, depth⟩)
      (other.run (more both) ⟨⟨.and, place⟩ :: back', depth⟩)) :
    Related Same (Progress.Across Same back back' place) source other
      (do
        let right ← next
        let both ← source.join op left right.node
        source.run (more both) right.next)
      (do
        let right ← next'
        let both ← other.join op left right.node
        other.run (more both) right.next) := by
  apply h.bind
  rintro right ⟨_, cursor⟩ hright ⟨rfl, hcursor⟩
  apply (seam.steps.join op left right.node).bind
  rintro both _ _ rfl
  exact seam.run_across hcursor (hmore right both hright) (atSeam both)

/-- Behind a whole expression no other operand stands. -/
theorem not_stopsAt (seam : source.Adjoins Same other back back') :
    ¬ source.StopsAt [.closeParen] back := by
  intro stops
  obtain ⟨first, rest, rfl, starts⟩ := seam.starts
  rw [List.mem_singleton.mp stops] at starts
  cases starts

/-- A group closes before the seam or behind it: at the seam another operand stands, so that the
expression inside the group would have gone on. -/
theorem closeGroup (seam : source.Adjoins Same other back back') {inner inner' : Progress}
    (h : inner.Across Same back back' place inner')
    (stops : source.StopsAt [.closeParen] inner.next.ahead) :
    Related Same (Progress.Across Same back back' place) source other (source.closeGroup inner)
      (other.closeGroup inner') := by
  obtain ⟨node, cursor⟩ := inner
  obtain ⟨node', cursor'⟩ := inner'
  obtain ⟨rfl, hnext⟩ := h
  cases hnext with
  | @before front hfront depth =>
    cases front with
    | nil => exact absurd stops seam.not_stopsAt
    | cons token rest =>
      have hclose : token.lexeme = .closeParen := List.mem_singleton.mp stops
      simp only [List.cons_append]
      rw [source.closeGroup_close node _ depth hclose, other.closeGroup_close node _ depth hclose]
      exact .ok ⟨rfl, .before hfront.of_cons (depth - 1)⟩
  | behind hnext =>
    have hinner : Progress.Alike Same ⟨node, cursor⟩ ⟨node, cursor'⟩ := ⟨rfl, hnext⟩
    exact (seam.steps.closeGroup hinner).behind

/-- The rules give results that correspond when they are called before the seam. -/
theorem run (seam : source.Adjoins Same other back back') {rule : Rule} {cursor : Cursor}
    {front : List Token} (hfront : IsFront Same front) (hne : front ≠ [])
    (hahead : cursor.ahead = front ++ back) :
    Related Same (Progress.Across Same back back' place) source other (source.run rule cursor)
      (other.run rule ⟨front ++ ⟨.and, place⟩ :: back', cursor.depth⟩) := by
  have steps := seam.steps
  -- A rule that is called before the seam reads a token before the seam. So the seam can only be
  -- reached behind an operand, where the two rules for lists go on.
  induction rule, cursor using source.run_induction generalizing front with
  | disjunction cursor ih more =>
    rw [run_disjunction, run_disjunction]
    apply (steps.checkDepth rfl).bind
    intro _ _ _ _
    apply (ih hfront hne hahead).bind
    rintro first ⟨_, next⟩ hfirst ⟨rfl, hnext⟩
    exact (seam.run_across hnext (fun _ => more first hfirst)
      (seam.run_moreDisjuncts first.node)).leave_across
  | moreDisjuncts_or left offset rest depth ih more =>
    obtain ⟨front, rfl, hrest⟩ := exists_eq_cons_of_append hne hahead
    rw [run_moreDisjuncts_or, List.cons_append, run_moreDisjuncts_or]
    exact seam.join_then .or left (ih hfront.of_cons (hfront.ne_nil_of_cons rfl) hrest)
      (fun right both hright _ => more right both hright) seam.run_moreDisjuncts
  | moreDisjuncts_nil left depth => exact absurd (List.append_eq_nil_iff.mp hahead.symm).1 hne
  | moreDisjuncts_cons left token rest depth hother =>
    obtain ⟨front, rfl, rfl⟩ := exists_eq_cons_of_append hne hahead
    rw [run_moreDisjuncts_cons source left _ depth hother, List.cons_append,
      run_moreDisjuncts_cons other left _ depth hother]
    exact .ok ⟨rfl, .before hfront depth⟩
  | conjunction cursor ih more =>
    rw [run_conjunction, run_conjunction]
    apply (steps.checkDepth rfl).bind
    intro _ _ _ _
    apply (ih hfront hne hahead).bind
    rintro first ⟨_, next⟩ hfirst ⟨rfl, hnext⟩
    exact (seam.run_across hnext (fun _ => more first hfirst)
      (seam.run_moreConjuncts first.node)).leave_across
  | moreConjuncts_and left offset rest depth ih more =>
    obtain ⟨front, rfl, hrest⟩ := exists_eq_cons_of_append hne hahead
    rw [run_moreConjuncts_and, List.cons_append, run_moreConjuncts_and]
    exact seam.join_then .and left (ih hfront.of_cons (hfront.ne_nil_of_cons rfl) hrest)
      (fun right both hright _ => more right both hright) seam.run_moreConjuncts
  | moreConjuncts_nil left depth => exact absurd (List.append_eq_nil_iff.mp hahead.symm).1 hne
  | moreConjuncts_operand left token rest depth starts ih more =>
    obtain ⟨front, rfl, rfl⟩ := exists_eq_cons_of_append hne hahead
    rw [run_moreConjuncts_operand source left _ depth starts, List.cons_append,
      run_moreConjuncts_operand other left _ depth starts]
    exact seam.join_then .and left (ih hfront hne rfl)
      (fun right both hright _ => more right both hright) seam.run_moreConjuncts
  | moreConjuncts_cons left token rest depth hother starts =>
    obtain ⟨front, rfl, rfl⟩ := exists_eq_cons_of_append hne hahead
    rw [run_moreConjuncts_cons source left _ depth hother starts, List.cons_append,
      run_moreConjuncts_cons other left _ depth hother starts]
    exact .ok ⟨rfl, .before hfront depth⟩
  | unary_not offset rest depth ih =>
    obtain ⟨front, rfl, hrest⟩ := exists_eq_cons_of_append hne hahead
    rw [run_unary_not, List.cons_append, run_unary_not]
    apply (steps.checkDepth rfl).bind
    intro _ _ _ _
    apply (ih hfront.of_cons (hfront.ne_nil_of_cons rfl) hrest).bind
    rintro operand ⟨_, next⟩ _ ⟨rfl, hnext⟩
    apply (steps.negate operand.node).bind
    rintro negated _ _ rfl
    exact .ok ⟨rfl, hnext.leave⟩
  | unary_nil depth ih => exact absurd (List.append_eq_nil_iff.mp hahead.symm).1 hne
  | unary_cons token rest depth hother ih =>
    obtain ⟨front, rfl, rfl⟩ := exists_eq_cons_of_append hne hahead
    rw [run_unary_cons source _ depth hother, List.cons_append, run_unary_cons other _ depth hother]
    apply (steps.checkDepth rfl).bind
    intro _ _ _ _
    exact (ih hfront hne rfl).leave_across
  | primary_nil depth => exact absurd (List.append_eq_nil_iff.mp hahead.symm).1 hne
  | primary_open offset rest depth ih =>
    obtain ⟨front, rfl, hrest⟩ := exists_eq_cons_of_append hne hahead
    rw [run_primary_open, List.cons_append, run_primary_open]
    apply (steps.checkDepth rfl).bind
    intro _ _ _ _
    apply (ih hfront.of_cons (hfront.ne_nil_of_cons rfl) hrest).bind
    intro inner inner' hinner hacross
    have stops := source.gives_disjunction ⟨rest, depth + 1⟩
    rw [hinner] at stops
    exact seam.closeGroup hacross stops
  | primary_operand token text rest depth hlexeme =>
    obtain ⟨front, rfl, rfl⟩ := exists_eq_cons_of_append hne hahead
    rw [run_primary_operand source _ depth hlexeme, List.cons_append,
      run_primary_operand other _ depth hlexeme]
    apply (steps.checkDepth rfl).bind
    intro _ _ _ _
    exact .ok ⟨rfl, .before hfront.of_cons depth⟩
  | primary_other token rest depth hother =>
    obtain ⟨front, rfl, rfl⟩ := exists_eq_cons_of_append hne hahead
    rw [run_primary_other source _ depth hother, List.cons_append,
      run_primary_other other _ depth hother]
    apply (steps.checkDepth rfl).bind
    intro _ _ _ _
    exact .fault (.missingOperand (hfront.same token List.mem_cons_self))

/-- What comes after the whole expression stands before the seam or behind it. -/
theorem conclude (seam : source.Adjoins Same other back back') {whole whole' : Progress}
    (h : whole.Across Same back back' place whole')
    (stops : source.StopsAt [.closeParen] whole.next.ahead) :
    Related Same Eq source other (source.conclude whole) (other.conclude whole') := by
  obtain ⟨node, cursor⟩ := whole
  obtain ⟨node', cursor'⟩ := whole'
  obtain ⟨rfl, hnext⟩ := h
  cases hnext with
  | @before front hfront depth =>
    cases front with
    | nil => exact absurd stops seam.not_stopsAt
    | cons token rest => exact .fault (.strayToken (hfront.same token List.mem_cons_self))
  | behind hnext =>
    have hwhole : Progress.Alike Same ⟨node, cursor⟩ ⟨node, cursor'⟩ := ⟨rfl, hnext⟩
    exact seam.steps.conclude hwhole

end Source.Adjoins

/-- Two parsers with one limit give results that correspond if the second input has `AND` at the
seam. -/
theorem SearchParser.parse_across {Same : Nat → Nat → Prop} {parser : SearchParser}
    {input otherInput : String} {front back back' : List Token} {place : Nat}
    (seam : (Source.ofInput parser.maxDepth input).Adjoins Same
      (Source.ofInput parser.maxDepth otherInput) back back')
    (hfront : IsFront Same front) (hne : front ≠ [])
    (tokens : (TokenStream.ofString input).tokens = front ++ back)
    (tokens' : (TokenStream.ofString otherInput).tokens = front ++ ⟨.and, place⟩ :: back') :
    Related Same Eq (Source.ofInput parser.maxDepth input)
      (Source.ofInput parser.maxDepth otherInput) (parser.parse input) (parser.parse otherInput) := by
  rw [parse_eq_run, parse_eq_run, tokens']
  apply (seam.run hfront hne tokens).bind
  intro whole whole' hwhole hacross
  have stops := (Source.ofInput parser.maxDepth input).gives_disjunction
    ⟨(TokenStream.ofString input).tokens, 0⟩
  rw [hwhole] at stops
  exact seam.conclude hacross stops

/-! ### In a text -/

/-- Where a place is found if `AND` with a blank before it stands behind so many characters. -/
def placeWithAnd (length place : Nat) : Nat := if place < length then place else place + 4

/-- What stands so many characters behind the seam stands four further on with `AND`. -/
theorem add_five_eq (length distance : Nat) :
    distance + 5 + length = placeWithAnd length (distance + 1 + length) := by
  rw [placeWithAnd, if_neg (by omega)]
  omega

/-- Between two texts a third one is tokenized that has no part of a word at its ends. -/
theorem TokenStream.ofString_between {before between after : String} {tokens among : List Token}
    (tokenized : tokenize before = .ok tokens) (tokenized' : tokenize between = .ok among)
    (hne : between.toList ≠ [])
    (starts : between.toList.head?.all (fun c => !isWordChar c) = true)
    (ends : between.toList.getLast?.all (fun c => !isWordChar c) = true) :
    ofString (before ++ between ++ after) =
      ((((ofString after).shift between.length).behind among).shift before.length).behind
        tokens := by
  have seam : CleanSeam before.toList (between ++ after).toList := by
    rw [String.toList_append]
    exact cleanSeam_iff.mpr (Or.inr (by rwa [List.head?_append_of_ne_nil _ hne]))
  rw [String.append_assoc, ofString_append tokenized seam,
    ofString_append tokenized' (cleanSeam_iff.mpr (Or.inl ends))]

section Text

variable {before after : String} {tokens : List Token}

theorem ofString_blank_between (tokenized : tokenize before = .ok tokens) :
    TokenStream.ofString (before ++ " " ++ after) =
      (((TokenStream.ofString after).shift 1).shift before.length).behind tokens := by
  have blank : tokenize " " = .ok [] := by cbv
  exact TokenStream.ofString_between tokenized blank (by decide) (by decide) (by decide)

theorem ofString_and_between (tokenized : tokenize before = .ok tokens) :
    TokenStream.ofString (before ++ " AND " ++ after) =
      ((((TokenStream.ofString after).shift 5).behind [⟨.and, 1⟩]).shift before.length).behind
        tokens := by
  have operator : tokenize " AND " = .ok [⟨.and, 1⟩] := by cbv
  exact TokenStream.ofString_between tokenized operator (by decide) (by decide) (by decide)

/-- The ends of the two inputs correspond, and faulty phrases behind the seam. -/
theorem inStep_placeWithAnd (maxDepth : Nat) (tokenized : tokenize before = .ok tokens) :
    (Source.ofInput maxDepth (before ++ " " ++ after)).InStep
      (fun place other => other = placeWithAnd before.length place)
      (Source.ofInput maxDepth (before ++ " AND " ++ after)) where
  limit_le := Nat.le_refl _
  finish := by
    simp only [Source.finish, Source.ofInput, ofString_blank_between tokenized,
      ofString_and_between tokenized, TokenStream.behind, TokenStream.shift]
    cases (TokenStream.ofString after).ending with
    | ok offset => exact .ok (add_five_eq before.length offset)
    | error fault =>
      cases fault with
      | unterminated position => exact .fault (.missingOperand (add_five_eq before.length position))
      | empty position => exact .fault (.emptyPhrase (add_five_eq before.length position))

/-- The tokens before the seam keep their places. -/
theorem isFront_of_tokenize (tokenized : tokenize before = .ok tokens)
    (ends : ∀ token ∈ tokens.getLast?, token.lexeme.endsOperand = true) :
    IsFront (fun place other => other = placeWithAnd before.length place) tokens where
  ends := ends
  same := fun token hmem => by
    have inside := (Cut.of_tokenize tokenized).offset_lt hmem
    rw [String.length_toList] at inside
    rw [placeWithAnd, if_pos inside]

/-- The tokens behind the seam are the same ones, four further on if `AND` stands there. -/
theorem adjoins_placeWithAnd (maxDepth : Nat) (tokenized : tokenize before = .ok tokens)
    {first : Token} (others : List Token) (starts : first.lexeme.startsOperand = true) :
    (Source.ofInput maxDepth (before ++ " " ++ after)).Adjoins
      (fun place other => other = placeWithAnd before.length place)
      (Source.ofInput maxDepth (before ++ " AND " ++ after))
      ((first :: others).map fun token => (token.shift 1).shift before.length)
      ((first :: others).map fun token => (token.shift 5).shift before.length) where
  steps := inStep_placeWithAnd maxDepth tokenized
  alike := by
    rw [List.forall₂_map_left_iff, List.forall₂_map_right_iff]
    exact List.forall₂_same.mpr fun token _ => ⟨Or.inl rfl, add_five_eq before.length token.offset⟩
  starts := ⟨_, _, rfl, starts⟩

/-- The two inputs give results that correspond. -/
theorem parse_related_with_and (parser : SearchParser) (tokenized : tokenize before = .ok tokens)
    (hne : tokens ≠ []) (ends : ∀ token ∈ tokens.getLast?, token.lexeme.endsOperand = true)
    {first : Token} {others : List Token}
    (hafter : (TokenStream.ofString after).tokens = first :: others)
    (starts : first.lexeme.startsOperand = true) :
    Related (fun place other => other = placeWithAnd before.length place) Eq
      (Source.ofInput parser.maxDepth (before ++ " " ++ after))
      (Source.ofInput parser.maxDepth (before ++ " AND " ++ after))
      (parser.parse (before ++ " " ++ after)) (parser.parse (before ++ " AND " ++ after)) := by
  have stream : (TokenStream.ofString (before ++ " " ++ after)).tokens = tokens ++
      (first :: others).map fun token => (token.shift 1).shift before.length := by
    rw [ofString_blank_between tokenized]
    simp [TokenStream.behind, TokenStream.shift, hafter]
  have stream' : (TokenStream.ofString (before ++ " AND " ++ after)).tokens = tokens ++
      ⟨.and, 1 + before.length⟩ ::
        (first :: others).map fun token => (token.shift 5).shift before.length := by
    rw [ofString_and_between tokenized]
    simp [TokenStream.behind, TokenStream.shift, Token.shift, hafter]
  exact SearchParser.parse_across (adjoins_placeWithAnd parser.maxDepth tokenized others starts)
    (isFront_of_tokenize tokenized ends) hne stream stream'

end Text

/-- Between what can end an operand and what can start one, `AND` can be put in or left out: the
queries are the same, and so are the kinds of fault. A fault before the seam keeps its place, and
any other one stands four characters further on with `AND`. -/
theorem parse_with_and (limit : Nat) {before after : String} {tokens : List Token}
    {last first : Token} (tokenized : tokenize before = .ok tokens)
    (hlast : tokens.getLast? = some last) (ends : last.lexeme.endsOperand = true)
    (hfirst : (TokenStream.ofString after).tokens.head? = some first)
    (starts : first.lexeme.startsOperand = true) :
    (∃ query, (SearchParser.ofLimit limit).parse (before ++ " " ++ after) = .ok query ∧
      (SearchParser.ofLimit limit).parse (before ++ " AND " ++ after) = .ok query) ∨
    ∃ error error', (SearchParser.ofLimit limit).parse (before ++ " " ++ after) = .error error ∧
      (SearchParser.ofLimit limit).parse (before ++ " AND " ++ after) = .error error' ∧
      error'.kindName = error.kindName ∧
      error'.position? = error.position?.map fun place =>
        if place < before.length then place else place + 4 := by
  have hne : tokens ≠ [] := by
    rintro rfl
    cases hlast
  have hends : ∀ token ∈ tokens.getLast?, token.lexeme.endsOperand = true := by
    rw [hlast]
    rintro _ ⟨⟩
    exact ends
  obtain ⟨others, hafter⟩ := List.head?_eq_some_iff.mp hfirst
  have related := parse_related_with_and (.ofLimit limit) tokenized hne hends hafter starts
  generalize (SearchParser.ofLimit limit).parse (before ++ " " ++ after) = result at related ⊢
  generalize (SearchParser.ofLimit limit).parse (before ++ " AND " ++ after) = result' at related ⊢
  cases related with
  | ok h => exact Or.inl ⟨_, rfl, by rw [h]⟩
  | fault h =>
    obtain ⟨hkind, place, other, hplace, hother, rfl⟩ := h.exists_place
    refine Or.inr ⟨_, _, rfl, rfl, hkind.symm, ?_⟩
    rw [hplace, hother]
    rfl
  | tooDeep => exact Or.inr ⟨_, _, rfl, rfl, rfl, rfl⟩
  | cutOff h => exact absurd h (Nat.lt_irrefl _)

/-- The second `)` is stray with `AND` before `b` and without it, although a faulty phrase
follows. -/
theorem parse_with_and_stray_parenthesis :
    (SearchParser.ofLimit 8).parse ("(a)" ++ " " ++ "b) \"\"") =
      .error (.strayToken 5 "(a) b) \"\"") ∧
    ∃ error', (SearchParser.ofLimit 8).parse ("(a)" ++ " AND " ++ "b) \"\"") = .error error' ∧
      error'.kindName = "syntax_error" ∧ error'.position? = some 9 := by
  have tokenized : tokenize "(a)" =
      .ok [⟨.openParen, 0⟩, ⟨.word "a", 1⟩, ⟨.closeParen, 2⟩] := by cbv
  have tokenized' : tokenize "(a) b" =
      .ok [⟨.openParen, 0⟩, ⟨.word "a", 1⟩, ⟨.closeParen, 2⟩, ⟨.word "b", 4⟩] := by cbv
  have word : Derives .disjunction [.word "a"] (.literal "a") :=
    .disjunct (.conjunct (.operand (.word "a")))
  have derived : Derives .disjunction ([.openParen, .word "a", .closeParen] ++ [.word "b"])
      (.binary .and (.literal "a") (.literal "b")) :=
    .disjunct (.adjoin (.conjunct (.operand (.group word))) (.operand (.word "b")))
  have accepted : (SearchParser.ofLimit 8).parse "(a) b" =
      .ok (.binary .and (.literal "a") (.literal "b")) := by
    rw [SearchParser.parse_of_derives _ tokenized' derived]
    decide
  have stray : (SearchParser.ofLimit 8).parse ("(a)" ++ " " ++ "b) \"\"") =
      .error (.strayToken 5 "(a) b) \"\"") :=
    SearchParser.parse_eq_strayToken_iff_before.mpr
      ⟨rfl, "(a) b".toList, " \"\"".toList, rfl, rfl, _, accepted⟩
  have hfirst : (TokenStream.ofString "b) \"\"").tokens.head? = some ⟨.word "b", 0⟩ := by
    have hchars : "b) \"\"".toList = 'b' :: ") \"\"".toList := rfl
    rw [TokenStream.ofString, hchars, TokenStream.ofChars_word _ _ (by decide)]
    rfl
  refine ⟨stray, ?_⟩
  rcases parse_with_and 8 tokenized rfl rfl hfirst rfl with
    ⟨query, accepted, -⟩ | ⟨error, error', hfault, hfault', hkind, hplace⟩
  · rw [stray] at accepted
    cases accepted
  · rw [stray] at hfault
    cases hfault
    exact ⟨error', hfault', hkind, hplace⟩

end BooleanSearch
