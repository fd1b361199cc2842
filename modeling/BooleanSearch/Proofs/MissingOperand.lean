import Mathlib.Data.List.Nodup
import BooleanSearch.Proofs.StrayParenthesis
import BooleanSearch.Proofs.Substitution
import BooleanSearch.Proofs.UnclosedGroup

/-! # Operands that are missing

A missing operand is reported at the first token that no expression can have there. What stands
before it is the beginning of an expression, as readings that break off show; and what stands behind
it does not matter, since the runs on two inputs that have the same tokens up to there are the same
until one of them goes beyond the token.
-/

namespace BooleanSearch

/-! ### Tokens and places -/

namespace Cut

variable {read rest : List Char} {tokens : List Token}

/-- A token of the next piece stands behind all the tokens before it. -/
theorem pairwise_concat (h : Cut read rest tokens)
    (ordered : tokens.Pairwise fun (token later : Token) => token.offset < later.offset)
    (lexeme : Lexeme) :
    (tokens ++ [(⟨lexeme, read.length⟩ : Token)]).Pairwise
      fun (token later : Token) => token.offset < later.offset := by
  refine List.pairwise_append.mpr ⟨ordered, List.pairwise_singleton _ _, ?_⟩
  intro token hmem last hlast
  rw [List.mem_singleton.mp hlast]
  exact h.offset_lt hmem

/-- The tokens of a cut text stand one behind the other. -/
theorem pairwise_offset (h : Cut read rest tokens) :
    tokens.Pairwise fun (token later : Token) => token.offset < later.offset := by
  induction h with
  | start rest => exact .nil
  | blanks h maximal ih => exact ih
  | openParen h ih | closeParen h ih => exact h.pairwise_concat ih _
  | run h maximal named ih => exact h.pairwise_concat ih _
  | phrase h quoted filled ih => exact h.pairwise_concat ih _

end Cut

namespace TokenStream

theorem pairwise_offset (input : String) :
    (ofString input).tokens.Pairwise fun (token later : Token) => token.offset < later.offset := by
  obtain ⟨read, rest, -, cut, -⟩ := exists_cut_ofString input
  exact cut.pairwise_offset

theorem offset_lt_length {input : String} {token : Token} (h : token ∈ (ofString input).tokens) :
    token.offset < input.length := by
  obtain ⟨read, rest, hinput, cut, -⟩ := exists_cut_ofString input
  have inside := cut.offset_lt h
  rw [← String.length_toList, hinput, List.length_append]
  omega

/-- No two tokens stand at one place. -/
theorem eq_of_offset_eq {input : String} {token other : Token}
    (h : token ∈ (ofString input).tokens) (h' : other ∈ (ofString input).tokens)
    (hoffset : token.offset = other.offset) : token = other := by
  have nodup : ((ofString input).tokens.map Token.offset).Nodup :=
    List.pairwise_map.mpr ((pairwise_offset input).imp Nat.ne_of_lt)
  exact List.inj_on_of_nodup_map nodup h h' hoffset

/-- An operator or a `)` is read where it stands, if nothing prolongs it. -/
theorem exists_tokens_ofChars {lexeme : Lexeme} (h : lexeme.startsOperand = false)
    (position : Nat) {rest : List Char} (ends : ∀ c ∈ rest.head?, isWordChar c = false) :
    ∃ others, (ofChars position (lexeme.text.toList ++ rest)).tokens =
      ⟨lexeme, position⟩ :: others := by
  have piece : Cut lexeme.text.toList rest [⟨lexeme, 0⟩] := by
    cases lexeme with
    | and | or =>
      exact .run (.start _) ⟨by decide, List.all_eq_true.mp (by decide), by simp, ends⟩
        ⟨rfl, Or.inl (by simp)⟩
    | closeParen => exact .closeParen (.start _)
    | not | openParen | phrase text | word text => cases h
  rw [← Nat.zero_add position, ofChars_add, piece.ofChars_eq]
  exact ⟨_, rfl⟩

end TokenStream

/-! ### Two runs up to a token -/

namespace Source

/-- Two inputs whose tokens are the same up to one that no operand starts with. In the first input
neither a later token nor the end stands at the place of this one. -/
structure PartAt (source other : Source) (token : Token) (back : List Token) : Prop where
  limit : other.maxDepth = source.maxDepth
  stops : token.lexeme.startsOperand = false
  behind : ∀ later ∈ back, later.offset ≠ token.offset
  notAtEnd : ∀ place, source.ending = .ok place ∨ source.ending = .error (.unterminated place) →
    place ≠ token.offset

/-- A rule has gone beyond the token, or it has failed for another reason than the token. -/
def Past (token : Token) (back : List Token) : Except SearchError Progress → Prop
  | .ok progress => progress.next.ahead ⊆ back
  | .error error => ∀ text, error ≠ .missingOperand token.offset text

/-- The results of a rule in two inputs whose tokens are the same up to `token`. They tell the same
as long as the first run has not gone past the token. -/
inductive UpTo (source other : Source) (token : Token) (back back' : List Token) :
    Except SearchError Progress → Except SearchError Progress → Prop
  | before (node : Node) (front : List Token) (depth : Nat) :
      UpTo source other token back back' (.ok ⟨node, ⟨front ++ token :: back, depth⟩⟩)
        (.ok ⟨node, ⟨front ++ token :: back', depth⟩⟩)
  | missing (place : Nat) :
      UpTo source other token back back' (.error (.missingOperand place source.input))
        (.error (.missingOperand place other.input))
  | past {result : Except SearchError Progress} (h : Past token back result)
      (result' : Except SearchError Progress) : UpTo source other token back back' result result'

variable {source other : Source} {token : Token} {back back' : List Token}

/-! A depth is refused for its own reason. -/

theorem checkDepth_ne_missingOperand {depth place : Nat} {text : String} :
    source.checkDepth depth ≠ .error (.missingOperand place text) := by
  unfold checkDepth
  split <;> simp

theorem checkDepth_return_ne_missingOperand {α : Type} {depth place : Nat} {value : α}
    {text : String} :
    (do source.checkDepth depth; return value) ≠ .error (.missingOperand place text) := by
  rw [checkDepth_bind]
  split <;> rintro ⟨⟩

theorem join_ne_missingOperand {op : Connective} {left right : Node} {place : Nat}
    {text : String} : source.join op left right ≠ .error (.missingOperand place text) :=
  checkDepth_return_ne_missingOperand

theorem negate_ne_missingOperand {operand : Node} {place : Nat} {text : String} :
    source.negate operand ≠ .error (.missingOperand place text) :=
  checkDepth_return_ne_missingOperand

/-! Behind the token. -/

namespace Past

/-- What goes on behind something that cannot miss the operand. -/
theorem bind {α : Type} {first : Except SearchError α} {next : α → Except SearchError Progress}
    (silent : ∀ text, first ≠ .error (.missingOperand token.offset text))
    (h : ∀ value, first = .ok value → Past token back (next value)) :
    Past token back (first >>= next) := by
  cases first with
  | ok value => exact h value rfl
  | error error =>
    intro text herror
    exact silent text (congrArg Except.error herror)

theorem silent {result : Except SearchError Progress} (h : Past token back result) (text : String) :
    result ≠ .error (.missingOperand token.offset text) := by
  rintro rfl
  exact h text rfl

theorem leave {whole : Except SearchError Progress} (h : Past token back whole) :
    Past token back (do let whole ← whole; return ⟨whole.node, whole.next.leave⟩) := by
  apply Past.bind h.silent
  rintro progress rfl
  exact h

/-- A group closes, or it is found open. -/
theorem closeGroup (node : Node) {first : Token} {rest : List Token} (h : rest ⊆ back)
    (depth : Nat) : Past token back (source.closeGroup ⟨node, ⟨first :: rest, depth⟩⟩) := by
  by_cases hclose : first.lexeme = .closeParen
  · rw [source.closeGroup_close node rest depth hclose]
    exact h
  · rw [source.closeGroup_other node rest depth hclose]
    simp [Past]

end Past

namespace PartAt

/-- A phrase that does not end is found where the input ends. -/
theorem ofPhrase_ne (part : source.PartAt other token back) {fault : PhraseFault}
    (h : source.ending = .error fault) (text : String) :
    SearchError.ofPhrase source.input fault ≠ .missingOperand token.offset text := by
  intro herror
  cases fault with
  | unterminated place =>
    cases herror
    exact part.notAtEnd _ (Or.inr h) rfl
  | empty place => cases herror

theorem finish_ne (part : source.PartAt other token back) (text : String) :
    source.finish ≠ .error (.missingOperand token.offset text) := by
  intro h
  unfold finish at h
  split at h
  · cases h
  · exact part.ofPhrase_ne ‹_› text (Except.error.inj h)

/-- A rule that is called behind the token stays behind it. -/
theorem past_run (part : source.PartAt other token back) {cursor : Cursor}
    (h : cursor.ahead ⊆ back) (rule : Rule) : Past token back (source.run rule cursor) := by
  cases hrun : source.run rule cursor with
  | ok progress => exact List.Subset.trans (next_subset hrun) h
  | error error =>
    rintro text rfl
    have breaks := run_breaks hrun
    generalize hmissing : SearchError.missingOperand token.offset text = missing at breaks
    cases breaks with
    | tooDeep => cases hmissing
    | phrase hending => exact part.ofPhrase_ne hending text hmissing.symm
    | wants front count split wants complete =>
      cases wants with
      | closeParen => cases hmissing
      | operandAtEnd hending =>
        cases hmissing
        exact part.notAtEnd _ (Or.inl hending) rfl
      | operand later rest word =>
        have hmem : later ∈ cursor.ahead := by
          rw [split]
          exact List.mem_append_right front List.mem_cons_self
        exact part.behind later (h hmem) (SearchError.missingOperand.inj hmissing).1.symm

/-- What is read behind the token joins what has been read. -/
theorem past_join_then (part : source.PartAt other token back) (op : Connective) (left : Node)
    (more : Node → Rule) {right : Progress} (h : right.next.ahead ⊆ back) :
    Past token back (do
      let both ← source.join op left right.node
      source.run (more both) right.next) :=
  Past.bind (fun _ => join_ne_missingOperand) fun both _ => part.past_run h (more both)

theorem past_closeGroup (part : source.PartAt other token back) {inner : Progress}
    (h : inner.next.ahead ⊆ back) : Past token back (source.closeGroup inner) := by
  obtain ⟨node, ahead, depth⟩ := inner
  cases ahead with
  | nil =>
    apply Past.bind part.finish_ne
    intro offset _ text
    simp
  | cons later rest =>
    exact Past.closeGroup node (List.Subset.trans (List.subset_cons_self later rest) h) depth

/-- What is read behind the token joins what has been read before it. -/
theorem past_next_then (part : source.PartAt other token back) (op : Connective) (left : Node)
    (next : Rule) (more : Node → Rule) (depth : Nat) :
    Past token back (do
      let right ← source.run next ⟨back, depth⟩
      let both ← source.join op left right.node
      source.run (more both) right.next) :=
  have behind : Past token back (source.run next ⟨back, depth⟩) :=
    part.past_run (List.Subset.refl back) next
  Past.bind behind.silent fun _ hright => part.past_join_then op left more (next_subset hright)

/-- An operand that comes first stands before the token. -/
theorem exists_eq_cons_of_startsOperand (part : source.PartAt other token back) {first : Token}
    {rest front : List Token} (h : first :: rest = front ++ token :: back)
    (starts : first.lexeme.startsOperand = true) :
    ∃ others, front = first :: others ∧ rest = others ++ token :: back := by
  rcases List.cons_eq_append_iff.mp h with ⟨rfl, hcons⟩ | hcons
  · cases hcons
    rw [part.stops] at starts
    cases starts
  · exact hcons

end PartAt

/-- What comes first stands before the token or is the token, and so comes first in both inputs. -/
theorem exists_eq_cons {first : Token} {rest front : List Token}
    (h : first :: rest = front ++ token :: back) (back' : List Token) :
    ∃ rest', front ++ token :: back' = first :: rest' := by
  rcases List.cons_eq_append_iff.mp h with ⟨rfl, hcons⟩ | ⟨others, rfl, -⟩
  · cases hcons
    exact ⟨back', rfl⟩
  · exact ⟨others ++ token :: back', rfl⟩

/-! Before the token, and at the token. -/

namespace UpTo

variable {first first' : Except SearchError Progress}

/-- Two rules that go on where two others have stopped. -/
theorem bind {next next' : Progress → Except SearchError Progress}
    (h : UpTo source other token back back' first first')
    (before : ∀ node front depth, first = .ok ⟨node, ⟨front ++ token :: back, depth⟩⟩ →
      UpTo source other token back back' (next ⟨node, ⟨front ++ token :: back, depth⟩⟩)
        (next' ⟨node, ⟨front ++ token :: back', depth⟩⟩))
    (past : ∀ progress, progress.next.ahead ⊆ back → Past token back (next progress)) :
    UpTo source other token back back' (first >>= next) (first' >>= next') := by
  cases h with
  | before node front depth => exact before node front depth rfl
  | missing place => exact .missing place
  | past h result' =>
    apply UpTo.past
    apply Past.bind h.silent
    rintro progress rfl
    exact past progress h

/-- What does not look ahead and cannot miss the operand goes in the same way. -/
theorem bind_same {α : Type} {first : Except SearchError α}
    {next next' : α → Except SearchError Progress}
    (silent : ∀ text, first ≠ .error (.missingOperand token.offset text))
    (h : ∀ value, UpTo source other token back back' (next value) (next' value)) :
    UpTo source other token back back' (first >>= next) (first >>= next') := by
  cases first with
  | ok value => exact h value
  | error error =>
    apply UpTo.past
    intro text herror
    exact silent text (congrArg Except.error herror)

/-- A rule that reads nothing stays where it is. -/
theorem stay (node : Node) {first : Token} {rest rest' front : List Token}
    (h : first :: rest = front ++ token :: back) (h' : front ++ token :: back' = first :: rest')
    (depth : Nat) :
    UpTo source other token back back' (.ok ⟨node, ⟨first :: rest, depth⟩⟩)
      (.ok ⟨node, ⟨first :: rest', depth⟩⟩) := by
  rw [h, ← h']
  exact .before node front depth

theorem leave (h : UpTo source other token back back' first first') :
    UpTo source other token back back' (do let whole ← first; return ⟨whole.node, whole.next.leave⟩)
      (do let whole ← first'; return ⟨whole.node, whole.next.leave⟩) :=
  h.bind (fun node front depth _ => .before node front (depth - 1)) fun _ hpast => hpast

/-- A group that closes with the token is read past it. -/
theorem closeGroup (node : Node) (front : List Token) (depth : Nat) :
    UpTo source other token back back'
      (source.closeGroup ⟨node, ⟨front ++ token :: back, depth⟩⟩)
      (other.closeGroup ⟨node, ⟨front ++ token :: back', depth⟩⟩) := by
  cases front with
  | nil =>
    apply UpTo.past
    exact Past.closeGroup node (List.Subset.refl back) depth
  | cons first rest =>
    by_cases hclose : first.lexeme = .closeParen
    · rw [List.cons_append, source.closeGroup_close node _ depth hclose, List.cons_append,
        other.closeGroup_close node _ depth hclose]
      exact .before node rest (depth - 1)
    · rw [List.cons_append, source.closeGroup_other node _ depth hclose]
      apply UpTo.past
      simp [Past]

end UpTo

namespace PartAt

/-- What is read next joins what has been read, and reading goes on behind it. -/
theorem join_then (part : source.PartAt other token back) (op : Connective) (left : Node)
    {next next' : Except SearchError Progress} {more : Node → Rule}
    (h : UpTo source other token back back' next next')
    (hmore : ∀ right both, next = .ok right → ∀ front, right.next.ahead = front ++ token :: back →
      UpTo source other token back back' (source.run (more both) right.next)
        (other.run (more both) ⟨front ++ token :: back', right.next.depth⟩)) :
    UpTo source other token back back'
      (do
        let right ← next
        let both ← source.join op left right.node
        source.run (more both) right.next)
      (do
        let right ← next'
        let both ← other.join op left right.node
        other.run (more both) right.next) := by
  rw [join_eq_of_maxDepth part.limit]
  apply h.bind
  · intro node front depth hnext
    apply UpTo.bind_same fun _ => join_ne_missingOperand
    exact fun both => hmore _ both hnext front rfl
  · exact fun right hright => part.past_join_then op left more hright

/-- The rules go in the same way in both inputs until one of them has gone past the token. -/
theorem run (part : source.PartAt other token back) {rule : Rule} {cursor : Cursor}
    {front : List Token} (hahead : cursor.ahead = front ++ token :: back) :
    UpTo source other token back back' (source.run rule cursor)
      (other.run rule ⟨front ++ token :: back', cursor.depth⟩) := by
  have hcheck := checkDepth_eq part.limit
  have hnegate := negate_eq_of_maxDepth part.limit
  -- At the token a rule stops, or misses its operand, or goes past the token with the next one.
  induction rule, cursor using source.run_induction generalizing front with
  | disjunction cursor ih more =>
    rw [run_disjunction, run_disjunction, hcheck]
    apply UpTo.bind_same fun _ => checkDepth_ne_missingOperand
    intro _
    apply (ih hahead).bind
    · exact fun node front depth hfirst => (more _ hfirst rfl).leave
    · exact fun first hfirst => (part.past_run hfirst _).leave
  | moreDisjuncts_or left offset rest depth ih more =>
    rcases List.cons_eq_append_iff.mp hahead with ⟨rfl, hcons⟩ | ⟨front, rfl, hrest⟩
    · cases hcons
      apply UpTo.past
      rw [run_moreDisjuncts_or]
      exact part.past_next_then .or left .conjunction .moreDisjuncts depth
    · rw [run_moreDisjuncts_or, List.cons_append, run_moreDisjuncts_or]
      exact part.join_then .or left (ih hrest) fun right both hright _ => more right both hright
  | moreDisjuncts_nil left depth => simp at hahead
  | moreDisjuncts_cons left first rest depth hother =>
    obtain ⟨rest', hahead'⟩ := exists_eq_cons hahead back'
    rw [run_moreDisjuncts_cons source left rest depth hother, hahead',
      run_moreDisjuncts_cons other left rest' depth hother]
    exact .stay left hahead hahead' depth
  | conjunction cursor ih more =>
    rw [run_conjunction, run_conjunction, hcheck]
    apply UpTo.bind_same fun _ => checkDepth_ne_missingOperand
    intro _
    apply (ih hahead).bind
    · exact fun node front depth hfirst => (more _ hfirst rfl).leave
    · exact fun first hfirst => (part.past_run hfirst _).leave
  | moreConjuncts_and left offset rest depth ih more =>
    rcases List.cons_eq_append_iff.mp hahead with ⟨rfl, hcons⟩ | ⟨front, rfl, hrest⟩
    · cases hcons
      apply UpTo.past
      rw [run_moreConjuncts_and]
      exact part.past_next_then .and left .unary .moreConjuncts depth
    · rw [run_moreConjuncts_and, List.cons_append, run_moreConjuncts_and]
      exact part.join_then .and left (ih hrest) fun right both hright _ => more right both hright
  | moreConjuncts_nil left depth => simp at hahead
  | moreConjuncts_operand left first rest depth starts ih more =>
    obtain ⟨rest', hahead'⟩ := exists_eq_cons hahead back'
    have next := ih hahead
    rw [hahead'] at next ⊢
    rw [run_moreConjuncts_operand source left rest depth starts,
      run_moreConjuncts_operand other left rest' depth starts]
    exact part.join_then .and left next fun right both hright _ => more right both hright
  | moreConjuncts_cons left first rest depth hother starts =>
    obtain ⟨rest', hahead'⟩ := exists_eq_cons hahead back'
    rw [run_moreConjuncts_cons source left rest depth hother starts, hahead',
      run_moreConjuncts_cons other left rest' depth hother starts]
    exact .stay left hahead hahead' depth
  | unary_not offset rest depth ih =>
    obtain ⟨front, rfl, hrest⟩ := part.exists_eq_cons_of_startsOperand hahead rfl
    rw [run_unary_not, List.cons_append, run_unary_not, hcheck, hnegate]
    apply UpTo.bind_same fun _ => checkDepth_ne_missingOperand
    intro _
    apply (ih hrest).bind
    · intro node front depth _
      apply UpTo.bind_same fun _ => negate_ne_missingOperand
      exact fun negated => .before negated front (depth - 1)
    · intro operand hoperand
      apply Past.bind fun _ => negate_ne_missingOperand
      exact fun _ _ => hoperand
  | unary_nil depth ih => simp at hahead
  | unary_cons first rest depth hother ih =>
    obtain ⟨rest', hahead'⟩ := exists_eq_cons hahead back'
    have next := ih hahead
    rw [hahead'] at next ⊢
    rw [run_unary_cons source rest depth hother, run_unary_cons other rest' depth hother, hcheck]
    apply UpTo.bind_same fun _ => checkDepth_ne_missingOperand
    exact fun _ => next.leave
  | primary_nil depth => simp at hahead
  | primary_open offset rest depth ih =>
    obtain ⟨front, rfl, hrest⟩ := part.exists_eq_cons_of_startsOperand hahead rfl
    rw [run_primary_open, List.cons_append, run_primary_open, hcheck]
    apply UpTo.bind_same fun _ => checkDepth_ne_missingOperand
    intro _
    apply (ih hrest).bind
    · exact fun node front depth _ => .closeGroup node front depth
    · exact fun inner => part.past_closeGroup
  | primary_operand first text rest depth hlexeme =>
    have starts : first.lexeme.startsOperand = true := by
      rcases hlexeme with h | h <;> rw [h] <;> rfl
    obtain ⟨front, rfl, rfl⟩ := part.exists_eq_cons_of_startsOperand hahead starts
    rw [run_primary_operand source _ depth hlexeme, List.cons_append,
      run_primary_operand other _ depth hlexeme, hcheck]
    apply UpTo.bind_same fun _ => checkDepth_ne_missingOperand
    exact fun _ => .before _ front depth
  | primary_other first rest depth hother =>
    obtain ⟨rest', hahead'⟩ := exists_eq_cons hahead back'
    rw [hahead', run_primary_other source rest depth hother,
      run_primary_other other rest' depth hother, hcheck]
    apply UpTo.bind_same fun _ => checkDepth_ne_missingOperand
    exact fun _ => .missing first.offset

/-- The operand is missing in the second input too. -/
theorem run_eq_of_missingOperand (part : source.PartAt other token back) {rule : Rule}
    {cursor : Cursor} {front : List Token} (hahead : cursor.ahead = front ++ token :: back)
    {text : String} (h : source.run rule cursor = .error (.missingOperand token.offset text))
    (back' : List Token) :
    other.run rule ⟨front ++ token :: back', cursor.depth⟩ =
      .error (.missingOperand token.offset other.input) := by
  have upTo : UpTo source other token back back' (source.run rule cursor)
      (other.run rule ⟨front ++ token :: back', cursor.depth⟩) := part.run hahead
  rw [h] at upTo
  generalize hfirst : Except.error (SearchError.missingOperand token.offset text) = first at upTo
  generalize other.run rule ⟨front ++ token :: back', cursor.depth⟩ = second at upTo ⊢
  cases upTo with
  | before => cases hfirst
  | missing place =>
    cases hfirst
    rfl
  | past h =>
    subst hfirst
    exact absurd rfl (h text)

end PartAt

end Source

/-! ### The parser -/

namespace SearchParser

variable {parser : SearchParser} {input other text : String} {place : Nat}

/-- An operand that is missing is missing in what the first rule reads. -/
theorem run_of_missingOperand (h : parser.parse input = .error (.missingOperand place text)) :
    (Source.ofInput parser.maxDepth input).run .disjunction
      ⟨(TokenStream.ofString input).tokens, 0⟩ = .error (.missingOperand place text) := by
  rw [parse_eq_run] at h
  obtain h | ⟨whole, hwhole, h⟩ := Source.bind_eq_error.mp h
  · exact h
  · obtain ⟨_, _, -, hstray⟩ := Source.exists_closeParen_of_conclude hwhole h
    cases hstray

/-- Unless a phrase does not end, what misses an operand is an expression with an operand there and
some `)` behind it. -/
theorem exists_of_missingOperand (h : parser.parse input = .error (.missingOperand place text))
    (missing : tokenize input ≠ .error (.missingOperand place text)) :
    text = input ∧ ∃ front back word count query,
      (TokenStream.ofString input).tokens = front ++ back ∧
      Derives .disjunction (lexemes front ++ (.word word :: closings count)) query ∧
      ((back = [] ∧ tokenize input = .ok front ∧ place = input.length) ∨
        ∃ token rest, back = token :: rest ∧ token.offset = place) := by
  have breaks := Source.run_breaks (run_of_missingOperand h)
  generalize herror : SearchError.missingOperand place text = error at breaks
  cases breaks with
  | tooDeep => cases herror
  | @phrase fault hending =>
    have hending : (TokenStream.ofString input).ending = .error fault := hending
    have tokenized : tokenize input = .error (.ofPhrase input fault) := by rw [tokenize, hending]
    exact absurd (tokenized.trans (congrArg _ herror.symm)) missing
  | wants front count split wants complete =>
    obtain ⟨query, derived⟩ := complete
    cases wants with
    | closeParen => cases herror
    | operandAtEnd hending word =>
      cases herror
      obtain ⟨_, _, -, -, atEnd⟩ := TokenStream.exists_cut_ofString input
      have tokenized : tokenize input = .ok front :=
        tokenize_eq_ok_iff.mpr ⟨by simpa using split, _, hending⟩
      exact ⟨rfl, front, [], word, count, query, split, derived,
        Or.inl ⟨rfl, tokenized, atEnd _ (Or.inl hending)⟩⟩
    | operand token rest word =>
      cases herror
      exact ⟨rfl, front, _, word, count, query, split, derived, Or.inr ⟨token, rest, rfl, rfl⟩⟩

/-- The token at which the operand is missing is one that no operand starts with. -/
theorem stops_of_missingOperand (h : parser.parse input = .error (.missingOperand place text))
    {token : Token} (hmem : token ∈ (TokenStream.ofString input).tokens)
    (hplace : token.offset = place) : token.lexeme.startsOperand = false := by
  obtain ⟨_, _, -, -, atEnd⟩ := TokenStream.exists_cut_ofString input
  have inside : place < input.length := hplace ▸ TokenStream.offset_lt_length hmem
  rcases fault_of_parse h with reason | ⟨_, -, -, hstray⟩
  · generalize herror : SearchError.missingOperand place text = error at reason
    cases reason with
    | tooDeep | unclosedGroup => cases herror
    | @phrase fault hending =>
      cases fault with
      | unterminated position =>
        cases herror
        exact absurd (atEnd place (Or.inr hending)) (Nat.ne_of_lt inside)
      | empty position => cases herror
    | missingAtEnd hending =>
      cases herror
      exact absurd (atEnd place (Or.inl hending)) (Nat.ne_of_lt inside)
    | missingAtToken hmem' stops =>
      cases herror
      rwa [TokenStream.eq_of_offset_eq hmem hmem' hplace]
  · cases hstray

/-- What stands behind the token does not matter. -/
theorem parse_eq_of_missingOperand {front back back' : List Token} {token : Token}
    (h : parser.parse input = .error (.missingOperand token.offset text))
    (stream : (TokenStream.ofString input).tokens = front ++ token :: back)
    (stream' : (TokenStream.ofString other).tokens = front ++ token :: back') :
    parser.parse other = .error (.missingOperand token.offset other) := by
  have hmem : token ∈ (TokenStream.ofString input).tokens := by simp [stream]
  have part : (Source.ofInput parser.maxDepth input).PartAt (.ofInput parser.maxDepth other) token
      back := by
    refine ⟨rfl, stops_of_missingOperand h hmem rfl, ?_, ?_⟩
    · intro later hlater
      have ordered := TokenStream.pairwise_offset input
      rw [stream] at ordered
      obtain ⟨-, hbehind, -⟩ := List.pairwise_append.mp ordered
      exact Nat.ne_of_gt ((List.pairwise_cons.mp hbehind).1 later hlater)
    · intro place hending
      obtain ⟨_, _, -, -, atEnd⟩ := TokenStream.exists_cut_ofString input
      rw [atEnd place hending]
      exact Nat.ne_of_gt (TokenStream.offset_lt_length hmem)
  have missing := part.run_eq_of_missingOperand stream (run_of_missingOperand h) back'
  rw [parse_eq_run, stream', missing]
  rfl

end SearchParser

/-- A text whose tokens lack an operand and some `)` behind it goes on to a sentence. -/
theorem exists_isSentence_append {before : List Char} {front : List Token} {word : String}
    {count : Nat} {query : Query} (cut : Cut before [] front)
    (derived : Derives .disjunction (lexemes front ++ (.word word :: closings count)) query) :
    ∃ more, IsSentence (String.ofList before ++ more) := by
  have inner : Derives .disjunction [.word "x"] (.literal "x") :=
    .disjunct (.conjunct (.operand (.word "x")))
  have hinner : Tokenizes "x".toList [.word "x"] :=
    tokenizes_iff_tokenize.mpr ⟨[⟨.word "x", 0⟩], by cbv, rfl⟩
  have hnil : Tokenizes [] [] := tokenizes_iff_cut.mpr ⟨[], .start [], rfl⟩
  have hclosings : Tokenizes (List.replicate count ')') (closings count) :=
    tokenizes_append_replicate_iff.mpr ⟨[], hnil, rfl⟩
  have hbefore : Tokenizes before (lexemes front) := tokenizes_iff_cut.mpr ⟨front, cut, rfl⟩
  have whole := tokenizes_group hbefore hinner hclosings
  refine ⟨" (" ++ ("x" ++ (") " ++ String.ofList (List.replicate count ')'))), ?_⟩
  obtain ⟨tokens, tokenized, hread⟩ : ∃ tokens, tokenize (String.ofList before ++
      (" (" ++ ("x" ++ (") " ++ String.ofList (List.replicate count ')'))))) = .ok tokens ∧
      lexemes tokens = lexemes front ++ (.openParen :: ([.word "x"] ++ [.closeParen]) ++
        closings count) := by
    rw [← tokenizes_iff_tokenize]
    simpa only [String.toList_append, String.toList_ofList] using whole
  exact ⟨tokens, _, tokenized, hread ▸ (derived.replaced rfl inner).derives⟩

/-- A missing operand, unless it is a phrase that does not end, is found at the first place where an
operand is impossible: at the end of the input, or at an operator or `)` with which none starts. The
text before it goes on to a sentence, and the text up to the end of the token there is refused in
the same way whatever follows, if nothing prolongs the token. -/
theorem parse_missingOperand (limit : Nat) {input text : String} {place : Nat}
    (h : (SearchParser.ofLimit limit).parse input = .error (.missingOperand place text))
    (missing : tokenize input ≠ .error (.missingOperand place text)) :
    text = input ∧
    ((place = input.length ∧ ∃ tokens, tokenize input = .ok tokens) ∨
      ∃ token ∈ (TokenStream.ofString input).tokens, token.offset = place) ∧
    (∃ more, IsSentence (String.ofList (input.toList.take place) ++ more)) ∧
    ∀ token ∈ (TokenStream.ofString input).tokens, token.offset = place →
      token.lexeme ∈ [.and, .or, .closeParen] ∧
      ∀ (other : String) rest,
        other.toList = input.toList.take (place + token.lexeme.text.length) ++ rest →
        (∀ c ∈ rest.head?, isWordChar c = false) →
        (SearchParser.ofLimit limit).parse other = .error (.missingOperand place other) := by
  obtain ⟨rfl, front, back, word, count, query, stream, derived, hplace⟩ :=
    SearchParser.exists_of_missingOperand h missing
  refine ⟨rfl, ?_, ?_, ?_⟩
  · rcases hplace with ⟨-, tokenized, rfl⟩ | ⟨token, rest, rfl, rfl⟩
    · exact Or.inl ⟨rfl, front, tokenized⟩
    · exact Or.inr ⟨token, by simp [stream], rfl⟩
  · rcases hplace with ⟨-, tokenized, rfl⟩ | ⟨token, rest, rfl, rfl⟩
    · rw [← String.length_toList, List.take_length]
      exact exists_isSentence_append (.of_tokenize tokenized) derived
    · have stops := SearchParser.stops_of_missingOperand h (by simp [stream]) rfl
      obtain ⟨before, after, hinput, hlength, cut⟩ := TokenStream.exists_before stream stops
      rw [hinput, ← hlength, List.take_left]
      exact exists_isSentence_append (cut []).alone derived
  · rintro token hmem rfl
    have stops := SearchParser.stops_of_missingOperand h hmem rfl
    constructor
    · generalize token.lexeme = lexeme at stops
      cases lexeme with
      | and | or | closeParen => simp
      | not | openParen | phrase text | word text => cases stops
    · intro other rest hother ends
      obtain ⟨front, back, stream⟩ := List.append_of_mem hmem
      obtain ⟨before, after, hinput, hlength, cut⟩ := TokenStream.exists_before stream stops
      obtain ⟨back', hback⟩ := TokenStream.exists_tokens_ofChars stops token.offset ends
      have same : other.toList = before ++ (token.lexeme.text.toList ++ rest) := by
        rw [hother, hinput, ← hlength, ← List.append_assoc, ← String.length_toList,
          ← List.length_append, List.take_left, List.append_assoc]
      have stream' : (TokenStream.ofString other).tokens = front ++ token :: back' := by
        rw [TokenStream.ofString, same, (cut rest).ofChars_eq, hlength]
        exact congrArg (front ++ ·) hback
      exact SearchParser.parse_eq_of_missingOperand h stream stream'

/-- The `)` behind `NOT` is refused before the phrase behind it is looked at, and so whatever
stands there. -/
theorem parse_missingOperand_before_faulty_phrase :
    (SearchParser.ofLimit 8).parse "NOT)\"\"" = .error (.missingOperand 3 "NOT)\"\"") ∧
    tokenize "NOT)\"\"" ≠ .error (.missingOperand 3 "NOT)\"\"") ∧
    (∃ more, IsSentence (String.ofList "NOT".toList ++ more)) ∧
    (SearchParser.ofLimit 8).parse "NOT)(b \"" = .error (.missingOperand 3 "NOT)(b \"") := by
  have operator : Cut ([] ++ ['N', 'O', 'T']) [')', '"', '"'] ([] ++ [⟨.not, 0⟩]) :=
    .run (.start _) (by decide) ⟨rfl, Or.inl (by decide)⟩
  have stream : TokenStream.ofString "NOT)\"\"" =
      ⟨[⟨.not, 0⟩, ⟨.closeParen, 3⟩], .error (.empty 4)⟩ :=
    operator.closeParen.ofString_eq_of_faulty rfl (.empty [])
  have parsed : (SearchParser.ofLimit 8).parse "NOT)\"\"" =
      .error (.missingOperand 3 "NOT)\"\"") := by
    rw [SearchParser.parse_eq_run, stream, Source.run_disjunction, Cursor.enter,
      Source.run_conjunction, Cursor.enter, Source.run_unary_not,
      Source.run_unary_cons _ _ _ (by simp), Source.run_primary_other _ _ _ (Or.inl rfl)]
    rfl
  have missing : tokenize "NOT)\"\"" ≠ .error (.missingOperand 3 "NOT)\"\"") := by
    rw [tokenize, stream]
    rintro ⟨⟩
  obtain ⟨-, -, sentence, elsewhere⟩ := parse_missingOperand 8 parsed missing
  have hmem : (⟨.closeParen, 3⟩ : Token) ∈ (TokenStream.ofString "NOT)\"\"").tokens := by
    simp [stream]
  have ends : ∀ c ∈ ['(', 'b', ' ', '"'].head?, isWordChar c = false := by
    rintro c ⟨⟩
    decide
  exact ⟨parsed, missing, sentence, (elsewhere _ hmem rfl).2 _ _ rfl ends⟩

end BooleanSearch
