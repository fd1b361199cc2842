import BooleanSearch.Proofs.GrammarExactness

/-! # Queries in place of words

Where a query has a word, it can have any other query between parentheses: the group is read as the
other query, the rest is read as before, and the two limits add up.
-/

namespace BooleanSearch

/-- A query with the literal of some index, counted from the left, replaced by another query. -/
def Query.replaceLiteral (query : Query) (index : Nat) (new : Query) : Query :=
  match query with
  | .literal text => if index = 0 then new else .literal text
  | .binary op left right =>
    if index < left.literals.length then .binary op (left.replaceLiteral index new) right
    else .binary op left (right.replaceLiteral (index - left.literals.length) new)
  | .negation operand => .negation (operand.replaceLiteral index new)

theorem Query.depth_replaceLiteral_le (query : Query) (index : Nat) (new : Query) :
    (query.replaceLiteral index new).depth ≤ query.depth + new.depth := by
  induction query generalizing index with
  | literal text =>
    unfold replaceLiteral
    split
    · exact Nat.le_add_left _ _
    · exact Nat.le_add_right _ _
  | binary op left right ihl ihr =>
    have hl := ihl index
    have hr := ihr (index - left.literals.length)
    unfold replaceLiteral
    split <;> simp only [depth] <;> omega
  | negation operand ih =>
    have h := ih index
    simp only [replaceLiteral, depth]
    omega

/-- One element of two joined lists is in the first or in the second one. -/
private theorem append_eq_append_cons {first second before after : List Lexeme} {lexeme : Lexeme}
    (h : first ++ second = before ++ lexeme :: after) :
    (∃ between, first = before ++ lexeme :: between ∧ after = between ++ second) ∨
      ∃ between, second = between ++ lexeme :: after ∧ before = first ++ between := by
  rcases List.append_eq_append_iff.mp h with ⟨between, hbefore, hsecond⟩ | ⟨between, hfirst, hrest⟩
  · exact Or.inr ⟨between, hsecond, hbefore⟩
  · rcases List.cons_eq_append_iff.mp hrest with ⟨rfl, hsecond⟩ | ⟨others, rfl, hafter⟩
    · exact Or.inr ⟨[], hsecond, by simpa using hfirst.symm⟩
    · exact Or.inl ⟨others, hfirst, hafter⟩

/-- What an expression becomes when one of its words becomes a group of `inner`: its query has
`new` in place of the literal, and it nests deeper by no more than `inner` nests. -/
structure Replaced (place : Nonterminal) (before after inner : List Lexeme) (word : Lexeme)
    (query new : Query) : Prop where
  derives : Derives place (before ++ (.openParen :: (inner ++ [.closeParen]) ++ after))
    (query.replaceLiteral (operands before).length new)
  nesting_le : ∀ opened above,
    nesting opened above (before ++ (.openParen :: (inner ++ [.closeParen]) ++ after))
        (query.replaceLiteral (operands before).length new) ≤
      nesting opened above (before ++ word :: after) query + nesting 0 0 inner new

namespace Replaced

variable {place part : Nonterminal} {before after inner ls rs : List Lexeme}
  {text : String} {op : Connective} {left right query new : Query}

/-- A word by itself becomes the group. -/
theorem whole (h : Derives .disjunction inner new) :
    Replaced .primary [] [] inner (.word text) (.literal text) new := by
  refine ⟨by simpa [Query.replaceLiteral] using Derives.group h, fun opened above => ?_⟩
  have hadd := h.nesting_add 0 0 (opened + 1) above
  rw [Nat.zero_add, Nat.zero_add] at hadd
  have hnesting : nesting opened above (.openParen :: (inner ++ [.closeParen])) new =
      nesting 0 0 inner new + (4 * (opened + 1) + above) := by
    rw [h.nesting_group, hadd]
  simp only [Query.replaceLiteral, operands_nil, List.length_nil, if_true, List.nil_append,
    List.append_nil, hnesting, nesting_word]
  omega

theorem group (h : Replaced .disjunction before after inner (.word text) query new)
    (derived : Derives .disjunction (before ++ .word text :: after) query) :
    Replaced .primary (.openParen :: before) (after ++ [.closeParen]) inner (.word text) query
      new := by
  refine ⟨by simpa [Lexeme.operand?] using Derives.group h.derives, fun opened above => ?_⟩
  have hold := derived.nesting_group opened above
  have hnew := h.derives.nesting_group opened above
  have hle := h.nesting_le (opened + 1) above
  rw [← hold, ← hnew] at hle
  simpa [Lexeme.operand?] using hle

theorem operand (h : Replaced .primary before after inner (.word text) query new) :
    Replaced .unary before after inner (.word text) query new :=
  ⟨.operand h.derives, h.nesting_le⟩

theorem negation (h : Replaced .unary before after inner (.word text) query new) :
    Replaced .unary (.not :: before) after inner (.word text) (.negation query) new :=
  ⟨.negation h.derives, fun opened above => h.nesting_le opened (above + 1)⟩

theorem conjunct (h : Replaced .unary before after inner (.word text) query new) :
    Replaced .conjunction before after inner (.word text) query new :=
  ⟨.conjunct h.derives, h.nesting_le⟩

theorem disjunct (h : Replaced .conjunction before after inner (.word text) query new) :
    Replaced .disjunction before after inner (.word text) query new :=
  ⟨.disjunct h.derives, h.nesting_le⟩

/-- The word stands in the left one of two joined expressions. -/
theorem in_left (h : Replaced place before after inner (.word text) left new)
    (derived : Derives place (before ++ .word text :: after) left)
    (join : ∀ {first left}, Derives place first left →
      Derives place (first ++ rs) (.binary op left right)) :
    Replaced place before (after ++ rs) inner (.word text) (.binary op left right) new := by
  have hindex : (operands before).length < left.literals.length := by
    simp [derived.literals_eq, Lexeme.operand?]
  have hreplaced : (Query.binary op left right).replaceLiteral (operands before).length new =
      .binary op (left.replaceLiteral (operands before).length new) right := by
    rw [Query.replaceLiteral, if_pos hindex]
  refine ⟨?_, fun opened above => ?_⟩
  · rw [hreplaced]
    simpa using join h.derives
  · have hle := h.nesting_le opened above
    have hold := derived.nesting_binary opened above op rs right
    have hnew := h.derives.nesting_binary opened above op rs right
    simp only [List.append_assoc, List.cons_append] at hold hnew hle ⊢
    rw [hreplaced, hold, hnew]
    omega

/-- The word stands in the right one of two joined expressions, behind what joins them. -/
theorem in_right (h : Replaced part before after inner (.word text) right new)
    (between : List Lexeme) (derived : Derives place ls left) (hbetween : operands between = [])
    (silent : ∀ opened above read query,
      nesting opened above (between ++ read) query = nesting opened above read query)
    (join : ∀ {second right}, Derives part second right →
      Derives place (ls ++ (between ++ second)) (.binary op left right)) :
    Replaced place (ls ++ (between ++ before)) after inner (.word text) (.binary op left right)
      new := by
  have hindex : (operands (ls ++ (between ++ before))).length =
      left.literals.length + (operands before).length := by
    simp [derived.literals_eq, hbetween]
  have hreplaced : (Query.binary op left right).replaceLiteral
      (operands (ls ++ (between ++ before))).length new =
      .binary op left (right.replaceLiteral (operands before).length new) := by
    rw [hindex, Query.replaceLiteral, if_neg (by omega), Nat.add_sub_cancel_left]
  refine ⟨?_, fun opened above => ?_⟩
  · rw [hreplaced]
    simpa using join h.derives
  · have hle := h.nesting_le opened above
    rw [hreplaced, List.append_assoc, List.append_assoc, List.append_assoc, List.append_assoc,
      derived.nesting_binary, derived.nesting_binary, silent, silent]
    omega

end Replaced

/-- Where an expression has a word, a group can stand. -/
theorem Derives.replaced {place : Nonterminal} {read before after inner : List Lexeme}
    {text : String} {query new : Query} (h : Derives place read query)
    (hread : read = before ++ .word text :: after) (hnew : Derives .disjunction inner new) :
    Replaced place before after inner (.word text) query new := by
  induction h generalizing before after with
  | word other =>
    rcases List.cons_eq_append_iff.mp hread with ⟨rfl, hcons⟩ | ⟨others, rfl, hnil⟩
    · cases hcons
      exact .whole hnew
    · simp at hnil
  | phrase other =>
    rcases List.cons_eq_append_iff.mp hread with ⟨rfl, hcons⟩ | ⟨others, rfl, hnil⟩
    · cases hcons
    · simp at hnil
  | group h ih =>
    -- The word is neither of the parentheses, so it stands between them.
    rcases List.cons_eq_append_iff.mp hread with ⟨rfl, hcons⟩ | ⟨others, rfl, hinside⟩
    · cases hcons
    · rcases append_eq_append_cons hinside with ⟨between, rfl, rfl⟩ | ⟨between, hclose, rfl⟩
      · exact (ih rfl).group h
      · rcases List.cons_eq_append_iff.mp hclose with ⟨rfl, hcons⟩ | ⟨others, rfl, hnil⟩
        · cases hcons
        · simp at hnil
  | operand h ih => exact (ih hread).operand
  | negation h ih =>
    rcases List.cons_eq_append_iff.mp hread with ⟨rfl, hcons⟩ | ⟨others, rfl, hrest⟩
    · cases hcons
    · exact (ih hrest).negation
  | conjunct h ih => exact (ih hread).conjunct
  | conjoin hl hr ihl ihr =>
    rcases append_eq_append_cons hread with ⟨between, rfl, rfl⟩ | ⟨between, hright, rfl⟩
    · exact (ihl rfl).in_left hl fun h => .conjoin h hr
    · rcases List.cons_eq_append_iff.mp hright with ⟨rfl, hcons⟩ | ⟨others, rfl, rfl⟩
      · cases hcons
      · exact (ihr rfl).in_right [.and] hl rfl (fun _ _ _ _ => rfl) fun h => .conjoin hl h
  | adjoin hl hr ihl ihr =>
    rcases append_eq_append_cons hread with ⟨between, rfl, rfl⟩ | ⟨between, rfl, rfl⟩
    · exact (ihl rfl).in_left hl fun h => .adjoin h hr
    · exact (ihr rfl).in_right [] hl rfl (fun _ _ _ _ => rfl) fun h => .adjoin hl h
  | disjunct h ih => exact (ih hread).disjunct
  | disjoin hl hr ihl ihr =>
    rcases append_eq_append_cons hread with ⟨between, rfl, rfl⟩ | ⟨between, hright, rfl⟩
    · exact (ihl rfl).in_left hl fun h => .disjoin h hr
    · rcases List.cons_eq_append_iff.mp hright with ⟨rfl, hcons⟩ | ⟨others, rfl, rfl⟩
      · cases hcons
      · exact (ihr rfl).in_right [.or] hl rfl (fun _ _ _ _ => rfl) fun h => .disjoin hl h

/-! ### In a text -/

/-- The word that will be replaced is read as a word between any two texts. -/
theorem tokenizes_word_iff {before after : List Char} {first read : List Lexeme}
    (h : Tokenizes before first) :
    Tokenizes (before ++ (" x ".toList ++ after)) read ↔
      ∃ last, Tokenizes after last ∧ read = first ++ .word "x" :: last := by
  have word : Spells " x ".toList [.word "x"] := by
    have run : Spells ['x', ' '] [.ofRun ['x']] := .run (by decide)
    exact (Spells.blank (by decide)).append run
  have seam : TokenStream.CleanSeam before (" x ".toList ++ after) :=
    .of_head before (by decide) _
  rw [tokenizes_append_iff h seam]
  constructor
  · rintro ⟨second, hsecond, rfl⟩
    obtain ⟨last, hlast, rfl⟩ := word.tokenizes_append_iff.mp hsecond
    exact ⟨last, hlast, rfl⟩
  · rintro ⟨last, hlast, rfl⟩
    exact ⟨_, word.tokenizes_append_iff.mpr ⟨last, hlast, rfl⟩, rfl⟩

/-- A text between parentheses is read as if it stood alone. -/
theorem tokenizes_group {before inner after : List Char} {first inside last : List Lexeme}
    (h : Tokenizes before first) (hinside : Tokenizes inner inside) (hlast : Tokenizes after last) :
    Tokenizes (before ++ (" (".toList ++ (inner ++ (") ".toList ++ after))))
      (first ++ (.openParen :: (inside ++ [.closeParen]) ++ last)) := by
  have opening : Spells " (".toList [.openParen] :=
    (Spells.blank (by decide)).append .openParen
  have closing : Spells ") ".toList [.closeParen] :=
    Spells.closeParen.append (.blank (by decide))
  have hclosed : Tokenizes (") ".toList ++ after) (.closeParen :: last) :=
    closing.tokenizes_append_iff.mpr ⟨last, hlast, rfl⟩
  have hgroup : Tokenizes (inner ++ (") ".toList ++ after)) (inside ++ .closeParen :: last) :=
    (tokenizes_append_iff hinside (.of_head inner (by decide) _)).mpr ⟨_, hclosed, rfl⟩
  have hopened : Tokenizes (" (".toList ++ (inner ++ (") ".toList ++ after)))
      (.openParen :: (inside ++ .closeParen :: last)) :=
    opening.tokenizes_append_iff.mpr ⟨_, hgroup, rfl⟩
  refine (tokenizes_append_iff h (.of_head before (by decide) _)).mpr ⟨_, hopened, ?_⟩
  simp

/-- In an accepted text a word that stands by itself can be replaced by an accepted text between
parentheses. The literal of the word is replaced by the query of the other text, and nothing else
changes; the sum of both limits is enough. -/
theorem parse_substitution {before inner after : String} {limit innerLimit : Nat}
    {tokens : List Token} {query new : Query} (bounded : limit + innerLimit ≤ maxSupportedDepth)
    (tokenized : tokenize before = .ok tokens)
    (accepted : (SearchParser.ofLimit limit).parse (before ++ " x " ++ after) = .ok query)
    (acceptedInner : (SearchParser.ofLimit innerLimit).parse inner = .ok new) :
    query.literals[(operands (lexemes tokens)).length]? = some "x" ∧
    (SearchParser.ofLimit (limit + innerLimit)).parse (before ++ " (" ++ inner ++ ") " ++ after) =
      .ok (query.replaceLiteral (operands (lexemes tokens)).length new) := by
  have hbefore := tokenizes_iff_tokenize.mpr ⟨tokens, tokenized, rfl⟩
  obtain ⟨read, hread, derived, deep⟩ := SearchParser.parse_eq_ok_iff.mp accepted
  obtain ⟨inside, hinside, derivedInner, deepInner⟩ := SearchParser.parse_eq_ok_iff.mp acceptedInner
  rw [String.toList_append, String.toList_append, List.append_assoc, tokenizes_word_iff hbefore]
    at hread
  obtain ⟨last, hlast, rfl⟩ := hread
  have replaced := derived.replaced rfl derivedInner
  constructor
  · simp [derived.literals_eq, Lexeme.operand?]
  · refine SearchParser.parse_eq_ok_iff.mpr ⟨_, ?_, replaced.derives, ?_⟩
    · simpa only [String.toList_append, List.append_assoc] using
        tokenizes_group hbefore hinside hlast
    · rw [SearchParser.maxDepth_ofLimit] at deep deepInner ⊢
      obtain ⟨hdepth, hnesting⟩ := Nat.max_le.mp deep
      obtain ⟨hdepthInner, hnestingInner⟩ := Nat.max_le.mp deepInner
      have hdepth' := query.depth_replaceLiteral_le (operands (lexemes tokens)).length new
      have hnesting' := replaced.nesting_le 0 0
      apply Nat.max_le.mpr
      omega

/-- A disjunction in place of a negated word stays under its negation, and the limits add up. -/
theorem parse_substitution_under_negation :
    let query : Query := .binary .or (.literal "a")
      (.binary .and (.negation (.literal "x")) (.literal "b"))
    let new : Query := .binary .or (.literal "c") (.literal "d")
    tokenize "a OR NOT" = .ok [⟨.word "a", 0⟩, ⟨.or, 2⟩, ⟨.not, 5⟩] ∧
    (SearchParser.ofLimit 5).parse ("a OR NOT" ++ " x " ++ "b") = .ok query ∧
    (SearchParser.ofLimit 4).parse "c OR d" = .ok new ∧
    (SearchParser.ofLimit 9).parse ("a OR NOT" ++ " (" ++ "c OR d" ++ ") " ++ "b") =
      .ok (.binary .or (.literal "a") (.binary .and (.negation new) (.literal "b"))) := by
  intro query new
  have tokenized : tokenize "a OR NOT" = .ok [⟨.word "a", 0⟩, ⟨.or, 2⟩, ⟨.not, 5⟩] := by cbv
  have accepted : (SearchParser.ofLimit 5).parse ("a OR NOT" ++ " x " ++ "b") = .ok query := by
    have whole : tokenize ("a OR NOT" ++ " x " ++ "b") = .ok [⟨.word "a", 0⟩, ⟨.or, 2⟩,
        ⟨.not, 5⟩, ⟨.word "x", 9⟩, ⟨.word "b", 11⟩] := by cbv
    have right : Derives .conjunction ([.not, .word "x"] ++ [.word "b"])
        (.binary .and (.negation (.literal "x")) (.literal "b")) :=
      .adjoin (.conjunct (.negation (.operand (.word "x")))) (.operand (.word "b"))
    have derived : Derives .disjunction ([.word "a"] ++ .or :: [.not, .word "x", .word "b"])
        query := .disjoin (.disjunct (.conjunct (.operand (.word "a")))) right
    rw [SearchParser.parse_of_derives _ whole derived]
    decide
  have acceptedInner : (SearchParser.ofLimit 4).parse "c OR d" = .ok new := by
    have whole : tokenize "c OR d" = .ok [⟨.word "c", 0⟩, ⟨.or, 2⟩, ⟨.word "d", 5⟩] := by cbv
    have derived : Derives .disjunction ([.word "c"] ++ .or :: [.word "d"]) new :=
      .disjoin (.disjunct (.conjunct (.operand (.word "c")))) (.conjunct (.operand (.word "d")))
    rw [SearchParser.parse_of_derives _ whole derived]
    decide
  have substituted := parse_substitution (by decide) tokenized accepted acceptedInner
  exact ⟨tokenized, accepted, acceptedInner, substituted.2⟩

end BooleanSearch
