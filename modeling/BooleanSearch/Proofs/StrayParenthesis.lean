import BooleanSearch.Proofs.Faults

/-! # A parenthesis behind a whole expression

A text is cut before each of its tokens, and what stands before a token is cut in the same way if
the text ends there. So a `)` that nothing before it calls for is found without looking any
further: the parser reports it exactly if it accepts the text before it.
-/

namespace BooleanSearch

open Text (isBlank)

/-! ### Texts cut before a token -/

/-- The token has its text in `read`, behind a text that is cut into the tokens `front`. -/
def Follows (front : List Token) (token : Token) (read rest : List Char) : Prop :=
  ∃ before after, read = before ++ (token.lexeme.text.toList ++ after) ∧
    before.length = token.offset ∧ Cut before (token.lexeme.text.toList ++ (after ++ rest)) front

/-- A maximal run ends before the character that ended it, and before any other one that is not of
its kind. -/
theorem MaximalRun.with_rest {kind : Char → Bool} {before run rest rest' : List Char}
    (h : MaximalRun kind before run rest)
    (hhead : ∀ c ∈ rest'.head?, c ∈ rest.head? ∨ kind c = false) :
    MaximalRun kind before run rest' where
  ne_nil := h.ne_nil
  all := h.all
  starts := h.starts
  ends := fun c hc => (hhead c hc).elim (h.ends c) id

namespace Cut

variable {read rest : List Char} {front back tokens : List Token} {token : Token}

/-- What is cut stays cut if the text goes on in another way with the same character, or with one
that ends every run. -/
theorem with_rest {rest' : List Char} (h : Cut read rest tokens)
    (hhead : ∀ c ∈ rest'.head?, c ∈ rest.head? ∨ isWordChar c = false ∧ isBlank c = false) :
    Cut read rest' tokens := by
  -- Only the last piece can end with the text that is cut. The others end before this piece, which
  -- stays.
  have piece {run rest : List Char} (hne : run ≠ []) (rest' : List Char) :
      ∀ c ∈ (run ++ rest').head?,
        c ∈ (run ++ rest).head? ∨ isWordChar c = false ∧ isBlank c = false := by
    obtain ⟨d, others, rfl⟩ := List.exists_cons_of_ne_nil hne
    exact fun c hc => Or.inl hc
  induction h generalizing rest' with
  | start rest => exact .start rest'
  | blanks h maximal ih =>
    refine .blanks (ih (piece maximal.ne_nil rest')) (maximal.with_rest fun c hc => ?_)
    exact (hhead c hc).imp_right And.right
  | openParen h ih => exact .openParen (ih fun c hc => Or.inl hc)
  | closeParen h ih => exact .closeParen (ih fun c hc => Or.inl hc)
  | run h maximal named ih =>
    refine .run (ih (piece maximal.ne_nil rest')) (maximal.with_rest fun c hc => ?_) named
    exact (hhead c hc).imp_right And.left
  | phrase h quoted filled ih => exact .phrase (ih fun c hc => Or.inl hc) quoted filled

/-- What is cut stays cut if the text ends right behind it. -/
theorem alone (h : Cut read rest tokens) : Cut read [] tokens := h.with_rest (by simp)

/-- What is cut stays cut if the text goes on with a `)`, which ends every run. -/
theorem before_closeParen (h : Cut read rest tokens) (after : List Char) :
    Cut read (rest ++ ')' :: after) tokens := by
  apply h.with_rest
  cases rest with
  | nil =>
    rintro c ⟨⟩
    exact Or.inr (by decide)
  | cons d rest => exact fun c hc => Or.inl hc

/-- A token is the last one, which begins where the cut text ended before it, or stands in that
text. -/
theorem follows_of_concat {piece : List Char} {last : Token} (h : Cut read (piece ++ rest) tokens)
    (split : tokens ++ [last] = front ++ token :: back) (place : last.offset = read.length)
    (spelled : last = token → piece = last.lexeme.text.toList)
    (earlier : ∀ back, tokens = front ++ token :: back → Follows front token read (piece ++ rest)) :
    Follows front token (read ++ piece) rest := by
  rcases List.eq_nil_or_concat back with rfl | ⟨others, final, rfl⟩
  · obtain ⟨rfl, hlast⟩ := List.append_inj' split rfl
    obtain rfl := List.singleton_inj.mp hlast
    refine ⟨read, [], ?_, place.symm, ?_⟩
    · rw [spelled rfl, List.append_nil]
    · rwa [← spelled rfl, List.nil_append]
  · have split' : tokens ++ [last] = (front ++ token :: others) ++ [final] := by
      simpa using split
    obtain ⟨htokens, -⟩ := List.append_inj' split' rfl
    obtain ⟨before, after, rfl, hlength, hbefore⟩ := earlier others htokens
    exact ⟨before, after ++ piece, by simp, hlength, by simpa using hbefore⟩

/-- A text is cut before each of its tokens. A phrase is left out, since its text does not tell how
it is written. -/
theorem follows (h : Cut read rest (front ++ token :: back))
    (plain : ∀ text, token.lexeme ≠ .phrase text) : Follows front token read rest := by
  generalize hsplit : front ++ token :: back = tokens at h
  induction h generalizing back with
  | start rest => simp at hsplit
  | @blanks read run rest tokens h maximal ih =>
    obtain ⟨before, after, rfl, hlength, hbefore⟩ := ih hsplit
    exact ⟨before, after ++ run, by simp, hlength, by simpa using hbefore⟩
  | openParen h ih | closeParen h ih =>
    refine h.follows_of_concat hsplit.symm rfl (fun _ => ?_) fun _ heq => ih heq.symm
    simp [Lexeme.text]
  | run h maximal named ih =>
    exact h.follows_of_concat hsplit.symm rfl (fun _ => named.1.symm) fun _ heq => ih heq.symm
  | phrase h quoted filled ih =>
    refine follows_of_concat (by simpa using h) hsplit.symm rfl ?_ fun _ heq => by
      simpa using ih heq.symm
    rintro rfl
    exact absurd rfl (plain _)

end Cut

namespace TokenStream

/-- The tokens of an input are those of a text with which it begins. -/
theorem exists_cut_ofString (input : String) :
    ∃ read rest, input.toList = read ++ rest ∧ Cut read rest (ofString input).tokens ∧
      ∀ place, (ofString input).ending = .ok place ∨
        (ofString input).ending = .error (.unterminated place) → place = input.length := by
  rcases exists_cut input with
    ⟨tokens, cut, -⟩ | ⟨read, rest, tokens, fault, hinput, cut, faulty, -⟩
  · rw [cut.ofString_eq]
    refine ⟨_, [], (List.append_nil _).symm, cut, ?_⟩
    rintro place (h | h)
    · exact (Except.ok.inj h).symm
    · cases h
  · rw [cut.ofString_eq_of_faulty hinput faulty]
    refine ⟨read, rest, hinput, cut, ?_⟩
    rintro place (h | h)
    · cases h
    · cases Except.error.inj h
      cases faulty with
      | unclosed _ =>
        rw [← String.length_toList, hinput, List.length_append, List.length_cons]
        omega

/-- The text before a token with which no operand starts is cut whatever comes behind the token. -/
theorem exists_before {input : String} {front back : List Token} {token : Token}
    (h : (ofString input).tokens = front ++ token :: back)
    (stops : token.lexeme.startsOperand = false) :
    ∃ before after, input.toList = before ++ (token.lexeme.text.toList ++ after) ∧
      before.length = token.offset ∧
      ∀ rest, Cut before (token.lexeme.text.toList ++ rest) front := by
  obtain ⟨read, rest, hinput, cut, -⟩ := exists_cut_ofString input
  rw [h] at cut
  have plain : ∀ text, token.lexeme ≠ .phrase text := by
    intro text hphrase
    rw [hphrase] at stops
    cases stops
  obtain ⟨before, after, rfl, hlength, hbefore⟩ := cut.follows plain
  refine ⟨before, after ++ rest, by simpa using hinput, hlength, fun rest => ?_⟩
  have hne : token.lexeme.text.toList ≠ [] := by
    cases hlexeme : token.lexeme with
    | and | or | closeParen => decide
    | not | openParen | phrase text | word text =>
      rw [hlexeme] at stops
      cases stops
  obtain ⟨c, others, hchars⟩ := List.exists_cons_of_ne_nil hne
  rw [hchars] at hbefore ⊢
  exact hbefore.with_rest fun d hd => Or.inl hd

/-- The text before a `)` among the tokens is tokenized as if it stood alone. -/
theorem exists_closeParen_iff {input : String} {front : List Token} {place : Nat} :
    (∃ back, (ofString input).tokens = front ++ ⟨.closeParen, place⟩ :: back) ↔
      ∃ before after, input.toList = before ++ ')' :: after ∧ before.length = place ∧
        Cut before [] front := by
  constructor
  · rintro ⟨back, htokens⟩
    obtain ⟨before, after, hinput, hlength, hbefore⟩ := exists_before htokens rfl
    exact ⟨before, after, by simpa [Lexeme.text] using hinput, hlength, (hbefore []).alone⟩
  · rintro ⟨before, after, hinput, rfl, cut⟩
    have upTo := Cut.closeParen (cut.before_closeParen after)
    refine ⟨(ofChars (before ++ [')']).length after).tokens, ?_⟩
    rw [ofString, hinput, List.append_cons, upTo.ofChars_eq]
    simp [behind]

end TokenStream

/-! ### The parser -/

namespace Source

variable (source : Source)

/-- An expression with a `)` behind it is read up to there, whatever comes after. -/
theorem run_disjunction_before_closeParen {front back : List Token} {place : Nat} {query : Query}
    (derived : Derives .disjunction (lexemes front) query) :
    source.run .disjunction ⟨front ++ ⟨.closeParen, place⟩ :: back, 0⟩ = (do
      source.checkDepth (required 0 0 (lexemes front) query)
      return ⟨⟨query, query.depth⟩, ⟨⟨.closeParen, place⟩ :: back, 0⟩⟩) := by
  have deep := level_lt_required derived (show 0 = 4 * 0 + 0 by omega)
  have read : source.ReadsExactly 0 0 0 front (⟨.closeParen, place⟩ :: back) query .disjunction :=
    readsExactly derived (by omega)
  exact read.run_disjunction (source.endsConjunction_close place back)
    (source.endsDisjunction_close place back) (by omega)

variable {source} {cursor : Cursor} {whole : Progress} {place : Nat} {text : String}

/-- Only what comes after a whole expression is reported as a stray token. -/
theorem run_disjunction_ne_strayToken :
    source.run .disjunction cursor ≠ .error (.strayToken place text) := by
  intro hrun
  have reason := source.gives_disjunction cursor
  rw [hrun] at reason
  generalize herror : SearchError.strayToken place text = error at reason
  cases reason with
  | @phrase fault hending => cases fault <;> cases herror
  | _ => cases herror

/-- Behind a whole expression nothing but a `)` is reported. -/
theorem exists_closeParen_of_conclude {error : SearchError}
    (h : source.run .disjunction cursor = .ok whole) (h' : source.conclude whole = .error error) :
    ∃ place back, whole.next.ahead = ⟨.closeParen, place⟩ :: back ∧
      error = .strayToken place source.input := by
  have stops := source.gives_disjunction cursor
  rw [h] at stops
  obtain ⟨node, ahead, depth⟩ := whole
  cases ahead with
  | nil =>
    obtain ⟨offset, hending⟩ := stops
    simp [conclude, finish, hending, bind, Except.bind, pure, Except.pure] at h'
  | cons token back =>
    obtain ⟨lexeme, place⟩ := token
    obtain rfl : lexeme = .closeParen := List.mem_singleton.mp stops
    cases h'
    exact ⟨place, back, rfl, rfl⟩

end Source

namespace SearchParser

variable {parser : SearchParser} {input text : String} {place : Nat}

/-- A stray token is a `)` behind an expression that the limit allows. -/
theorem parse_eq_strayToken_iff_tokens :
    parser.parse input = .error (.strayToken place text) ↔
      text = input ∧ ∃ front back query,
        (TokenStream.ofString input).tokens = front ++ ⟨.closeParen, place⟩ :: back ∧
        Derives .disjunction (lexemes front) query ∧
        Source.required 0 0 (lexemes front) query ≤ parser.maxDepth := by
  constructor
  · intro h
    rw [parse_eq_run] at h
    obtain hfault | ⟨⟨node, next⟩, hwhole, h⟩ := Source.bind_eq_error.mp h
    · exact absurd hfault Source.run_disjunction_ne_strayToken
    · obtain ⟨front, htokens, -, derived⟩ := Source.run_sound _ hwhole
      obtain ⟨offset, back, hahead, herror⟩ := Source.exists_closeParen_of_conclude hwhole h
      cases herror
      dsimp only at htokens hahead derived
      rw [hahead] at htokens
      refine ⟨rfl, front, back, node.query, htokens, derived, ?_⟩
      rw [htokens, Source.run_disjunction_before_closeParen _ derived,
        Source.checkDepth_bind] at hwhole
      split at hwhole
      · assumption
      · cases hwhole
  · rintro ⟨rfl, front, back, query, htokens, derived, deep⟩
    rw [parse_eq_run, htokens, Source.run_disjunction_before_closeParen _ derived, bind_assoc,
      Source.checkDepth_bind]
    exact if_pos deep

/-- The text before a stray token is accepted. -/
theorem parse_eq_strayToken_iff_before :
    parser.parse input = .error (.strayToken place text) ↔
      text = input ∧ ∃ before after, input.toList = before ++ ')' :: after ∧
        before.length = place ∧ ∃ query, parser.parse (String.ofList before) = .ok query := by
  rw [parse_eq_strayToken_iff_tokens]
  refine and_congr_right fun _ => ?_
  constructor
  · rintro ⟨front, back, query, htokens, derived, deep⟩
    obtain ⟨before, after, hinput, hlength, cut⟩ :=
      TokenStream.exists_closeParen_iff.mp ⟨back, htokens⟩
    have tokenized : tokenize (String.ofList before) = .ok front :=
      Cut.tokenize_eq (by rwa [String.toList_ofList])
    refine ⟨before, after, hinput, hlength, query, ?_⟩
    rw [parse_of_derives parser tokenized derived, if_pos deep]
  · rintro ⟨before, after, hinput, hlength, query, accepted⟩
    obtain ⟨front, tokenized, derived⟩ := exists_derivation accepted
    have cut := Cut.of_tokenize tokenized
    rw [String.toList_ofList] at cut
    obtain ⟨back, htokens⟩ :=
      TokenStream.exists_closeParen_iff.mpr ⟨before, after, hinput, hlength, cut⟩
    refine ⟨front, back, query, htokens, derived, ?_⟩
    rw [parse_of_derives parser tokenized derived] at accepted
    split at accepted
    · assumption
    · cases accepted

end SearchParser

/-- An expression closes as many groups as it opens. -/
theorem Derives.count_openParen {place : Nonterminal} {read : List Lexeme} {query : Query}
    (h : Derives place read query) : read.count .openParen = read.count .closeParen := by
  induction h with
  | word text => simp
  | phrase text => simp
  | group h ih => simp [ih]
  | negation h ih => simpa using ih
  | operand h ih | conjunct h ih | disjunct h ih => exact ih
  | conjoin hl hr ihl ihr | disjoin hl hr ihl ihr => simp [ihl, ihr]
  | adjoin hl hr ihl ihr => simp [ihl, ihr]

/-- The parser reports a stray token exactly at a `)` before which it accepts the text, under the
same limit and whatever comes behind. Before this `)` stands a whole expression, which closes every
group that it opens. -/
theorem parse_eq_strayToken_iff (limit : Nat) (input : String) (place : Nat) (text : String) :
    ((SearchParser.ofLimit limit).parse input = .error (.strayToken place text) ↔
      text = input ∧ place < input.length ∧ input.toList[place]? = some ')' ∧
        ∃ query, (SearchParser.ofLimit limit).parse (String.ofList (input.toList.take place)) =
          .ok query) ∧
    ((SearchParser.ofLimit limit).parse input = .error (.strayToken place text) →
      ∃ front back query, (TokenStream.ofString input).tokens =
          front ++ ⟨.closeParen, place⟩ :: back ∧
        Derives .disjunction (lexemes front) query ∧
        (lexemes front).count .openParen = (lexemes front).count .closeParen) := by
  constructor
  · rw [SearchParser.parse_eq_strayToken_iff_before]
    refine and_congr_right fun _ => ?_
    constructor
    · rintro ⟨before, after, hinput, rfl, accepted⟩
      rw [← String.length_toList, hinput]
      refine ⟨by simp, by simp, ?_⟩
      rwa [List.take_left]
    · rintro ⟨-, hchar, accepted⟩
      obtain ⟨hplace, hchar⟩ := List.getElem?_eq_some_iff.mp hchar
      refine ⟨input.toList.take place, input.toList.drop (place + 1), ?_, ?_, accepted⟩
      · rw [← hchar, ← List.drop_eq_getElem_cons hplace, List.take_append_drop]
      · exact List.length_take_of_le (Nat.le_of_lt hplace)
  · intro h
    obtain ⟨-, front, back, query, htokens, derived, -⟩ :=
      SearchParser.parse_eq_strayToken_iff_tokens.mp h
    exact ⟨front, back, query, htokens, derived, derived.count_openParen⟩

/-- The second `)` is stray, although a faulty phrase follows. -/
theorem parse_eq_strayToken_iff_behind_group :
    (SearchParser.ofLimit 8).parse "(a) b) \"\"" = .error (.strayToken 5 "(a) b) \"\"") ∧
    ∃ front back query, (TokenStream.ofString "(a) b) \"\"").tokens =
        front ++ ⟨.closeParen, 5⟩ :: back ∧
      Derives .disjunction (lexemes front) query ∧
      (lexemes front).count .openParen = (lexemes front).count .closeParen := by
  have tokenized : tokenize "(a) b" =
      .ok [⟨.openParen, 0⟩, ⟨.word "a", 1⟩, ⟨.closeParen, 2⟩, ⟨.word "b", 4⟩] := by cbv
  have word : Derives .disjunction [.word "a"] (.literal "a") :=
    .disjunct (.conjunct (.operand (.word "a")))
  have derived : Derives .disjunction ([.openParen, .word "a", .closeParen] ++ [.word "b"])
      (.binary .and (.literal "a") (.literal "b")) :=
    .disjunct (.adjoin (.conjunct (.operand (.group word))) (.operand (.word "b")))
  have accepted : (SearchParser.ofLimit 8).parse "(a) b" =
      .ok (.binary .and (.literal "a") (.literal "b")) := by
    rw [SearchParser.parse_of_derives _ tokenized derived]
    decide
  have stray : (SearchParser.ofLimit 8).parse "(a) b) \"\"" =
      .error (.strayToken 5 "(a) b) \"\"") :=
    (parse_eq_strayToken_iff 8 _ 5 _).1.mpr ⟨rfl, by decide, by decide, _, accepted⟩
  exact ⟨stray, (parse_eq_strayToken_iff 8 _ 5 _).2 stray⟩

end BooleanSearch
