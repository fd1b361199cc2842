import BooleanSearch.Proofs.Grammar
import BooleanSearch.Proofs.TokenStream

/-! # Texts that spell lexemes

Some texts are read as the same lexemes wherever they stand and whatever comes behind them: a
parenthesis, a blank, a word with a blank behind it, and a phrase with its quotes. Texts of this
kind can be put one behind the other.
-/

namespace BooleanSearch

open Text (isBlank)

/-! ### Escaping -/

/-- Puts a backslash before every quote and every backslash. -/
def escape : List Char → List Char
  | [] => []
  | c :: rest => if c = '"' ∨ c = '\\' then '\\' :: c :: escape rest else c :: escape rest

@[simp] theorem unescape_escape (text : List Char) : unescape (escape text) = text := by
  induction text with
  | nil => rfl
  | cons c rest ih =>
    by_cases hquote : c = '"'
    · subst hquote
      simp [escape, unescape, ih]
    · by_cases hbackslash : c = '\\'
      · subst hbackslash
        simp [escape, unescape, ih]
      · simp only [escape, hquote, hbackslash, or_self, if_false]
        rw [unescape.eq_4 _ _ (fun _ h => absurd h hbackslash) (fun _ h => absurd h hbackslash), ih]

/-- An escaped text ends at the first quote behind it. -/
theorem phraseBody_escape (text after : List Char) :
    phraseBody (escape text ++ '"' :: after) = some (escape text, after) := by
  induction text with
  | nil => rfl
  | cons c rest ih =>
    by_cases hquote : c = '"'
    · subst hquote
      simp [escape, phraseBody, ih]
    · by_cases hbackslash : c = '\\'
      · subst hbackslash
        simp [escape, phraseBody, ih]
      · simp only [escape, hquote, hbackslash, or_self, if_false, List.cons_append]
        rw [phraseBody.eq_5 _ _ hquote (fun _ h => absurd h hbackslash)
          (fun _ h => absurd h hbackslash), ih]
        rfl

theorem escape_ne_nil {text : List Char} (h : text ≠ []) : escape text ≠ [] := by
  obtain ⟨c, rest, rfl⟩ := List.exists_cons_of_ne_nil h
  unfold escape
  split <;> simp

theorem unescape_ne_nil {body : List Char} (h : body ≠ []) : unescape body ≠ [] := by
  fun_cases unescape body <;> simp_all

/-! ### Spelling -/

/-- A text is read as these lexemes wherever it stands and whatever comes behind it. -/
def Spells (text : List Char) (read : List Lexeme) : Prop :=
  ∀ position after, ∃ tokens, lexemes tokens = read ∧
    TokenStream.ofChars position (text ++ after) =
      ⟨tokens ++ (TokenStream.ofChars (position + text.length) after).tokens,
        (TokenStream.ofChars (position + text.length) after).ending⟩

namespace Spells

theorem append {first second : List Char} {read others : List Lexeme} (h : Spells first read)
    (h' : Spells second others) : Spells (first ++ second) (read ++ others) := by
  intro position after
  obtain ⟨tokens, htokens, hfirst⟩ := h position (second ++ after)
  obtain ⟨more, hmore, hsecond⟩ := h' (position + first.length) after
  refine ⟨tokens ++ more, by simp [← htokens, ← hmore], ?_⟩
  rw [List.append_assoc, hfirst, hsecond]
  simp [Nat.add_assoc]

theorem blank {c : Char} (h : isBlank c = true) : Spells [c] [] := by
  intro position after
  exact ⟨[], rfl, TokenStream.ofChars_blank position after h⟩

theorem openParen : Spells ['('] [.openParen] := by
  intro position after
  exact ⟨[⟨.openParen, position⟩], rfl, TokenStream.ofChars_open position after⟩

theorem closeParen : Spells [')'] [.closeParen] := by
  intro position after
  exact ⟨[⟨.closeParen, position⟩], rfl, TokenStream.ofChars_close position after⟩

/-- A phrase is spelled by its escaped text between quotes. -/
theorem phrase {text : List Char} (h : text ≠ []) :
    Spells ('"' :: (escape text ++ ['"'])) [.phrase (String.ofList text)] := by
  intro position after
  refine ⟨[⟨.phrase (String.ofList text), position⟩], rfl, ?_⟩
  have found : phraseBody (escape text ++ ['"'] ++ after) = some (escape text, after) := by
    simpa using phraseBody_escape text after
  rw [List.cons_append, TokenStream.ofChars_phrase position found (escape_ne_nil h)]
  simp [TokenStream.push, Nat.add_assoc]

/-- A run of word characters ends at the blank behind it. -/
theorem run {c : Char} {rest : List Char} (h : (c :: rest).all isWordChar = true) :
    Spells (c :: (rest ++ [' '])) [.ofRun (c :: rest)] := by
  intro position after
  refine ⟨[⟨.ofRun (c :: rest), position⟩], rfl, ?_⟩
  obtain ⟨hc, hrest⟩ := List.forall_mem_cons.mp (List.all_eq_true.mp h)
  have hspace : isWordChar ' ' = false := by decide
  rw [List.cons_append, TokenStream.ofChars_word position _ hc, List.append_assoc,
    List.takeWhile_append_of_pos hrest, List.dropWhile_append_of_pos hrest, List.singleton_append,
    List.takeWhile_cons_of_neg (by simp [hspace]), List.dropWhile_cons_of_neg (by simp [hspace]),
    List.append_nil, TokenStream.ofChars_blank _ _ (by decide)]
  simp [TokenStream.push, Nat.add_assoc]

end Spells

/-! ### Tokenized texts -/

/-- A stream has no faulty phrase, and these lexemes. -/
def TokenStream.Holds (stream : TokenStream) (read : List Lexeme) : Prop :=
  (∃ offset, stream.ending = .ok offset) ∧ lexemes stream.tokens = read

/-- A text has no faulty phrase, and these lexemes. -/
def Tokenizes (text : List Char) (read : List Lexeme) : Prop :=
  (TokenStream.ofChars 0 text).Holds read

theorem TokenStream.holds_shift {stream : TokenStream} {read : List Lexeme} (distance : Nat) :
    (stream.shift distance).Holds read ↔ stream.Holds read := by
  obtain ⟨tokens, ending⟩ := stream
  cases ending <;> simp [Holds, shift, Token.shift, Function.comp_def]

/-- Where a text stands does not matter to its lexemes. -/
theorem tokenizes_iff_holds {text : List Char} {read : List Lexeme} (position : Nat) :
    Tokenizes text read ↔ (TokenStream.ofChars position text).Holds read := by
  have hshift := TokenStream.ofChars_add 0 position text
  rw [Nat.zero_add] at hshift
  rw [hshift, TokenStream.holds_shift]
  rfl

theorem tokenize_eq_ok_iff {input : String} {tokens : List Token} :
    tokenize input = .ok tokens ↔
      (TokenStream.ofString input).tokens = tokens ∧
        ∃ offset, (TokenStream.ofString input).ending = .ok offset := by
  unfold tokenize
  cases h : (TokenStream.ofString input).ending <;> simp [h]

theorem tokenizes_iff_tokenize {input : String} {read : List Lexeme} :
    Tokenizes input.toList read ↔
      ∃ tokens, tokenize input = .ok tokens ∧ lexemes tokens = read := by
  constructor
  · rintro ⟨hending, hread⟩
    exact ⟨_, tokenize_eq_ok_iff.mpr ⟨rfl, hending⟩, hread⟩
  · rintro ⟨tokens, tokenized, hread⟩
    obtain ⟨rfl, hending⟩ := tokenize_eq_ok_iff.mp tokenized
    exact ⟨hending, hread⟩

/-- Behind other tokens a text has its lexemes. -/
theorem TokenStream.holds_behind_iff {tokens : List Token} {position : Nat} {after : List Char}
    {read : List Lexeme} :
    (⟨tokens ++ (ofChars position after).tokens, (ofChars position after).ending⟩ :
        TokenStream).Holds read ↔
      ∃ second, Tokenizes after second ∧ read = lexemes tokens ++ second := by
  simp only [Holds, lexemes, List.map_append]
  constructor
  · rintro ⟨hending, rfl⟩
    exact ⟨_, (tokenizes_iff_holds position).mpr ⟨hending, rfl⟩, rfl⟩
  · rintro ⟨second, hsecond, rfl⟩
    obtain ⟨hending, rfl⟩ := (tokenizes_iff_holds position).mp hsecond
    exact ⟨hending, rfl⟩

/-- Behind a tokenized text another one is tokenized as if it stood alone, if they meet cleanly. -/
theorem tokenizes_append_iff {before after : List Char} {first read : List Lexeme}
    (h : Tokenizes before first) (seam : TokenStream.CleanSeam before after) :
    Tokenizes (before ++ after) read ↔
      ∃ second, Tokenizes after second ∧ read = first ++ second := by
  obtain ⟨⟨offset, hending⟩, rfl⟩ := h
  rw [Tokenizes, TokenStream.ofChars_append hending seam, TokenStream.holds_behind_iff]

/-- Behind a text that spells lexemes another one is tokenized as if it stood alone. -/
theorem Spells.tokenizes_append_iff {before after : List Char} {first read : List Lexeme}
    (h : Spells before first) :
    Tokenizes (before ++ after) read ↔
      ∃ second, Tokenizes after second ∧ read = first ++ second := by
  obtain ⟨tokens, rfl, hstream⟩ := h 0 after
  rw [Tokenizes, hstream, TokenStream.holds_behind_iff]

theorem Spells.tokenizes {text : List Char} {read : List Lexeme} (h : Spells text read) :
    Tokenizes text read := by
  have hempty : Tokenizes [] [] := by
    rw [Tokenizes, TokenStream.ofChars_nil]
    exact ⟨⟨0, rfl⟩, rfl⟩
  simpa using h.tokenizes_append_iff.mpr ⟨[], hempty, rfl⟩

/-- No word and no phrase is empty. -/
theorem operands_ofChars_ne_empty {position : Nat} {input : List Char} {text : String}
    (h : text ∈ operands (lexemes (TokenStream.ofChars position input).tokens)) : text ≠ "" := by
  induction input using TokenStream.chars_induction generalizing position with
  | nil => simp at h
  | blank c rest hblank ih =>
    rw [TokenStream.ofChars_blank _ _ hblank] at h
    exact ih h
  | openParen rest ih =>
    rw [TokenStream.ofChars_open] at h
    exact ih (by simpa [TokenStream.push, Lexeme.operand?] using h)
  | closeParen rest ih =>
    rw [TokenStream.ofChars_close] at h
    exact ih (by simpa [TokenStream.push, Lexeme.operand?] using h)
  | unterminated rest hbody => simp [TokenStream.ofChars_unterminated _ hbody] at h
  | empty rest after hbody => simp [TokenStream.ofChars_empty _ hbody] at h
  | phrase rest body after found hbody ih =>
    simp only [TokenStream.ofChars_phrase _ found hbody, TokenStream.push, List.map_cons,
      operands_cons, Lexeme.operand?, Option.toList_some, List.singleton_append,
      List.mem_cons] at h
    rcases h with rfl | h
    · simpa using unescape_ne_nil hbody
    · exact ih h
  | word c rest hword ih =>
    simp only [TokenStream.ofChars_word _ _ hword, TokenStream.push, List.map_cons, operands_cons,
      List.mem_append] at h
    rcases h with hrun | h
    · unfold Lexeme.ofRun at hrun
      split at hrun
      · simp [Lexeme.operand?] at hrun
      · split at hrun
        · simp [Lexeme.operand?] at hrun
        · split at hrun
          · simp [Lexeme.operand?] at hrun
          · simp only [Lexeme.operand?, Option.toList_some, List.mem_singleton] at hrun
            simp [hrun]
    · exact ih h

end BooleanSearch
