import BooleanSearch.Proofs.Pieces

/-! # Writing lexemes

Lexemes are written with a space between any two, a phrase in quotes and with its quotes and
backslashes escaped. Those that the tokenizer can give at all are exactly those that it reads again
when they are written, so writing the lexemes of an input keeps all of them.
-/

namespace BooleanSearch

/-- How a lexeme stands in a text: a phrase in quotes, with a backslash before every quote and every
backslash, and anything else as its own text. -/
def Lexeme.spelling : Lexeme → String
  | .phrase text => "\"" ++ String.ofList (escape text.toList) ++ "\""
  | lexeme => lexeme.text

/-- Lexemes with a space between any two. -/
def spaced (items : List Lexeme) : String := " ".intercalate (items.map Lexeme.spelling)

/-- What a text can hold: no phrase is empty, and a word is made of word characters and is not the
name of an operator. -/
def Lexeme.Legible : Lexeme → Prop
  | .word text => text ≠ "" ∧ (∀ c ∈ text.toList, isWordChar c = true) ∧
      text ∉ ["AND", "OR", "NOT"]
  | .phrase text => text ≠ ""
  | .and | .or | .not | .openParen | .closeParen => True

/-! ### What is written is read -/

theorem tokenizes_nil : Tokenizes [] [] := by
  rw [Tokenizes, TokenStream.ofChars_nil]
  exact ⟨⟨0, rfl⟩, rfl⟩

/-- A text that is one run of word characters is read as the lexeme that the run names. -/
theorem tokenizes_of_names {lexeme : Lexeme} {run : List Char} (named : lexeme.Names run)
    (hne : run ≠ []) (h : run.all isWordChar = true) : Tokenizes run [lexeme] := by
  have maximal : MaximalRun isWordChar [] run [] :=
    ⟨hne, List.all_eq_true.mp h, by simp, by simp⟩
  have cut : Cut run [] [⟨lexeme, 0⟩] := .run (.start _) maximal named
  have hstream := cut.ofChars_eq
  rw [List.append_nil, TokenStream.ofChars_nil] at hstream
  rw [Tokenizes, hstream]
  exact ⟨⟨_, rfl⟩, rfl⟩

/-- A lexeme that stands alone in a text is read. -/
theorem Lexeme.Legible.tokenizes_spelling {lexeme : Lexeme} (h : lexeme.Legible) :
    Tokenizes lexeme.spelling.toList [lexeme] := by
  cases lexeme with
  | and | or | not => exact tokenizes_of_names ⟨rfl, Or.inl (by simp)⟩ (by decide) (by decide)
  | openParen => exact Spells.openParen.tokenizes
  | closeParen => exact Spells.closeParen.tokenizes
  | phrase text =>
    have hne : text.toList ≠ [] := by simpa [Legible] using h
    simpa [spelling] using (Spells.phrase hne).tokenizes
  | word text =>
    obtain ⟨hne, hchars, hname⟩ := h
    have hne' : text.toList ≠ [] := by simpa using hne
    exact tokenizes_of_names ⟨rfl, Or.inr ⟨text, rfl, hname⟩⟩ hne' (List.all_eq_true.mpr hchars)

/-- The space between two lexemes ends the first one and is no part of the second. -/
theorem tokenizes_spaced {items : List Lexeme} (h : ∀ item ∈ items, item.Legible) :
    Tokenizes (spaced items).toList items := by
  induction items with
  | nil => exact tokenizes_nil
  | cons item rest ih =>
    obtain ⟨hitem, hrest⟩ := List.forall_mem_cons.mp h
    have first := hitem.tokenizes_spelling
    cases rest with
    | nil => exact first
    | cons next rest =>
      have behind : Tokenizes (' ' :: (spaced (next :: rest)).toList) (next :: rest) :=
        (Spells.blank (by decide)).tokenizes_append_iff.mpr ⟨_, ih hrest, rfl⟩
      have whole := (tokenizes_append_iff first (.of_head _ (by decide) _)).mpr ⟨_, behind, rfl⟩
      simpa [spaced] using whole

/-! ### What is read can be written -/

theorem Lexeme.Names.legible {lexeme : Lexeme} {run : List Char} (named : lexeme.Names run)
    (hne : run ≠ []) (h : ∀ c ∈ run, isWordChar c = true) : lexeme.Legible := by
  obtain ⟨rfl, hop | ⟨text, rfl, hname⟩⟩ := named
  · simp only [List.mem_cons, List.not_mem_nil, or_false] at hop
    rcases hop with rfl | rfl | rfl <;> trivial
  · exact ⟨by simpa [Lexeme.text] using hne, h, hname⟩

/-- The tokens of a cut text hold what a text can hold. -/
theorem Cut.legible {read rest : List Char} {tokens : List Token} (h : Cut read rest tokens) :
    ∀ token ∈ tokens, token.lexeme.Legible := by
  induction h with
  | start rest => simp
  | blanks h maximal ih => exact ih
  | openParen h ih | closeParen h ih =>
    exact List.forall_mem_append.mpr ⟨ih, by simp [Lexeme.Legible]⟩
  | run h maximal named ih =>
    have hlexeme := named.legible maximal.ne_nil maximal.all
    exact List.forall_mem_append.mpr ⟨ih, by simpa using hlexeme⟩
  | phrase h quoted filled ih =>
    exact List.forall_mem_append.mpr ⟨ih, by simpa [Lexeme.Legible] using filled⟩

theorem legible_of_tokenize {input : String} {tokens : List Token}
    (h : tokenize input = .ok tokens) : ∀ item ∈ lexemes tokens, item.Legible := by
  intro item hitem
  obtain ⟨token, htoken, rfl⟩ := List.mem_map.mp hitem
  exact (Cut.of_tokenize h).legible token htoken

/-- Lexemes that are written are read again exactly if a text can hold each of them. The tokenizer
gives no others, so if the lexemes of an input are written, they are read again. -/
theorem tokenize_spaced_iff_legible :
    (∀ items, (∀ item ∈ items, item.Legible) ↔
      ∃ tokens, tokenize (spaced items) = .ok tokens ∧ lexemes tokens = items) ∧
    ∀ input tokens, tokenize input = .ok tokens →
      (∀ item ∈ lexemes tokens, item.Legible) ∧
      ∃ others, tokenize (spaced (lexemes tokens)) = .ok others ∧
        lexemes others = lexemes tokens := by
  constructor
  · intro items
    rw [← tokenizes_iff_tokenize]
    constructor
    · exact tokenizes_spaced
    · intro h
      obtain ⟨tokens, tokenized, rfl⟩ := tokenizes_iff_tokenize.mp h
      exact legible_of_tokenize tokenized
  · intro input tokens tokenized
    have legible := legible_of_tokenize tokenized
    exact ⟨legible, tokenizes_iff_tokenize.mp (tokenizes_spaced legible)⟩

/-- A phrase that ends in a backslash, next to a phrase that reads like an operator. -/
theorem tokenize_spaced_iff_legible_backslash :
    tokenize "NOT(\"a\\b\\\\\"\"OR\")" = .ok [⟨.not, 0⟩, ⟨.openParen, 3⟩, ⟨.phrase "a\\b\\", 4⟩,
      ⟨.phrase "OR", 11⟩, ⟨.closeParen, 15⟩] ∧
    spaced [.not, .openParen, .phrase "a\\b\\", .phrase "OR", .closeParen] =
      "NOT ( \"a\\\\b\\\\\" \"OR\" )" ∧
    ∃ others, tokenize (spaced [.not, .openParen, .phrase "a\\b\\", .phrase "OR", .closeParen]) =
        .ok others ∧
      lexemes others = [.not, .openParen, .phrase "a\\b\\", .phrase "OR", .closeParen] := by
  have tokenized : tokenize "NOT(\"a\\b\\\\\"\"OR\")" = .ok [⟨.not, 0⟩, ⟨.openParen, 3⟩,
      ⟨.phrase "a\\b\\", 4⟩, ⟨.phrase "OR", 11⟩, ⟨.closeParen, 15⟩] := by cbv
  exact ⟨tokenized, by decide, (tokenize_spaced_iff_legible.2 _ _ tokenized).2⟩

end BooleanSearch
