import BooleanSearch.Proofs.Spelling

/-! # Texts cut into pieces

Which tokens a text has, stated without a lexer: the text is cut from left to right into blanks,
parentheses, runs of word characters and quoted phrases. A run is as long as it can be, and a phrase
goes on to the first quote that is not protected. The tokenizer accepts a text exactly if it can be
cut to its end, and a text that cannot is cut up to the quote of a faulty phrase.
-/

namespace BooleanSearch

open Text (isBlank)

/-! ### Pieces -/

/-- A run of characters of one kind that goes on neither before nor behind it. -/
structure MaximalRun (kind : Char → Bool) (before run after : List Char) : Prop where
  ne_nil : run ≠ []
  all : ∀ c ∈ run, kind c = true
  starts : ∀ c ∈ before.getLast?, kind c = false
  ends : ∀ c ∈ after.head?, kind c = false

/-- A lexeme has a run of word characters as its text. It is an operator if the run is one of the
three names in capitals, and a word otherwise. -/
def Lexeme.Names (lexeme : Lexeme) (run : List Char) : Prop :=
  lexeme.text.toList = run ∧
    (lexeme ∈ [.and, .or, .not] ∨ ∃ text, lexeme = .word text ∧ text ∉ ["AND", "OR", "NOT"])

/-- What follows an opening quote, up to the closing one, and the text that it stands for. A
backslash before a quote or a backslash protects it and is left out; any other one is kept. -/
inductive PhraseText : List Char → List Char → Prop
  | close : PhraseText ['"'] []
  | escape {c : Char} {body text : List Char} (special : c = '"' ∨ c = '\\')
      (h : PhraseText body text) : PhraseText ('\\' :: c :: body) (c :: text)
  | plain {c : Char} {body text : List Char} (inside : c ≠ '"')
      (alone : c = '\\' → ∀ d ∈ body.head?, d ≠ '"' ∧ d ≠ '\\') (h : PhraseText body text) :
      PhraseText (c :: body) (c :: text)

/-- The text `read`, which has `rest` behind it, is cut into blanks and one piece for every token.
A token stands behind as many characters as there are before its piece. -/
inductive Cut : List Char → List Char → List Token → Prop
  | start (rest : List Char) : Cut [] rest []
  | blanks {read run rest : List Char} {tokens : List Token} (h : Cut read (run ++ rest) tokens)
      (maximal : MaximalRun isBlank read run rest) : Cut (read ++ run) rest tokens
  | openParen {read rest : List Char} {tokens : List Token} (h : Cut read ('(' :: rest) tokens) :
      Cut (read ++ ['(']) rest (tokens ++ [⟨.openParen, read.length⟩])
  | closeParen {read rest : List Char} {tokens : List Token} (h : Cut read (')' :: rest) tokens) :
      Cut (read ++ [')']) rest (tokens ++ [⟨.closeParen, read.length⟩])
  | run {read run rest : List Char} {tokens : List Token} {lexeme : Lexeme}
      (h : Cut read (run ++ rest) tokens) (maximal : MaximalRun isWordChar read run rest)
      (named : lexeme.Names run) :
      Cut (read ++ run) rest (tokens ++ [⟨lexeme, read.length⟩])
  | phrase {read body text rest : List Char} {tokens : List Token}
      (h : Cut read ('"' :: (body ++ rest)) tokens) (quoted : PhraseText body text)
      (filled : text ≠ []) :
      Cut (read ++ '"' :: body) rest (tokens ++ [⟨.phrase (String.ofList text), read.length⟩])

/-! ### Runs and phrases -/

/-- A run names exactly one lexeme, the one that it is read as. -/
theorem Lexeme.names_iff {lexeme : Lexeme} {run : List Char} :
    lexeme.Names run ↔ lexeme = .ofRun run := by
  constructor
  · rintro ⟨rfl, hop | ⟨text, rfl, hword⟩⟩
    · simp only [List.mem_cons, List.not_mem_nil, or_false] at hop
      rcases hop with rfl | rfl | rfl <;> decide
    · simp only [List.mem_cons, List.not_mem_nil, or_false, not_or] at hword
      obtain ⟨hand, hor, hnot⟩ := hword
      have hand' : text.toList ≠ ['A', 'N', 'D'] := fun heq => hand (String.toList_inj.mp heq)
      have hor' : text.toList ≠ ['O', 'R'] := fun heq => hor (String.toList_inj.mp heq)
      have hnot' : text.toList ≠ ['N', 'O', 'T'] := fun heq => hnot (String.toList_inj.mp heq)
      rw [Lexeme.text, Lexeme.ofRun, if_neg hand', if_neg hor', if_neg hnot', String.ofList_toList]
  · rintro rfl
    unfold Lexeme.ofRun
    split
    · rename_i h
      exact ⟨h.symm, Or.inl (by simp)⟩
    · split
      · rename_i h
        exact ⟨h.symm, Or.inl (by simp)⟩
      · split
        · rename_i h
          exact ⟨h.symm, Or.inl (by simp)⟩
        · rename_i hand hor hnot
          refine ⟨String.toList_ofList, Or.inr ⟨_, rfl, ?_⟩⟩
          simp only [List.mem_cons, List.not_mem_nil, or_false, not_or]
          refine ⟨?_, ?_, ?_⟩ <;> intro heq
          · exact hand (by simpa using congrArg String.toList heq)
          · exact hor (by simpa using congrArg String.toList heq)
          · exact hnot (by simpa using congrArg String.toList heq)

/-- Whether a run is maximal can be checked character by character. -/
theorem maximalRun_iff {kind : Char → Bool} {before run after : List Char} :
    MaximalRun kind before run after ↔
      run ≠ [] ∧ run.all kind = true ∧ before.getLast?.all (fun c => !kind c) = true ∧
        after.head?.all (fun c => !kind c) = true := by
  constructor
  · rintro ⟨hne, hall, hstarts, hends⟩
    refine ⟨hne, List.all_eq_true.mpr hall, ?_, ?_⟩
    · simpa [Option.all_eq_true] using hstarts
    · simpa [Option.all_eq_true] using hends
  · rintro ⟨hne, hall, hstarts, hends⟩
    refine ⟨hne, List.all_eq_true.mp hall, ?_, ?_⟩
    · simpa [Option.all_eq_true] using hstarts
    · simpa [Option.all_eq_true] using hends

instance (kind : Char → Bool) (before run after : List Char) :
    Decidable (MaximalRun kind before run after) :=
  decidable_of_iff _ maximalRun_iff.symm

/-- A maximal run is what can be taken off the front. -/
theorem MaximalRun.split {kind : Char → Bool} {before run after : List Char}
    (h : MaximalRun kind before run after) :
    (run ++ after).takeWhile kind = run ∧ (run ++ after).dropWhile kind = after := by
  rw [List.takeWhile_append_of_pos h.all, List.dropWhile_append_of_pos h.all]
  cases after with
  | nil => simp
  | cons c after =>
    have hc : kind c = false := h.ends c rfl
    simp [hc]

/-- What can be taken off the front is a maximal run, unless it is nothing. -/
theorem MaximalRun.of_split {kind : Char → Bool} {before text : List Char}
    (h : text.takeWhile kind ≠ []) (starts : ∀ c ∈ before.getLast?, kind c = false) :
    MaximalRun kind before (text.takeWhile kind) (text.dropWhile kind) where
  ne_nil := h
  all := fun c hc => by
    have := List.all_takeWhile (l := text) (p := kind)
    exact List.all_eq_true.mp this c hc
  starts := starts
  ends := fun c hc => by
    have := List.head?_dropWhile_not kind text
    rw [Option.mem_def.mp hc] at this
    simpa using this

theorem MaximalRun.kind_of_mem_getLast? {kind : Char → Bool} {before run after : List Char}
    (h : MaximalRun kind before run after) : ∀ c ∈ (before ++ run).getLast?, kind c = true := by
  intro c hc
  rw [List.getLast?_append, List.getLast?_eq_some_getLast h.ne_nil] at hc
  cases hc
  exact h.all _ (List.getLast_mem h.ne_nil)

/-- A phrase is read up to its closing quote, whatever stands behind it. -/
theorem PhraseText.phraseBody_append {phrase text : List Char} (h : PhraseText phrase text) :
    ∃ body, phrase = body ++ ['"'] ∧ unescape body = text ∧
      ∀ after, phraseBody (phrase ++ after) = some (body, after) := by
  induction h with
  | close => exact ⟨[], rfl, rfl, fun after => rfl⟩
  | @escape c phrase text special h ih =>
    obtain ⟨body, rfl, rfl, hread⟩ := ih
    refine ⟨'\\' :: c :: body, rfl, ?_, fun after => ?_⟩
    · rcases special with rfl | rfl <;> rfl
    · rcases special with rfl | rfl <;> simp only [List.cons_append, phraseBody, hread] <;> rfl
  | @plain c phrase text inside alone h ih =>
    obtain ⟨body, rfl, rfl, hread⟩ := ih
    -- A quote or backslash that a backslash would protect is not the next character.
    have next {d : Char} (hd : d = '"' ∨ d = '\\') (rest : List Char) (hc : c = '\\') :
        body ++ ['"'] ≠ d :: rest := by
      intro heq
      have hhead := alone hc d (by rw [heq]; rfl)
      rcases hd with rfl | rfl
      · exact hhead.1 rfl
      · exact hhead.2 rfl
    have nextBody {d : Char} (hd : d = '"' ∨ d = '\\') (rest : List Char) (hc : c = '\\') :
        body ≠ d :: rest := by
      rintro rfl
      exact next hd _ hc rfl
    have nextAfter {d : Char} (hd : d = '"' ∨ d = '\\') (after rest : List Char) (hc : c = '\\') :
        body ++ ['"'] ++ after ≠ d :: rest := by
      intro heq
      cases body with
      | nil => cases heq; exact next hd [] hc rfl
      | cons e body => cases heq; exact next hd _ hc rfl
    refine ⟨c :: body, rfl, ?_, fun after => ?_⟩
    · rw [unescape.eq_4 _ _ (fun rest hc => nextBody (Or.inl rfl) rest hc)
        (fun rest hc => nextBody (Or.inr rfl) rest hc)]
    · rw [List.cons_append, phraseBody.eq_5 _ _ inside
        (fun rest hc => nextAfter (Or.inl rfl) after rest hc)
        (fun rest hc => nextAfter (Or.inr rfl) after rest hc), hread]
      rfl

/-- What is read of a phrase is its text. -/
theorem phraseText_of_phraseBody {input body after : List Char}
    (h : phraseBody input = some (body, after)) :
    input = body ++ ['"'] ++ after ∧ PhraseText (body ++ ['"']) (unescape body) := by
  fun_induction phraseBody input generalizing body after with
  | case1 => cases h
  | case2 rest =>
    cases h
    exact ⟨rfl, .close⟩
  | case3 rest ih | case4 rest ih =>
    obtain ⟨⟨inner, tail⟩, found, heq⟩ := Option.map_eq_some_iff.mp h
    obtain ⟨rfl, rfl⟩ := Prod.mk.inj heq
    obtain ⟨rfl, hinner⟩ := ih found
    exact ⟨rfl, .escape (by simp) hinner⟩
  | case5 c rest hquote hescaped hdouble ih =>
    obtain ⟨⟨inner, tail⟩, found, heq⟩ := Option.map_eq_some_iff.mp h
    obtain ⟨rfl, rfl⟩ := Prod.mk.inj heq
    obtain ⟨rfl, hinner⟩ := ih found
    have alone : c = '\\' → ∀ d ∈ (inner ++ ['"']).head?, d ≠ '"' ∧ d ≠ '\\' := by
      intro hc d hd
      obtain ⟨others, hothers⟩ := List.head?_eq_some_iff.mp (Option.mem_def.mp hd)
      constructor
      · rintro rfl
        exact hescaped (others ++ tail) hc (by rw [hothers]; rfl)
      · rintro rfl
        exact hdouble (others ++ tail) hc (by rw [hothers]; rfl)
    have hunescape : unescape (c :: inner) = c :: unescape inner := by
      apply unescape.eq_4
      · rintro rest hc rfl
        exact (alone hc '"' rfl).1 rfl
      · rintro rest hc rfl
        exact (alone hc '\\' rfl).2 rfl
    rw [hunescape]
    exact ⟨rfl, .plain hquote alone hinner⟩

/-! ### A cut text and its tokens -/

namespace TokenStream

theorem ofChars_blanks (position : Nat) {run : List Char} (rest : List Char)
    (h : ∀ c ∈ run, isBlank c = true) :
    ofChars position (run ++ rest) = ofChars (position + run.length) rest := by
  induction run generalizing position with
  | nil => rfl
  | cons c run ih =>
    rw [List.cons_append, ofChars_blank _ _ (h c List.mem_cons_self),
      ih _ fun d hd => h d (List.mem_cons_of_mem c hd), List.length_cons, Nat.add_right_comm,
      Nat.add_assoc]

/-- A stream behind some tokens. -/
def behind (tokens : List Token) (stream : TokenStream) : TokenStream :=
  ⟨tokens ++ stream.tokens, stream.ending⟩

theorem behind_push (tokens : List Token) (token : Token) (stream : TokenStream) :
    (push token stream).behind tokens = stream.behind (tokens ++ [token]) := by
  simp [behind, push]

end TokenStream

namespace Cut

variable {read rest : List Char} {tokens : List Token}

/-- The tokens of a cut text come first, and the others as if the text went on behind it. -/
theorem ofChars_eq (h : Cut read rest tokens) :
    TokenStream.ofChars 0 (read ++ rest) =
      (TokenStream.ofChars read.length rest).behind tokens := by
  induction h with
  | start rest => rfl
  | @blanks read run rest tokens h maximal ih =>
    calc TokenStream.ofChars 0 (read ++ run ++ rest)
        = (TokenStream.ofChars read.length (run ++ rest)).behind tokens := by
          rw [List.append_assoc, ih]
      _ = (TokenStream.ofChars (read ++ run).length rest).behind tokens := by
          rw [TokenStream.ofChars_blanks _ _ maximal.all, List.length_append]
  | openParen h ih =>
    rw [List.append_assoc, List.singleton_append, ih, TokenStream.ofChars_open,
      TokenStream.behind_push, List.length_append, List.length_singleton]
  | closeParen h ih =>
    rw [List.append_assoc, List.singleton_append, ih, TokenStream.ofChars_close,
      TokenStream.behind_push, List.length_append, List.length_singleton]
  | @run read run rest tokens lexeme h maximal named ih =>
    obtain ⟨c, others, rfl⟩ := List.exists_cons_of_ne_nil maximal.ne_nil
    have hc : isWordChar c = true := maximal.all c List.mem_cons_self
    obtain ⟨htake, hdrop⟩ := maximal.split
    simp only [List.cons_append, List.takeWhile_cons_of_pos hc,
      List.dropWhile_cons_of_pos hc] at htake hdrop
    calc TokenStream.ofChars 0 (read ++ c :: others ++ rest)
        = (TokenStream.ofChars read.length (c :: (others ++ rest))).behind tokens := by
          rw [List.append_assoc, ih, List.cons_append]
      _ = (TokenStream.push ⟨lexeme, read.length⟩
            (TokenStream.ofChars (read ++ c :: others).length rest)).behind tokens := by
          rw [TokenStream.ofChars_word _ _ hc, htake, hdrop, List.length_append,
            Lexeme.names_iff.mp named]
      _ = _ := TokenStream.behind_push ..
  | @phrase read phrase text rest tokens h quoted filled ih =>
    obtain ⟨body, rfl, rfl, hread⟩ := quoted.phraseBody_append
    have hbody : body ≠ [] := by
      rintro rfl
      exact filled rfl
    calc TokenStream.ofChars 0 (read ++ '"' :: (body ++ ['"']) ++ rest)
        = (TokenStream.ofChars read.length ('"' :: (body ++ ['"'] ++ rest))).behind tokens := by
          rw [List.append_assoc, List.cons_append, ih]
      _ = (TokenStream.push ⟨.phrase (String.ofList (unescape body)), read.length⟩
            (TokenStream.ofChars (read.length + body.length + 2) rest)).behind tokens := by
          rw [TokenStream.ofChars_phrase _ (hread rest) hbody]
      _ = _ := by
          rw [TokenStream.behind_push]
          simp [Nat.add_assoc]

/-- Every token of a cut text stands inside it. -/
theorem offset_lt (h : Cut read rest tokens) {token : Token} (hmem : token ∈ tokens) :
    token.offset < read.length := by
  induction h with
  | start rest => cases hmem
  | blanks h maximal ih =>
    have := ih hmem
    rw [List.length_append]
    omega
  | openParen h ih | closeParen h ih =>
    rw [List.length_append, List.length_singleton]
    rcases List.mem_append.mp hmem with hmem | hmem
    · have := ih hmem
      omega
    · rw [List.mem_singleton.mp hmem]
      exact Nat.lt_succ_self _
  | run h maximal named ih =>
    have hlength := List.length_pos_iff.mpr maximal.ne_nil
    rw [List.length_append]
    rcases List.mem_append.mp hmem with hmem | hmem
    · have := ih hmem
      omega
    · rw [List.mem_singleton.mp hmem]
      exact Nat.lt_add_of_pos_right hlength
  | phrase h quoted filled ih =>
    rw [List.length_append, List.length_cons]
    rcases List.mem_append.mp hmem with hmem | hmem
    · have := ih hmem
      omega
    · rw [List.mem_singleton.mp hmem]
      exact Nat.lt_add_of_pos_right (Nat.succ_pos _)

/-- The blanks that come next are cut off, and a word that could not go on before them cannot go on
behind them. -/
theorem skip (h : Cut read rest tokens) (starts : ∀ c ∈ read.getLast?, isBlank c = false)
    (seam : TokenStream.CleanSeam read rest) :
    Cut (read ++ rest.takeWhile isBlank) (rest.dropWhile isBlank) tokens ∧
      TokenStream.CleanSeam (read ++ rest.takeWhile isBlank) (rest.dropWhile isBlank) := by
  have hsplit : rest.takeWhile isBlank ++ rest.dropWhile isBlank = rest :=
    List.takeWhile_append_dropWhile
  by_cases hrun : rest.takeWhile isBlank = []
  · rw [hrun, List.nil_append] at hsplit
    rw [hrun, hsplit, List.append_nil]
    exact ⟨h, seam⟩
  · have maximal := MaximalRun.of_split hrun starts
    refine ⟨.blanks (by rwa [hsplit]) maximal, Or.inl fun c hc => ?_⟩
    simp [isWordChar, maximal.kind_of_mem_getLast? c hc]

end Cut

/-! ### Every text is cut -/

/-- A text behind `position` characters begins with a phrase that cannot be read: it is not closed,
which shows at the end of the text, or it is empty. -/
inductive FaultyPhrase (position : Nat) : List Char → PhraseFault → Prop
  | unclosed {after : List Char}
      (h : ∀ phrase text rest, PhraseText phrase text → after ≠ phrase ++ rest) :
      FaultyPhrase position ('"' :: after) (.unterminated (position + 1 + after.length))
  | empty (after : List Char) : FaultyPhrase position ('"' :: '"' :: after) (.empty position)

/-- A text is cut as far as it can be: to its end, or up to a faulty phrase. -/
def CutsUp (text : List Char) : Prop :=
  ∃ read rest tokens, read ++ rest = text ∧ Cut read rest tokens ∧
    (rest = [] ∨ ∃ fault, FaultyPhrase read.length rest fault)

theorem phraseBody_eq_none_iff {input : List Char} :
    phraseBody input = none ↔
      ∀ phrase text rest, PhraseText phrase text → input ≠ phrase ++ rest := by
  constructor
  · rintro h phrase text rest quoted rfl
    obtain ⟨body, -, -, hread⟩ := quoted.phraseBody_append
    rw [hread rest] at h
    cases h
  · intro h
    cases found : phraseBody input with
    | none => rfl
    | some split =>
      obtain ⟨hinput, quoted⟩ := phraseText_of_phraseBody found
      exact absurd hinput (h _ _ _ quoted)

private theorem forall_getLast?_concat {p : Char → Prop} (read : List Char) {c : Char} (h : p c) :
    ∀ d ∈ (read ++ [c]).getLast?, p d := by
  rw [List.getLast?_concat]
  rintro d ⟨⟩
  exact h

/-- Behind a piece it is enough to cut what is left without the blanks before it. -/
theorem Cut.cutsUp_of_skip {read rest : List Char} {tokens : List Token} (h : Cut read rest tokens)
    (starts : ∀ c ∈ read.getLast?, isBlank c = false) (seam : TokenStream.CleanSeam read rest)
    (behindBlanks : ∀ read tokens, Cut read (rest.dropWhile isBlank) tokens →
      TokenStream.CleanSeam read (rest.dropWhile isBlank) →
      CutsUp (read ++ rest.dropWhile isBlank)) : CutsUp (read ++ rest) := by
  obtain ⟨hskip, hseam⟩ := h.skip starts seam
  simpa using behindBlanks _ tokens hskip hseam

/-- Behind any text that is cut, what begins without blanks is cut as far as it can be. -/
theorem cutsUp_behindBlanks (text : List Char) :
    ∀ read tokens, Cut read (text.dropWhile isBlank) tokens →
      TokenStream.CleanSeam read (text.dropWhile isBlank) →
      CutsUp (read ++ text.dropWhile isBlank) := by
  -- The induction takes blanks one by one, but a run of them is one piece: so the statement is
  -- about what stands behind all of them.
  induction text using TokenStream.chars_induction with
  | nil => exact fun read tokens h seam => ⟨read, [], tokens, rfl, h, Or.inl rfl⟩
  | blank c rest hblank ih =>
    rw [List.dropWhile_cons_of_pos hblank]
    exact ih
  | openParen rest ih =>
    intro read tokens h seam
    rw [List.dropWhile_cons_of_neg (by decide)] at h ⊢
    rw [← List.singleton_append, ← List.append_assoc]
    exact h.openParen.cutsUp_of_skip (forall_getLast?_concat read (by decide))
      (Or.inl (forall_getLast?_concat read (by decide))) ih
  | closeParen rest ih =>
    intro read tokens h seam
    rw [List.dropWhile_cons_of_neg (by decide)] at h ⊢
    rw [← List.singleton_append, ← List.append_assoc]
    exact h.closeParen.cutsUp_of_skip (forall_getLast?_concat read (by decide))
      (Or.inl (forall_getLast?_concat read (by decide))) ih
  | unterminated rest found =>
    intro read tokens h seam
    exact ⟨read, _, tokens, rfl, h, Or.inr ⟨_, .unclosed (phraseBody_eq_none_iff.mp found)⟩⟩
  | empty rest after found =>
    intro read tokens h seam
    obtain ⟨rfl, -⟩ := phraseText_of_phraseBody found
    exact ⟨read, _, tokens, rfl, h, Or.inr ⟨_, .empty after⟩⟩
  | phrase rest body after found hbody ih =>
    intro read tokens h seam
    obtain ⟨rfl, quoted⟩ := phraseText_of_phraseBody found
    rw [List.dropWhile_cons_of_neg (by decide)] at h ⊢
    have hpiece := h.phrase quoted (unescape_ne_nil hbody)
    rw [← List.cons_append, ← List.append_assoc] at hpiece
    have whole := hpiece.cutsUp_of_skip (forall_getLast?_concat _ (by decide))
      (Or.inl (forall_getLast?_concat _ (by decide))) ih
    simpa using whole
  | word c rest hword ih =>
    intro read tokens h seam
    rw [List.dropWhile_cons_of_neg (by simp [isBlank_eq_false hword])] at h seam ⊢
    have starts : ∀ d ∈ read.getLast?, isWordChar d = false :=
      seam.resolve_right fun hhead => by simp [hhead c rfl] at hword
    have maximal : MaximalRun isWordChar read ((c :: rest).takeWhile isWordChar)
        ((c :: rest).dropWhile isWordChar) := .of_split (by simp [hword]) starts
    have hsplit :
        (c :: rest).takeWhile isWordChar ++ (c :: rest).dropWhile isWordChar = c :: rest :=
      List.takeWhile_append_dropWhile
    have hpiece := Cut.run (by rwa [hsplit]) maximal (Lexeme.names_iff.mpr rfl)
    rw [← hsplit, ← List.append_assoc]
    refine hpiece.cutsUp_of_skip (fun d hd => ?_) (Or.inr maximal.ends) ?_
    · exact isBlank_eq_false (maximal.kind_of_mem_getLast? d hd)
    · rwa [List.dropWhile_cons_of_pos hword]

/-- Every text can be cut to its end or up to a faulty phrase. -/
theorem cutsUp (text : List Char) : CutsUp text :=
  (Cut.start text).cutsUp_of_skip (by simp) (Or.inl (by simp)) (cutsUp_behindBlanks text)

/-! ### The tokenizer -/

/-- No token comes before a faulty phrase that stands first. -/
theorem FaultyPhrase.ofChars_eq {position : Nat} {text : List Char} {fault : PhraseFault}
    (h : FaultyPhrase position text fault) :
    TokenStream.ofChars position text = ⟨[], .error fault⟩ := by
  cases h with
  | unclosed h => exact TokenStream.ofChars_unterminated _ (phraseBody_eq_none_iff.mpr h)
  | empty after => exact TokenStream.ofChars_empty _ rfl

/-- A text that is cut to its end has the tokens of its pieces, and ends at its last character. -/
theorem Cut.ofString_eq {input : String} {tokens : List Token} (h : Cut input.toList [] tokens) :
    TokenStream.ofString input = ⟨tokens, .ok input.length⟩ := by
  have hstream := h.ofChars_eq
  rw [TokenStream.ofChars_nil, List.append_nil] at hstream
  rw [TokenStream.ofString, hstream, String.length_toList]
  simp [TokenStream.behind]

/-- A text that is cut up to a faulty phrase has the tokens before it, and ends with its fault. -/
theorem Cut.ofString_eq_of_faulty {input : String} {read rest : List Char} {tokens : List Token}
    {fault : PhraseFault} (h : Cut read rest tokens) (hinput : input.toList = read ++ rest)
    (faulty : FaultyPhrase read.length rest fault) :
    TokenStream.ofString input = ⟨tokens, .error fault⟩ := by
  rw [TokenStream.ofString, hinput, h.ofChars_eq, faulty.ofChars_eq]
  simp [TokenStream.behind]

theorem Cut.tokenize_eq {input : String} {tokens : List Token} (h : Cut input.toList [] tokens) :
    tokenize input = .ok tokens := by
  rw [tokenize, h.ofString_eq]

theorem Cut.tokenize_eq_of_faulty {input : String} {read rest : List Char} {tokens : List Token}
    {fault : PhraseFault} (h : Cut read rest tokens) (hinput : input.toList = read ++ rest)
    (faulty : FaultyPhrase read.length rest fault) :
    tokenize input = .error (.ofPhrase input fault) := by
  rw [tokenize, h.ofString_eq_of_faulty hinput faulty]

/-- An input is cut to its end, and then it has tokens, or up to a faulty phrase, whose fault it
then has. -/
theorem exists_cut (input : String) :
    (∃ tokens, Cut input.toList [] tokens ∧ tokenize input = .ok tokens) ∨
      ∃ read rest tokens fault, input.toList = read ++ rest ∧ Cut read rest tokens ∧
        FaultyPhrase read.length rest fault ∧ tokenize input = .error (.ofPhrase input fault) := by
  obtain ⟨read, rest, tokens, hinput, cut, rfl | ⟨fault, faulty⟩⟩ := cutsUp input.toList
  · rw [List.append_nil] at hinput
    subst hinput
    exact Or.inl ⟨tokens, cut, cut.tokenize_eq⟩
  · exact Or.inr ⟨read, rest, tokens, fault, hinput.symm, cut, faulty,
      cut.tokenize_eq_of_faulty hinput.symm faulty⟩

theorem Cut.of_tokenize {input : String} {tokens : List Token} (h : tokenize input = .ok tokens) :
    Cut input.toList [] tokens := by
  rcases exists_cut input with ⟨others, cut, hother⟩ | ⟨_, _, _, _, _, _, _, hfault⟩
  · rw [h] at hother
    rwa [Except.ok.inj hother]
  · rw [h] at hfault
    cases hfault

/-- An input has these tokens exactly if it can be cut, from its start to its end, into maximal runs
of blanks and one piece for every token: a parenthesis, a maximal run of word characters, or a
phrase up to its closing quote that is not empty. -/
theorem tokenize_eq_ok_iff_cut {input : String} {tokens : List Token} :
    tokenize input = .ok tokens ↔ Cut input.toList [] tokens :=
  ⟨Cut.of_tokenize, Cut.tokenize_eq⟩

example : tokenize "NOT\"a\\\\\" (\\b" =
    .ok [⟨.not, 0⟩, ⟨.phrase "a\\", 3⟩, ⟨.openParen, 9⟩, ⟨.word "\\b", 10⟩] := by cbv

end BooleanSearch
