import BooleanSearch.Tokenize

/-! # The tokens of joined texts

What stands first in a text decides how its token stream begins. One induction follows a stream from
token to token. Where two texts meet outside a word and outside a phrase, the tokens of both texts
are those of the joined text.
-/

namespace BooleanSearch

open Text (isBlank)

/-- A character is a blank, a parenthesis, a quote, or part of a word. -/
theorem isBlank_or_isWordChar (c : Char) :
    isBlank c = true ∨ c = '(' ∨ c = ')' ∨ c = '"' ∨ isWordChar c = true := by
  by_cases hblank : isBlank c = true
  · exact Or.inl hblank
  · by_cases hopen : c = '('
    · exact Or.inr (Or.inl hopen)
    · by_cases hclose : c = ')'
      · exact Or.inr (Or.inr (Or.inl hclose))
      · by_cases hquote : c = '"'
        · exact Or.inr (Or.inr (Or.inr (Or.inl hquote)))
        · simp [isWordChar, hblank, hopen, hclose, hquote]

theorem isBlank_eq_false {c : Char} (h : isWordChar c = true) : isBlank c = false := by
  simp_all [isWordChar]

/-! ### One scan -/

theorem scan_blank (position : Nat) {c : Char} (rest : List Char) (h : isBlank c = true) :
    scan position (c :: rest) = scan (position + 1) rest := by
  have : position + (rest.takeWhile isBlank).length + 1 =
      position + 1 + (rest.takeWhile isBlank).length := by omega
  simp [scan, h, ← Nat.add_assoc, this]

theorem scan_word (position : Nat) {c : Char} (rest : List Char) (h : isWordChar c = true) :
    scan position (c :: rest) =
      ⟨.ok (.token ⟨.ofRun (c :: rest.takeWhile isWordChar), position⟩),
        rest.dropWhile isWordChar, position + (c :: rest.takeWhile isWordChar).length⟩ := by
  have hblank := isBlank_eq_false h
  simp only [scan, List.takeWhile_cons, List.dropWhile_cons, hblank]
  split
  · rename_i heq
    cases heq
  · rename_i heq
    cases heq
    cases h
  · rename_i heq
    cases heq
    cases h
  · rename_i heq
    cases heq
    cases h
  · rename_i heq
    cases heq
    rfl

/-- A fault, so many characters further on. -/
def PhraseFault.shift (distance : Nat) : PhraseFault → PhraseFault
  | .unterminated position => .unterminated (position + distance)
  | .empty position => .empty (position + distance)

/-- A token, so many characters further on. -/
def Token.shift (distance : Nat) (token : Token) : Token :=
  { token with offset := token.offset + distance }

namespace TokenStream

/-- A stream behind one more token. -/
def push (token : Token) (stream : TokenStream) : TokenStream :=
  ⟨token :: stream.tokens, stream.ending⟩

theorem ofChars_eq (position : Nat) (input : List Char) :
    ofChars position input =
      match (scan position input).outcome with
      | .ok (.token token) =>
        push token (ofChars (scan position input).position (scan position input).rest)
      | .ok (.finish offset) => ⟨[], .ok offset⟩
      | .error fault => ⟨[], .error fault⟩ := by
  rw [ofChars]
  split <;> simp_all [push]

@[simp] theorem ofChars_nil (position : Nat) : ofChars position [] = ⟨[], .ok position⟩ := by
  rw [ofChars_eq]
  rfl

theorem ofChars_blank (position : Nat) {c : Char} (rest : List Char) (h : isBlank c = true) :
    ofChars position (c :: rest) = ofChars (position + 1) rest := by
  rw [ofChars_eq, ofChars_eq (position + 1), scan_blank position rest h]

theorem ofChars_open (position : Nat) (rest : List Char) :
    ofChars position ('(' :: rest) = push ⟨.openParen, position⟩ (ofChars (position + 1) rest) := by
  rw [ofChars_eq]
  rfl

theorem ofChars_close (position : Nat) (rest : List Char) :
    ofChars position (')' :: rest) =
      push ⟨.closeParen, position⟩ (ofChars (position + 1) rest) := by
  rw [ofChars_eq]
  rfl

theorem ofChars_word (position : Nat) {c : Char} (rest : List Char) (h : isWordChar c = true) :
    ofChars position (c :: rest) =
      push ⟨.ofRun (c :: rest.takeWhile isWordChar), position⟩
        (ofChars (position + (c :: rest.takeWhile isWordChar).length)
          (rest.dropWhile isWordChar)) := by
  rw [ofChars_eq, scan_word position rest h]

theorem ofChars_unterminated (position : Nat) {rest : List Char} (h : phraseBody rest = none) :
    ofChars position ('"' :: rest) = ⟨[], .error (.unterminated (position + 1 + rest.length))⟩ := by
  rw [ofChars_eq]
  simp [scan, h, isBlank]

theorem ofChars_empty (position : Nat) {rest after : List Char}
    (h : phraseBody rest = some ([], after)) :
    ofChars position ('"' :: rest) = ⟨[], .error (.empty position)⟩ := by
  rw [ofChars_eq]
  simp [scan, h, isBlank]

theorem ofChars_phrase (position : Nat) {rest body after : List Char}
    (h : phraseBody rest = some (body, after)) (hbody : body ≠ []) :
    ofChars position ('"' :: rest) =
      push ⟨.phrase (String.ofList (unescape body)), position⟩
        (ofChars (position + body.length + 2) after) := by
  obtain ⟨c, others, rfl⟩ := List.exists_cons_of_ne_nil hbody
  rw [ofChars_eq]
  simp [scan, h, isBlank]

/-- Follows a text from token to token, up to its end or to the first faulty phrase. -/
theorem chars_induction {motive : List Char → Prop} (nil : motive [])
    (blank : ∀ c rest, isBlank c = true → motive rest → motive (c :: rest))
    (openParen : ∀ rest, motive rest → motive ('(' :: rest))
    (closeParen : ∀ rest, motive rest → motive (')' :: rest))
    (unterminated : ∀ rest, phraseBody rest = none → motive ('"' :: rest))
    (empty : ∀ rest after, phraseBody rest = some ([], after) → motive ('"' :: rest))
    (phrase : ∀ rest body after, phraseBody rest = some (body, after) → body ≠ [] →
      motive after → motive ('"' :: rest))
    (word : ∀ c rest, isWordChar c = true → motive (rest.dropWhile isWordChar) →
      motive (c :: rest))
    (input : List Char) : motive input := by
  -- On the length, since a word or a phrase takes several characters off the front.
  induction hlength : input.length using Nat.strongRecOn generalizing input with
  | ind length ih =>
    subst hlength
    cases input with
    | nil => exact nil
    | cons c rest =>
      rcases isBlank_or_isWordChar c with hblank | rfl | rfl | rfl | hword
      · exact blank c rest hblank (ih _ (by simp) rest rfl)
      · exact openParen rest (ih _ (by simp) rest rfl)
      · exact closeParen rest (ih _ (by simp) rest rfl)
      · cases found : phraseBody rest with
        | none => exact unterminated rest found
        | some split =>
          obtain ⟨body, after⟩ := split
          by_cases hbody : body = []
          · subst hbody
            exact empty rest after found
          · have hafter := length_of_phraseBody found
            exact phrase rest body after found hbody
              (ih _ (by rw [List.length_cons]; omega) after rfl)
      · have hrest := (List.dropWhile_sublist (l := rest) isWordChar).length_le
        exact word c rest hword (ih _ (by rw [List.length_cons]; omega) _ rfl)

/-! ### Texts further on -/

/-- A stream, so many characters further on. -/
def shift (distance : Nat) (stream : TokenStream) : TokenStream where
  tokens := stream.tokens.map (Token.shift distance)
  ending := match stream.ending with
    | .ok offset => .ok (offset + distance)
    | .error fault => .error (fault.shift distance)

@[simp] theorem shift_push (distance : Nat) (token : Token) (stream : TokenStream) :
    (push token stream).shift distance = push (token.shift distance) (stream.shift distance) := rfl

/-- The tokens of a text stand where the text does. -/
theorem ofChars_add (position distance : Nat) (input : List Char) :
    ofChars (position + distance) input = (ofChars position input).shift distance := by
  induction input using chars_induction generalizing position with
  | nil => simp [shift]
  | blank c rest h ih =>
    rw [ofChars_blank _ _ h, ofChars_blank _ _ h, ← ih, Nat.add_right_comm]
  | openParen rest ih =>
    rw [ofChars_open, ofChars_open, shift_push, ← ih, Nat.add_right_comm]
    rfl
  | closeParen rest ih =>
    rw [ofChars_close, ofChars_close, shift_push, ← ih, Nat.add_right_comm]
    rfl
  | unterminated rest h =>
    rw [ofChars_unterminated _ h, ofChars_unterminated _ h]
    simp [shift, PhraseFault.shift, Nat.add_right_comm]
  | empty rest after h =>
    rw [ofChars_empty _ h, ofChars_empty _ h]
    rfl
  | phrase rest body after h hbody ih =>
    rw [ofChars_phrase _ h hbody, ofChars_phrase _ h hbody, shift_push, ← ih]
    simp [Token.shift, Nat.add_right_comm]
  | word c rest h ih =>
    rw [ofChars_word _ _ h, ofChars_word _ _ h, shift_push, ← ih]
    simp [Token.shift, Nat.add_right_comm]

/-! ### Joined texts -/

/-- Two texts meet where at least one of them has no part of a word. -/
def CleanSeam (before after : List Char) : Prop :=
  (∀ c ∈ before.getLast?, isWordChar c = false) ∨ ∀ c ∈ after.head?, isWordChar c = false

/-- Whether two texts meet outside a word can be checked at two characters. -/
theorem cleanSeam_iff {before after : List Char} :
    CleanSeam before after ↔ before.getLast?.all (fun c => !isWordChar c) = true ∨
      after.head?.all (fun c => !isWordChar c) = true := by
  simp [CleanSeam, Option.all_eq_true]

instance (before after : List Char) : Decidable (CleanSeam before after) :=
  decidable_of_iff _ cleanSeam_iff.symm

theorem CleanSeam.of_head (before : List Char) {c : Char} (h : isWordChar c = false)
    (after : List Char) : CleanSeam before (c :: after) := by
  apply Or.inr
  intro d hd
  cases hd
  exact h

theorem CleanSeam.of_suffix (start : List Char) {before after : List Char}
    (h : CleanSeam (start ++ before) after) : CleanSeam before after := by
  apply h.imp_left
  intro hlast c hc
  apply hlast c
  rw [List.getLast?_append, hc]
  rfl

theorem phraseBody_append {input body rest : List Char} (h : phraseBody input = some (body, rest))
    (after : List Char) : phraseBody (input ++ after) = some (body, rest ++ after) := by
  fun_induction phraseBody input generalizing body rest with
  | case1 => cases h
  | case2 => simp_all [phraseBody]
  | case3 tail ih | case4 tail ih =>
    obtain ⟨⟨inner, rest⟩, found, heq⟩ := Option.map_eq_some_iff.mp h
    obtain ⟨rfl, rfl⟩ := Prod.mk.inj heq
    simp [phraseBody, ih found]
  | case5 c tail hquote hescaped hdouble ih =>
    obtain ⟨⟨inner, rest⟩, found, heq⟩ := Option.map_eq_some_iff.mp h
    obtain ⟨rfl, rfl⟩ := Prod.mk.inj heq
    cases tail with
    | nil => cases found
    | cons d tail =>
      rw [List.cons_append, phraseBody.eq_5, ih found]
      · rfl
      · exact hquote
      · intro rest hc hd
        cases hd
        exact hescaped _ hc rfl
      · intro rest hc hd
        cases hd
        exact hdouble _ hc rfl

theorem phraseBody_suffix {input body rest : List Char} (h : phraseBody input = some (body, rest)) :
    ∃ start, input = start ++ rest := by
  fun_induction phraseBody input generalizing body rest with
  | case1 => cases h
  | case2 rest => exact ⟨['"'], by simp_all⟩
  | case3 tail ih | case4 tail ih =>
    obtain ⟨⟨inner, rest⟩, found, heq⟩ := Option.map_eq_some_iff.mp h
    obtain ⟨rfl, rfl⟩ := Prod.mk.inj heq
    obtain ⟨start, rfl⟩ := ih found
    exact ⟨_ :: _ :: start, rfl⟩
  | case5 c tail _ _ _ ih =>
    obtain ⟨⟨inner, rest⟩, found, heq⟩ := Option.map_eq_some_iff.mp h
    obtain ⟨rfl, rfl⟩ := Prod.mk.inj heq
    obtain ⟨start, rfl⟩ := ih found
    exact ⟨c :: start, rfl⟩

/-- A word that ends in the first text, or where the texts meet, does not go on in the second. -/
theorem run_append {c : Char} {rest after : List Char} (h : isWordChar c = true)
    (seam : CleanSeam (c :: rest) after) :
    (rest ++ after).takeWhile isWordChar = rest.takeWhile isWordChar ∧
      (rest ++ after).dropWhile isWordChar = rest.dropWhile isWordChar ++ after := by
  induction rest generalizing c with
  | nil =>
    have hafter : ∀ c ∈ after.head?, isWordChar c = false :=
      seam.resolve_left fun hlast => by simp [hlast c (by simp)] at h
    cases after with
    | nil => exact ⟨rfl, rfl⟩
    | cons d after => simp [hafter d (by simp)]
  | cons d rest ih =>
    by_cases hd : isWordChar d = true
    · have := ih hd (seam.of_suffix [c])
      simp [hd, this]
    · simp [hd]

/-- If the first of two texts can be tokenized and they meet cleanly, the second one is tokenized
behind it as if it stood alone. -/
theorem ofChars_append {position offset : Nat} {before after : List Char}
    (h : (ofChars position before).ending = .ok offset) (seam : CleanSeam before after) :
    ofChars position (before ++ after) =
      ⟨(ofChars position before).tokens ++ (ofChars (position + before.length) after).tokens,
        (ofChars (position + before.length) after).ending⟩ := by
  induction before using chars_induction generalizing position with
  | nil => simp
  | blank c rest hblank ih =>
    rw [ofChars_blank _ _ hblank] at h ⊢
    rw [List.cons_append, ofChars_blank _ _ hblank, ih h (seam.of_suffix [c])]
    simp [Nat.add_assoc, Nat.add_comm 1]
  | openParen rest ih =>
    rw [ofChars_open] at h ⊢
    rw [List.cons_append, ofChars_open, ih h (seam.of_suffix ['('])]
    simp [push, Nat.add_assoc, Nat.add_comm 1]
  | closeParen rest ih =>
    rw [ofChars_close] at h ⊢
    rw [List.cons_append, ofChars_close, ih h (seam.of_suffix [')'])]
    simp [push, Nat.add_assoc, Nat.add_comm 1]
  | unterminated rest hbody =>
    rw [ofChars_unterminated _ hbody] at h
    cases h
  | empty rest rest' hbody =>
    rw [ofChars_empty _ hbody] at h
    cases h
  | phrase rest body rest' found hbody ih =>
    have hsuffix : CleanSeam rest' after := by
      obtain ⟨start, rfl⟩ := phraseBody_suffix found
      exact seam.of_suffix ('"' :: start)
    have hlength := length_of_phraseBody found
    rw [ofChars_phrase _ found hbody] at h ⊢
    rw [List.cons_append, ofChars_phrase _ (phraseBody_append found after) hbody, ih h hsuffix]
    have hposition : position + (rest.length + 1) = position + body.length + 2 + rest'.length := by
      omega
    rw [List.length_cons, hposition]
    rfl
  | word c rest hword ih =>
    have hsuffix : CleanSeam (rest.dropWhile isWordChar) after :=
      CleanSeam.of_suffix (c :: rest.takeWhile isWordChar) (by simpa using seam)
    have hsplit : rest.takeWhile isWordChar ++ rest.dropWhile isWordChar = rest :=
      List.takeWhile_append_dropWhile
    have hlength := congrArg List.length hsplit
    obtain ⟨hrun, hrest⟩ := run_append hword seam
    rw [ofChars_word _ _ hword] at h ⊢
    rw [List.cons_append, ofChars_word _ _ hword, hrun, hrest, ih h hsuffix]
    rw [List.length_append] at hlength
    have hposition : position + (rest.length + 1) = position +
        ((rest.takeWhile isWordChar).length + 1) + (rest.dropWhile isWordChar).length := by
      omega
    simp only [List.length_cons, hposition]
    rfl

end TokenStream

end BooleanSearch
