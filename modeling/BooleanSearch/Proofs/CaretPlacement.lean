import BooleanSearch.Proofs.MissingOperand

/-! # Where the caret of a diagnostic stands

A fault stands inside its input or right behind it, and the caret is indented by as many blanks as
there are characters before the fault. A diagnostic shows the input as it is, so that this column is
the one of the fault only where the input has a single line: behind a line feed the caret stands too
far to the right, and the blanks before the input indent its first line alone.
-/

namespace BooleanSearch

namespace SearchError

/-! ### Lines and columns -/

/-- The lines of a text, without their line feeds. -/
def lines (text : String) : List (List Char) := text.toList.splitOn '\n'

/-- A position of a text is in this line, behind `column` of its characters. Every line above it is
counted with its line feed. -/
def InLine (text : String) (position : Nat) (line : List Char) (column : Nat) : Prop :=
  ∃ above below, lines text = above ++ line :: below ∧ column ≤ line.length ∧
    position = (above.flatMap (· ++ ['\n'])).length + column

/-- A line with two blanks before it. -/
def indented (line : List Char) : List Char := ' ' :: ' ' :: line

/-- A caret behind `column` blanks. -/
def caretAt (column : Nat) : List Char := List.replicate column ' ' ++ ['^']

/-- In a diagnostic the caret stands below the character at a position of a text: the line with the
caret comes before the hint and below the line that the position is in, and both are indented. -/
def PointsAt (diagnostic text : String) (position : Nat) : Prop :=
  ∃ above line column hint, InLine text position line column ∧
    lines diagnostic = above ++ [indented line, indented (caretAt column), hint]

theorem lines_ne_nil (text : String) : lines text ≠ [] := List.splitOn_ne_nil '\n' text.toList

theorem lines_append (first second : String) :
    lines (first ++ "\n" ++ second) = lines first ++ lines second := by
  simpa [lines] using List.splitOn_append_cons_self first.toList second.toList

theorem lines_eq_singleton {text : String} (h : '\n' ∉ text.toList) :
    lines text = [text.toList] :=
  List.splitOn_eq_singleton h

/-- Blanks before a text of several lines leave its last line as it is. -/
theorem getLast?_lines_indented {text : String} (h : '\n' ∈ text.toList) :
    (lines ("  " ++ text)).getLast? = (lines text).getLast? := by
  obtain ⟨before, after, htext⟩ := List.append_of_mem h
  have behind (front : List Char) :
      ((front ++ '\n' :: after).splitOn '\n').getLast? = (after.splitOn '\n').getLast? := by
    rw [List.splitOn_append_cons_self, List.getLast?_append,
      List.getLast?_eq_some_getLast (List.splitOn_ne_nil '\n' after), Option.some_or]
  have hindented : ("  " ++ text).toList = indented before ++ '\n' :: after := by
    simp [htext, indented]
  rw [lines, lines, hindented, htext, behind, behind]

/-! ### The lines of a diagnostic -/

theorem lines_hint (error : SearchError) :
    lines ("hint: " ++ error.suggestion) = [("hint: " ++ error.suggestion).toList] := by
  apply lines_eq_singleton
  cases error <;> simp [suggestion]

theorem lines_caret (column : Nat) :
    lines ("  " ++ String.ofList (List.replicate column ' ') ++ "^") =
      [indented (caretAt column)] := by
  rw [lines_eq_singleton]
  · simp [indented, caretAt]
  · simp [List.mem_replicate]

/-- The caret of a diagnostic is below the last line that it shows, behind as many blanks as there
are characters before the fault. -/
theorem lines_diagnostic {error : SearchError} {text : String} {position : Nat}
    (hposition : error.position? = some position) (inside : position ≤ text.length)
    (hinput : error.input?.getD text = text) :
    lines (error.diagnostic text) =
      lines ("search syntax error: " ++ error.message) ++ lines ("  " ++ text) ++
        [indented (caretAt position), ("hint: " ++ error.suggestion).toList] := by
  have hdiagnostic : error.diagnostic text = "search syntax error: " ++ error.message ++ "\n" ++
      ("  " ++ text ++ "\n" ++
        ("  " ++ String.ofList (List.replicate position ' ') ++ "^" ++ "\n" ++
          ("hint: " ++ error.suggestion))) := by
    have hcaret : caretLine text position =
        "  " ++ String.ofList (List.replicate position ' ') ++ "^" ++ "\n" := by
      apply String.toList_inj.mp
      simp [caretLine, caretColumn, Nat.min_eq_left inside]
    unfold diagnostic
    rw [hinput, hposition]
    extract_lets shown
    rw [Option.map_some, Option.getD_some, hcaret]
    simp only [shown, String.append_assoc]
  rw [hdiagnostic, lines_append, lines_append, lines_append, lines_caret, lines_hint]
  simp

variable {error : SearchError} {text : String} {position : Nat}

/-- A diagnostic points at its fault in a text of one line. In a text of several lines it can do so
by chance only: the fault is in the first line, and the last one is this line again, indented. -/
theorem pointsAt_diagnostic_iff (hposition : error.position? = some position)
    (inside : position ≤ text.length) (hinput : error.input?.getD text = text) :
    PointsAt (error.diagnostic text) text position ↔ '\n' ∉ text.toList ∨
      ∃ first, InLine text position first position ∧
        (lines text).getLast? = some (indented first) := by
  have layout := lines_diagnostic hposition inside hinput
  have ofLast (line : List Char) (hline : InLine text position line position)
      (hlast : (lines ("  " ++ text)).getLast? = some (indented line)) :
      PointsAt (error.diagnostic text) text position := by
    obtain ⟨others, hothers⟩ := List.getLast?_eq_some_iff.mp hlast
    refine ⟨lines ("search syntax error: " ++ error.message) ++ others, line, position,
      ("hint: " ++ error.suggestion).toList, hline, ?_⟩
    simp [layout, hothers]
  constructor
  · rintro ⟨above, line, column, hint, hline, hlines⟩
    by_cases hfeed : '\n' ∈ text.toList
    · rw [layout, ← List.singleton_append (x := indented line), ← List.append_assoc] at hlines
      obtain ⟨hshown, hend⟩ := List.append_inj' hlines rfl
      have hcolumn : position = column := by
        simpa [indented, caretAt] using congrArg List.length (List.cons.inj hend).1
      subst hcolumn
      refine Or.inr ⟨line, hline, ?_⟩
      rw [← getLast?_lines_indented hfeed]
      have hlast := congrArg List.getLast? hshown
      rwa [List.getLast?_append_of_ne_nil _ (lines_ne_nil _),
        List.getLast?_concat] at hlast
    · exact Or.inl hfeed
  · intro h
    by_cases hfeed : '\n' ∈ text.toList
    · obtain ⟨first, hfirst, hlast⟩ := h.resolve_left (not_not_intro hfeed)
      exact ofLast first hfirst (by rwa [getLast?_lines_indented hfeed])
    · have single := lines_eq_singleton hfeed
      refine ofLast text.toList ⟨[], [], single, ?_, (Nat.zero_add position).symm⟩ ?_
      · rwa [String.length_toList]
      · rw [lines_eq_singleton (by simpa using hfeed)]
        simp [indented]

end SearchError

/-! ### Faults of an input -/

/-- A fault with a place stands inside the input or at its end, and remembers no other input. -/
def SearchError.LiesIn (error : SearchError) (input : String) : Prop :=
  (∀ position, error.position? = some position → position ≤ input.length) ∧
    error.input?.getD input = input

theorem RaisedAt.liesIn {input : String} {position : Nat} {error : SearchError}
    (h : RaisedAt input position error) : error.LiesIn input := by
  obtain ⟨read, rest, tokens, fault, hinput, rfl, -, faulty, rfl⟩ := h
  have hlength : input.length = read.length + rest.length := by
    rw [← String.length_toList, hinput, List.length_append]
  cases faulty with
  | unclosed _ | empty after =>
    refine ⟨?_, rfl⟩
    rintro position ⟨⟩
    simp only [List.length_cons] at hlength
    omega

theorem liesIn_of_tokenize {input : String} {error : SearchError}
    (h : tokenize input = .error error) : error.LiesIn input := by
  obtain ⟨position, raised⟩ := exists_raisedAt h
  exact raised.liesIn

/-- The end of an input stands behind all its characters, and each of its tokens before some. -/
theorem SearchParser.liesIn_of_parse {parser : SearchParser} {input : String} {error : SearchError}
    (h : parser.parse input = .error error) : error.LiesIn input := by
  obtain ⟨read, rest, -, -, ends⟩ := TokenStream.exists_cut_ofString input
  rcases fault_of_parse h with reason | ⟨token, hmem, -, rfl⟩
  · cases reason with
    | tooDeep => exact ⟨by rintro _ ⟨⟩, rfl⟩
    | phrase hending =>
      have ending : (TokenStream.ofString input).ending = .error _ := hending
      apply liesIn_of_tokenize
      rw [tokenize, ending]
      rfl
    | unclosedGroup hending | missingAtEnd hending =>
      refine ⟨?_, rfl⟩
      rintro position ⟨⟩
      exact (ends _ (Or.inl hending)).le
    | missingAtToken hmem _ =>
      refine ⟨?_, rfl⟩
      rintro position ⟨⟩
      exact (TokenStream.offset_lt_length hmem).le
  · refine ⟨?_, rfl⟩
    rintro position ⟨⟩
    exact (TokenStream.offset_lt_length hmem).le

/-- A fault of the parser or the tokenizer that has a place is inside the input or at its end. Its
diagnostic shows all lines of the input and then the caret, behind as many blanks as there are
characters before the fault. So the caret stands below its place where the input has one line, and
otherwise only if the fault is in the first line and the last line is this one with two blanks
before it. -/
theorem pointsAt_diagnostic_of_fault (limit : Nat) {input : String} {error : SearchError}
    {position : Nat}
    (h : (SearchParser.ofLimit limit).parse input = .error error ∨ tokenize input = .error error)
    (hposition : error.position? = some position) :
    position ≤ input.length ∧
    (∃ above hint, SearchError.lines (error.diagnostic input) =
      above ++ SearchError.lines ("  " ++ input) ++
        [SearchError.indented (SearchError.caretAt position), hint]) ∧
    (SearchError.PointsAt (error.diagnostic input) input position ↔ '\n' ∉ input.toList ∨
      ∃ first, SearchError.InLine input position first position ∧
        (SearchError.lines input).getLast? = some (SearchError.indented first)) := by
  obtain ⟨inside, hinput⟩ : error.LiesIn input := h.elim SearchParser.liesIn_of_parse
    liesIn_of_tokenize
  exact ⟨inside _ hposition,
    ⟨_, _, SearchError.lines_diagnostic hposition (inside _ hposition) hinput⟩,
    SearchError.pointsAt_diagnostic_iff hposition (inside _ hposition) hinput⟩

/-- In an input of one line the caret is put by characters, whatever their size. -/
theorem pointsAt_diagnostic_of_fault_one_line :
    tokenize "été \"\"" = .error (.emptyPhrase 4) ∧ 4 ≤ "été \"\"".length ∧
    SearchError.PointsAt ((SearchError.emptyPhrase 4).diagnostic "été \"\"") "été \"\"" 4 := by
  have tokenized : tokenize "été \"\"" = .error (.emptyPhrase 4) := by cbv
  obtain ⟨inside, -, points⟩ := pointsAt_diagnostic_of_fault 50 (Or.inr tokenized) rfl
  exact ⟨tokenized, inside, points.mpr (Or.inl (by decide))⟩

/-- The phrase without a word begins the second line, and the caret stands behind two blanks more
than it should. -/
theorem not_pointsAt_diagnostic_second_line :
    tokenize "a\n\"\"" = .error (.emptyPhrase 2) ∧
    SearchError.InLine "a\n\"\"" 2 ['"', '"'] 0 ∧
    ¬ SearchError.PointsAt ((SearchError.emptyPhrase 2).diagnostic "a\n\"\"") "a\n\"\"" 2 := by
  have hlines : SearchError.lines "a\n\"\"" = [['a'], ['"', '"']] := rfl
  refine ⟨by cbv, ⟨[['a']], [], hlines, by decide, rfl⟩, ?_⟩
  rw [SearchError.pointsAt_diagnostic_iff rfl (by decide) rfl]
  rintro (hunbroken | ⟨first, -, hlast⟩)
  · exact hunbroken (by decide)
  · rw [hlines] at hlast
    cases hlast

end BooleanSearch
