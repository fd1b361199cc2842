import BooleanSearch.Proofs.Precedence

/-! # Settings that are written and read again

The text of settings is a document of two sections with one entry each. Read as a settings file it
says the limit and the format, whatever the limit is, and nothing else; so the file goes before all
others in both settings.
-/

namespace BooleanSearch

namespace Toml

/-- Characters differ where one has a property and the other has not. -/
theorem ne_of_property {p : Char → Bool} {c d : Char} (hc : p c = true) (hd : p d = false) :
    c ≠ d := by
  rintro rfl
  rw [hc] at hd
  cases hd

theorem isSpace_of_property {p : Char → Bool} {c : Char} (hc : p c = true) (blank : p ' ' = false)
    (tab : p '\t' = false) : isSpace c = false := by
  simp [isSpace, ne_of_property hc blank, ne_of_property hc tab]

/-! ### Numbers in decimal digits -/

theorem digitValue?_of_isDigit {c : Char} (h : c.isDigit = true) :
    digitValue? 10 c = some (c.toNat - '0'.toNat) := by
  obtain ⟨lower, upper⟩ := Char.isDigit_iff_toNat.mp h
  have range : '0' ≤ c ∧ c ≤ '9' := ⟨lower, upper⟩
  have small : c.toNat - 48 < 10 := by
    change c.toNat ≤ 57 at upper
    omega
  simp [digitValue?, hexValue?, range, small]

theorem digitsOf?_of_isDigit {digits : List Char} (ne : digits ≠ [])
    (h : ∀ c ∈ digits, c.isDigit = true) :
    digitsOf? 10 digits = some (digits.map fun c => c.toNat - '0'.toNat) := by
  induction digits with
  | nil => exact absurd rfl ne
  | cons c rest ih =>
    obtain ⟨hc, hrest⟩ := List.forall_mem_cons.mp h
    cases rest with
    | nil => simp [digitsOf?, digitValue?_of_isDigit hc]
    | cons d others =>
      rw [digitsOf?.eq_4, digitValue?_of_isDigit hc, ih (List.cons_ne_nil d others) hrest]
      · rfl
      · simp
      · rintro after ⟨⟩
        exact absurd (hrest '_' List.mem_cons_self) (by decide)

/-- Digits that do not begin with a zero are a whole number, the one that they stand for. -/
theorem integer?_of_isDigit {c : Char} {rest : List Char} (nonzero : c ≠ '0')
    (h : ∀ d ∈ c :: rest, d.isDigit = true) :
    integer? (c :: rest) = some (Nat.ofDigitChars 10 (c :: rest) 0 : Int) := by
  have plain : signed (c :: rest) = (false, c :: rest) := by
    have hc := h c List.mem_cons_self
    unfold signed
    split
    · next heq =>
      cases heq
      exact absurd hc (by decide)
    · next heq =>
      cases heq
      exact absurd hc (by decide)
    · rfl
  have digits : decimalDigits? (c :: rest) =
      some ((c :: rest).map fun d => d.toNat - '0'.toNat) := by
    rw [decimalDigits?.eq_3, digitsOf?_of_isDigit (List.cons_ne_nil c rest) h]
    · simp [nonzero]
    · simp [nonzero]
  rw [integer?.eq_4 _ (by simp [nonzero]) (by simp [nonzero]) (by simp [nonzero]), plain]
  simp only [digits, Option.map_some, withSign, ofDigits, List.foldl_map, Nat.ofDigitChars]
  rfl

theorem head?_toDigits {n : Nat} (h : 0 < n) : (Nat.toDigits 10 n).head? ≠ some '0' := by
  induction n using Nat.base_induction 10 (by decide) with
  | single m small =>
    rw [Nat.toDigits_of_lt_base small, List.head?_cons]
    intro hzero
    have := Nat.toNat_digitChar_of_lt_ten small
    rw [Option.some.inj hzero] at this
    change 48 = 48 + m at this
    omega
  | digit m k small positive ih =>
    obtain ⟨c, rest, hm⟩ := List.exists_cons_of_ne_nil (Nat.toDigits_ne_nil (n := m) (b := 10))
    rw [hm] at ih
    rw [← Nat.toDigits_append_toDigits (by decide) positive small, hm]
    exact ih positive

theorem isDigit_of_mem_toDigits {n : Nat} : ∀ c ∈ Nat.toDigits 10 n, c.isDigit = true :=
  fun _ => Nat.isDigit_of_mem_toDigits (by decide) (by decide)

theorem integer?_toDigits (n : Nat) : integer? (Nat.toDigits 10 n) = some (n : Int) := by
  rcases Nat.eq_zero_or_pos n with rfl | positive
  · rfl
  · obtain ⟨c, rest, hn⟩ := List.exists_cons_of_ne_nil (Nat.toDigits_ne_nil (n := n) (b := 10))
    have nonzero := head?_toDigits positive
    have digits := isDigit_of_mem_toDigits (n := n)
    rw [hn] at nonzero digits
    rw [hn, integer?_of_isDigit (by simpa using nonzero) digits, ← hn,
      Nat.ofDigitChars_ten_toDigits]

theorem bareScalar?_toDigits (n : Nat) :
    bareScalar? (Nat.toDigits 10 n) = some (.integer n) := by
  have other {word : List Char} (h : ∃ c ∈ word, c.isDigit = false) : Nat.toDigits 10 n ≠ word := by
    rintro rfl
    obtain ⟨c, hc, hletter⟩ := h
    rw [isDigit_of_mem_toDigits c hc] at hletter
    cases hletter
  have notTrue : Nat.toDigits 10 n ≠ ['t', 'r', 'u', 'e'] := other ⟨'t', by simp, by decide⟩
  have notFalse : Nat.toDigits 10 n ≠ ['f', 'a', 'l', 's', 'e'] := other ⟨'f', by simp, by decide⟩
  rw [bareScalar?, if_neg notTrue, if_neg notFalse, integer?_toDigits]

theorem anyText_of_isDigit {c : Char} (h : c.isDigit = true) (rest : List Char) :
    anyText (c :: rest) = none := by
  have double : c ≠ '"' := ne_of_property h rfl
  have single : c ≠ '\'' := ne_of_property h rfl
  simp [anyText, lineText, double, single]

/-- A number is read up to the end of its line. -/
theorem scalar_toDigits (n : Nat) (rest : List Char) :
    scalar (Nat.toDigits 10 n ++ '\n' :: rest) = some (.integer n, '\n' :: rest) := by
  have bare : ∀ c ∈ Nat.toDigits 10 n, isBareChar c = true := by
    intro c hc
    simp [isBareChar, Char.isAlphanum, isDigit_of_mem_toDigits c hc]
  have written : (Nat.toDigits 10 n ++ '\n' :: rest).takeWhile isBareChar = Nat.toDigits 10 n := by
    rw [List.takeWhile_append_of_pos bare]
    exact List.append_nil _
  have behind : (Nat.toDigits 10 n ++ '\n' :: rest).dropWhile isBareChar = '\n' :: rest := by
    rw [List.dropWhile_append_of_pos bare]
    rfl
  have text : anyText (Nat.toDigits 10 n ++ '\n' :: rest) = none := by
    obtain ⟨c, others, hn⟩ := List.exists_cons_of_ne_nil (Nat.toDigits_ne_nil (n := n) (b := 10))
    rw [hn]
    exact anyText_of_isDigit (isDigit_of_mem_toDigits (n := n) c (by simp [hn])) _
  simp only [scalar, text, written, behind]
  split
  · next heq => cases heq
  · rw [bareScalar?_toDigits]
    rfl

/-! ### Entries and sections -/

/-- A name that can stand without quotes. -/
def IsBareName (name : List Char) : Prop := name ≠ [] ∧ name.all isKeyChar = true

theorem IsBareName.exists_cons {name : List Char} (h : IsBareName name) :
    ∃ c others, name = c :: others ∧ isKeyChar c = true := by
  obtain ⟨c, others, rfl⟩ := List.exists_cons_of_ne_nil h.1
  exact ⟨c, others, rfl, List.all_eq_true.mp h.2 c List.mem_cons_self⟩

theorem skipSpaces_cons {c : Char} (h : isSpace c = false) (rest : List Char) :
    skipSpaces (c :: rest) = c :: rest := by
  rw [skipSpaces, List.dropWhile_cons_of_neg (by simp [h])]

/-- A name ends at the first character that cannot stand in it. -/
theorem simpleKey_append {name : List Char} (h : IsBareName name) {c : Char}
    (other : isKeyChar c = false) (rest : List Char) :
    simpleKey (name ++ c :: rest) = some (String.ofList name, c :: rest) := by
  have bare := List.all_eq_true.mp h.2
  have name_eq : (name ++ c :: rest).takeWhile isKeyChar = name := by
    rw [List.takeWhile_append_of_pos bare, List.takeWhile_cons_of_neg (by simp [other]),
      List.append_nil]
  have rest_eq : (name ++ c :: rest).dropWhile isKeyChar = c :: rest := by
    rw [List.dropWhile_append_of_pos bare, List.dropWhile_cons_of_neg (by simp [other])]
  obtain ⟨first, others, rfl, hfirst⟩ := h.exists_cons
  unfold simpleKey
  split
  · next heq =>
    cases heq
    exact absurd hfirst (by decide)
  · next heq =>
    cases heq
    exact absurd hfirst (by decide)
  · rw [name_eq, rest_eq]
    rfl

theorem keyPath_append {name : List Char} (h : IsBareName name) {c d : Char}
    {rest after : List Char} (other : isKeyChar c = false)
    (behind : skipSpaces (c :: rest) = d :: after) (single : d ≠ '.') :
    keyPath (name ++ c :: rest) = some (⟨[], String.ofList name⟩, d :: after) := by
  have hnames : names (name ++ c :: rest) = some (⟨[], String.ofList name⟩, d :: after) := by
    rw [names, simpleKey_append h other rest]
    simp only [Option.bind_eq_bind, Option.bind_some, behind]
    split
    · next heq =>
      cases heq
      exact absurd rfl single
    · rfl
  rw [keyPath, hnames]
  rfl

/-- A text with which a value without parts is written at the end of a line. -/
structure Writes (written : List Char) (single : Scalar) : Prop where
  starts : ∃ c others, written = c :: others ∧ isSpace c = false ∧ c ≠ '[' ∧ c ≠ '\x7b'
  read : ∀ rest, scalar (written ++ '\n' :: rest) = some (single, '\n' :: rest)

/-- An entry on a line of its own. -/
def entryLine (name written : List Char) : List Char :=
  name ++ ' ' :: '=' :: ' ' :: written ++ ['\n']

/-- A section with one entry. -/
def sectionText (name key written : List Char) : List Char :=
  '[' :: (name ++ ']' :: '\n' :: entryLine key written)

section Written

variable {name key written : List Char} {single : Scalar}

theorem Writes.value_append (h : Writes written single) (levels : Nat) (rest : List Char) :
    value levels (written ++ '\n' :: rest) = some (.scalar single, '\n' :: rest) := by
  obtain ⟨⟨c, others, rfl, -, bracket, brace⟩, read⟩ := h
  rw [List.cons_append, value.eq_3, ← List.cons_append, read]
  · rfl
  · exact fun _ _ _ heq => bracket (List.cons.inj heq).1
  · exact fun _ _ _ heq => brace (List.cons.inj heq).1

theorem assignment_entryLine (hkey : IsBareName key) (h : Writes written single) (levels : Nat)
    (rest : List Char) :
    assignment skipSpaces (value levels) (entryLine key written ++ rest) =
      some ((⟨[], String.ofList key⟩, .scalar single), '\n' :: rest) := by
  have line : entryLine key written ++ rest =
      key ++ ' ' :: '=' :: ' ' :: (written ++ '\n' :: rest) := by
    simp [entryLine]
  have path : keyPath (entryLine key written ++ rest) =
      some (⟨[], String.ofList key⟩, '=' :: ' ' :: (written ++ '\n' :: rest)) := by
    rw [line]
    exact keyPath_append hkey (by decide) rfl (by decide)
  have behind : skipSpaces (' ' :: (written ++ '\n' :: rest)) = written ++ '\n' :: rest := by
    obtain ⟨c, others, rfl, visible, -⟩ := h.starts
    exact skipSpaces_cons visible _
  rw [assignment, path]
  simp only [Option.bind_eq_bind, Option.bind_some, skipSpaces_cons (c := '=') rfl, behind,
    h.value_append]
  rfl

theorem isSpace_of_isKeyChar {c : Char} (h : isKeyChar c = true) : isSpace c = false :=
  isSpace_of_property h rfl rfl

theorem skipLayout_of_isKeyChar {c : Char} (h : isKeyChar c = true) (rest : List Char) :
    skipLayout false (c :: rest) = c :: rest := by
  unfold skipLayout
  split
  · next heq => cases heq
  · next heq =>
    cases heq
    exact absurd h (by decide)
  · next heq =>
    cases heq
    exact absurd h (by decide)
  · next heq =>
    cases heq
    have comment : c ≠ '#' := ne_of_property h rfl
    simp [isSpace_of_isKeyChar h, comment]

theorem assignments_entryLine (hkey : IsBareName key) (h : Writes written single)
    (rest : List Char) :
    assignments (entryLine key written ++ rest) = (assignments rest).map fun (others, after) =>
      ((⟨[], String.ofList key⟩, .scalar single) :: others, after) := by
  obtain ⟨c, others, hcons, hc⟩ := hkey.exists_cons
  have start : entryLine key written ++ rest =
      c :: (others ++ ' ' :: '=' :: ' ' :: written ++ '\n' :: rest) := by
    simp [entryLine, hcons]
  have layout : skipLayout false (entryLine key written ++ rest) =
      entryLine key written ++ rest := by
    rw [start, skipLayout_of_isKeyChar hc]
  have line : endOfLine ('\n' :: rest) = some rest := rfl
  have shorter : rest.length < (entryLine key written ++ rest).length := by
    simp only [entryLine, List.length_append, List.length_cons]
    omega
  rw [assignments, layout]
  split
  · next heq =>
    rw [start] at heq
    cases heq
  · next heq =>
    rw [start] at heq
    cases heq
    exact absurd hc (by decide)
  · simp only [assignment_entryLine hkey h, Option.bind_eq_bind, Option.bind_some, line,
      if_pos shorter]
    cases assignments rest <;> rfl

theorem header_append (hname : IsBareName name) (rest : List Char) :
    header (name ++ ']' :: rest) = some ((⟨[], String.ofList name⟩, false), rest) := by
  obtain ⟨c, others, hcons, hc⟩ := hname.exists_cons
  have behind : skipSpaces (name ++ ']' :: rest) = name ++ ']' :: rest := by
    rw [hcons]
    exact skipSpaces_cons (isSpace_of_isKeyChar hc) _
  unfold header
  split
  · next heq =>
    rw [hcons] at heq
    cases heq
    exact absurd hc (by decide)
  · rw [behind, keyPath_append hname (by decide) rfl (by decide)]
    rfl

/-- A section with one entry is read as such where the next section follows, or nothing. -/
theorem sections_sectionText (hname : IsBareName name) (hkey : IsBareName key)
    (h : Writes written single) {rest after : List Char}
    (next : assignments rest = some ([], after)) (shorter : after.length ≤ rest.length) :
    sections (sectionText name key written ++ rest) = (sections after).map
      (⟨⟨[], String.ofList name⟩, false, [(⟨[], String.ofList key⟩, .scalar single)]⟩ :: ·) := by
  have split : sectionText name key written ++ rest =
      '[' :: (name ++ ']' :: '\n' :: (entryLine key written ++ rest)) := by
    simp [sectionText]
  have line : endOfLine ('\n' :: (entryLine key written ++ rest)) =
      some (entryLine key written ++ rest) := rfl
  have entry : assignments (entryLine key written ++ rest) =
      some ([(⟨[], String.ofList key⟩, .scalar single)], after) := by
    rw [assignments_entryLine hkey h, next]
    rfl
  have behind : after.length ≤ (name ++ ']' :: '\n' :: (entryLine key written ++ rest)).length := by
    simp only [List.length_append, List.length_cons]
    omega
  rw [split, sections, header_append hname]
  simp only [Option.bind_eq_bind, Option.bind_some, line, entry, if_pos behind]
  cases sections after <;> rfl

end Written

theorem writes_toDigits (n : Nat) : Writes (Nat.toDigits 10 n) (.integer n) where
  starts := by
    obtain ⟨c, others, hn⟩ := List.exists_cons_of_ne_nil (Nat.toDigits_ne_nil (n := n) (b := 10))
    have digit := isDigit_of_mem_toDigits (n := n) c (by simp [hn])
    exact ⟨c, others, hn, isSpace_of_property digit rfl rfl, ne_of_property digit rfl,
      ne_of_property digit rfl⟩
  read := scalar_toDigits n

theorem writes_quoted_name (format : OutputFormat) :
    Writes ('"' :: format.name.toList ++ ['"']) (.text format.name) := by
  cases format <;> exact ⟨⟨_, _, rfl, by decide, by decide, by decide⟩, fun _ => rfl⟩

end Toml

theorem Draft.depth?_natCast {n : Nat} (h : n < Nat.pow 2 64) :
    Draft.depth? (.scalar (.integer n)) = some n := by
  have bound : (n : Int) < Int.pow 2 64 := by
    have power : Int.pow 2 64 = ((Nat.pow 2 64 : Nat) : Int) := rfl
    rw [power]
    exact Int.ofNat_lt.mpr h
  have word : (decide (0 ≤ (n : Int)) && decide ((n : Int) < Int.pow 2 64)) = true := by
    rw [Bool.and_eq_true, decide_eq_true_eq, decide_eq_true_eq]
    exact ⟨Int.natCast_nonneg n, bound⟩
  rw [Draft.depth?, if_pos word, Int.toNat_natCast]

namespace Settings

variable (settings : Settings)

/-- The section of the limit. -/
def parserText : List Char :=
  Toml.sectionText "parser".toList "max_depth".toList (Nat.toDigits 10 settings.maxDepth)

/-- The section of the format. -/
def outputText : List Char :=
  Toml.sectionText "output".toList "format".toList ('"' :: settings.format.name.toList ++ ['"'])

theorem toList_toToml :
    settings.toToml.toList = settings.parserText ++ '\n' :: settings.outputText := by
  have opening : "[parser]\nmax_depth = ".toList =
      '[' :: ("parser".toList ++ ']' :: '\n' :: ("max_depth".toList ++ [' ', '=', ' '])) := by simp
  have between : "\n\n[output]\nformat = \"".toList =
      '\n' :: '\n' :: '[' ::
        ("output".toList ++ ']' :: '\n' :: ("format".toList ++ [' ', '=', ' ', '"'])) := by simp
  have closing : "\"\n".toList = ['"', '\n'] := by simp
  unfold toToml
  rw [Nat.toString_eq_ofList_toDigits]
  simp only [parserText, outputText, String.toList_append, String.toList_ofList, opening, between,
    closing, Toml.sectionText, Toml.entryLine, List.append_assoc, List.cons_append, List.nil_append]

/-- The section of the limit as it is read. -/
def parserSection : Toml.Section :=
  ⟨⟨[], "parser"⟩, false, [(⟨[], "max_depth"⟩, .scalar (.integer settings.maxDepth))]⟩

/-- The section of the format as it is read. -/
def outputSection : Toml.Section :=
  ⟨⟨[], "output"⟩, false, [(⟨[], "format"⟩, .scalar (.text settings.format.name))]⟩

theorem sections_outputText :
    Toml.sections settings.outputText = some [settings.outputSection] := by
  have name : Toml.IsBareName "output".toList := ⟨by decide, by decide⟩
  have key : Toml.IsBareName "format".toList := ⟨by decide, by decide⟩
  have entries : Toml.assignments [] = some ([], []) := by
    rw [Toml.assignments]
    rfl
  have nothing : Toml.sections [] = some [] := by
    rw [Toml.sections]
  have last := Toml.sections_sectionText name key (Toml.writes_quoted_name settings.format) entries
    (Nat.le_refl 0)
  rw [List.append_nil, nothing] at last
  exact last

theorem sections_parserText :
    Toml.sections (settings.parserText ++ '\n' :: settings.outputText) =
      some [settings.parserSection, settings.outputSection] := by
  have name : Toml.IsBareName "parser".toList := ⟨by decide, by decide⟩
  have key : Toml.IsBareName "max_depth".toList := ⟨by decide, by decide⟩
  have entries : Toml.assignments ('\n' :: settings.outputText) =
      some ([], settings.outputText) := by
    rw [Toml.assignments]
    rfl
  have first := Toml.sections_sectionText name key (Toml.writes_toDigits settings.maxDepth) entries
    (Nat.le_succ _)
  rw [sections_outputText] at first
  exact first

/-- Both sections are read, and nothing else. -/
theorem document_toToml :
    Toml.document settings.toToml.toList =
      some ⟨[], [settings.parserSection, settings.outputSection]⟩ := by
  have opening : Toml.assignments (settings.parserText ++ '\n' :: settings.outputText) =
      some ([], settings.parserText ++ '\n' :: settings.outputText) := by
    rw [Toml.assignments]
    rfl
  rw [toList_toToml, Toml.document]
  · simp [opening, sections_parserText]
  · intro rest hrest
    cases hrest

/-- The table that the sections define. -/
def table : Toml.Table :=
  [("parser", .table .named [("max_depth", .scalar (.integer settings.maxDepth))]),
    ("output", .table .named [("format", .scalar (.text settings.format.name))])]

theorem read_toToml : Toml.read settings.toToml = some settings.table := by
  rw [Toml.read, document_toToml]
  rfl

theorem ofTable?_table (h : settings.maxDepth < Nat.pow 2 64) :
    Draft.ofTable? settings.table =
      some ⟨none, some ⟨some settings.maxDepth⟩, some ⟨some settings.format⟩⟩ := by
  have named : Draft.format? (.scalar (.text settings.format.name)) = some settings.format := by
    cases settings.format <;> rfl
  have depth : Draft.section? "max_depth" Draft.depth?
      (.table .named [("max_depth", .scalar (.integer settings.maxDepth))]) =
      some (some settings.maxDepth) := by
    simp [Draft.section?, Draft.passesOver, Toml.Table.get?, Draft.depth?_natCast h]
  have format : Draft.section? "format" Draft.format?
      (.table .named [("format", .scalar (.text settings.format.name))]) =
      some (some settings.format) := by
    simp [Draft.section?, Draft.passesOver, Toml.Table.get?, named]
  simp [table, Draft.ofTable?, Draft.entry?, Draft.passesOver, Toml.Table.get?, List.lookup_cons,
    depth, format]

theorem ofToml?_toToml (h : settings.maxDepth < Nat.pow 2 64) :
    Draft.ofToml? settings.toToml =
      some ⟨none, some ⟨some settings.maxDepth⟩, some ⟨some settings.format⟩⟩ := by
  rw [Draft.ofToml?, read_toToml, Option.bind_eq_bind, Option.bind_some, settings.ofTable?_table h]

end Settings

namespace Configuration

/-- The written settings of a configuration are read back as they are, and say nothing else. Before
files whose limits can all be set they give the settings of the configuration, where its own limit
can be set. -/
theorem loads_toToml (configuration : Configuration)
    (h : configuration.settings.maxDepth < Nat.pow 2 64) :
    (∀ path, Draft.read path configuration.settings.toToml =
      .ok ⟨none, some ⟨some configuration.settings.maxDepth⟩,
        some ⟨some configuration.settings.format⟩⟩) ∧
    (1 ≤ configuration.settings.maxDepth → configuration.settings.maxDepth ≤ 1000 →
      ∀ path draft lower, Draft.read path configuration.settings.toToml = .ok draft →
        (∀ file ∈ lower, SettingsFile.InRange file) →
        (merge (⟨path, draft⟩ :: lower)).map Configuration.settings =
          .ok configuration.settings) := by
  have read (path : Path) : Draft.read path configuration.settings.toToml =
      .ok ⟨none, some ⟨some configuration.settings.maxDepth⟩,
        some ⟨some configuration.settings.format⟩⟩ := by
    rw [Draft.read, Settings.ofToml?_toToml _ h]
  refine ⟨read, fun least greatest path draft lower hdraft inRange => ?_⟩
  rw [read, Except.ok.injEq] at hdraft
  subst hdraft
  have own : SettingsFile.InRange ⟨path, none, some ⟨some configuration.settings.maxDepth⟩,
      some ⟨some configuration.settings.format⟩⟩ := by
    rintro depth ⟨⟩
    exact ⟨least, greatest⟩
  rw [merge_of_inRange (List.forall_mem_cons.mpr ⟨own, inRange⟩)]
  change Except.ok (firstSettings _) = _
  rw [firstSettings_cons]
  rfl

/-- A limit and a format that are read back go before those of another file. -/
theorem loads_toToml_before_another :
    let configuration : Configuration := { settings := ⟨7, .json⟩ }
    let other : SettingsFile := ⟨.ofText "/b", none, some ⟨some 1000⟩, some ⟨some .tree⟩⟩
    configuration.settings.maxDepth < Nat.pow 2 64 ∧
    ∃ draft, Draft.read (.ofText "/a") configuration.settings.toToml = .ok draft ∧
      (merge [⟨.ofText "/a", draft⟩, other]).map Configuration.settings = .ok ⟨7, .json⟩ := by
  intro configuration other
  have small : configuration.settings.maxDepth < Nat.pow 2 64 := by decide
  have inRange : ∀ file ∈ [other], SettingsFile.InRange file := by
    rintro file hfile depth hdepth
    obtain rfl := List.mem_singleton.mp hfile
    cases hdepth
    exact ⟨by decide, by decide⟩
  obtain ⟨read, merged⟩ := loads_toToml configuration small
  exact ⟨small, _, read _, merged (by decide) (by decide) _ _ _ (read _) inRange⟩

end Configuration

end BooleanSearch
