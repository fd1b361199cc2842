import BooleanSearch.Program
import BooleanSearch.Proofs.CommandLineLimit
import BooleanSearch.Proofs.Precedence

/-! # The limit that is written is the limit that is honoured

A limit comes from a word of the command line or from a settings file. Both accept the same
numbers, and a parser takes each of these numbers as it is, although it would cut down a higher
one. So the parser that a command runs has the limit that was written.
-/

namespace BooleanSearch

/-! ### The text of a limit -/

/-- Decimal digits, perhaps behind a plus sign, that stand for this number. -/
def IsNumeral (text : List Char) (number : Nat) : Prop :=
  ∃ digits, (text = digits ∨ text = '+' :: digits) ∧ digits ≠ [] ∧
    (∀ c ∈ digits, c.isDigit = true) ∧ Nat.ofDigitChars 10 digits 0 = number

theorem IsNumeral.unique {text : List Char} {number other : Nat} (h : IsNumeral text number)
    (h' : IsNumeral text other) : number = other := by
  obtain ⟨digits, spelled, -, digit, rfl⟩ := h
  obtain ⟨others, respelled, -, every, rfl⟩ := h'
  rcases spelled with rfl | rfl <;> rcases respelled with rfl | same
  · rfl
  · exact absurd (digit '+' (by simp [same])) (by decide)
  · exact absurd (every '+' List.mem_cons_self) (by decide)
  · rw [(List.cons.inj same).2]

theorem isNumeral_toString (number : Nat) : IsNumeral (toString number).toList number := by
  rw [Nat.toString_eq_ofList_toDigits, String.toList_ofList]
  exact ⟨_, Or.inl rfl, Nat.toDigits_ne_nil,
    fun _ => Nat.isDigit_of_mem_toDigits (by decide) (by decide), Nat.ofDigitChars_ten_toDigits⟩

theorem le_ofDigitChars (digits : List Char) (number : Nat) :
    number ≤ Nat.ofDigitChars 10 digits number := by
  induction digits generalizing number with
  | nil => exact Nat.le_refl number
  | cons c rest ih =>
    rw [Nat.ofDigitChars_cons]
    exact Nat.le_trans (by omega) (ih (10 * number + (c.toNat - '0'.toNat)))

/-- Digits are read as the number that they stand for where it can be held. A number only grows
from digit to digit, so one that is too large on the way is too large in the end. -/
theorem readDigits_eq_ok_iff {digits : List Char} {number value : Nat}
    (small : number < numeralBound) :
    readDigits number digits = .ok value ↔
      (∀ c ∈ digits, c.isDigit = true) ∧ Nat.ofDigitChars 10 digits number = value ∧
        value < numeralBound := by
  induction digits generalizing number with
  | nil =>
    rw [readDigits, Except.ok.injEq, Nat.ofDigitChars_nil]
    constructor
    · rintro rfl
      exact ⟨nofun, rfl, small⟩
    · exact fun ⟨_, h, _⟩ => h
  | cons c rest ih =>
    rw [readDigits, List.forall_mem_cons, Nat.ofDigitChars_cons]
    cases digit : c.isDigit with
    | false => simp
    | true =>
      by_cases fits : 10 * number + (c.toNat - '0'.toNat) < numeralBound
      · simp only [if_true, if_pos fits, true_and]
        exact ih fits
      · simp only [if_true, if_neg fits, true_and]
        constructor
        · exact nofun
        · rintro ⟨-, rfl, bound⟩
          exact absurd (Nat.lt_of_le_of_lt (le_ofDigitChars rest _) bound) fits

theorem readNumeral_eq_ok_iff {text : List Char} {value : Nat} :
    readNumeral text = .ok value ↔ IsNumeral text value ∧ value < numeralBound := by
  have zero : 0 < numeralBound := Nat.two_pow_pos 64
  unfold readNumeral
  split
  · constructor
    · exact nofun
    · rintro ⟨⟨digits, rfl | h, ne, -⟩, -⟩
      · exact absurd rfl ne
      · cases h
  · constructor
    · exact nofun
    · rintro ⟨⟨digits, rfl | h, ne, digit, -⟩, -⟩
      · exact absurd (digit '+' List.mem_cons_self) (by decide)
      · cases h
        exact absurd rfl ne
  · next digits notAlone =>
    rw [readDigits_eq_ok_iff zero]
    constructor
    · rintro ⟨digit, value_eq, bound⟩
      exact ⟨⟨digits, Or.inr rfl, fun h => notAlone (by rw [h]), digit, value_eq⟩, bound⟩
    · rintro ⟨⟨digits', rfl | h, ne, digit, value_eq⟩, bound⟩
      · exact absurd (digit '+' List.mem_cons_self) (by decide)
      · cases h
        exact ⟨digit, value_eq, bound⟩
  · next nonempty notAlone noSign =>
    rw [readDigits_eq_ok_iff zero]
    constructor
    · rintro ⟨digit, value_eq, bound⟩
      exact ⟨⟨text, Or.inl rfl, nonempty, digit, value_eq⟩, bound⟩
    · rintro ⟨⟨digits, rfl | h, ne, digit, value_eq⟩, bound⟩
      · exact ⟨digit, value_eq, bound⟩
      · exact absurd h (noSign digits)

/-- The words that are accepted as limits: those for the numbers that can be set. -/
theorem readLimit_eq_ok_iff {text : String} {depth : Nat} :
    readLimit text = .ok depth ↔ IsNumeral text.toList depth ∧ 1 ≤ depth ∧ depth ≤ 1000 := by
  unfold readLimit
  constructor
  · intro h
    cases hread : readNumeral text.toList with
    | error fault =>
      rw [hread] at h
      cases h
    | ok number =>
      simp only [hread] at h
      split at h
      · next accepted =>
        cases h
        exact ⟨(readNumeral_eq_ok_iff.mp hread).1, SettingsFile.acceptsDepth_iff.mp accepted⟩
      · cases h
  · rintro ⟨numeral, inRange⟩
    have bound : depth < numeralBound := Nat.lt_of_le_of_lt inRange.2 (by decide)
    rw [readNumeral_eq_ok_iff.mpr ⟨numeral, bound⟩]
    exact if_pos (SettingsFile.acceptsDepth_iff.mpr inRange)

theorem readLimit_toString_eq_ok_iff {number depth : Nat} :
    readLimit (toString number) = .ok depth ↔ depth = number ∧ 1 ≤ number ∧ number ≤ 1000 := by
  rw [readLimit_eq_ok_iff]
  constructor
  · rintro ⟨numeral, inRange⟩
    obtain rfl := numeral.unique (isNumeral_toString number)
    exact ⟨rfl, inRange⟩
  · rintro ⟨rfl, inRange⟩
    exact ⟨isNumeral_toString depth, inRange⟩

theorem SearchParser.maxDepth_ofLimit_of_le {limit : Nat} (h : limit ≤ 1000) :
    (SearchParser.ofLimit limit).maxDepth = limit := Nat.min_eq_left h

/-! ### The limit of settings files -/

theorem merge_singleton_eq_ok_iff {file : SettingsFile} {depth : Nat}
    (h : file.maxDepth? = some depth) {configuration : Configuration} :
    merge [file] = .ok configuration ↔
      configurationOf [file] = configuration ∧ 1 ≤ depth ∧ depth ≤ 1000 := by
  by_cases inRange : 1 ≤ depth ∧ depth ≤ 1000
  · have accepted : ∀ single ∈ [file], SettingsFile.InRange single := by
      intro single hsingle other hother
      obtain rfl := List.mem_singleton.mp hsingle
      rw [h] at hother
      cases hother
      exact inRange
    simp [merge_of_inRange accepted, inRange]
  · have refused : LastOutOfRange [file] file.path depth :=
      ⟨[], file, [], rfl, rfl, h, inRange, nofun⟩
    rw [refused.merge_eq]
    exact ⟨nofun, fun ⟨_, h⟩ => absurd h inRange⟩

theorem maxDepth_configurationOf_singleton {file : SettingsFile} {depth : Nat}
    (h : file.maxDepth? = some depth) : (configurationOf [file]).settings.maxDepth = depth := by
  change (firstSettings [file]).maxDepth = depth
  rw [firstSettings_cons, h, Option.getD_some]

/-- Settings that files make have a limit that can be set. -/
theorem maxDepth_firstSettings_le {files : List SettingsFile}
    (h : ∀ file ∈ files, file.InRange) : (firstSettings files).maxDepth ≤ 1000 := by
  unfold firstSettings
  cases hfirst : files.findSome? SettingsFile.maxDepth? with
  | none => exact (by decide : defaultMaxDepth ≤ 1000)
  | some depth =>
    obtain ⟨file, hfile, hdepth⟩ := List.exists_of_findSome?_eq_some hfirst
    exact (h file hfile depth hdepth).2

theorem Environment.run_parse {env : Environment} {configuration : Configuration}
    (loaded : env.load env.directory = .ok configuration) (expressions : List String)
    (maxDepth : Option Nat) (json tree : Bool) :
    (env.run (.parse expressions maxDepth json tree)).1 =
      runParse configuration.settings expressions maxDepth json tree := by
  simp only [run, withSettings, loaded]

/-- The command line and the settings files accept the same limits, which are the numbers from one
to a thousand, and a parser takes an accepted limit as it is. A command has a limit exactly if its
options give one, and then it is the one that they give. So the parser under which a command parses
has the limit that the options give; without one, that of the first settings file that sets a limit;
and without one, the limit by default. -/
theorem written_limit_is_honoured :
    (∀ text depth, readLimit text = .ok depth ↔
      IsNumeral text.toList depth ∧ 1 ≤ depth ∧ depth ≤ 1000) ∧
    (∀ file depth, SettingsFile.maxDepth? file = some depth →
      ((∃ configuration, merge [file] = .ok configuration) ↔
        ∃ limit, readLimit (toString depth) = .ok limit) ∧
      (∀ configuration, merge [file] = .ok configuration →
        configuration.settings.parser.maxDepth = depth) ∧
      ∀ limit, readLimit (toString depth) = .ok limit →
        (SearchParser.ofLimit limit).maxDepth = depth) ∧
    ∀ (env : Environment) words verbosity expressions maxDepth json tree,
      Invocation.read words = .ok ⟨verbosity, .parse expressions maxDepth json tree⟩ →
      (∀ depth, maxDepth = some depth →
        ∃ text, GivesLimit (optionWords words) text ∧ readLimit text = .ok depth) ∧
      (∀ text, GivesLimit (optionWords words) text →
        ∃ depth, maxDepth = some depth ∧ readLimit text = .ok depth) ∧
      ∀ configuration, env.load env.directory = .ok configuration →
        ∃ files format parser, env.HoldsAll (env.discover env.directory) files ∧
          SearchParser.maxDepth parser = maxDepth.getD
            ((files.findSome? SettingsFile.maxDepth?).getD defaultMaxDepth) ∧
          (env.run (.parse expressions maxDepth json tree)).1 =
            parseReport format (expressions.map (Outcome.ofExpression parser)) := by
  refine ⟨fun text depth => readLimit_eq_ok_iff, fun file depth hfile => ⟨?_, ?_, ?_⟩, ?_⟩
  · simp only [merge_singleton_eq_ok_iff hfile, readLimit_toString_eq_ok_iff]
    constructor
    · rintro ⟨_, _, inRange⟩
      exact ⟨depth, rfl, inRange⟩
    · rintro ⟨_, _, inRange⟩
      exact ⟨_, rfl, inRange⟩
  · intro configuration h
    obtain ⟨rfl, -, greatest⟩ := (merge_singleton_eq_ok_iff hfile).mp h
    rw [Settings.parser, maxDepth_configurationOf_singleton hfile]
    exact SearchParser.maxDepth_ofLimit_of_le greatest
  · intro limit h
    obtain ⟨rfl, -, greatest⟩ := readLimit_toString_eq_ok_iff.mp h
    exact SearchParser.maxDepth_ofLimit_of_le greatest
  · intro env words verbosity expressions maxDepth json tree h
    have given : ∀ depth, maxDepth = some depth →
        ∃ text, GivesLimit (optionWords words) text ∧ readLimit text = .ok depth := by
      rintro depth rfl
      exact Invocation.givesLimit_of_readFrom h
    refine ⟨given, fun text => Invocation.maxDepth_of_givesLimit h, fun configuration loaded => ?_⟩
    have loads := env.loads_loadFiles (env.discover env.directory)
    change env.loadFiles _ = _ at loaded
    rw [loaded] at loads
    cases loads with
    | @ok files holds inRange =>
      have small : maxDepth.getD (firstSettings files).maxDepth ≤ 1000 := by
        cases hdepth : maxDepth with
        | none => exact maxDepth_firstSettings_le inRange
        | some depth =>
          obtain ⟨text, -, read⟩ := given depth hdepth
          exact (readLimit_eq_ok_iff.mp read).2.2
      exact ⟨files, _, .ofLimit (maxDepth.getD (firstSettings files).maxDepth), holds,
        SearchParser.maxDepth_ofLimit_of_le small, Environment.run_parse loaded ..⟩

/-- Zeros in front of a limit change nothing, and where no file sets a limit the parser has the one
that was given. -/
theorem written_limit_is_honoured_with_zeros :
    let env : Environment := { store := .empty, home := some .root, here := [] }
    Invocation.read ["parse", "--max-depth", "+007", "a"] =
      .ok ⟨0, .parse ["a"] (some 7) false false⟩ ∧
    (∃ configuration, merge [⟨.ofText "/a", { parser := some ⟨some 7⟩ }⟩] = .ok configuration) ∧
    ∃ format parser, SearchParser.maxDepth parser = 7 ∧
      (env.run (.parse ["a"] (some 7) false false)).1 =
        parseReport format [Outcome.ofExpression parser "a"] := by
  intro env
  obtain ⟨-, files, commands⟩ := written_limit_is_honoured
  have words : Invocation.read ["parse", "--max-depth", "+007", "a"] =
      .ok ⟨0, .parse ["a"] (some 7) false false⟩ := by rfl
  have seven : readLimit (toString 7) = .ok 7 := by rfl
  have loaded : env.load env.directory = .ok {} := by rfl
  obtain ⟨_, format, parser, -, limit, output⟩ := (commands env _ _ _ _ _ _ words).2.2 _ loaded
  exact ⟨words, (files _ 7 rfl).1.mpr ⟨7, seven⟩, format, parser, limit, output⟩

end BooleanSearch
