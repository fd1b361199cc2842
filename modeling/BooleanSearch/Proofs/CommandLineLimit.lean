import BooleanSearch.CommandLine.Invocation

/-! # The limit of a command line

An option gives a limit, attached to it or as the word behind it. A limit that is read comes from
such an option, and an option that gives a limit is not passed over: of a command line that is
accepted, the command has just the limit that is given.
-/

namespace BooleanSearch

theorem exists_of_bind_eq_ok {ε α β : Type} {first : Except ε α} {next : α → Except ε β}
    {result : β} (h : first >>= next = .ok result) :
    ∃ value, first = .ok value ∧ next value = .ok result := by
  cases first with
  | error error => cases h
  | ok value => exact ⟨value, rfl, h⟩

/-- These words give this text as the limit: behind the option, or attached to it by an equals
sign. -/
def GivesLimit (words : List String) (text : String) : Prop :=
  ["--max-depth", text] <:+: words ∨ "--max-depth=" ++ text ∈ words

theorem GivesLimit.mono {words others : List String} {text : String} (h : GivesLimit words text)
    (part : words <:+: others) : GivesLimit others text :=
  h.imp (·.trans part) (part.subset ·)

theorem not_givesLimit_nil (text : String) : ¬ GivesLimit [] text := by
  rintro (⟨_, _, h⟩ | h) <;> simp at h

/-- The words among which options stand: those before two dashes alone. -/
def optionWords (words : List String) : List String := words.takeWhile (· != "--")

/-! ### Words -/

namespace Word

theorem eq_of_separator {word : String} (h : ofString word = .separator) : word = "--" := by
  unfold ofString at h
  split at h
  · next spelled => exact String.toList_inj.mp spelled
  · split at h <;> cases h
  · cases h
  · cases h

theorem ofString_separator : ofString "--" = .separator := rfl

/-- The option for the limit, perhaps with a value attached to it. -/
theorem ofString_limit (value : Option String) :
    ofString ("--max-depth" ++ value.elim "" ("=" ++ ·)) = .long "max-depth" value := by
  cases value with
  | none => rfl
  | some text => simp [ofString]

theorem eq_of_plain {word text : String} (h : ofString word = .plain text) : text = word := by
  unfold ofString at h
  split at h
  · cases h
  · split at h <;> cases h
  · cases h
  · exact (Word.plain.inj h).symm

theorem ne_short_nil {word : String} : ofString word ≠ .short [] := by
  intro h
  unfold ofString at h
  split at h
  · cases h
  · split at h <;> cases h
  · cases h
  · cases h

/-- A name behind two dashes ends at the first equals sign. -/
theorem eq_of_long {word name : String} {value : Option String}
    (h : ofString word = .long name value) :
    word = "--" ++ name ++ (value.elim "" ("=" ++ ·)) := by
  unfold ofString at h
  split at h
  · cases h
  · next rest _ spelled =>
    have dashes : word = "--" ++ String.ofList rest := by
      rw [← String.toList_inj, spelled]
      simp
    have parts := List.takeWhile_append_dropWhile (p := (· != '=')) (l := rest)
    split at h
    · next ends =>
      cases h
      rw [ends, List.append_nil] at parts
      rw [dashes, parts, Option.elim_none, String.append_empty]
    · next c written rest_eq =>
      cases h
      obtain rfl : c = '=' := by
        have := List.head?_dropWhile_not (· != '=') rest
        rw [rest_eq] at this
        simpa using this
      rw [rest_eq] at parts
      have attached : String.ofList rest =
          String.ofList (rest.takeWhile (· != '=')) ++ ("=" ++ String.ofList written) := by
        rw [← String.toList_inj]
        simp [parts]
      rw [dashes, attached, Option.elim_some, String.append_assoc]
  · cases h
  · cases h

end Word

theorem optionWords_cons {word : String} (h : Word.ofString word ≠ .separator)
    (rest : List String) : optionWords (word :: rest) = word :: optionWords rest := by
  have other : word ≠ "--" := by
    rintro rfl
    exact h Word.ofString_separator
  simp [optionWords, other]

theorem eq_cons_of_optionWords {words more : List String} {word : String}
    (h : optionWords words = word :: more) : word ≠ "--" ∧ ∃ others, words = word :: others := by
  cases words with
  | nil => simp [optionWords] at h
  | cons first others =>
    by_cases dashes : first = "--"
    · simp [optionWords, dashes] at h
    · obtain ⟨rfl, -⟩ : first = word ∧ _ := by simpa [optionWords, dashes] using h
      exact ⟨dashes, others, rfl⟩

/-- An option gives the limit where it stands, with a value or with the word behind it. -/
theorem GivesLimit.of_cons {word text : String} {rest : List String}
    (h : GivesLimit (word :: rest) text) :
    Word.ofString word = .long "max-depth" (some text) ∨
      (Word.ofString word = .long "max-depth" none ∧ ∃ more, rest = text :: more) ∨
      GivesLimit rest text := by
  rcases h with behind | attached
  · rcases List.infix_cons_iff.mp behind with first | further
    · obtain ⟨rfl, value⟩ := List.cons_prefix_cons.mp first
      obtain ⟨more, rfl⟩ := value
      exact Or.inr (Or.inl ⟨Word.ofString_limit none, more, rfl⟩)
    · exact Or.inr (Or.inr (Or.inl further))
  · rcases List.mem_cons.mp attached with rfl | further
    · exact Or.inl (Word.ofString_limit (some text))
    · exact Or.inr (Or.inr (Or.inr further))

/-- Another word in front of an option makes no difference to the limit that is given. -/
theorem givesLimit_cons_iff {word text : String} {rest : List String}
    (option : Word.ofString word ≠ .separator)
    (other : ∀ value, Word.ofString word ≠ .long "max-depth" value) :
    GivesLimit (optionWords (word :: rest)) text ↔ GivesLimit (optionWords rest) text := by
  rw [optionWords_cons option]
  constructor
  · intro given
    rcases given.of_cons with attached | ⟨alone, -⟩ | further
    · exact absurd attached (other _)
    · exact absurd alone (other _)
    · exact further
  · exact fun given => given.mono (List.infix_cons List.infix_rfl)

namespace Arguments

variable {args settled longer after : Arguments} {command : CommandName}
variable {words rest : List String} {word text : String}

/-! ### What a word does to the limit -/

theorem setLimit_eq_ok_iff : args.setLimit text = .ok after ↔ args.maxDepth = none ∧
    ∃ depth, readLimit text = .ok depth ∧ after = { args with maxDepth := some depth } := by
  unfold setLimit
  cases args.maxDepth <;> cases readLimit text <;> simp [eq_comm]

/-- Nothing has begun, or the word behind the option is read as the limit. -/
theorem settle_cases (h : args.settle = .ok settled) :
    (args.pending = none ∧ settled = args) ∨
      ∃ text depth, args.pending = some (some text) ∧ args.maxDepth = none ∧
        readLimit text = .ok depth ∧
        settled = { args with maxDepth := some depth, pending := none } := by
  unfold settle at h
  split at h
  · next pending =>
    cases h
    exact Or.inl ⟨pending, rfl⟩
  · cases h
  · next text pending =>
    obtain ⟨unset, depth, read, rfl⟩ := setLimit_eq_ok_iff.mp h
    exact Or.inr ⟨text, depth, pending, unset, read, rfl⟩

/-- A limit that has begun is completed, and nothing else is done to the limit. -/
def Settles (args after : Arguments) : Prop :=
  ∃ settled, args.settle = .ok settled ∧ after.maxDepth = settled.maxDepth ∧ after.pending = none

theorem Settles.complete (h : args.Settles after) : after.pending = none := by
  obtain ⟨_, _, _, complete⟩ := h
  exact complete

/-- What is done to other arguments is of no account. -/
theorem settles_of_settle (h : args.settle = .ok settled)
    (limit : after.maxDepth = settled.maxDepth) (pending : after.pending = settled.pending) :
    args.Settles after := by
  refine ⟨settled, h, limit, pending.trans ?_⟩
  rcases settle_cases h with ⟨complete, rfl⟩ | ⟨_, _, _, _, _, rfl⟩
  · exact complete
  · rfl

theorem Settles.trans (h : args.Settles longer) (h' : longer.Settles after) :
    args.Settles after := by
  obtain ⟨first, hfirst, limit, complete⟩ := h
  obtain ⟨second, hsecond, limit', complete'⟩ := h'
  rcases settle_cases hsecond with ⟨-, rfl⟩ | ⟨_, _, pending, -⟩
  · exact ⟨first, hfirst, limit'.trans limit, complete'⟩
  · rw [complete] at pending
    cases pending

theorem Settles.not_begun (h : args.Settles after) : args.pending ≠ some none := by
  intro begun
  obtain ⟨settled, hsettled, -⟩ := h
  rw [settle, begun] at hsettled
  cases hsettled

theorem settles_of_setSwitch {argument : Argument} (h : args.settle = .ok settled)
    (hset : settled.setSwitch argument = .ok after) : args.Settles after := by
  unfold setSwitch at hset
  split at hset
  · cases hset
  · cases hset
    exact settles_of_settle h rfl rfl

/-- Every named argument but the limit itself only completes a limit that has begun. -/
theorem settles_of_readNamed {argument : Argument} {value : Option String}
    (other : argument ≠ .maxDepth) (h : args.readNamed argument value = .ok after) :
    args.Settles after := by
  unfold readNamed at h
  split at h
  · exact absurd rfl other
  · exact absurd rfl other
  · cases h
  · obtain ⟨_, _, h⟩ := exists_of_bind_eq_ok h
    cases h
  · obtain ⟨settled, hsettled, h⟩ := exists_of_bind_eq_ok h
    cases h
    exact settles_of_settle hsettled rfl rfl
  · obtain ⟨settled, hsettled, h⟩ := exists_of_bind_eq_ok h
    exact settles_of_setSwitch hsettled h

theorem settles_of_readLetters {letters : List Char} (ne : letters ≠ [])
    (h : args.readLetters letters = .ok after) : args.Settles after := by
  induction letters generalizing args with
  | nil => exact absurd rfl ne
  | cons c more ih =>
    unfold readLetters at h
    split at h
    · next heq => cases heq
    · next heq =>
      cases heq
      obtain ⟨counted, hcounted, h⟩ := exists_of_bind_eq_ok h
      have first := settles_of_readNamed (by decide) hcounted
      cases more with
      | nil =>
        cases h
        exact first
      | cons letter others => exact first.trans (ih (by simp) h)
    · exact settles_of_readNamed (by decide) h
    · cases h

theorem settles_of_readOperand (h : args.readOperand command word = .ok after) :
    args.Settles after := by
  unfold readOperand at h
  split at h
  · obtain ⟨settled, hsettled, h⟩ := exists_of_bind_eq_ok h
    cases h
    exact settles_of_settle hsettled rfl rfl
  · cases h

theorem settles_of_readOperands {operands : List String}
    (h : operands.foldlM (fun args word => args.readOperand command word) args = .ok longer)
    (hsettled : longer.settle = .ok after) : args.Settles after := by
  induction operands generalizing args with
  | nil =>
    cases h
    exact settles_of_settle hsettled rfl rfl
  | cons word others ih =>
    rw [List.foldlM_cons] at h
    obtain ⟨next, hnext, h⟩ := exists_of_bind_eq_ok h
    exact (settles_of_readOperand hnext).trans (ih h)

/-- What a word before two dashes does to the limit. -/
inductive Step (args : Arguments) (word : String) : Arguments → Prop
  /-- The option with a value attached to it. -/
  | attached {text : String} {settled longer : Arguments}
      (spelled : Word.ofString word = .long "max-depth" (some text))
      (before : args.settle = .ok settled) (h : settled.setLimit text = .ok longer) :
      Step args word longer
  /-- The option alone, which waits for its value. -/
  | begins {settled : Arguments} (spelled : Word.ofString word = .long "max-depth" none)
      (before : args.settle = .ok settled) : Step args word { settled with pending := some none }
  /-- The value that an option waits for. -/
  | value (spelled : Word.ofString word = .plain word) (begun : args.pending = some none) :
      Step args word { args with pending := some (some word) }
  /-- Any other option, or an operand. -/
  | other {longer : Arguments} (option : Word.ofString word ≠ .separator)
      (other : ∀ value, Word.ofString word ≠ .long "max-depth" value)
      (settles : args.Settles longer) : Step args word longer

/-- Two dashes end the options, and any other word is a step. -/
theorem step_of_read (h : args.read command (word :: rest) = .ok after) :
    (word = "--" ∧ args.Settles after) ∨
      ∃ longer, args.Step word longer ∧ longer.read command rest = .ok after := by
  unfold Arguments.read at h
  split at h
  · next spelled =>
    obtain ⟨longer, hlonger, h⟩ := exists_of_bind_eq_ok h
    exact Or.inl ⟨Word.eq_of_separator spelled, settles_of_readOperands hlonger h⟩
  · next name value spelled =>
    split at h
    · next argument found =>
      obtain ⟨longer, hlonger, h⟩ := exists_of_bind_eq_ok h
      refine Or.inr ⟨longer, ?_, h⟩
      have named : argument.name = name := by simpa using List.find?_some found
      by_cases isLimit : argument = .maxDepth
      · subst isLimit
        subst named
        cases value with
        | none =>
          obtain ⟨settled, before, hset⟩ := exists_of_bind_eq_ok hlonger
          cases hset
          exact .begins spelled before
        | some text =>
          obtain ⟨settled, before, hset⟩ := exists_of_bind_eq_ok hlonger
          exact .attached spelled before hset
      · refine .other (by simp [spelled]) (fun value' same => ?_)
          (settles_of_readNamed isLimit hlonger)
        rw [spelled, ← named] at same
        cases argument with
        | maxDepth => exact isLimit rfl
        | _ => simp [Argument.name] at same
    · cases h
  · next letters spelled =>
    obtain ⟨longer, hlonger, h⟩ := exists_of_bind_eq_ok h
    have ne : letters ≠ [] := by
      rintro rfl
      exact Word.ne_short_nil spelled
    exact Or.inr ⟨longer, .other (by simp [spelled]) (by simp [spelled])
      (settles_of_readLetters ne hlonger), h⟩
  · next own spelled =>
    obtain rfl := Word.eq_of_plain spelled
    split at h
    · next begun => exact Or.inr ⟨_, .value spelled begun, h⟩
    · obtain ⟨longer, hlonger, h⟩ := exists_of_bind_eq_ok h
      exact Or.inr ⟨longer, .other (by simp [spelled]) (by simp [spelled])
        (settles_of_readOperand hlonger), h⟩

namespace Step

theorem option (h : args.Step word longer) : Word.ofString word ≠ .separator := by
  cases h with
  | attached spelled | begins spelled | value spelled => simp [spelled]
  | other option => exact option

/-- A value that is attached to the option is read at once. -/
theorem of_attached (h : args.Step word longer)
    (spelled : Word.ofString word = .long "max-depth" (some text)) :
    ∃ depth, longer.maxDepth = some depth ∧ readLimit text = .ok depth := by
  cases h with
  | attached spelled' before h =>
    rw [spelled] at spelled'
    cases spelled'
    obtain ⟨-, depth, read, rfl⟩ := setLimit_eq_ok_iff.mp h
    exact ⟨depth, rfl, read⟩
  | begins spelled' | value spelled' => simp [spelled] at spelled'
  | other _ other => exact absurd spelled (other _)

theorem of_alone (h : args.Step word longer)
    (spelled : Word.ofString word = .long "max-depth" none) : longer.pending = some none := by
  cases h with
  | begins => rfl
  | attached spelled' | value spelled' => simp [spelled] at spelled'
  | other _ other => exact absurd spelled (other _)

/-- Behind an option that waits for its value only a value is accepted. -/
theorem of_begun (h : args.Step word longer) (begun : args.pending = some none) :
    longer.pending = some (some word) := by
  cases h with
  | value => rfl
  | attached _ before | begins _ before =>
    exact absurd begun (settles_of_settle before rfl rfl).not_begun
  | other _ _ settles => exact absurd begun settles.not_begun

end Step

/-! ### A limit that is read has been given -/

/-- The limit that has been read was given by one of these words. -/
def LimitFrom (words : List String) (args : Arguments) : Prop :=
  ∀ depth, args.maxDepth = some depth → ∃ text, GivesLimit words text ∧ readLimit text = .ok depth

/-- What has been read of these words: a limit that has begun stands at their end. -/
structure ReadFrom (words : List String) (args : Arguments) : Prop where
  limit : args.LimitFrom words
  begun : args.pending = some none → ["--max-depth"] <:+ words
  given : ∀ text, args.pending = some (some text) → GivesLimit words text

theorem LimitFrom.mono {others : List String} (h : args.LimitFrom words)
    (part : words <:+: others) : args.LimitFrom others := by
  intro depth hdepth
  obtain ⟨text, given, read⟩ := h depth hdepth
  exact ⟨text, given.mono part, read⟩

namespace ReadFrom

theorem settle (hargs : args.ReadFrom words) (h : args.settle = .ok settled) :
    settled.LimitFrom words := by
  rcases settle_cases h with ⟨-, rfl⟩ | ⟨text, depth, pending, -, read, rfl⟩
  · exact hargs.limit
  · rintro _ ⟨⟩
    exact ⟨text, hargs.given text pending, read⟩

theorem of_settles (hargs : args.ReadFrom words) (h : args.Settles after) :
    after.LimitFrom words := by
  obtain ⟨settled, hsettled, limit, -⟩ := h
  intro depth hdepth
  exact hargs.settle hsettled depth (limit.symm.trans hdepth)

theorem step (hargs : args.ReadFrom words) (h : args.Step word longer) :
    longer.ReadFrom (words ++ [word]) := by
  have part : words <:+: words ++ [word] := List.infix_append' [] words [word]
  cases h with
  | @attached text settled _ spelled before h =>
    have complete := (settles_of_settle before rfl rfl).complete
    obtain ⟨-, depth, read, rfl⟩ := setLimit_eq_ok_iff.mp h
    have option : word = "--max-depth=" ++ text := by
      rw [Word.eq_of_long spelled, Option.elim_some, ← String.append_assoc]
      rfl
    refine ⟨?_, by simp [complete], by simp [complete]⟩
    rintro _ ⟨⟩
    exact ⟨text, Or.inr (by simp [option]), read⟩
  | begins spelled before =>
    have alone : word = "--max-depth" := Word.eq_of_long spelled
    exact ⟨(hargs.settle before).mono part, fun _ => alone ▸ List.suffix_append words _, nofun⟩
  | value spelled begun =>
    refine ⟨hargs.limit.mono part, nofun, ?_⟩
    rintro _ ⟨⟩
    obtain ⟨before, rfl⟩ := hargs.begun begun
    exact Or.inl ⟨before, [], by simp⟩
  | other option other settles =>
    have complete := settles.complete
    exact ⟨(hargs.of_settles settles).mono part, by simp [complete], by simp [complete]⟩

/-- A limit that is read from the words behind a command is given by options among them. -/
theorem read (hargs : args.ReadFrom words) (h : args.read command rest = .ok after) :
    after.LimitFrom (words ++ optionWords rest) := by
  -- Word by word the list of those that are left gets shorter and that of those read longer.
  induction rest generalizing args words with
  | nil => exact (hargs.settle h).mono (List.infix_append' [] words _)
  | cons word rest ih =>
    rcases step_of_read h with ⟨-, settles⟩ | ⟨longer, step, h⟩
    · exact (hargs.of_settles settles).mono (List.infix_append' [] words _)
    · rw [optionWords_cons step.option, List.append_cons]
      exact ih (hargs.step step) h

end ReadFrom

/-! ### A limit that is given is read -/

/-- The limit that this text stands for has been read. -/
def HasLimit (text : String) (args : Arguments) : Prop :=
  ∃ depth, args.maxDepth = some depth ∧ readLimit text = .ok depth

/-- The text waits to be read as the limit, or has been read. -/
def TakesLimit (text : String) (args : Arguments) : Prop :=
  args.pending = some (some text) ∨ args.HasLimit text

namespace TakesLimit

/-- A second limit is refused, so none takes the place of one that has been read. -/
theorem settle (hargs : args.TakesLimit text) (h : args.settle = .ok settled) :
    settled.HasLimit text := by
  rcases settle_cases h with ⟨none_pending, rfl⟩ | ⟨word, depth, pending, unset, read, rfl⟩
  · exact hargs.resolve_left (by simp [none_pending])
  · rcases hargs with waits | ⟨_, set, -⟩
    · obtain rfl : word = text := by simpa [pending] using waits
      exact ⟨depth, rfl, read⟩
    · rw [unset] at set
      cases set

theorem of_settles (hargs : args.TakesLimit text) (h : args.Settles after) :
    after.HasLimit text := by
  obtain ⟨settled, hsettled, limit, -⟩ := h
  obtain ⟨depth, hdepth, read⟩ := hargs.settle hsettled
  exact ⟨depth, limit.trans hdepth, read⟩

theorem step (hargs : args.TakesLimit text) (h : args.Step word longer) :
    longer.TakesLimit text := by
  cases h with
  | attached spelled before h =>
    obtain ⟨_, set, -⟩ := hargs.settle before
    obtain ⟨unset, -⟩ := setLimit_eq_ok_iff.mp h
    rw [set] at unset
    cases unset
  | begins spelled before =>
    obtain ⟨depth, set, read⟩ := hargs.settle before
    exact Or.inr ⟨depth, set, read⟩
  | value spelled begun => exact Or.inr (hargs.resolve_left (by simp [begun]))
  | other option other settles => exact Or.inr (hargs.of_settles settles)

/-- No word behind a limit that is taken can take it away. -/
theorem read (hargs : args.TakesLimit text) (h : args.read command rest = .ok after) :
    after.HasLimit text := by
  induction rest generalizing args with
  | nil => exact hargs.settle h
  | cons word rest ih =>
    rcases step_of_read h with ⟨-, settles⟩ | ⟨longer, step, h⟩
    · exact hargs.of_settles settles
    · exact ih (hargs.step step) h

end TakesLimit

/-- A limit that options behind a command give is read. -/
theorem hasLimit_of_read (given : GivesLimit (optionWords rest) text)
    (h : args.read command rest = .ok after) : after.HasLimit text := by
  induction rest generalizing args with
  | nil => exact absurd given (not_givesLimit_nil text)
  | cons word rest ih =>
    rcases step_of_read h with ⟨rfl, -⟩ | ⟨longer, step, h⟩
    · exact absurd given (not_givesLimit_nil text)
    rw [optionWords_cons step.option] at given
    rcases given.of_cons with attached | ⟨alone, more, behind⟩ | further
    · exact TakesLimit.read (Or.inr (step.of_attached attached)) h
    · -- The word behind the option is no pair of dashes, so it is the value that is waited for.
      obtain ⟨option, others, rfl⟩ := eq_cons_of_optionWords behind
      rcases step_of_read h with ⟨dashes, -⟩ | ⟨further, step', h⟩
      · exact absurd dashes option
      · exact TakesLimit.read (Or.inl (step'.of_begun (step.of_alone alone))) h
    · exact ih further h

theorem maxDepth_of_command {name : CommandName} {expressions : List String}
    {maxDepth : Option Nat} {json tree : Bool}
    (h : args.command name = .ok (.parse expressions maxDepth json tree)) :
    args.maxDepth = maxDepth := by
  obtain ⟨_, _, h⟩ := exists_of_bind_eq_ok h
  split at h <;> cases h
  rfl

end Arguments

namespace Invocation

variable {args : Arguments} {words : List String}

/-- The words behind the command give the limits that the whole line gives: before the command there
is no option for the limit. -/
theorem exists_own_of_readFrom {invocation : Invocation}
    (h : readFrom args words = .ok invocation) :
    ∃ name rest own, Arguments.read name {} rest = .ok own ∧
      own.command name = .ok invocation.command ∧
      ∀ text, GivesLimit (optionWords words) text ↔ GivesLimit (optionWords rest) text := by
  induction words generalizing args with
  | nil => cases h
  | cons word rest ih =>
    unfold readFrom at h
    split at h
    · split at h <;> cases h
    · next name value spelled =>
      split at h
      · next argument found =>
        obtain ⟨longer, -, h⟩ := exists_of_bind_eq_ok h
        obtain ⟨command, behind, own, hown, hcommand, same⟩ := ih h
        refine ⟨command, behind, own, hown, hcommand, fun text => ?_⟩
        refine (givesLimit_cons_iff (by simp [spelled]) fun value' limit => ?_).trans (same text)
        rw [spelled] at limit
        cases limit
        have unknown : [Argument.help, Argument.verbose].find? (·.name == "max-depth") = none := by
          decide
        rw [unknown] at found
        cases found
      · cases h
    · next letters spelled =>
      obtain ⟨longer, -, h⟩ := exists_of_bind_eq_ok h
      obtain ⟨command, behind, own, hown, hcommand, same⟩ := ih h
      refine ⟨command, behind, own, hown, hcommand, fun text => ?_⟩
      exact (givesLimit_cons_iff (by simp [spelled]) (by simp [spelled])).trans (same text)
    · next text spelled =>
      split at h
      · next name _ =>
        obtain ⟨own, hown, h⟩ := exists_of_bind_eq_ok h
        obtain ⟨command, hcommand, h⟩ := exists_of_bind_eq_ok h
        cases h
        refine ⟨name, rest, own, hown, hcommand, fun text => ?_⟩
        exact givesLimit_cons_iff (by simp [spelled]) (by simp [spelled])
      · cases h

variable {verbosity : Nat} {expressions : List String} {maxDepth : Option Nat} {json tree : Bool}

/-- The limit of a command is given by the options of its command line. -/
theorem givesLimit_of_readFrom {depth : Nat}
    (h : readFrom args words = .ok ⟨verbosity, .parse expressions (some depth) json tree⟩) :
    ∃ text, GivesLimit (optionWords words) text ∧ readLimit text = .ok depth := by
  obtain ⟨name, rest, own, hown, hcommand, same⟩ := exists_own_of_readFrom h
  have start : Arguments.ReadFrom [] {} := ⟨nofun, nofun, nofun⟩
  obtain ⟨text, given, read⟩ := start.read hown depth (Arguments.maxDepth_of_command hcommand)
  exact ⟨text, (same text).mpr given, read⟩

/-- A limit that options of an accepted command line give is the limit of its command. -/
theorem maxDepth_of_givesLimit {text : String}
    (h : readFrom args words = .ok ⟨verbosity, .parse expressions maxDepth json tree⟩)
    (given : GivesLimit (optionWords words) text) :
    ∃ depth, maxDepth = some depth ∧ readLimit text = .ok depth := by
  obtain ⟨name, rest, own, hown, hcommand, same⟩ := exists_own_of_readFrom h
  rw [← Arguments.maxDepth_of_command hcommand]
  exact Arguments.hasLimit_of_read ((same text).mp given) hown

end Invocation

end BooleanSearch
