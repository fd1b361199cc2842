import BooleanSearch.Proofs.SettingsFile

/-! # Precedence among settings files

Several files are read from the first to the last and merged from the last to the first. Reading
gives the drafts of all of them or the fault of the first that has none; merging gives each setting
as the first file has it, or names the last file with a limit that cannot be set. A fault of
reading goes before one of merging.
-/

namespace BooleanSearch

/-! ### Merging -/

namespace SettingsFile

/-- A limit that a file sets is one that can be set. -/
def InRange (file : SettingsFile) : Prop :=
  ∀ depth, file.maxDepth? = some depth → 1 ≤ depth ∧ depth ≤ 1000

variable {file : SettingsFile}

theorem acceptsDepth_iff {depth : Nat} :
    Settings.acceptsDepth depth = true ↔ 1 ≤ depth ∧ depth ≤ 1000 := by
  unfold Settings.acceptsDepth
  rw [Bool.and_eq_true, decide_eq_true_eq, decide_eq_true_eq, maxSupportedDepth]

theorem applyTo_of_inRange (h : file.InRange) (lower : Settings) :
    file.applyTo lower =
      .ok ⟨file.maxDepth?.getD lower.maxDepth, file.format?.getD lower.format⟩ := by
  unfold applyTo
  cases hdepth : file.maxDepth? with
  | none => rfl
  | some depth => simp [acceptsDepth_iff.mpr (h depth hdepth)]

theorem applyTo_of_outOfRange {depth : Nat} (hdepth : file.maxDepth? = some depth)
    (h : ¬ (1 ≤ depth ∧ depth ≤ 1000)) (lower : Settings) :
    file.applyTo lower = .error (.depthOutOfRange file.path depth) := by
  rw [← acceptsDepth_iff, Bool.not_eq_true] at h
  simp [applyTo, hdepth, h]

theorem applyTo_of_empty (h : file.draft = {}) :
    file.applyTo = .ok := by
  funext lower
  simp [applyTo, maxDepth?, format?, h]

end SettingsFile

open SettingsFile

theorem mergeSettings_cons (file : SettingsFile) (lower : List SettingsFile) :
    mergeSettings (file :: lower) = mergeSettings lower >>= file.applyTo := rfl

/-- The settings where each of them comes from the first file that has it. -/
def firstSettings (files : List SettingsFile) : Settings :=
  ⟨(files.findSome? maxDepth?).getD defaultMaxDepth, (files.findSome? format?).getD .tree⟩

theorem firstSettings_cons (file : SettingsFile) (lower : List SettingsFile) :
    firstSettings (file :: lower) =
      ⟨file.maxDepth?.getD (firstSettings lower).maxDepth,
        file.format?.getD (firstSettings lower).format⟩ := by
  unfold firstSettings
  rw [List.findSome?_cons, List.findSome?_cons]
  cases file.maxDepth? <;> cases file.format? <;> rfl

/-- Where all limits can be set, overwriting from the last file to the first leaves the settings of
the first file that has them. -/
theorem mergeSettings_of_inRange {files : List SettingsFile} (h : ∀ file ∈ files, file.InRange) :
    mergeSettings files = .ok (firstSettings files) := by
  induction files with
  | nil => rfl
  | cons file lower ih =>
    obtain ⟨hfile, hlower⟩ := List.forall_mem_cons.mp h
    rw [mergeSettings_cons, ih hlower, firstSettings_cons]
    exact applyTo_of_inRange hfile _

theorem mergeSettings_of_outOfRange {before after : List SettingsFile} {file : SettingsFile}
    {depth : Nat} (hdepth : file.maxDepth? = some depth) (h : ¬ (1 ≤ depth ∧ depth ≤ 1000))
    (inRange : ∀ later ∈ after, later.InRange) :
    mergeSettings (before ++ file :: after) = .error (.depthOutOfRange file.path depth) := by
  induction before with
  | nil =>
    rw [List.nil_append, mergeSettings_cons, mergeSettings_of_inRange inRange]
    exact applyTo_of_outOfRange hdepth h _
  | cons earlier before ih =>
    rw [List.cons_append, mergeSettings_cons, ih]
    rfl

/-- A list of files of which the last one with a limit that cannot be set is this one. -/
def LastOutOfRange (files : List SettingsFile) (path : Path) (depth : Nat) : Prop :=
  ∃ before file after, files = before ++ file :: after ∧ file.path = path ∧
    file.maxDepth? = some depth ∧ ¬ (1 ≤ depth ∧ depth ≤ 1000) ∧ ∀ later ∈ after, later.InRange

theorem inRange_or_lastOutOfRange (files : List SettingsFile) :
    (∀ file ∈ files, file.InRange) ∨ ∃ path depth, LastOutOfRange files path depth := by
  induction files with
  | nil => exact Or.inl nofun
  | cons file lower ih =>
    rcases ih with inRange | ⟨path, depth, before, last, after, rfl, h⟩
    · cases hdepth : file.maxDepth? with
      | none => exact Or.inl (List.forall_mem_cons.mpr ⟨by simp [InRange, hdepth], inRange⟩)
      | some depth =>
        by_cases h : 1 ≤ depth ∧ depth ≤ 1000
        · exact Or.inl (List.forall_mem_cons.mpr ⟨by simp [InRange, hdepth, h], inRange⟩)
        · exact Or.inr ⟨file.path, depth, [], file, lower, rfl, rfl, hdepth, h, inRange⟩
    · exact Or.inr ⟨path, depth, file :: before, last, after, rfl, h⟩

theorem LastOutOfRange.mergeSettings_eq {files : List SettingsFile} {path : Path} {depth : Nat}
    (h : LastOutOfRange files path depth) :
    mergeSettings files = .error (.depthOutOfRange path depth) := by
  obtain ⟨before, file, after, rfl, rfl, hdepth, hout, inRange⟩ := h
  exact mergeSettings_of_outOfRange hdepth hout inRange

/-- The configuration with these settings that files make. -/
def configurationOf (files : List SettingsFile) : Configuration :=
  ⟨firstSettings files, (files.map SettingsFile.path).head?.bind Path.parent?⟩

theorem merge_of_inRange {files : List SettingsFile} (h : ∀ file ∈ files, file.InRange) :
    merge files = .ok (configurationOf files) := by
  unfold merge configurationOf
  rw [mergeSettings_of_inRange h]
  cases files <;> rfl

theorem LastOutOfRange.merge_eq {files : List SettingsFile} {path : Path} {depth : Nat}
    (h : LastOutOfRange files path depth) :
    merge files = .error (.depthOutOfRange path depth) := by
  unfold merge
  rw [h.mergeSettings_eq]
  rfl

/-! ### Reading -/

namespace Environment

variable {env : Environment}

theorem readFiles_cons_holds {path : Path} {draft : Draft} (h : env.Holds path draft)
    (others : List Path) :
    env.readFiles (path :: others) = (env.readFiles others).map (⟨path, draft⟩ :: ·) := by
  rw [readFiles, readDraft_eq_ok_iff.mpr h]
  rfl

theorem readFiles_cons_faulty {path : Path} {error : SettingsError} (h : env.Faulty path error)
    (others : List Path) : env.readFiles (path :: others) = .error error := by
  rw [readFiles, readDraft_eq_error_iff.mpr h]
  rfl

/-- These are the files at these paths, with what they say. -/
def HoldsAll (env : Environment) (paths : List Path) (files : List SettingsFile) : Prop :=
  files.map SettingsFile.path = paths ∧ ∀ file ∈ files, env.Holds file.path file.draft

/-- The first path that leads to no draft has this fault. -/
def FirstFaulty (env : Environment) (paths : List Path) (error : SettingsError) : Prop :=
  ∃ before path after, paths = before ++ path :: after ∧
    (∀ earlier ∈ before, ∃ draft, env.Holds earlier draft) ∧ env.Faulty path error

theorem readFiles_of_holdsAll {paths : List Path} {files : List SettingsFile}
    (h : env.HoldsAll paths files) : env.readFiles paths = .ok files := by
  obtain ⟨rfl, holds⟩ := h
  induction files with
  | nil => rfl
  | cons file others ih =>
    obtain ⟨hfile, hothers⟩ := List.forall_mem_cons.mp holds
    rw [List.map_cons, readFiles_cons_holds hfile, ih hothers]
    rfl

theorem readFiles_of_firstFaulty {paths : List Path} {error : SettingsError}
    (h : env.FirstFaulty paths error) : env.readFiles paths = .error error := by
  obtain ⟨before, path, after, rfl, holds, faulty⟩ := h
  induction before with
  | nil => exact readFiles_cons_faulty faulty after
  | cons earlier before ih =>
    obtain ⟨⟨draft, hearlier⟩, hothers⟩ := List.forall_mem_cons.mp holds
    rw [List.cons_append, readFiles_cons_holds hearlier, ih hothers]
    rfl

theorem holdsAll_or_firstFaulty (env : Environment) (paths : List Path) :
    (∃ files, env.HoldsAll paths files) ∨ ∃ error, env.FirstFaulty paths error := by
  induction paths with
  | nil => exact Or.inl ⟨[], rfl, nofun⟩
  | cons path others ih =>
    cases hpath : env.readDraft path with
    | error error =>
      exact Or.inr ⟨error, [], path, others, rfl, nofun, readDraft_eq_error_iff.mp hpath⟩
    | ok draft =>
      have holds := readDraft_eq_ok_iff.mp hpath
      rcases ih with ⟨files, rfl, hfiles⟩ | ⟨error, before, faulty, after, rfl, hbefore, h⟩
      · exact Or.inl ⟨⟨path, draft⟩ :: files, rfl, List.forall_mem_cons.mpr ⟨holds, hfiles⟩⟩
      · exact Or.inr ⟨error, path :: before, faulty, after, rfl,
          List.forall_mem_cons.mpr ⟨⟨draft, holds⟩, hbefore⟩, h⟩

theorem readFiles_eq_ok_iff {paths : List Path} {files : List SettingsFile} :
    env.readFiles paths = .ok files ↔ env.HoldsAll paths files := by
  refine ⟨fun h => ?_, readFiles_of_holdsAll⟩
  rcases holdsAll_or_firstFaulty env paths with ⟨files', holds⟩ | ⟨error, faulty⟩
  · rw [readFiles_of_holdsAll holds] at h
    cases h
    exact holds
  · rw [readFiles_of_firstFaulty faulty] at h
    cases h

/-! ### Loading -/

/-- The settings do not depend on where the files stand. -/
theorem loadFiles_map_settings (env : Environment) (paths : List Path) :
    (env.loadFiles paths).map Configuration.settings = env.readFiles paths >>= mergeSettings := by
  unfold loadFiles
  cases env.readFiles paths with
  | error error => rfl
  | ok files =>
    change (merge files).map Configuration.settings = mergeSettings files
    unfold merge
    cases mergeSettings files <;> rfl

/-- What comes of loading the files at these paths. -/
inductive Loads (env : Environment) (paths : List Path) :
    Except SettingsError Configuration → Prop
  | ok {files : List SettingsFile} (holds : env.HoldsAll paths files)
      (inRange : ∀ file ∈ files, file.InRange) : Loads env paths (.ok (configurationOf files))
  | faulty {error : SettingsError} (h : env.FirstFaulty paths error) :
      Loads env paths (.error error)
  | outOfRange {files : List SettingsFile} {path : Path} {depth : Nat}
      (holds : env.HoldsAll paths files) (h : LastOutOfRange files path depth) :
      Loads env paths (.error (.depthOutOfRange path depth))

theorem Loads.loadFiles_eq {paths : List Path} {result : Except SettingsError Configuration}
    (h : env.Loads paths result) : env.loadFiles paths = result := by
  unfold loadFiles
  cases h with
  | ok holds inRange =>
    rw [readFiles_of_holdsAll holds]
    exact merge_of_inRange inRange
  | faulty h =>
    rw [readFiles_of_firstFaulty h]
    rfl
  | outOfRange holds h =>
    rw [readFiles_of_holdsAll holds]
    exact h.merge_eq

theorem loads_loadFiles (env : Environment) (paths : List Path) :
    env.Loads paths (env.loadFiles paths) := by
  rcases holdsAll_or_firstFaulty env paths with ⟨files, holds⟩ | ⟨error, faulty⟩
  · rcases inRange_or_lastOutOfRange files with inRange | ⟨path, depth, out⟩
    · have loads : env.Loads paths _ := .ok holds inRange
      rwa [loads.loadFiles_eq]
    · have loads : env.Loads paths _ := .outOfRange holds out
      rwa [loads.loadFiles_eq]
  · have loads : env.Loads paths _ := .faulty faulty
    rwa [loads.loadFiles_eq]

/-- Files that lead to drafts with limits that can be set are all read. -/
theorem exists_holdsAll {paths : List Path}
    (h : ∀ path ∈ paths, ∃ draft, env.Holds path draft ∧ (SettingsFile.mk path draft).InRange) :
    ∃ files, env.HoldsAll paths files ∧ ∀ file ∈ files, file.InRange := by
  rcases holdsAll_or_firstFaulty env paths with
    ⟨files, rfl, holds⟩ | ⟨error, before, path, after, rfl, -, faulty⟩
  · refine ⟨files, ⟨rfl, holds⟩, fun file hfile => ?_⟩
    obtain ⟨draft, hdraft, inRange⟩ := h file.path (List.mem_map_of_mem hfile)
    rwa [← (holds file hfile).eq hdraft] at inRange
  · obtain ⟨draft, hdraft, -⟩ := h path (by simp)
    exact absurd hdraft (faulty.not_holds draft)

/-- Files make a configuration when each of them can be read and sets no limit that cannot be set,
overridden or not. Then each setting is that of the first file that has it, and the directory is
that of the first file. Otherwise the fault is that of the first file that cannot be read, and, if
all can be, the limit of the last file whose limit cannot be set. -/
theorem loadFiles_by_precedence (env : Environment) (paths : List Path) :
    ((∃ configuration, env.loadFiles paths = .ok configuration) ↔
      ∀ path ∈ paths, ∃ draft, env.Holds path draft ∧ (SettingsFile.mk path draft).InRange) ∧
    (∀ configuration, env.loadFiles paths = .ok configuration →
      ∃ files, env.HoldsAll paths files ∧
        configuration.settings.maxDepth = (files.findSome? maxDepth?).getD defaultMaxDepth ∧
        configuration.settings.format = (files.findSome? format?).getD .tree ∧
        configuration.directory = paths.head?.bind Path.parent?) ∧
    ∀ error, env.loadFiles paths = .error error ↔
      env.FirstFaulty paths error ∨
      ∃ files path depth, env.HoldsAll paths files ∧ LastOutOfRange files path depth ∧
        error = .depthOutOfRange path depth := by
  refine ⟨⟨?_, fun h => ?_⟩, ?_, fun error => ⟨fun h => ?_, ?_⟩⟩
  · rintro ⟨configuration, h⟩ path hpath
    have loads := loads_loadFiles env paths
    rw [h] at loads
    cases loads with
    | ok holds inRange =>
      obtain ⟨rfl, hholds⟩ := holds
      obtain ⟨file, hfile, rfl⟩ := List.mem_map.mp hpath
      exact ⟨file.draft, hholds file hfile, inRange file hfile⟩
  · obtain ⟨files, holds, inRange⟩ := exists_holdsAll h
    exact ⟨_, (Loads.ok holds inRange).loadFiles_eq⟩
  · intro configuration h
    have loads := loads_loadFiles env paths
    rw [h] at loads
    cases loads with
    | @ok files holds inRange =>
      refine ⟨files, holds, rfl, rfl, ?_⟩
      rw [← holds.1]
      rfl
  · have loads := loads_loadFiles env paths
    rw [h] at loads
    cases loads with
    | faulty first => exact Or.inl first
    | @outOfRange files path depth holds last =>
      exact Or.inr ⟨files, path, depth, holds, last, rfl⟩
  · rintro (h | ⟨files, path, depth, holds, h, rfl⟩)
    · exact (Loads.faulty h).loadFiles_eq
    · exact (Loads.outOfRange holds h).loadFiles_eq

/-- Of two limits that cannot be set the last one is named, although the first file of all overrides
both of them with one that can be. -/
theorem loadFiles_by_precedence_overridden :
    let env : Environment :=
      { store := ⟨[(["a"], .file "parser.max_depth = 8".toUTF8),
          (["b"], .file "parser.max_depth = 0".toUTF8),
          (["c"], .file "parser.max_depth = 5000".toUTF8)]⟩
        home := some .root
        here := [] }
    env.loadFiles [.ofText "/a", .ofText "/b", .ofText "/c"] =
      .error (.depthOutOfRange (.ofText "/c") 5000) := by
  intro env
  have eight : Draft.ofToml? "parser.max_depth = 8" =
      some { parser := some ⟨some 8⟩ } := by decide +kernel
  have zero : Draft.ofToml? "parser.max_depth = 0" =
      some { parser := some ⟨some 0⟩ } := by decide +kernel
  have high : Draft.ofToml? "parser.max_depth = 5000" =
      some { parser := some ⟨some 5000⟩ } := by decide +kernel
  refine ((loadFiles_by_precedence env _).2.2 _).mpr (Or.inr ?_)
  let files : List SettingsFile := [⟨.ofText "/a", { parser := some ⟨some 8⟩ }⟩,
    ⟨.ofText "/b", { parser := some ⟨some 0⟩ }⟩, ⟨.ofText "/c", { parser := some ⟨some 5000⟩ }⟩]
  refine ⟨files, _, _, ⟨rfl, ?_⟩, ⟨files.take 2, _, [], rfl, rfl, rfl, by decide, nofun⟩, rfl⟩
  simp only [files, List.forall_mem_cons]
  exact ⟨⟨_, readText_of_content?_toUTF8 rfl, eight⟩, ⟨_, readText_of_content?_toUTF8 rfl, zero⟩,
    ⟨_, readText_of_content?_toUTF8 rfl, high⟩, nofun⟩

end Environment

end BooleanSearch
