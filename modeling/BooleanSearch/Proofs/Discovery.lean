import BooleanSearch.Proofs.Ancestors
import BooleanSearch.Proofs.SettingsFile

/-! # Which settings files are found

The search goes through a directory and those around it. It finds the files there up to the first
one that ends it, and the file in the home directory where nothing has ended it. So what stands
beyond a file that ends the search makes no difference, neither to what is found nor to the
configuration that is loaded.
-/

namespace BooleanSearch.Environment

/-- The settings files that stand in these directories, in order. -/
def filesIn (env : Environment) (directories : List Path) : List Path :=
  (directories.map (·.join settingsFileName)).filter (env.isFile ·)

/-- What is found where a search meets these files on its way up. -/
inductive Finds (env : Environment) (files : List Path) : List Path → Prop
  | cut {nearer : List Path} {last : Path} {farther : List Path}
      (split : files = nearer ++ last :: farther) (passes : ∀ file ∈ nearer, ¬ env.Closes file)
      (closes : env.Closes last) : Finds env files (nearer ++ [last])
  | withHome {home : Path} (passes : ∀ file ∈ files, ¬ env.Closes file)
      (known : env.homeFile = some home) (present : env.isFile home = true)
      (new : ∀ file ∈ files, file.sameAs home = false) : Finds env files (files ++ [home])
  | withoutHome (passes : ∀ file ∈ files, ¬ env.Closes file)
      (needless : ∀ home, env.homeFile = some home →
        env.isFile home = false ∨ ∃ file ∈ files, file.sameAs home = true) :
      Finds env files files

/-- Why a path is no file that ends the search. -/
inductive Passable (env : Environment) (path : Path) : Prop
  | absent (h : env.isFile path = false)
  | directory (h : env.store.find env.here path = .ok .directory)
  | faulty {error : SettingsError} (h : env.Faulty path error)
  | silent {draft : Draft} (holds : env.Holds path draft) (h : draft.root ≠ some true)

variable {env other : Environment}

theorem Finds.of_needless {files : List Path} {home : Path}
    (passes : ∀ file ∈ files, ¬ env.Closes file) (known : env.homeFile = some home)
    (needless : env.isFile home = false ∨ ∃ file ∈ files, file.sameAs home = true) :
    env.Finds files files := by
  refine .withoutHome passes fun other hother => ?_
  obtain rfl := Option.some.inj (known.symm.trans hother)
  exact needless

theorem Passable.not_closes {path : Path} (h : env.Passable path) : ¬ env.Closes path := by
  rintro ⟨draft, holds, hroot⟩
  have present := holds.isFile
  cases h with
  | absent h => simp [present] at h
  | directory h => simp [Environment.isFile, Store.isFile, h] at present
  | faulty h => exact h.not_holds draft holds
  | silent holds' h =>
    rw [holds'.eq holds] at h
    exact h hroot

theorem mem_filesIn {directories : List Path} {file : Path}
    (h : file ∈ env.filesIn directories) :
    env.isFile file = true ∧ ∃ directory : Path, file = directory.join settingsFileName := by
  obtain ⟨hmem, present⟩ := List.mem_filter.mp h
  obtain ⟨directory, -, rfl⟩ := List.mem_map.mp hmem
  exact ⟨present, directory, rfl⟩

/-! ### One directory -/

section Step

variable {directory : Path} {others : List Path}

theorem filesIn_cons_absent (h : env.isFile (directory.join settingsFileName) = false) :
    env.filesIn (directory :: others) = env.filesIn others := by
  simp [filesIn, h]

theorem filesIn_cons_present (h : env.isFile (directory.join settingsFileName) = true) :
    env.filesIn (directory :: others) =
      directory.join settingsFileName :: env.filesIn others := by
  simp [filesIn, h]

theorem upward_cons_absent (h : env.isFile (directory.join settingsFileName) = false) :
    env.upward (directory :: others) = env.upward others := by
  simp [upward, h]

theorem upward_cons_closes (h : env.Closes (directory.join settingsFileName)) :
    env.upward (directory :: others) = ([directory.join settingsFileName], true) := by
  simp [upward, h.isFile, endsSearch_iff.mpr h]

theorem upward_cons_passes (present : env.isFile (directory.join settingsFileName) = true)
    (h : ¬ env.Closes (directory.join settingsFileName)) :
    env.upward (directory :: others) =
      (directory.join settingsFileName :: (env.upward others).1, (env.upward others).2) := by
  rw [← endsSearch_iff, Bool.not_eq_true] at h
  simp [upward, present, h]

end Step

/-! ### The way up -/

/-- Where no file ends the search, all of them are found. -/
theorem upward_of_passes {directories : List Path}
    (passes : ∀ file ∈ env.filesIn directories, ¬ env.Closes file) :
    env.upward directories = (env.filesIn directories, false) := by
  induction directories with
  | nil => rfl
  | cons directory others ih =>
    cases present : env.isFile (directory.join settingsFileName) with
    | false =>
      rw [filesIn_cons_absent present] at passes ⊢
      rw [upward_cons_absent present, ih passes]
    | true =>
      rw [filesIn_cons_present present] at passes ⊢
      obtain ⟨hfirst, hothers⟩ := List.forall_mem_cons.mp passes
      rw [upward_cons_passes present hfirst, ih hothers]

/-- The first file that ends the search is the last one that is found. -/
theorem upward_of_closes {directories nearer farther : List Path} {last : Path}
    (split : env.filesIn directories = nearer ++ last :: farther)
    (passes : ∀ file ∈ nearer, ¬ env.Closes file) (closes : env.Closes last) :
    env.upward directories = (nearer ++ [last], true) := by
  induction directories generalizing nearer with
  | nil => simp [filesIn] at split
  | cons directory others ih =>
    cases present : env.isFile (directory.join settingsFileName) with
    | false =>
      rw [filesIn_cons_absent present] at split
      rw [upward_cons_absent present, ih split passes]
    | true =>
      rw [filesIn_cons_present present] at split
      cases nearer with
      | nil =>
        obtain ⟨rfl, -⟩ := List.cons.inj split
        rw [upward_cons_closes closes, List.nil_append]
      | cons file nearer =>
        obtain ⟨rfl, hothers⟩ := List.cons.inj split
        obtain ⟨hfirst, hnearer⟩ := List.forall_mem_cons.mp passes
        rw [upward_cons_passes present hfirst, ih hothers hnearer, List.cons_append]

/-- Some file is the first that ends the search, or none ends it. -/
theorem closes_or_passes (env : Environment) (files : List Path) :
    (∃ nearer last farther, files = nearer ++ last :: farther ∧
      (∀ file ∈ nearer, ¬ env.Closes file) ∧ env.Closes last) ∨
    ∀ file ∈ files, ¬ env.Closes file := by
  cases h : files.find? (env.endsSearch ·) with
  | none =>
    refine Or.inr fun file hfile => ?_
    rw [← endsSearch_iff]
    exact List.find?_eq_none.mp h file hfile
  | some last =>
    obtain ⟨hlast, nearer, farther, split, passes⟩ := List.find?_eq_some_iff_append.mp h
    refine Or.inl ⟨nearer, last, farther, split, fun file hfile => ?_, endsSearch_iff.mp hlast⟩
    rw [← endsSearch_iff]
    simpa using passes file hfile

/-! ### The whole search -/

section Discover

variable {directory : Path}

theorem discover_of_closes {nearer farther : List Path} {last : Path}
    (split : env.filesIn directory.ancestors = nearer ++ last :: farther)
    (passes : ∀ file ∈ nearer, ¬ env.Closes file) (closes : env.Closes last) :
    env.discover directory = nearer ++ [last] := by
  simp [discover, upward_of_closes split passes closes]

theorem discover_of_passes
    (passes : ∀ file ∈ env.filesIn directory.ancestors, ¬ env.Closes file) :
    env.discover directory =
      match env.homeFile with
      | some home =>
        if env.isFile home = true ∧
            ∀ file ∈ env.filesIn directory.ancestors, file.sameAs home = false then
          env.filesIn directory.ancestors ++ [home]
        else env.filesIn directory.ancestors
      | none => env.filesIn directory.ancestors := by
  unfold discover
  rw [upward_of_passes passes]
  cases env.homeFile <;> simp

theorem finds_discover (env : Environment) (directory : Path) :
    env.Finds (env.filesIn directory.ancestors) (env.discover directory) := by
  rcases closes_or_passes env (env.filesIn directory.ancestors) with
    ⟨nearer, last, farther, split, passes, closes⟩ | passes
  · rw [discover_of_closes split passes closes]
    exact .cut split passes closes
  · rw [discover_of_passes passes]
    cases known : env.homeFile with
    | none => exact .withoutHome passes fun home hhome => by simp [known] at hhome
    | some home =>
      dsimp only
      split
      · next h => exact .withHome passes known h.1 h.2
      · next h => exact .of_needless passes known (by simpa [imp_iff_not_or] using h)

theorem discover_eq_of_finds {found : List Path}
    (h : env.Finds (env.filesIn directory.ancestors) found) : env.discover directory = found := by
  cases h with
  | cut split passes closes => exact discover_of_closes split passes closes
  | withHome passes known present new =>
    rw [discover_of_passes passes, known]
    exact if_pos ⟨present, new⟩
  | withoutHome passes needless =>
    rw [discover_of_passes passes]
    cases known : env.homeFile with
    | none => rfl
    | some home =>
      refine if_neg ?_
      rintro ⟨present, new⟩
      rcases needless home known with absent | ⟨file, hfile, same⟩
      · simp [present] at absent
      · simp [new file hfile] at same

theorem isFile_of_mem_discover {file : Path}
    (h : file ∈ env.discover directory) : env.isFile file = true := by
  have finds := finds_discover env directory
  generalize env.discover directory = found at h finds
  cases finds with
  | @cut nearer last farther split passes closes =>
    have hmem : file ∈ env.filesIn directory.ancestors := by
      rw [split, List.append_cons]
      exact List.mem_append_left farther h
    exact (mem_filesIn hmem).1
  | withHome passes known present new =>
    rcases List.mem_append.mp h with h | h
    · exact (mem_filesIn h).1
    · rwa [List.mem_singleton.mp h]
  | withoutHome passes needless => exact (mem_filesIn h).1

theorem mem_discover {file : Path} (h : file ∈ (env.upward directory.ancestors).1) :
    file ∈ env.discover directory := by
  unfold discover
  dsimp only
  split
  · exact h
  · cases env.homeFile with
    | none => exact h
    | some home =>
      dsimp only
      split
      · exact List.mem_append_left _ h
      · exact h

end Discover

theorem mem_upward {nearer farther : List Path} {next : Path}
    (present : env.isFile (next.join settingsFileName) = true)
    (passes : ∀ near ∈ nearer, ¬ env.Closes (near.join settingsFileName)) :
    next.join settingsFileName ∈ (env.upward (nearer ++ next :: farther)).1 := by
  induction nearer with
  | nil =>
    rw [List.nil_append]
    by_cases closes : env.Closes (next.join settingsFileName)
    · simp [upward_cons_closes closes]
    · simp [upward_cons_passes present closes]
  | cons near nearer ih =>
    obtain ⟨hnear, hothers⟩ := List.forall_mem_cons.mp passes
    rw [List.cons_append]
    cases hfile : env.isFile (near.join settingsFileName) with
    | false =>
      rw [upward_cons_absent hfile]
      exact ih hothers
    | true =>
      rw [upward_cons_passes hfile hnear]
      exact List.mem_cons_of_mem _ (ih hothers)

/-- The files in the directories around an absolute path are different paths. -/
theorem pairwise_filesIn (env : Environment) {directory : Path} (h : directory.isAbsolute = true) :
    (env.filesIn directory.ancestors).Pairwise fun file other => file.sameAs other = false := by
  refine List.Pairwise.filter _ (List.pairwise_map.mpr ?_)
  refine (Path.pairwise_ancestors h).imp fun {near far} different => ?_
  rw [← Bool.not_eq_true, Path.sameAs_iff, Path.components_join _ isVoid_settingsFileName,
    Path.components_join _ isVoid_settingsFileName]
  simpa using different

namespace Finds

variable {files found : List Path}

theorem pairwise (h : env.Finds files found)
    (different : files.Pairwise fun file other => file.sameAs other = false) :
    found.Pairwise fun file other => file.sameAs other = false := by
  cases h with
  | @cut nearer last farther split passes closes =>
    refine different.sublist ?_
    rw [split]
    exact (List.singleton_sublist.mpr List.mem_cons_self).append_left nearer
  | withHome passes known present new =>
    refine List.pairwise_append.mpr ⟨different, List.pairwise_singleton .., ?_⟩
    intro file hfile home hhome
    rw [List.mem_singleton.mp hhome]
    exact new file hfile
  | withoutHome passes needless => exact different

/-- Only the last file that is found can have ended the search. -/
theorem not_closes (h : env.Finds files found) {before : List Path} {last : Path}
    (hfound : found = before ++ [last]) : ∀ file ∈ before, ¬ env.Closes file := by
  cases h with
  | cut split passes closes =>
    rw [← (List.append_inj' hfound rfl).1]
    exact passes
  | withHome passes known present new =>
    rw [← (List.append_inj' hfound rfl).1]
    exact passes
  | withoutHome passes needless =>
    intro file hfile
    exact passes file (by simp [hfound, hfile])

end Finds

/-- The search finds the settings files in a directory and in those around it, whose components are
the beginnings of its own, up to the first file that ends the search, and the one in a known home
directory if none does and it is there and new. So no path is found twice, only the last file can
have ended the search, and a path that does not end it leaves the next file to be found. -/
theorem discover_eq_iff_finds (env : Environment) {directory : Path}
    (absolute : directory.isAbsolute = true) :
    directory.ancestors.map Path.components = directory.components.inits.tail.reverse ∧
    (∀ found, env.discover directory = found ↔
      env.Finds (env.filesIn directory.ancestors) found) ∧
    (env.discover directory).Pairwise (fun file other => file.sameAs other = false) ∧
    (∀ before last, env.discover directory = before ++ [last] →
      ∀ file ∈ before, ¬ env.Closes file) ∧
    ∀ nearer next farther, directory.ancestors = nearer ++ next :: farther →
      env.isFile (next.join settingsFileName) = true →
      (∀ near ∈ nearer, env.Passable (near.join settingsFileName)) →
      next.join settingsFileName ∈ env.discover directory := by
  have finds := finds_discover env directory
  refine ⟨Path.components_ancestors absolute, fun found => ⟨?_, discover_eq_of_finds⟩,
    finds.pairwise (pairwise_filesIn env absolute), fun before last => finds.not_closes, ?_⟩
  · rintro rfl
    exact finds
  · intro nearer next farther split present passable
    apply mem_discover
    rw [split]
    exact mem_upward present fun near hnear => (passable near hnear).not_closes

/-- A directory that is named like a settings file and a file that says nothing readable are passed
on the way to a file that ends the search before the home directory. -/
theorem discover_eq_iff_finds_past_broken_file :
    let env : Environment :=
      { store := ⟨[(["w"], .directory), (["w", "s"], .directory),
          (["w", "s", ".osearch.toml"], .directory), (["w", ".osearch.toml"], .file "x".toUTF8),
          ([".osearch.toml"], .file "root = true".toUTF8), (["h"], .directory),
          (["h", ".osearch.toml"], .file "".toUTF8)]⟩
        home := some (.ofText "/h")
        here := ["w"] }
    (Path.ofText "/w/s").isAbsolute = true ∧
      env.discover (.ofText "/w/s") = [.ofText "/w/.osearch.toml", .ofText "/.osearch.toml"] := by
  intro env
  refine ⟨rfl, ((discover_eq_iff_finds env rfl).2.1 _).mpr ?_⟩
  have malformed : Draft.ofToml? "x" = none := by decide +kernel
  have ending : Draft.ofToml? "root = true" = some { root := some true } := by decide +kernel
  have broken : ¬ env.Closes (.ofText "/w/.osearch.toml") :=
    (Passable.faulty (.malformed (readText_of_content?_toUTF8 rfl) malformed)).not_closes
  have closes : env.Closes (.ofText "/.osearch.toml") :=
    ⟨_, ⟨_, readText_of_content?_toUTF8 rfl, ending⟩, rfl⟩
  have split : env.filesIn (Path.ofText "/w/s").ancestors =
      [.ofText "/w/.osearch.toml"] ++ .ofText "/.osearch.toml" :: [] := rfl
  exact .cut split (by simpa using broken) closes

/-! ### What stands beyond the end of a search -/

/-- Environments with the same files up to one that ends the search find the same files, all of
them with a content that is the same. -/
theorem upward_eq_of_agree {nearer : List Path} {last : Path} (farther : List Path)
    (closes : env.Closes (last.join settingsFileName))
    (agree : ∀ directory ∈ nearer ++ [last], env.content? (directory.join settingsFileName) =
      other.content? (directory.join settingsFileName)) :
    ∃ files, env.upward (nearer ++ last :: farther) = (files, true) ∧
      other.upward (nearer ++ last :: farther) = (files, true) ∧
      ∀ file ∈ files, env.readDraft file = other.readDraft file := by
  induction nearer with
  | nil =>
    have hlast := agree last (by simp)
    refine ⟨[last.join settingsFileName], upward_cons_closes closes,
      upward_cons_closes ((closes_congr hlast).mp closes), ?_⟩
    simpa using readDraft_congr hlast closes.isFile
  | cons directory nearer ih =>
    obtain ⟨hdirectory, hothers⟩ := List.forall_mem_cons.mp agree
    obtain ⟨files, hfiles, hfiles', hsame⟩ := ih hothers
    have hpresent := isFile_congr hdirectory
    rw [List.cons_append]
    cases present : env.isFile (directory.join settingsFileName) with
    | false =>
      rw [upward_cons_absent present, upward_cons_absent (hpresent.symm.trans present)]
      exact ⟨files, hfiles, hfiles', hsame⟩
    | true =>
      have hfirst := readDraft_congr hdirectory present
      by_cases hcloses : env.Closes (directory.join settingsFileName)
      · refine ⟨[directory.join settingsFileName], upward_cons_closes hcloses,
          upward_cons_closes ((closes_congr hdirectory).mp hcloses), ?_⟩
        simpa using hfirst
      · have hcloses' := mt (closes_congr hdirectory).mpr hcloses
        refine ⟨directory.join settingsFileName :: files, ?_, ?_, ?_⟩
        · rw [upward_cons_passes present hcloses, hfiles]
        · rw [upward_cons_passes (hpresent.symm.trans present) hcloses', hfiles']
        · exact List.forall_mem_cons.mpr ⟨hfirst, hsame⟩

theorem readFiles_congr {paths : List Path}
    (h : ∀ path ∈ paths, env.readDraft path = other.readDraft path) :
    env.readFiles paths = other.readFiles paths := by
  induction paths with
  | nil => rfl
  | cons path others ih =>
    obtain ⟨hpath, hothers⟩ := List.forall_mem_cons.mp h
    rw [readFiles, readFiles, hpath, ih hothers]

/-- The configuration for a directory below a file that ends the search, or its fault, is the same
in every environment with the same settings files from that directory up to that file, whatever
stands above or in the home directory. -/
theorem load_eq_of_agree {directory last : Path} {nearer farther : List Path}
    (split : directory.ancestors = nearer ++ last :: farther)
    (closes : env.Closes (last.join settingsFileName))
    (agree : ∀ around ∈ nearer ++ [last], env.content? (around.join settingsFileName) =
      other.content? (around.join settingsFileName)) :
    env.load directory = other.load directory := by
  obtain ⟨files, hfiles, hfiles', same⟩ := upward_eq_of_agree farther closes agree
  have found : env.discover directory = files := by simp [discover, split, hfiles]
  have found' : other.discover directory = files := by simp [discover, split, hfiles']
  unfold load loadFiles
  rw [found, found', readFiles_congr same]

/-- Neither a broken file above the end of the search nor another home directory is noticed. -/
theorem load_eq_of_agree_under_broken_file :
    let inner : List (Place × Entry) := [(["w"], .directory), (["w", "s"], .directory),
      (["w", "s", ".osearch.toml"], .file "[parser]\nmax_depth = 8".toUTF8),
      (["w", ".osearch.toml"], .file "root = true".toUTF8)]
    let env : Environment := ⟨⟨inner ++ [([".osearch.toml"], .file "x".toUTF8)]⟩, some .root, []⟩
    let other : Environment :=
      ⟨⟨inner ++ [(["h"], .directory), (["h", ".osearch.toml"], .file "root = 1".toUTF8)]⟩,
        some (.ofText "/h"), ["w"]⟩
    env.Closes (.ofText "/w/.osearch.toml") ∧
      env.load (.ofText "/w/s") = other.load (.ofText "/w/s") := by
  intro inner env other
  have ending : Draft.ofToml? "root = true" = some { root := some true } := by decide +kernel
  have closes : env.Closes (.ofText "/w/.osearch.toml") :=
    ⟨_, ⟨_, readText_of_content?_toUTF8 rfl, ending⟩, rfl⟩
  have split : (Path.ofText "/w/s").ancestors = [.ofText "/w/s"] ++ .ofText "/w" :: [.root] := rfl
  refine ⟨closes, load_eq_of_agree split closes ?_⟩
  simp only [List.singleton_append, List.forall_mem_cons]
  exact ⟨rfl, rfl, nofun⟩

end BooleanSearch.Environment
