import BooleanSearch.Proofs.Discovery
import BooleanSearch.Proofs.NewFile
import BooleanSearch.Proofs.Precedence

/-! # Settings files that say nothing

A file that says nothing neither ends a search nor hides the file in the home directory, and it has
no setting and no fault. So an environment that has got such files finds the files that it found
before with these among them, and its settings, or their fault, are what they were.
-/

namespace BooleanSearch

/-- Files that set nothing can be left out. -/
theorem mergeSettings_filter {keep : SettingsFile → Bool} {files : List SettingsFile}
    (h : ∀ file ∈ files, keep file = false → file.draft = {}) :
    mergeSettings (files.filter keep) = mergeSettings files := by
  induction files with
  | nil => rfl
  | cons file lower ih =>
    obtain ⟨hfile, hlower⟩ := List.forall_mem_cons.mp h
    cases hkeep : keep file with
    | true =>
      rw [List.filter_cons_of_pos hkeep, mergeSettings_cons, mergeSettings_cons, ih hlower]
    | false =>
      rw [List.filter_cons_of_neg (by simp [hkeep]), ih hlower, mergeSettings_cons,
        SettingsFile.applyTo_of_empty (hfile hkeep)]
      cases mergeSettings lower <;> rfl

namespace Environment

/-- An environment has got files that say nothing. -/
structure GainsSilent (env after : Environment) : Prop where
  home : after.homeFile = env.homeFile
  kept : ∀ file, env.isFile file = true → after.content? file = env.content? file
  silent : ∀ file, env.isFile file = false → after.isFile file = true → after.Holds file {}

theorem isFile_join_congr (env : Environment) {directory directory' : Path}
    (h : (directory.join settingsFileName).sameAs (directory'.join settingsFileName) = true) :
    env.isFile (directory.join settingsFileName) = env.isFile (directory'.join settingsFileName) := by
  unfold Environment.isFile Store.isFile Store.find
  rw [env.store.locate_join_congr env.here isVoid_settingsFileName h]

namespace GainsSilent

variable {env after : Environment} (gains : env.GainsSilent after)
include gains

theorem isFile {file : Path} (h : env.isFile file = true) : after.isFile file = true :=
  (isFile_congr (gains.kept file h)).trans h

/-! ### What is found -/

/-- No file ends the search that did not end it before. -/
theorem closes_iff (file : Path) : after.Closes file ↔ env.Closes file := by
  cases present : env.isFile file with
  | true => exact closes_congr (gains.kept file present)
  | false =>
    constructor
    · intro closes
      obtain ⟨draft, holds, hroot⟩ := closes
      rw [holds.eq (gains.silent file present holds.isFile)] at hroot
      cases hroot
    · exact fun closes => absurd closes.isFile (by simp [present])

theorem filesIn_eq_filter (directories : List Path) :
    env.filesIn directories = (after.filesIn directories).filter (env.isFile ·) := by
  unfold filesIn
  rw [List.filter_filter]
  refine List.filter_congr fun file _ => ?_
  cases present : env.isFile file with
  | true => simp [gains.isFile present]
  | false => rfl

/-- A search among files of which some say nothing is one among the others. -/
theorem finds_filter {directories found : List Path}
    (h : after.Finds (after.filesIn directories) found) :
    env.Finds (env.filesIn directories) (found.filter (env.isFile ·)) := by
  have passes_filter {files : List Path} (passes : ∀ file ∈ files, ¬ after.Closes file) :
      ∀ file ∈ files.filter (env.isFile ·), ¬ env.Closes file := fun file hfile => by
    rw [← gains.closes_iff]
    exact passes file (List.mem_filter.mp hfile).1
  rw [gains.filesIn_eq_filter]
  cases h with
  | @cut nearer last farther split passes closes =>
    have closes := (gains.closes_iff last).mp closes
    have present : env.isFile last = true := closes.isFile
    rw [split, List.filter_append, List.filter_append, List.filter_cons_of_pos present,
      List.filter_cons_of_pos present]
    exact .cut rfl (passes_filter passes) closes
  | @withHome home passes known present new =>
    rw [gains.home] at known
    rw [List.filter_append]
    cases stood : env.isFile home with
    | true =>
      rw [List.filter_cons_of_pos stood]
      exact .withHome (passes_filter passes) known stood
        fun file hfile => new file (List.mem_filter.mp hfile).1
    | false =>
      rw [List.filter_cons_of_neg (by simp [stood]), List.filter_nil, List.append_nil]
      exact .of_needless (passes_filter passes) known (Or.inl stood)
  | withoutHome passes needless =>
    refine .withoutHome (passes_filter passes) fun home known => ?_
    cases stood : env.isFile home with
    | false => exact Or.inl rfl
    | true =>
      have found := needless home (gains.home.trans known)
      obtain ⟨file, hfile, same⟩ := found.resolve_left (by simp [gains.isFile stood])
      -- The file in the home directory has been found under another spelling of its path.
      obtain ⟨parent, -, rfl⟩ := Option.map_eq_some_iff.mp known
      obtain ⟨directory, rfl⟩ := (mem_filesIn hfile).2
      have present := (isFile_join_congr env same).trans stood
      exact Or.inr ⟨_, List.mem_filter.mpr ⟨hfile, present⟩, same⟩

theorem discover_eq_filter (directory : Path) :
    env.discover directory = (after.discover directory).filter (env.isFile ·) :=
  discover_eq_of_finds (gains.finds_filter (finds_discover after directory))

/-! ### What is loaded -/

/-- Files that say nothing have no fault. -/
theorem readFiles_filter {paths : List Path} (h : ∀ path ∈ paths, after.isFile path = true) :
    env.readFiles (paths.filter (env.isFile ·)) =
      (after.readFiles paths).map (List.filter fun file => env.isFile file.path) := by
  induction paths with
  | nil => rfl
  | cons path others ih =>
    obtain ⟨hpath, hothers⟩ := List.forall_mem_cons.mp h
    cases present : env.isFile path with
    | true =>
      rw [List.filter_cons_of_pos present]
      have same := readDraft_congr (gains.kept path present).symm present
      cases hdraft : after.readDraft path with
      | error error =>
        rw [readFiles_cons_faulty (readDraft_eq_error_iff.mp hdraft),
          readFiles_cons_faulty (readDraft_eq_error_iff.mp (same.trans hdraft))]
        rfl
      | ok draft =>
        rw [readFiles_cons_holds (readDraft_eq_ok_iff.mp hdraft),
          readFiles_cons_holds (readDraft_eq_ok_iff.mp (same.trans hdraft)), ih hothers]
        cases after.readFiles others <;> simp [Except.map, present]
    | false =>
      rw [List.filter_cons_of_neg (by simp [present]), ih hothers,
        readFiles_cons_holds (gains.silent path present hpath)]
      cases after.readFiles others <;> simp [Except.map, present]

theorem loadFiles_filter {paths : List Path} (h : ∀ path ∈ paths, after.isFile path = true) :
    (env.loadFiles (paths.filter (env.isFile ·))).map Configuration.settings =
      (after.loadFiles paths).map Configuration.settings := by
  rw [loadFiles_map_settings, loadFiles_map_settings, gains.readFiles_filter h]
  cases hfiles : after.readFiles paths with
  | error error => rfl
  | ok files =>
    refine mergeSettings_filter fun file hfile dropped => ?_
    obtain ⟨rfl, holds⟩ := readFiles_eq_ok_iff.mp hfiles
    have present := h file.path (List.mem_map_of_mem hfile)
    exact (holds file hfile).eq (gains.silent file.path dropped present)

/-- Files that say nothing change no settings and no fault. -/
theorem load_settings (directory : Path) :
    (after.load directory).map Configuration.settings =
      (env.load directory).map Configuration.settings := by
  unfold load
  rw [gains.discover_eq_filter]
  exact (gains.loadFiles_filter fun file => isFile_of_mem_discover).symm

end GainsSilent

end Environment

end BooleanSearch
