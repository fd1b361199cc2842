import BooleanSearch.Proofs.NewFile
import BooleanSearch.Program

/-! # All or nothing

What `init` does is decided by where the names of the store lead, by the kind of what stands there,
by the home directory and by the flags. Either its file can be written, and then it is put there
whole, or nothing is done. What the files of the store hold is never looked at.
-/

namespace BooleanSearch

namespace Path

theorem isAbsolute_join (path : Path) {name : String} (h : isVoid name = false) :
    (path.join name).isAbsolute = path.isAbsolute := by
  have nonempty : name ≠ "" := by
    rintro rfl
    exact absurd h (by decide)
  rw [isAbsolute_eq, isAbsolute_eq, components_join path h]
  cases path.components <;> simp [nonempty]

theorem join_ne_empty (path : Path) {name : String} (h : isVoid name = false) :
    path.join name ≠ empty := by
  intro hempty
  have hcomponents := components_join path h
  rw [hempty] at hcomponents
  exact absurd hcomponents.symm (by simp [components, empty])

end Path

namespace Store

/-! ### A name in a directory -/

/-- A path leads to a directory at this place. The empty path stands for the working directory. -/
def DirectoryAt (store : Store) (here : Place) (path : Path) (place : Place) : Prop :=
  (if path = .empty then place = here else store.locate here path = .ok place) ∧
    store.lookup place = some .directory

variable {store : Store} {start here place reached : Place} {name : String}

theorem walk_append (start : Place) (first second : List String) :
    store.walk start (first ++ second) = (do
      let reached ← store.walk start first
      store.walk reached second) := by
  induction first generalizing start with
  | nil => rfl
  | cons segment rest ih =>
    rw [List.cons_append, walk, walk, bind_assoc]
    apply bind_congr
    intro _
    split
    · exact ih start
    · split
      · exact ih start.dropLast
      · exact ih (start ++ [segment])

/-- The last name of a walk stands in the directory that the walk has come to. -/
theorem walk_concat_eq_ok_iff (hname : Path.isVoid name = false) (hup : name ≠ "..")
    (before : List String) :
    store.walk start (before ++ [name]) = .ok place ↔
      ∃ directory, store.walk start before = .ok directory ∧
        store.lookup directory = some .directory ∧ place = directory ++ [name] := by
  rw [walk_append]
  cases store.walk start before with
  | error cause => exact ⟨nofun, fun ⟨_, h, _⟩ => nomatch h⟩
  | ok directory =>
    have last : store.walk directory [name] = .ok place ↔
        store.lookup directory = some .directory ∧ place = directory ++ [name] := by
      rw [walk, enter_bind_eq_ok_iff, enter_eq_ok_iff, if_neg (by simp [hname]), if_neg hup, walk]
      exact and_congr_right fun _ => ⟨fun h => (Except.ok.inj h).symm, fun h => congrArg _ h.symm⟩
    refine last.trans ⟨fun h => ⟨directory, rfl, h⟩, ?_⟩
    rintro ⟨_, hdirectory, h⟩
    rwa [Except.ok.inj hdirectory]

/-- An empty segment behind a walk makes no difference where the walk has come to a directory. -/
theorem walk_concat_empty_eq_ok_iff (before : List String) :
    store.walk start (before ++ [""]) = .ok reached ∧ store.lookup reached = some .directory ↔
      store.walk start before = .ok reached ∧ store.lookup reached = some .directory := by
  refine and_congr_left fun hdirectory => ?_
  rw [walk_append]
  cases store.walk start before with
  | error cause => rfl
  | ok place =>
    have last : store.walk place [""] = .ok reached ↔
        store.lookup place = some .directory ∧ place = reached := by
      rw [walk, enter_bind_eq_ok_iff, enter_eq_ok_iff, if_pos (by decide), walk, Except.ok.injEq]
    refine last.trans ⟨fun h => congrArg _ h.2, fun h => ?_⟩
    obtain rfl := Except.ok.inj h
    exact ⟨hdirectory, rfl⟩

/-- The walk to a joined name comes to the directory that the path leads to. -/
theorem exists_walk_iff_directoryAt (here : Place) (path : Path) (name : String) :
    ∃ before, (path.join name).segments = before ++ [name] ∧ ∀ directory,
      store.walk (if path.isAbsolute then [] else here) before = .ok directory ∧
          store.lookup directory = some .directory ↔
        store.DirectoryAt here path directory := by
  have nonempty_iff (h : path ≠ .empty) (directory : Place) :
      store.walk (if path.isAbsolute then [] else here) path.segments = .ok directory ∧
          store.lookup directory = some .directory ↔ store.DirectoryAt here path directory := by
    rw [DirectoryAt, if_neg h, locate, if_neg h]
  obtain ⟨segments⟩ := path
  rcases List.eq_nil_or_concat' segments with rfl | ⟨before, last, rfl⟩
  · exact ⟨[], rfl, nonempty_iff (by simp [Path.empty])⟩
  rw [Path.join_concat]
  split
  · next hlast =>
    subst hlast
    refine ⟨before, rfl, fun directory => ?_⟩
    cases before with
    | nil =>
      have hempty : Path.mk ([] ++ [""]) = .empty := rfl
      have relative : Path.empty.isAbsolute = false := rfl
      rw [hempty, DirectoryAt, if_pos rfl, relative, if_neg (by simp), walk, Except.ok.injEq]
      exact and_congr_left fun _ => eq_comm
    | cons first others =>
      rw [← walk_concat_empty_eq_ok_iff]
      exact nonempty_iff (by simp [Path.empty]) directory
  · next hlast =>
    refine ⟨before ++ [last], rfl, nonempty_iff ?_⟩
    simpa [Path.empty, List.append_eq_singleton_iff] using fun _ => hlast

/-- A name that is joined to a path leads to that name in the directory that the path leads to. -/
theorem locate_join_eq_ok_iff (here : Place) (path : Path) (hname : Path.isVoid name = false)
    (hup : name ≠ "..") :
    store.locate here (path.join name) = .ok place ↔
      ∃ directory, store.DirectoryAt here path directory ∧ place = directory ++ [name] := by
  obtain ⟨before, hbefore, hdirectory⟩ := store.exists_walk_iff_directoryAt here path name
  rw [locate, if_neg (path.join_ne_empty hname), path.isAbsolute_join hname, hbefore,
    walk_concat_eq_ok_iff hname hup]
  simp only [← and_assoc, hdirectory]

/-! ### Where a file can be written -/

/-- Whether something stands at a place, and whether it is a directory. -/
def kind (store : Store) (place : Place) : Option Bool :=
  (store.lookup place).map fun
    | .directory => true
    | .file _ => false

theorem kind_eq_some_true_iff : store.kind place = some true ↔
    store.lookup place = some .directory := by
  unfold kind
  cases store.lookup place with
  | none => simp
  | some entry => cases entry <;> simp

theorem kind_eq_none_iff : store.kind place = none ↔ store.lookup place = none :=
  Option.map_eq_none_iff

/-- The place where a file can be written, new or not. -/
def writable (store : Store) (here : Place) (path : Path) : Except AccessFault Place := do
  let place ← store.locate here path
  if store.kind place = some true then throw .isDirectory else return place

/-- A file is written where it can be, and nowhere else. -/
theorem writeText_eq_map (store : Store) (here : Place) (path : Path) (text : String) :
    store.writeText here path text =
      (store.writable here path).map fun place => store.put place (.file text.toUTF8) := by
  unfold writeText writable
  cases store.locate here path with
  | error cause => rfl
  | ok place =>
    simp only [bind, Except.bind]
    split
    · next hlookup =>
      rw [if_pos (kind_eq_some_true_iff.mpr hlookup)]
      rfl
    · next hlookup =>
      rw [if_neg fun h => hlookup (kind_eq_some_true_iff.mp h)]
      rfl

theorem writable_eq_ok_iff {path : Path} :
    store.writable here path = .ok place ↔
      store.locate here path = .ok place ∧ store.lookup place ≠ some .directory := by
  unfold writable
  cases store.locate here path with
  | error cause => exact ⟨nofun, fun h => nomatch h.1⟩
  | ok located =>
    simp only [bind, Except.bind, Except.ok.injEq]
    split
    · next h =>
      refine ⟨nofun, fun ⟨hlocated, hother⟩ => ?_⟩
      exact absurd (hlocated ▸ kind_eq_some_true_iff.mp h) hother
    · next h =>
      refine ⟨fun hplace => ?_, fun hplace => congrArg _ hplace.1⟩
      obtain rfl := Except.ok.inj hplace
      exact ⟨rfl, fun hlookup => h (kind_eq_some_true_iff.mpr hlookup)⟩

theorem find_ne_ok_iff {path : Path} (entry : Entry) (h : store.locate here path = .ok place) :
    store.find here path ≠ .ok entry ↔ store.lookup place ≠ some entry := by
  rw [ne_eq, find_eq_ok_iff]
  simp [h]

theorem isPresent_eq_false_iff {path : Path} :
    store.isPresent here path = false ↔ ∀ entry, store.find here path ≠ .ok entry := by
  unfold isPresent
  cases store.find here path <;> simp

theorem isPresent_eq_false_iff_kind {path : Path} :
    store.isPresent here path = false ↔
      ∀ place, store.locate here path = .ok place → store.kind place = none := by
  rw [isPresent_eq_false_iff]
  constructor
  · intro absent place hplace
    rw [kind_eq_none_iff, Option.eq_none_iff_forall_ne_some]
    exact fun entry => (find_ne_ok_iff entry hplace).mp (absent entry)
  · intro absent entry hentry
    obtain ⟨place, hplace, hlookup⟩ := find_eq_ok_iff.mp hentry
    rw [kind_eq_none_iff.mp (absent place hplace)] at hlookup
    cases hlookup

/-- Where nothing is found, a file can be written if the path leads anywhere. -/
theorem writable_eq_locate {path : Path} (h : ∀ entry, store.find here path ≠ .ok entry) :
    store.writable here path = .ok place ↔ store.locate here path = .ok place := by
  rw [writable_eq_ok_iff, and_iff_left_iff_imp]
  exact fun hplace => (find_ne_ok_iff .directory hplace).mp (h .directory)

/-- The place where a file can be made. By force that can be one where a file stands. -/
def vacancy (store : Store) (here : Place) (path : Path) (force : Bool) : Option Place :=
  if store.isPresent here path && !force then none else (store.writable here path).toOption

theorem vacancy_eq_some_iff {path : Path} {force : Bool} :
    store.vacancy here path force = some place ↔
      store.locate here path = .ok place ∧
        if force then store.find here path ≠ .ok .directory
        else ∀ entry, store.find here path ≠ .ok entry := by
  have toOption_iff {result : Except AccessFault Place} :
      result.toOption = some place ↔ result = .ok place := by
    cases result <;> simp [Except.toOption]
  unfold vacancy
  cases force with
  | true =>
    rw [Bool.not_true, Bool.and_false, if_neg Bool.false_ne_true, if_pos rfl, toOption_iff,
      writable_eq_ok_iff]
    exact and_congr_right fun hlocate => (find_ne_ok_iff .directory hlocate).symm
  | false =>
    rw [Bool.not_false, Bool.and_true, if_neg Bool.false_ne_true]
    split
    · next present =>
      rw [← isPresent_eq_false_iff, present]
      simp
    · next absent =>
      have nothing := isPresent_eq_false_iff.mp (Bool.eq_false_iff.mpr absent)
      rw [toOption_iff, writable_eq_locate nothing]
      exact (and_iff_left nothing).symm

/-! ### Stores of one shape -/

/-- The same places hold files, and the same places directories. What the files hold is left
open. -/
def SameShape (store other : Store) : Prop := ∀ place, other.kind place = store.kind place

namespace SameShape

variable {other : Store}

theorem enter (h : store.SameShape other) (place : Place) :
    other.enter place = store.enter place := by
  have enter_eq (store : Store) : store.enter place =
      match store.kind place with
      | some true => .ok ()
      | some false => .error .notDirectory
      | none => .error .missing := by
    unfold Store.enter kind
    cases store.lookup place with
    | none => rfl
    | some entry => cases entry <;> rfl
  rw [enter_eq, enter_eq, h place]

theorem walk (h : store.SameShape other) (start : Place) (segments : List String) :
    other.walk start segments = store.walk start segments := by
  induction segments generalizing start with
  | nil => rfl
  | cons segment rest ih => simp only [Store.walk, h.enter, ih]

theorem locate (h : store.SameShape other) (here : Place) (path : Path) :
    other.locate here path = store.locate here path := by
  simp only [Store.locate, h.walk]

theorem writable (h : store.SameShape other) (here : Place) (path : Path) :
    other.writable here path = store.writable here path := by
  simp only [Store.writable, h.locate, h _]

theorem isPresent (h : store.SameShape other) (here : Place) (path : Path) :
    other.isPresent here path = store.isPresent here path := by
  have same : other.isPresent here path = false ↔ store.isPresent here path = false := by
    simp only [isPresent_eq_false_iff_kind, h.locate, h _]
  simpa using not_congr same

theorem vacancy (h : store.SameShape other) (here : Place) (path : Path) (force : Bool) :
    other.vacancy here path force = store.vacancy here path force := by
  simp only [Store.vacancy, h.isPresent, h.writable]

end SameShape

end Store

/-! ### Making a settings file -/

namespace Environment

section

variable (env : Environment) (global force : Bool)

/-- The directory in which `init` makes its file. The home directory may not be known. -/
def initDirectory : Option Path :=
  if global || env.home.any (·.sameAs env.directory) then env.home else some env.directory

/-- The text of the file that `init` makes. -/
def initText : String :=
  if global || env.home.any (·.sameAs env.directory) then Template.home else Template.directory

/-- The path of the file that `init` makes. -/
def initFile : Option Path := (env.initDirectory global).map (·.join settingsFileName)

theorem isAtHome_eq : env.isAtHome = env.home.any (·.sameAs env.directory) := by
  unfold isAtHome homeFile
  cases env.home with
  | none => rfl
  | some home =>
    obtain ⟨parent, hparent, hcomponents⟩ := home.exists_parent?_join isVoid_settingsFileName
    simp [hparent, Path.sameAs, hcomponents]

theorem initTarget_eq :
    env.initTarget global = (env.initFile global).map fun file => (file, env.initText global) := by
  unfold initTarget initFile initDirectory initText homeFile
  rw [isAtHome_eq]
  split
  · rw [Option.map_map]
  · rfl

/-- The place where `init` puts its file, if it does. -/
def initPlace : Option Place :=
  (env.initFile global).bind (env.store.vacancy env.here · force)

/-- The file is put at its place, or nothing is done. -/
theorem runInit_eq_of_initPlace :
    (env.runInit global force).1.succeeded = (env.initPlace global force).isSome ∧
      (env.runInit global force).2 =
        match env.initPlace global force with
        | some place => env.store.put place (.file (env.initText global).toUTF8)
        | none => env.store := by
  unfold runInit initPlace
  rw [initTarget_eq]
  cases env.initFile global with
  | none => exact ⟨rfl, rfl⟩
  | some file =>
    dsimp only [Option.map_some, Option.bind_some]
    unfold Store.vacancy
    split
    · exact ⟨rfl, rfl⟩
    · rw [Store.writeText_eq_map]
      cases env.store.writable env.here file <;> exact ⟨rfl, rfl⟩

/-- The file is put in its directory, unless something stands there that is in the way. -/
theorem initPlace_eq_some_iff {place : Place} :
    env.initPlace global force = some place ↔
      ∃ directory, env.initDirectory global = some directory ∧
        (∃ parent, env.store.DirectoryAt env.here directory parent ∧
          place = parent ++ [settingsFileName]) ∧
        if force then
          env.store.find env.here (directory.join settingsFileName) ≠ .ok .directory
        else ∀ entry, env.store.find env.here (directory.join settingsFileName) ≠ .ok entry := by
  rw [initPlace, initFile, Option.bind_map, Option.bind_eq_some_iff]
  refine exists_congr fun directory => and_congr_right fun _ => ?_
  rw [← Store.locate_join_eq_ok_iff _ _ isVoid_settingsFileName (by decide)]
  exact Store.vacancy_eq_some_iff

/-- Nothing is done, or one file is made and everything else stays as it is. -/
theorem runInit_unchanged_or_file :
    ((env.runInit global force).1.succeeded = false ∧ (env.runInit global force).2 = env.store) ∨
      ((env.runInit global force).1.succeeded = true ∧ ∃ file place,
        env.initFile global = some file ∧ env.store.locate env.here file = .ok place ∧
        (env.runInit global force).2.lookup place = some (.file (env.initText global).toUTF8) ∧
        ∀ other, other ≠ place →
          (env.runInit global force).2.lookup other = env.store.lookup other) := by
  obtain ⟨hsucceeded, hafter⟩ := env.runInit_eq_of_initPlace global force
  cases hplace : env.initPlace global force with
  | none =>
    rw [hplace] at hsucceeded hafter
    exact Or.inl ⟨hsucceeded, hafter⟩
  | some place =>
    rw [hplace] at hsucceeded hafter
    obtain ⟨directory, hdirectory, hparent, -⟩ :=
      (env.initPlace_eq_some_iff global force).mp hplace
    have hfile : env.initFile global = some (directory.join settingsFileName) :=
      congrArg (Option.map _) hdirectory
    have hlocate := (Store.locate_join_eq_ok_iff env.here directory isVoid_settingsFileName
      (by decide)).mpr hparent
    obtain ⟨parent, -, rfl⟩ := hparent
    refine Or.inr ⟨hsucceeded, _, _, hfile, hlocate, ?_, fun other hother => ?_⟩
    · rw [hafter, Store.lookup_put _ (by simp)]
    · rw [hafter, Store.lookup_put_of_ne _ hother]

/-- The file is made if its directory is known and exists and nothing is in the way. -/
theorem runInit_succeeded_iff :
    (env.runInit global force).1.succeeded = true ↔
      ∃ directory, env.initDirectory global = some directory ∧
        (∃ place, env.store.DirectoryAt env.here directory place) ∧
        if force then
          env.store.find env.here (directory.join settingsFileName) ≠ .ok .directory
        else ∀ entry, env.store.find env.here (directory.join settingsFileName) ≠ .ok entry := by
  rw [(env.runInit_eq_of_initPlace global force).1, Option.isSome_iff_exists]
  simp only [initPlace_eq_some_iff]
  rw [exists_comm]
  refine exists_congr fun directory => ?_
  rw [exists_and_left, exists_and_right]
  refine and_congr_right' (and_congr_left' ⟨?_, ?_⟩)
  · rintro ⟨place, parent, hparent, -⟩
    exact ⟨parent, hparent⟩
  · rintro ⟨parent, hparent⟩
    exact ⟨_, parent, hparent, rfl⟩

/-- A store of the same shape gives the same output and is changed in the same way. -/
theorem runInit_of_sameShape {other : Store} (h : env.store.SameShape other) :
    ((env.withStore other).runInit global force).1 = (env.runInit global force).1 ∧
      (((env.runInit global force).2 = env.store ∧
          ((env.withStore other).runInit global force).2 = other) ∨
        ∃ place entry, (env.runInit global force).2 = env.store.put place entry ∧
          ((env.withStore other).runInit global force).2 = other.put place entry) := by
  have target : (env.withStore other).initTarget global = env.initTarget global := rfl
  have sameOutput :
      ((env.withStore other).runInit global force).1 = (env.runInit global force).1 := by
    unfold runInit
    rw [target]
    cases env.initTarget global with
    | none => rfl
    | some made =>
      simp only [withStore, h.isPresent, Store.writeText_eq_map, h.writable]
      split
      · rfl
      · cases env.store.writable env.here _ <;> rfl
  have file : (env.withStore other).initFile global = env.initFile global := rfl
  have samePlace : (env.withStore other).initPlace global force = env.initPlace global force := by
    unfold initPlace
    rw [file]
    simp only [withStore, h.vacancy]
  refine ⟨sameOutput, ?_⟩
  obtain ⟨-, hafter⟩ := env.runInit_eq_of_initPlace global force
  obtain ⟨-, hafter'⟩ := (env.withStore other).runInit_eq_of_initPlace global force
  rw [samePlace] at hafter'
  cases hplace : env.initPlace global force with
  | none =>
    rw [hplace] at hafter hafter'
    exact Or.inl ⟨hafter, hafter'⟩
  | some place =>
    rw [hplace] at hafter hafter'
    exact Or.inr ⟨place, _, hafter, hafter'⟩

end

/-- `init` fails and leaves the store as it is, or it succeeds and makes one file, with the text for
the home directory or for any other. It succeeds exactly if its directory is known and exists and
nothing is in the way, which is a directory if it is forced and anything if it is not. What the
files hold makes no difference to what it prints or does. -/
theorem run_init_all_or_nothing (env : Environment) (global force : Bool) :
    ∃ output after, env.run (.init global force) = (output, after) ∧
      ((output.succeeded = false ∧ after = env.store) ∨
        (output.succeeded = true ∧ ∃ file place,
          env.initFile global = some file ∧ env.store.locate env.here file = .ok place ∧
          after.lookup place = some (.file (env.initText global).toUTF8) ∧
          ∀ other, other ≠ place → after.lookup other = env.store.lookup other)) ∧
      (output.succeeded = true ↔ ∃ directory, env.initDirectory global = some directory ∧
        (∃ place, env.store.DirectoryAt env.here directory place) ∧
        if force then
          env.store.find env.here (directory.join settingsFileName) ≠ .ok .directory
        else ∀ entry, env.store.find env.here (directory.join settingsFileName) ≠ .ok entry) ∧
      ∀ other, env.store.SameShape other →
        ∃ after', (env.withStore other).run (.init global force) = (output, after') ∧
          ((after = env.store ∧ after' = other) ∨
            ∃ place entry, after = env.store.put place entry ∧
              after' = other.put place entry) := by
  refine ⟨(env.runInit global force).1, (env.runInit global force).2, rfl,
    env.runInit_unchanged_or_file global force, env.runInit_succeeded_iff global force,
    fun other shape => ?_⟩
  obtain ⟨sameOutput, change⟩ := env.runInit_of_sameShape global force shape
  exact ⟨((env.withStore other).runInit global force).2, Prod.ext sameOutput rfl, change⟩

/-- A file is replaced by force, whether it could be read or not, and without force it is in the
way. -/
theorem run_init_all_or_nothing_by_force :
    let env : Environment :=
      { store := ⟨[(["h"], .directory), (["h", ".osearch.toml"], .file "x".toUTF8)]⟩
        home := some (.ofText "/h")
        here := ["h"] }
    let other : Store := ⟨[(["h"], .directory), (["h", ".osearch.toml"], .file .empty)]⟩
    (∃ output, env.run (.init false false) = (output, env.store) ∧ output.succeeded = false) ∧
      ∃ output after after', env.run (.init false true) = (output, after) ∧
        (env.withStore other).run (.init false true) = (output, after') ∧
        output.succeeded = true := by
  intro env other
  have shape : env.store.SameShape other := by
    intro place
    simp only [env, other, Store.kind, Store.lookup, List.lookup_cons, List.lookup_nil]
    split
    · rfl
    · cases place == ["h"] <;> cases place == ["h", ".osearch.toml"] <;> rfl
  constructor
  · obtain ⟨output, after, hrun, houtcome, hsucceeds, -⟩ := run_init_all_or_nothing env false false
    rcases houtcome with ⟨hfailed, rfl⟩ | ⟨hsucceeded, -⟩
    · exact ⟨output, hrun, hfailed⟩
    · obtain ⟨directory, hdirectory, -, nothing⟩ := hsucceeds.mp hsucceeded
      cases hdirectory
      exact absurd rfl (nothing (.file "x".toUTF8))
  · obtain ⟨output, after, hrun, -, hsucceeds, hshape⟩ := run_init_all_or_nothing env false true
    obtain ⟨after', hrun', -⟩ := hshape other shape
    refine ⟨output, after, after', hrun, hrun', hsucceeds.mpr ?_⟩
    exact ⟨_, rfl, ⟨["h"], rfl, rfl⟩, by rintro ⟨⟩⟩

end Environment

end BooleanSearch
