import BooleanSearch.Proofs.Ancestors
import BooleanSearch.Proofs.SettingsFile

/-! # A file where nothing stood

Paths with the same components lead to the same place, if their last segment means something. A
file that is put at a place where nothing stood changes what the paths to this place lead to, and
nothing else: no other path went through it before, and none can go through a file.
-/

namespace BooleanSearch

/-! ### Where a path leads -/

namespace Path

theorem meaningful_components (path : Path) :
    meaningful path.components = meaningful path.segments := by
  rcases path with ⟨_ | ⟨first, others⟩⟩
  · rfl
  by_cases h : first = "" ∧ others = []
  · rw [h.1, h.2]
    rfl
  · rw [components_cons (Decidable.not_and_iff_or_not.mp h)]
    cases hvoid : isVoid first <;> simp [meaningful, hvoid]

theorem isAbsolute_eq (path : Path) :
    path.isAbsolute = (path.components.head? == some "") := by
  rcases path with ⟨_ | ⟨first, others⟩⟩
  · rfl
  by_cases h : first = "" ∧ others = []
  · rw [h.1, h.2]
    rfl
  · rw [components_cons (Decidable.not_and_iff_or_not.mp h)]
    cases others with
    | nil => simp_all [isAbsolute]
    | cons second others => by_cases first = "" <;> simp_all [isAbsolute]

end Path

namespace Store

variable (store : Store)

/-- A walk that goes on starts in a directory. -/
theorem enter_walk (place : Place) {segments : List String} (h : segments ≠ []) :
    (do store.enter place; store.walk place segments) = store.walk place segments := by
  cases segments with
  | nil => exact absurd rfl h
  | cons segment rest =>
    unfold walk
    cases store.enter place <;> rfl

/-- Segments that mean nothing make no difference on the way to a name. -/
theorem walk_meaningful (place : Place) (segments : List String) (name : String) :
    store.walk place (segments ++ [name]) =
      store.walk place (Path.meaningful segments ++ [name]) := by
  induction segments generalizing place with
  | nil => rfl
  | cons segment rest ih =>
    rw [List.cons_append, walk]
    cases h : Path.isVoid segment with
    | true =>
      rw [if_pos rfl, ih, enter_walk store place (by simp)]
      simp [Path.meaningful, h]
    | false =>
      have kept : Path.meaningful (segment :: rest) = segment :: Path.meaningful rest := by
        simp [Path.meaningful, h]
      simp only [kept, List.cons_append, walk, h, ih]

theorem locate_eq_walk (here : Place) {path : Path} {before : List String} {name : String}
    (hpath : path.segments = before ++ [name]) (hname : Path.isVoid name = false) :
    store.locate here path =
      store.walk (if path.components.head? == some "" then [] else here)
        (Path.meaningful path.components) := by
  have nonempty : path ≠ .empty := by
    rintro rfl
    have single : [] ++ [""] = before ++ [name] := hpath
    obtain ⟨-, hlast⟩ := List.append_inj' single rfl
    obtain rfl : "" = name := by simpa using hlast
    exact absurd hname (by decide)
  rw [locate, if_neg nonempty, Path.isAbsolute_eq, hpath, walk_meaningful,
    ← Path.meaningful_concat hname, ← hpath, Path.meaningful_components]

/-- Paths to one name that have the same components lead to the same place. -/
theorem locate_join_congr (here : Place) {directory directory' : Path} {name : String}
    (hname : Path.isVoid name = false)
    (h : (directory.join name).sameAs (directory'.join name) = true) :
    store.locate here (directory.join name) = store.locate here (directory'.join name) := by
  obtain ⟨before, hbefore⟩ := Path.exists_segments_join directory name
  obtain ⟨before', hbefore'⟩ := Path.exists_segments_join directory' name
  rw [locate_eq_walk store here hbefore hname, locate_eq_walk store here hbefore' hname,
    Path.sameAs_iff.mp h]

/-! ### A store with one file more -/

/-- A store has got a file with this content at a place where nothing stood. -/
structure Gains (store after : Store) (place : Place) (content : ByteArray) : Prop where
  absent : store.lookup place = none
  present : after.lookup place = some (.file content)
  same : ∀ other, other ≠ place → after.lookup other = store.lookup other

theorem lookup_put {place : Place} (h : place ≠ []) (entry : Entry) :
    (store.put place entry).lookup place = some entry := by
  simp [lookup, put, h]

theorem lookup_filter_ne {place other : Place} (h : other ≠ place)
    (entries : List (Place × Entry)) :
    (entries.filter (·.1 != place)).lookup other = entries.lookup other := by
  induction entries with
  | nil => rfl
  | cons first entries ih =>
    obtain ⟨key, entry⟩ := first
    by_cases hkey : key = place
    · subst hkey
      have hother : (other == key) = false := by simpa using h
      simp [List.lookup_cons, hother, ih]
    · simp [hkey, List.lookup_cons, ih]

theorem lookup_put_of_ne {place other : Place} (h : other ≠ place) (entry : Entry) :
    (store.put place entry).lookup other = store.lookup other := by
  have hother : (other == place) = false := by simpa using h
  simp [lookup, put, List.lookup_cons, hother, lookup_filter_ne h]

theorem gains_put {place : Place} (h : store.lookup place = none) (content : ByteArray) :
    store.Gains (store.put place (.file content)) place content where
  absent := h
  present := store.lookup_put (by rintro rfl; simp [lookup] at h) _
  same _ hother := store.lookup_put_of_ne hother _

variable {store}

theorem enter_eq_ok_iff {place : Place} :
    store.enter place = .ok () ↔ store.lookup place = some .directory := by
  unfold enter
  split <;> simp_all

theorem enter_bind_eq_ok_iff {α : Type} {place : Place} {next : Except AccessFault α} {value : α} :
    (do store.enter place; next) = .ok value ↔ store.enter place = .ok () ∧ next = .ok value := by
  cases store.enter place with
  | error cause => exact ⟨nofun, fun h => nomatch h.1⟩
  | ok entered => exact ⟨fun h => ⟨rfl, h⟩, fun h => h.2⟩

theorem find_eq_ok_iff {here : Place} {path : Path} {entry : Entry} :
    store.find here path = .ok entry ↔
      ∃ place, store.locate here path = .ok place ∧ store.lookup place = some entry := by
  unfold find
  cases store.locate here path with
  | error cause => exact ⟨nofun, fun ⟨_, h, _⟩ => nomatch h⟩
  | ok located =>
    simp only [bind, Except.bind, Except.ok.injEq, exists_eq_left']
    split
    · next hlookup => simp [hlookup, pure, Except.pure]
    · next hlookup => simp [hlookup, throw, throwThe, MonadExceptOf.throw]

namespace Gains

variable {after : Store} {place : Place} {content : ByteArray}

theorem enter_eq_ok_iff (gains : store.Gains after place content) (other : Place) :
    after.enter other = .ok () ↔ store.enter other = .ok () := by
  rw [Store.enter_eq_ok_iff, Store.enter_eq_ok_iff]
  by_cases h : other = place
  · rw [h, gains.absent, gains.present]
    simp
  · rw [gains.same other h]

/-- A new file is no way to anything, and was none. -/
theorem walk_eq_ok_iff (gains : store.Gains after place content) (start : Place)
    (segments : List String) (reached : Place) :
    after.walk start segments = .ok reached ↔ store.walk start segments = .ok reached := by
  induction segments generalizing start with
  | nil => rfl
  | cons segment rest ih =>
    rw [walk, walk, enter_bind_eq_ok_iff, enter_bind_eq_ok_iff, gains.enter_eq_ok_iff]
    refine and_congr_right fun _ => ?_
    split
    · exact ih start
    · split
      · exact ih start.dropLast
      · exact ih (start ++ [segment])

theorem locate_eq_ok_iff (gains : store.Gains after place content) (here : Place) (path : Path)
    (reached : Place) :
    after.locate here path = .ok reached ↔ store.locate here path = .ok reached := by
  unfold locate
  split
  · rfl
  · exact gains.walk_eq_ok_iff _ _ _

end Gains

end Store

/-! ### What the paths lead to -/

namespace Environment

theorem content?_eq_some_iff {env : Environment} {path : Path} {content : ByteArray} :
    env.content? path = some content ↔
      ∃ place, env.store.locate env.here path = .ok place ∧
        env.store.lookup place = some (.file content) := by
  rw [← Store.find_eq_ok_iff]
  unfold content?
  cases env.store.find env.here path with
  | error cause => simp
  | ok entry => cases entry <;> simp

/-- The environment with other files. -/
def withStore (env : Environment) (store : Store) : Environment := { env with store := store }

section

variable {env : Environment} {after : Store} {place : Place} {content : ByteArray} {path : Path}

/-- A path to the place of the new file leads there now, and led to nothing before. -/
theorem content?_of_locate (gains : env.store.Gains after place content)
    (h : env.store.locate env.here path = .ok place) :
    env.content? path = none ∧ (env.withStore after).content? path = some content := by
  constructor
  · rw [Option.eq_none_iff_forall_ne_some]
    intro content' hcontent
    obtain ⟨place', hplace', hlookup⟩ := content?_eq_some_iff.mp hcontent
    obtain rfl := Except.ok.inj (h.symm.trans hplace')
    rw [gains.absent] at hlookup
    cases hlookup
  · exact content?_eq_some_iff.mpr ⟨place, (gains.locate_eq_ok_iff _ _ _).mpr h, gains.present⟩

/-- Any other path leads to what it led to before. -/
theorem content?_of_locate_ne (gains : env.store.Gains after place content)
    (h : env.store.locate env.here path ≠ .ok place) :
    (env.withStore after).content? path = env.content? path := by
  refine Option.ext fun content' => ?_
  rw [content?_eq_some_iff, content?_eq_some_iff]
  refine exists_congr fun place' => ?_
  refine (and_congr_left' (gains.locate_eq_ok_iff _ _ _)).trans (and_congr_right fun hplace' => ?_)
  have different : place' ≠ place := by
    rintro rfl
    exact h hplace'
  exact iff_of_eq (congrArg (· = _) (gains.same place' different))

end

end Environment

end BooleanSearch
