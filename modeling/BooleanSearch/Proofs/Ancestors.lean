import BooleanSearch.FileSystem.Path
import Mathlib.Data.List.Infix

/-! # The directories around a path

The components of a path decide which path it is. A name that is joined to a path is one component
more at the end; the directories around an absolute path have the shorter beginnings of its
components, down to that of the root alone. So no two of them are the same path.
-/

namespace BooleanSearch.Path

theorem sameAs_iff {path other : Path} :
    path.sameAs other = true ↔ path.components = other.components := by
  simp [sameAs]

theorem components_cons {first : String} {others : List String} (h : first ≠ "" ∨ others ≠ []) :
    (Path.mk (first :: others)).components = first :: meaningful others := by
  unfold components
  split <;> simp_all

theorem components_cons_concat (first : String) (others : List String) (last : String) :
    (Path.mk (first :: others ++ [last])).components = first :: meaningful (others ++ [last]) :=
  components_cons (Or.inr (by simp))

theorem isAbsolute_iff {path : Path} :
    path.isAbsolute = true ↔ ∃ second others, path.segments = "" :: second :: others := by
  unfold isAbsolute
  split <;> simp_all

theorem meaningful_concat {name : String} (h : isVoid name = false) (segments : List String) :
    meaningful (segments ++ [name]) = meaningful segments ++ [name] := by
  simp [meaningful, h]

theorem meaningful_concat_void {name : String} (h : isVoid name = true)
    (segments : List String) : meaningful (segments ++ [name]) = meaningful segments := by
  simp [meaningful, h]

theorem meaningful_reverse_dropWhile (segments : List String) :
    meaningful (segments.dropWhile isVoid).reverse = meaningful segments.reverse := by
  induction segments with
  | nil => rfl
  | cons name before ih =>
    cases h : isVoid name with
    | true => simpa [h, meaningful_concat_void h] using ih
    | false => simp [h]

/-! ### A name behind a path -/

theorem join_concat (before : List String) (last name : String) :
    (Path.mk (before ++ [last])).join name =
      if last = "" then ⟨before ++ [name]⟩ else ⟨before ++ [last] ++ [name]⟩ := by
  unfold join
  simp only [List.getLast?_concat, List.dropLast_concat]
  split <;> simp_all

/-- A joined name is the last segment. -/
theorem exists_segments_join (path : Path) (name : String) :
    ∃ before, (path.join name).segments = before ++ [name] := by
  unfold join
  split <;> exact ⟨_, rfl⟩

/-- A joined name is the last component, unless it means nothing. -/
theorem components_join (path : Path) {name : String} (h : isVoid name = false) :
    (path.join name).components = path.components ++ [name] := by
  have nonempty : name ≠ "" := by
    rintro rfl
    exact absurd h (by decide)
  obtain ⟨segments⟩ := path
  rcases List.eq_nil_or_concat' segments with rfl | ⟨before, last, rfl⟩
  · exact components_cons (Or.inl nonempty)
  rw [join_concat]
  cases before with
  | nil =>
    split
    · next hlast =>
      subst hlast
      exact components_cons (Or.inl nonempty)
    · next hlast =>
      rw [List.nil_append, List.singleton_append, components_cons (Or.inl hlast),
        components_cons (Or.inl hlast)]
      exact congrArg (last :: ·) (meaningful_concat h [])
  | cons first others =>
    rw [components_cons_concat]
    split
    · next hlast =>
      subst hlast
      rw [components_cons_concat, meaningful_concat h, meaningful_concat_void (by decide),
        List.cons_append]
    · rw [List.cons_append, components_cons_concat, meaningful_concat h, List.cons_append]

/-! ### Directories around a path -/

theorem components_ofReversed (first : String) (reversed : List String) :
    (ofReversed first (reversed.dropWhile isVoid)).components =
      first :: meaningful reversed.reverse := by
  rw [← meaningful_reverse_dropWhile]
  cases reversed.dropWhile isVoid with
  | nil =>
    by_cases h : first = ""
    · rw [h]
      rfl
    · rw [ofReversed, if_neg h]
      exact components_cons (Or.inl h)
  | cons name before => exact components_cons (Or.inr (by simp))

/-- The directory around a joined name is the path that it has been joined to, up to segments that
mean nothing. -/
theorem exists_parent?_join (path : Path) {name : String} (h : isVoid name = false) :
    ∃ parent, (path.join name).parent? = some parent ∧ parent.components = path.components := by
  have nonempty : name ≠ "" := by
    rintro rfl
    exact absurd h (by decide)
  have alone : (Path.mk [name]).parent? = some empty := by
    simp [parent?, parents, around, nonempty]
  have behind (first : String) (others : List String) :
      (Path.mk (first :: others ++ [name])).parent? =
        some (ofReversed first (others.reverse.dropWhile isVoid)) := by
    simp [parent?, parents, around, h]
  obtain ⟨segments⟩ := path
  rcases List.eq_nil_or_concat' segments with rfl | ⟨before, last, rfl⟩
  · exact ⟨empty, alone, rfl⟩
  rw [join_concat]
  cases before with
  | nil =>
    split
    · next hlast => exact ⟨empty, alone, by rw [hlast]; rfl⟩
    · next hlast =>
      refine ⟨_, behind last [], (components_ofReversed last []).trans ?_⟩
      exact (components_cons (Or.inl hlast)).symm
  | cons first others =>
    rw [components_cons_concat]
    split
    · next hlast =>
      refine ⟨_, behind first others, ?_⟩
      rw [components_ofReversed, List.reverse_reverse, hlast, meaningful_concat_void (by decide)]
    · refine ⟨_, behind first (others ++ [last]), ?_⟩
      rw [components_ofReversed, List.reverse_reverse]

/-- The components of the directories around a path, with those of the path in front. -/
theorem components_around (reversed : List String) :
    ("" :: meaningful reversed.reverse) :: (around "" reversed).map components =
      ((meaningful reversed.reverse).inits.map ("" :: ·)).reverse := by
  induction reversed with
  | nil => rfl
  | cons name before ih =>
    rw [List.reverse_cons]
    cases h : isVoid name with
    | true => simpa [around, h, meaningful_concat_void h] using ih
    | false =>
      rw [meaningful_concat h, List.inits_append, around, if_neg (by simp [h]), List.map_cons,
        components_ofReversed, ih]
      simp

/-- An absolute path and the directories around it lead through the beginnings of its components,
the whole of them first and the root alone last. -/
theorem components_ancestors {path : Path} (h : path.isAbsolute = true) :
    path.ancestors.map components = path.components.inits.tail.reverse := by
  obtain ⟨segments⟩ := path
  obtain ⟨second, others, rfl⟩ := isAbsolute_iff.mp h
  have around := components_around (second :: others).reverse
  rw [List.reverse_reverse] at around
  rw [ancestors, parents, List.map_cons, components_cons (Or.inr (by simp)), around,
    List.inits_cons, List.tail_cons]

/-- No two beginnings of a list are equal. -/
theorem pairwise_ne_inits {α : Type} (items : List α) : items.inits.Pairwise (· ≠ ·) := by
  induction items with
  | nil => simp
  | cons item items ih =>
    rw [List.inits_cons, List.pairwise_cons, List.pairwise_map]
    exact ⟨by simp, ih.imp fun h => by simpa using h⟩

/-- The directories around an absolute path are different paths, and so is the path itself. -/
theorem pairwise_ancestors {path : Path} (h : path.isAbsolute = true) :
    path.ancestors.Pairwise fun directory other => directory.components ≠ other.components := by
  rw [← List.pairwise_map, components_ancestors h, List.pairwise_reverse]
  exact ((pairwise_ne_inits _).tail).imp Ne.symm

end BooleanSearch.Path
