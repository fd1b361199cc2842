import BooleanSearch.Program
import BooleanSearch.Proofs.SilentFile

/-! # New settings files say nothing

A template whose lines are all comments is a document without entries, whatever the template sets.
`init` without force puts one where nothing stood, and therefore changes no settings of any
directory.
-/

namespace BooleanSearch

/-! ### Documents without entries -/

namespace Toml

/-- A line that is empty or a comment. -/
inductive IsRemark (line : String) : Prop
  | empty (h : line.toList = [])
  | comment {text : List Char} (h : line.toList = '#' :: text)
      (plain : ∀ c ∈ text, isCommentChar c = true)

theorem skipLayout_comment {text : List Char} (h : ∀ c ∈ text, isCommentChar c = true)
    (rest : List Char) : skipLayout true (text ++ '\n' :: rest) = skipLayout false rest := by
  induction text with
  | nil => rfl
  | cons c text ih =>
    obtain ⟨hc, htext⟩ := List.forall_mem_cons.mp h
    have notFeed : c ≠ '\n' := by
      rintro rfl
      exact absurd hc (by decide)
    have notReturn : c ≠ '\r' := by
      rintro rfl
      exact absurd hc (by decide)
    rw [List.cons_append, skipLayout]
    · simp [hc, ih htext]
    · exact notFeed
    · exact fun _ h => absurd h notReturn

theorem IsRemark.skipLayout {line : String} (h : IsRemark line) (rest : List Char) :
    skipLayout false (line.toList ++ '\n' :: rest) = skipLayout false rest := by
  cases h with
  | empty h =>
    rw [h]
    rfl
  | comment h plain =>
    rw [h]
    exact skipLayout_comment plain rest

theorem assignments_of_skipLayout {input : List Char} (h : skipLayout false input = []) :
    assignments input = some ([], []) := by
  rw [assignments, h]

/-- Where nothing but layout stands, there are no entries. -/
theorem read_of_skipLayout {text : String} (h : skipLayout false text.toList = []) :
    read text = some [] := by
  have noMark : ∀ rest, text.toList ≠ '\ufeff' :: rest := by
    intro rest hrest
    have kept : skipLayout false ('\ufeff' :: rest) = '\ufeff' :: rest := rfl
    rw [hrest, kept] at h
    cases h
  have written : document text.toList = some ⟨[], []⟩ := by
    unfold document
    split
    · next h => exact absurd h (noMark _)
    · simp [assignments_of_skipLayout h, sections]
  rw [read, written]
  rfl

end Toml

/-! ### Commented templates -/

namespace Template

open Toml (IsRemark isCommentChar)

theorem isRemark_commentLine {line : String} (h : line.toList.all isCommentChar = true) :
    IsRemark (commentLine line) := by
  have plain := List.all_eq_true.mp h
  unfold commentLine
  split
  · next unchanged =>
    cases hline : line.toList with
    | nil => exact .empty hline
    | cons c text =>
      rw [hline] at plain
      obtain rfl : c = '#' := by
        have nonempty : line ≠ "" := by
          rintro rfl
          cases hline
        simpa [hline, nonempty] using unchanged
      exact .comment hline (List.forall_mem_cons.mp plain).2
  · have hashed : ("# " ++ line).toList = '#' :: ' ' :: line.toList := by simp
    exact .comment hashed (List.forall_mem_cons.mpr ⟨by decide, plain⟩)

/-- What a template sets is not set where its lines are comments. -/
theorem ofToml?_comment {lines : List String}
    (h : ∀ line ∈ lines, line.toList.all isCommentChar = true) :
    Draft.ofToml? (comment lines) = some {} := by
  have layout : Toml.skipLayout false (comment lines).toList = [] := by
    induction lines with
    | nil => rfl
    | cons line lines ih =>
      obtain ⟨hline, hlines⟩ := List.forall_mem_cons.mp h
      calc Toml.skipLayout false (comment (line :: lines)).toList
        _ = Toml.skipLayout false ((commentLine line).toList ++ '\n' :: (comment lines).toList) := by
          simp [comment]
        _ = Toml.skipLayout false (comment lines).toList :=
          (isRemark_commentLine hline).skipLayout _
        _ = [] := ih hlines
  rw [Draft.ofToml?, Toml.read_of_skipLayout layout]
  rfl

/-- A literal is checked as the characters that it is written with, without decoding it. -/
theorem plain_ofList {text : List Char} (h : text.all isCommentChar = true) :
    (String.ofList text).toList.all isCommentChar = true := by
  rwa [String.toList_ofList]

theorem plain_directoryLines :
    ∀ line ∈ directoryLines, line.toList.all isCommentChar = true := by
  simp only [directoryLines, List.forall_mem_cons, List.not_mem_nil, false_implies, implies_true,
    and_true]
  and_intros <;> exact plain_ofList (by decide +kernel)

theorem plain_homeLines : ∀ line ∈ homeLines, line.toList.all isCommentChar = true := by
  simp only [homeLines, List.forall_mem_cons, List.not_mem_nil, false_implies, implies_true,
    and_true]
  and_intros <;> exact plain_ofList (by decide +kernel)

end Template

/-! ### Making a file -/

/-- What `init` writes says nothing. -/
theorem Environment.ofToml?_of_initTarget {env : Environment} {global : Bool} {path : Path}
    {text : String} (h : env.initTarget global = some (path, text)) :
    Draft.ofToml? text = some {} := by
  unfold Environment.initTarget at h
  split at h
  · obtain ⟨home, -, made⟩ := Option.map_eq_some_iff.mp h
    cases made
    exact Template.ofToml?_comment Template.plain_homeLines
  · cases h
    exact Template.ofToml?_comment Template.plain_directoryLines

/-- A file that is made where nothing could be found is a new one. -/
theorem Store.gains_of_writeText {store after : Store} {here : Place} {path : Path} {text : String}
    (absent : store.isPresent here path = false)
    (written : store.writeText here path text = .ok after) :
    ∃ place, store.locate here path = .ok place ∧ store.Gains after place text.toUTF8 := by
  unfold Store.writeText at written
  unfold Store.isPresent Store.find at absent
  cases hplace : store.locate here path with
  | error cause => simp [hplace, bind, Except.bind] at written
  | ok place =>
    cases hentry : store.lookup place with
    | some entry => simp [hplace, hentry, bind, Except.bind, pure, Except.pure] at absent
    | none =>
      simp only [hplace, hentry, bind, Except.bind, pure, Except.pure] at written
      cases written
      exact ⟨place, rfl, store.gains_put hentry _⟩

namespace Environment

/-- A new file with a text that says nothing is one, whichever path leads to it. -/
theorem gainsSilent_of_gains {env : Environment} {after : Store} {place : Place} {text : String}
    (gains : env.store.Gains after place text.toUTF8) (silent : Draft.ofToml? text = some {}) :
    env.GainsSilent (env.withStore after) where
  home := rfl
  kept file present := by
    by_cases h : env.store.locate env.here file = .ok place
    · rw [isFile_eq_isSome, (content?_of_locate gains h).1] at present
      cases present
    · exact content?_of_locate_ne gains h
  silent file absent present := by
    by_cases h : env.store.locate env.here file = .ok place
    · exact ⟨text, readText_of_content?_toUTF8 (content?_of_locate gains h).2, silent⟩
    · rw [isFile_congr (content?_of_locate_ne gains h), absent] at present
      cases present

theorem gainsSilent_of_runInit {env : Environment} {global : Bool}
    (h : (env.runInit global false).1.succeeded = true) :
    env.GainsSilent (env.withStore (env.runInit global false).2) := by
  unfold runInit at h ⊢
  cases target : env.initTarget global with
  | none => simp [target, Output.failure] at h
  | some made =>
    obtain ⟨path, text⟩ := made
    rw [target] at h
    dsimp only at h ⊢
    cases absent : env.store.isPresent env.here path with
    | true => simp [absent, Output.failure] at h
    | false =>
      cases written : env.store.writeText env.here path text with
      | error cause => simp [absent, written, Output.failure] at h
      | ok after =>
        obtain ⟨place, -, gains⟩ := Store.gains_of_writeText absent written
        simpa [absent] using gainsSilent_of_gains gains (ofToml?_of_initTarget target)

/-- Where `init` without force succeeds, every directory is left with the settings that it had, or
with the fault: the file that it makes sets nothing and hides nothing. -/
theorem load_settings_of_run_init (env : Environment) {global : Bool}
    (h : (env.run (.init global false)).1.succeeded = true) (directory : Path) :
    ((env.withStore (env.run (.init global false)).2).load directory).map Configuration.settings =
      (env.load directory).map Configuration.settings :=
  (gainsSilent_of_runInit h).load_settings directory

/-- A new file in the home directory is found before a broken one above it, which is a fault as it
was before. -/
theorem load_settings_of_run_init_under_broken_file :
    let env : Environment :=
      { store := ⟨[(["h"], .directory), ([".osearch.toml"], .file "x".toUTF8)]⟩
        home := some (.ofText "/h")
        here := ["h"] }
    let after := env.withStore (env.run (.init false false)).2
    (env.run (.init false false)).1.succeeded = true ∧
      after.isFile (.ofText "/h/.osearch.toml") = true ∧
      (after.load (.ofText "/h")).map Configuration.settings =
        .error (.malformed (.ofText "/.osearch.toml")) := by
  intro env after
  have success : (env.run (.init false false)).1.succeeded = true := rfl
  refine ⟨success, rfl, ?_⟩
  rw [load_settings_of_run_init env success]
  have malformed : env.Faulty (.ofText "/.osearch.toml") _ :=
    .malformed (readText_of_content?_toUTF8 rfl) (by decide +kernel : Draft.ofToml? "x" = none)
  have passes : ∀ file ∈ env.filesIn (Path.ofText "/h").ancestors, ¬ env.Closes file :=
    List.forall_mem_singleton.mpr (Passable.faulty malformed).not_closes
  have found : env.discover (.ofText "/h") = [.ofText "/.osearch.toml"] :=
    discover_eq_of_finds (.of_needless passes rfl (Or.inl rfl))
  have faulty : env.FirstFaulty [.ofText "/.osearch.toml"] _ := ⟨[], _, [], rfl, nofun, malformed⟩
  rw [load, found, (Loads.faulty faulty).loadFiles_eq]
  rfl

end Environment

end BooleanSearch
