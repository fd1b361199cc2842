import BooleanSearch.Settings.Discovery

/-! # What there is to a single settings file

A path leads to a file or not, a file holds a text or not, and a text is a draft or not. Reading a
settings file succeeds with the draft or fails with the first of these that is missing, and it
depends on nothing but the content of the file.
-/

namespace BooleanSearch.Environment

theorem isVoid_settingsFileName : Path.isVoid settingsFileName = false := by decide

section File

variable (env : Environment)

/-- The content of the file that a path leads to. -/
def content? (path : Path) : Option ByteArray :=
  match env.store.find env.here path with
  | .ok (.file content) => some content
  | _ => none

/-- A path leads to a file with a text that says this. -/
def Holds (path : Path) (draft : Draft) : Prop :=
  ∃ text, env.readText path = .ok text ∧ Draft.ofToml? text = some draft

/-- What is wrong with a path that leads to no draft. -/
inductive Faulty (path : Path) : SettingsError → Prop
  | unreadable {cause : AccessFault} (h : env.readText path = .error cause) :
      Faulty path (.unreadable path cause)
  | malformed {text : String} (readable : env.readText path = .ok text)
      (h : Draft.ofToml? text = none) : Faulty path (.malformed path)

/-- A path leads to a draft that ends the search for further ones. -/
def Closes (path : Path) : Prop := ∃ draft, env.Holds path draft ∧ draft.root = some true

end File

variable {env other : Environment} {path : Path}

/-! ### Reading -/

theorem readDraft_eq_ok_iff {draft : Draft} :
    env.readDraft path = .ok draft ↔ env.Holds path draft := by
  unfold readDraft Holds Draft.read
  cases env.readText path with
  | error cause => simp
  | ok text => cases hdraft : Draft.ofToml? text <;> simp [hdraft]

theorem readDraft_eq_error_iff {error : SettingsError} :
    env.readDraft path = .error error ↔ env.Faulty path error := by
  constructor
  · intro h
    unfold readDraft Draft.read at h
    cases htext : env.readText path with
    | error cause =>
      rw [htext] at h
      cases h
      exact .unreadable htext
    | ok text =>
      rw [htext] at h
      cases hdraft : Draft.ofToml? text with
      | some draft => simp [hdraft] at h
      | none =>
        simp only [hdraft] at h
        cases h
        exact .malformed htext hdraft
  · intro h
    cases h with
    | unreadable h => simp [readDraft, h]
    | malformed readable h => simp [readDraft, Draft.read, readable, h]

/-- A path leads to one draft or has one fault, not both. -/
theorem Faulty.not_holds {error : SettingsError} (h : env.Faulty path error) (draft : Draft) :
    ¬ env.Holds path draft := by
  intro hdraft
  have hok := readDraft_eq_ok_iff.mpr hdraft
  rw [readDraft_eq_error_iff.mpr h] at hok
  cases hok

theorem Holds.eq {draft draft' : Draft} (h : env.Holds path draft) (h' : env.Holds path draft') :
    draft = draft' := by
  have hok := readDraft_eq_ok_iff.mpr h'
  rw [readDraft_eq_ok_iff.mpr h] at hok
  cases hok
  rfl

/-- What can be read stands in a file. -/
theorem Holds.isFile {draft : Draft} (h : env.Holds path draft) : env.isFile path = true := by
  obtain ⟨text, htext, -⟩ := h
  unfold Environment.isFile Store.isFile
  unfold readText Store.readText at htext
  cases hfind : env.store.find env.here path with
  | error cause => simp [hfind, bind, Except.bind] at htext
  | ok entry =>
    cases entry with
    | file content => rfl
    | directory => simp [hfind, bind, Except.bind, throw, throwThe, MonadExceptOf.throw] at htext

theorem Closes.isFile (h : env.Closes path) : env.isFile path = true := by
  obtain ⟨draft, holds, -⟩ := h
  exact holds.isFile

theorem endsSearch_iff : env.endsSearch path = true ↔ env.Closes path := by
  unfold endsSearch Closes
  cases h : env.readDraft path with
  | error error =>
    have faulty := readDraft_eq_error_iff.mp h
    constructor
    · exact nofun
    · exact fun ⟨draft, hdraft, _⟩ => absurd hdraft (faulty.not_holds draft)
  | ok draft =>
    have holds := readDraft_eq_ok_iff.mp h
    constructor
    · exact fun hroot => ⟨draft, holds, by simpa using hroot⟩
    · rintro ⟨draft', holds', hroot⟩
      obtain rfl := holds.eq holds'
      simp [hroot]

/-! ### Contents -/

theorem isFile_eq_isSome (env : Environment) (path : Path) :
    env.isFile path = (env.content? path).isSome := by
  unfold isFile Store.isFile content?
  split <;> simp_all

theorem readText_of_content? {content : ByteArray} (h : env.content? path = some content) :
    env.readText path =
      match String.fromUTF8? content with
      | some text => .ok text
      | none => .error .notText := by
  have hfind : env.store.find env.here path = .ok (.file content) := by
    unfold content? at h
    split at h <;> simp_all
  unfold readText Store.readText
  rw [hfind]
  rfl

theorem fromUTF8?_toUTF8 (text : String) : String.fromUTF8? text.toUTF8 = some text := by
  unfold String.fromUTF8?
  exact dif_pos text.isValidUTF8

theorem readText_of_content?_toUTF8 {text : String}
    (h : env.content? path = some text.toUTF8) : env.readText path = .ok text := by
  rw [readText_of_content? h, fromUTF8?_toUTF8]

/-! ### Two environments in which a path leads to the same content -/

theorem isFile_congr (h : env.content? path = other.content? path) :
    env.isFile path = other.isFile path := by
  rw [isFile_eq_isSome, isFile_eq_isSome, h]

/-- A draft is read from the content of a file alone, whatever else there is. -/
theorem readDraft_congr (h : env.content? path = other.content? path)
    (present : env.isFile path = true) : env.readDraft path = other.readDraft path := by
  rw [isFile_eq_isSome, Option.isSome_iff_exists] at present
  obtain ⟨content, hcontent⟩ := present
  unfold readDraft
  rw [readText_of_content? hcontent, readText_of_content? (h.symm.trans hcontent)]

theorem closes_congr (h : env.content? path = other.content? path) :
    env.Closes path ↔ other.Closes path := by
  cases present : env.isFile path with
  | false =>
    constructor
    · exact fun closes => absurd closes.isFile (by simp [present])
    · exact fun closes => absurd closes.isFile (by simp [← isFile_congr h, present])
  | true =>
    rw [← endsSearch_iff, ← endsSearch_iff]
    unfold endsSearch
    rw [readDraft_congr h present]

end BooleanSearch.Environment
