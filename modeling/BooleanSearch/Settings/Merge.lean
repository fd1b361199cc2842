import BooleanSearch.Settings.Draft

/-! # Merging settings files

Files are given with the highest precedence first. Each setting comes from the first file that
has it. A limit that cannot be set is a fault even where another file would win; the file with
the lowest precedence is looked at first.
-/

namespace BooleanSearch

/-- A settings file and what it says. -/
structure SettingsFile where
  path : Path
  draft : Draft

namespace SettingsFile

/-- The limit that a file sets. -/
def maxDepth? (file : SettingsFile) : Option Nat := file.draft.parser.bind ParserDraft.maxDepth

/-- The format that a file sets. -/
def format? (file : SettingsFile) : Option OutputFormat := file.draft.output.bind OutputDraft.format

/-- The settings of a file over those of the files with lower precedence. -/
def applyTo (file : SettingsFile) (lower : Settings) : Except SettingsError Settings :=
  let format := file.format?.getD lower.format
  match file.maxDepth? with
  | none => .ok ⟨lower.maxDepth, format⟩
  | some depth =>
    if Settings.acceptsDepth depth then .ok ⟨depth, format⟩
    else .error (.depthOutOfRange file.path depth)

end SettingsFile

/-- The settings of several files. -/
def mergeSettings : List SettingsFile → Except SettingsError Settings
  | [] => .ok {}
  | file :: lower => do file.applyTo (← mergeSettings lower)

/-- The configuration that several files make. -/
def merge (files : List SettingsFile) : Except SettingsError Configuration := do
  let settings ← mergeSettings files
  return ⟨settings, files.head?.bind fun file => file.path.parent?⟩

end BooleanSearch
