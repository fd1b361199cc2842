import BooleanSearch.FileSystem.Store
import BooleanSearch.SearchParser

/-! # Settings

The effective settings, their written form, and what can be wrong with a settings file.
-/

namespace BooleanSearch

/-- How queries are shown. -/
inductive OutputFormat
  | tree
  | json
deriving DecidableEq

/-- The name of a format in a settings file. -/
def OutputFormat.name : OutputFormat → String
  | .tree => "tree"
  | .json => "json"

/-- The format with this name. -/
def OutputFormat.ofName? : String → Option OutputFormat
  | "tree" => some .tree
  | "json" => some .json
  | _ => none

/-- The settings that a command runs under. -/
structure Settings where
  maxDepth : Nat := defaultMaxDepth
  format : OutputFormat := .tree
deriving DecidableEq

namespace Settings

/-- The parser that the settings ask for. -/
def parser (settings : Settings) : SearchParser := .ofLimit settings.maxDepth

/-- The settings as a settings file. -/
def toToml (settings : Settings) : String :=
  "[parser]\nmax_depth = " ++ toString settings.maxDepth ++ "\n\n[output]\nformat = \"" ++
    settings.format.name ++ "\"\n"

/-- Whether a limit can be set. -/
def acceptsDepth (depth : Nat) : Bool := 1 ≤ depth && depth ≤ maxSupportedDepth

end Settings

/-- Settings together with the directory of the file that comes first. -/
structure Configuration where
  settings : Settings := {}
  directory : Option Path := none

/-- A fault of a settings file. -/
inductive SettingsError
  | unreadable (path : Path) (cause : AccessFault)
  | malformed (path : Path)
  | depthOutOfRange (path : Path) (depth : Nat)
deriving DecidableEq

/-- The fault in one sentence. -/
def SettingsError.message : SettingsError → String
  | .unreadable path cause =>
    "failed to read config file " ++ path.text ++ ": " ++ cause.message
  | .malformed path => "failed to parse config file " ++ path.text ++ ": TOML parse error"
  | .depthOutOfRange path depth =>
    "invalid max_depth " ++ toString depth ++ " in " ++ path.text ++
      ": must be between 1 and " ++ toString maxSupportedDepth

end BooleanSearch
