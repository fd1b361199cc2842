import BooleanSearch.Settings.Merge

/-! # Finding settings files

Settings files are looked for in a directory and in those around it, the nearest first, and last
in the home directory, if one is known. A file that says so ends the search.
-/

namespace BooleanSearch

/-- The name of a settings file. -/
def settingsFileName : String := ".osearch.toml"

namespace Environment

/-- The settings file in the home directory. There is none where no home directory is known. -/
def homeFile (env : Environment) : Option Path := env.home.map (·.join settingsFileName)

/-- Whether a path is that of the settings file in the home directory. -/
def isHomeFile (env : Environment) (path : Path) : Bool := env.homeFile.any (path.sameAs ·)

/-- Reads one settings file. -/
def readDraft (env : Environment) (path : Path) : Except SettingsError Draft :=
  match env.readText path with
  | .ok text => Draft.read path text
  | .error cause => .error (.unreadable path cause)

/-- Whether a settings file ends the search. One that cannot be read does not. -/
def endsSearch (env : Environment) (path : Path) : Bool :=
  match env.readDraft path with
  | .ok draft => draft.root == some true
  | .error _ => false

/-- The settings files in these directories up to the first that ends the search, and whether
there is such a one. -/
def upward (env : Environment) : List Path → List Path × Bool
  | [] => ([], false)
  | directory :: others =>
    let file := directory.join settingsFileName
    if env.isFile file then
      if env.endsSearch file then ([file], true)
      else
        let (files, ended) := env.upward others
        (file :: files, ended)
    else env.upward others

/-- The settings files for a directory, the highest precedence first. -/
def discover (env : Environment) (directory : Path) : List Path :=
  let (files, ended) := env.upward directory.ancestors
  if ended then files
  else
    match env.homeFile with
    | some home => if env.isFile home && !files.any (·.sameAs home) then files ++ [home] else files
    | none => files

/-- Reads settings files one after the other, up to the first fault. -/
def readFiles (env : Environment) : List Path → Except SettingsError (List SettingsFile)
  | [] => .ok []
  | path :: others => do
    let draft ← env.readDraft path
    return ⟨path, draft⟩ :: (← env.readFiles others)

/-- The configuration that these files make, the highest precedence first. -/
def loadFiles (env : Environment) (paths : List Path) : Except SettingsError Configuration := do
  merge (← env.readFiles paths)

/-- The configuration for a directory. -/
def load (env : Environment) (directory : Path) : Except SettingsError Configuration :=
  env.loadFiles (env.discover directory)

end Environment

end BooleanSearch
