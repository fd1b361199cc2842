import BooleanSearch.FileSystem.Path

/-! # Files and directories

A store says what stands at each place. A place is the list of names from the root, and a path is
followed to its place name by name, through directories only.
-/

namespace BooleanSearch

/-- The names from the root to a place. -/
abbrev Place := List String

/-- What can stand at a place. -/
inductive Entry
  | file (content : ByteArray)
  | directory

/-- Why a file cannot be read or written. -/
inductive AccessFault
  | missing
  | isDirectory
  | notDirectory
  | notText
deriving DecidableEq

/-- The fault in the words of the system. -/
def AccessFault.message : AccessFault → String
  | .missing => "No such file or directory (os error 2)"
  | .isDirectory => "Is a directory (os error 21)"
  | .notDirectory => "Not a directory (os error 20)"
  | .notText => "stream did not contain valid UTF-8"

/-- The path that leads from the root to a place. -/
def Path.ofPlace : Place → Path
  | [] => .root
  | place => ⟨"" :: place⟩

/-- What stands where, below the root. -/
structure Store where
  entries : List (Place × Entry)

namespace Store

/-- The store with nothing but the root. -/
def empty : Store := ⟨[]⟩

/-- What stands at a place. The root is a directory. -/
def lookup (store : Store) (place : Place) : Option Entry :=
  if place = [] then some .directory else store.entries.lookup place

/-- The store with an entry at a place, whatever stood there before. -/
def put (store : Store) (place : Place) (entry : Entry) : Store :=
  ⟨(place, entry) :: store.entries.filter (·.1 != place)⟩

/-- Refuses a place that holds no directory. -/
def enter (store : Store) (place : Place) : Except AccessFault Unit :=
  match store.lookup place with
  | some .directory => .ok ()
  | some (.file _) => .error .notDirectory
  | none => .error .missing

/-- Follows segments from a place. Each of them, an empty one included, starts in a directory. -/
def walk (store : Store) (place : Place) : List String → Except AccessFault Place
  | [] => .ok place
  | segment :: rest => do
    store.enter place
    if Path.isVoid segment then store.walk place rest
    else if segment = ".." then store.walk place.dropLast rest
    else store.walk (place ++ [segment]) rest

/-- The place that a path leads to from a working directory. -/
def locate (store : Store) (here : Place) (path : Path) : Except AccessFault Place :=
  if path = .empty then .error .missing
  else store.walk (if path.isAbsolute then [] else here) path.segments

/-- What a path leads to. -/
def find (store : Store) (here : Place) (path : Path) : Except AccessFault Entry := do
  match store.lookup (← store.locate here path) with
  | some entry => return entry
  | none => throw .missing

/-- Whether a path leads to anything. -/
def isPresent (store : Store) (here : Place) (path : Path) : Bool :=
  match store.find here path with
  | .ok _ => true
  | .error _ => false

/-- Whether a path leads to a file. -/
def isFile (store : Store) (here : Place) (path : Path) : Bool :=
  match store.find here path with
  | .ok (.file _) => true
  | _ => false

/-- The text of a file. -/
def readText (store : Store) (here : Place) (path : Path) : Except AccessFault String := do
  match ← store.find here path with
  | .directory => throw .isDirectory
  | .file content =>
    match String.fromUTF8? content with
    | some text => return text
    | none => throw .notText

/-- Writes a text to a file, new or not, in a directory that exists. -/
def writeText (store : Store) (here : Place) (path : Path) (text : String) :
    Except AccessFault Store := do
  let place ← store.locate here path
  match store.lookup place with
  | some .directory => throw .isDirectory
  | _ => return store.put place (.file text.toUTF8)

/-- Makes a directory at a place and at every place around it that is empty. -/
def makeDirectories (store : Store) (place : Place) : Store :=
  (List.range (place.length + 1)).foldl (fun store count =>
    match store.lookup (place.take count) with
    | some _ => store
    | none => store.put (place.take count) .directory) store

/-- The store without what stands at a place and below it. -/
def remove (store : Store) (place : Place) : Store :=
  ⟨store.entries.filter fun entry => !place.isPrefixOf entry.1⟩

end Store

/-- Where a command runs: the files, the home directory, if one is known, and the working
directory. -/
structure Environment where
  store : Store
  home : Option Path
  here : Place

namespace Environment

/-- Whether a path leads to a file. -/
def isFile (env : Environment) (path : Path) : Bool := env.store.isFile env.here path

/-- The text of a file. -/
def readText (env : Environment) (path : Path) : Except AccessFault String :=
  env.store.readText env.here path

end Environment

end BooleanSearch
