/-! # Paths

A path is the list of its segments, the parts of its text between slashes. An absolute path
starts with an empty segment. Empty segments elsewhere and single dots mean nothing, but they
stay in the text; only a dot at the front of a relative path counts.
-/

namespace BooleanSearch

/-- A path of a file system. -/
structure Path where
  segments : List String
deriving DecidableEq

namespace Path

/-- Splits at every slash. -/
def splitSlashes : List Char → List (List Char)
  | [] => [[]]
  | '/' :: rest => [] :: splitSlashes rest
  | c :: rest =>
    match splitSlashes rest with
    | [] => [[c]]
    | first :: others => (c :: first) :: others

/-- The path with this text. -/
def ofText (text : String) : Path := ⟨(splitSlashes text.toList).map String.ofList⟩

/-- The text of a path. -/
def text (path : Path) : String := "/".intercalate path.segments

/-- The empty path. -/
def empty : Path := ⟨[""]⟩

/-- The path of the root. -/
def root : Path := ⟨["", ""]⟩

/-- Whether a path starts at the root. -/
def isAbsolute (path : Path) : Bool :=
  match path.segments with
  | "" :: _ :: _ => true
  | _ => false

/-- Whether a segment means nothing. -/
def isVoid (segment : String) : Bool := segment == "" || segment == "."

/-- The segments after the first one, without those that mean nothing. -/
def meaningful (segments : List String) : List String := segments.filter (!isVoid ·)

/-- What a path leads through, one name after the other. The root is an empty name. -/
def components (path : Path) : List String :=
  match path.segments with
  | [] | [""] => []
  | first :: others => first :: meaningful others

/-- Whether two paths lead through the same names. -/
def sameAs (path other : Path) : Bool := path.components == other.components

/-- The path with this first segment and these others, given backwards. -/
def ofReversed (first : String) : List String → Path
  | [] => if first = "" then root else ⟨[first]⟩
  | others => ⟨first :: others.reverse⟩

/-- The directories around a path, the nearest one first. The segments after the first one are
given backwards; each that means something stands in a directory of its own. -/
def around (first : String) : List String → List Path
  | [] => if first = "" then [] else [empty]
  | name :: before =>
    if isVoid name then around first before
    else ofReversed first (before.dropWhile isVoid) :: around first before

/-- The directories around a path. The root and the empty path have none. -/
def parents (path : Path) : List Path :=
  match path.segments with
  | [] => []
  | first :: others => around first others.reverse

/-- The directory that holds the last name of a path. -/
def parent? (path : Path) : Option Path := path.parents.head?

/-- A path and the directories around it. -/
def ancestors (path : Path) : List Path := path :: path.parents

/-- The path with a name behind it. -/
def join (path : Path) (name : String) : Path :=
  match path.segments.getLast? with
  | some "" => ⟨path.segments.dropLast ++ [name]⟩
  | _ => ⟨path.segments ++ [name]⟩

end Path

end BooleanSearch
