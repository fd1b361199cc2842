import BooleanSearch.Settings
import BooleanSearch.Toml.Table

/-! # What one settings file says

A draft keeps every setting optional. Names that are not settings are passed over, but what they
stand for has to be readable: a number that is too large to be held is a fault anywhere.
-/

namespace BooleanSearch

open Toml (Item Table)

/-- The section `[parser]` of a file. -/
structure ParserDraft where
  maxDepth : Option Nat := none
deriving DecidableEq

/-- The section `[output]` of a file. -/
structure OutputDraft where
  format : Option OutputFormat := none
deriving DecidableEq

/-- A settings file. -/
structure Draft where
  /-- Whether the search for further files ends here. -/
  root : Option Bool := none
  parser : Option ParserDraft := none
  output : Option OutputDraft := none
deriving DecidableEq

/-- Whether a whole number can be held: in 128 bits, with or without a sign. -/
def Toml.fitsWord (value : Int) : Bool := -Int.pow 2 127 ≤ value && value < Int.pow 2 128

mutual

/-- Whether every number inside can be held. -/
def Toml.Item.fits : Item → Bool
  | .scalar (.decimal fits) => fits
  | .scalar (.integer value) => Toml.fitsWord value
  | .scalar _ => true
  | .array items => fitItems items
  | .table _ entries => fitEntries entries
  | .tables earlier last => fitTables earlier && fitEntries last

/-- Whether every number inside the items can be held. -/
def Toml.fitItems : List Item → Bool
  | [] => true
  | item :: rest => item.fits && fitItems rest

/-- Whether every number inside the entries can be held. -/
def Toml.fitEntries : List (String × Item) → Bool
  | [] => true
  | (_, item) :: rest => item.fits && fitEntries rest

/-- Whether every number inside the tables can be held. -/
def Toml.fitTables : List (List (String × Item)) → Bool
  | [] => true
  | entries :: rest => fitEntries entries && fitTables rest

end

namespace Draft

/-- Whether all entries but those with these names can be passed over. -/
def passesOver (names : List String) (table : Table) : Bool :=
  table.all fun entry => names.contains entry.1 || entry.2.fits

/-- A section with one setting. It may also be written as an array that starts with the setting,
and a date in its place says nothing. -/
def section? {α : Type} (name : String) (setting? : Item → Option α) : Item → Option (Option α)
  | .table _ entries =>
    if passesOver [name] entries then
      match Table.get? name entries with
      | some item => (setting? item).map some
      | none => some none
    else none
  | .array [] => some none
  | .array (item :: _) => (setting? item).map some
  | .tables [] last => (setting? (.table .named last)).map some
  | .tables (first :: _) _ => (setting? (.table .named first)).map some
  | .scalar .moment => some none
  | .scalar _ => none

/-- A limit. -/
def depth? : Item → Option Nat
  | .scalar (.integer value) => if 0 ≤ value && value < Int.pow 2 64 then some value.toNat else none
  | _ => none

/-- A format: its name, or a table with nothing but an empty entry of its name. -/
def format? : Item → Option OutputFormat
  | .scalar (.text name) => OutputFormat.ofName? name
  | .table _ [(name, .table _ [])] | .table _ [(name, .array [])] => OutputFormat.ofName? name
  | _ => none

/-- A truth value. -/
def boolean? : Item → Option Bool
  | .scalar (.boolean value) => some value
  | _ => none

/-- Reads an entry if there is one. -/
def entry? {α : Type} (table : Table) (name : String) (read : Item → Option α) :
    Option (Option α) :=
  match table.get? name with
  | some item => (read item).map some
  | none => some none

/-- The settings that a table holds. -/
def ofTable? (table : Table) : Option Draft := do
  let root ← entry? table "root" boolean?
  let parser ← entry? table "parser" (section? "max_depth" depth?)
  let output ← entry? table "output" (section? "format" format?)
  if passesOver ["root", "parser", "output"] table then
    some ⟨root, parser.map (⟨·⟩), output.map (⟨·⟩)⟩
  else none

/-- The settings in a text. -/
def ofToml? (text : String) : Option Draft := do ofTable? (← Toml.read text)

/-- The settings in the text of a file. -/
def read (path : Path) (text : String) : Except SettingsError Draft :=
  match ofToml? text with
  | some draft => .ok draft
  | none => .error (.malformed path)

end Draft

end BooleanSearch
