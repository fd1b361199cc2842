import BooleanSearch.Toml.Document

/-! # The tables that a TOML document defines

Every entry and every table is defined once. A table that only stands on the way to another one
may still get a header of its own; one that points made may get further entries by points; one
between braces is complete.
-/

namespace BooleanSearch.Toml

/-- How a table came about. -/
inductive Origin
  /-- It stands on the way to another table in a header. -/
  | implicit
  /-- Points in a key made it. -/
  | dotted
  /-- A header names it. -/
  | named
  /-- It stands between braces. -/
  | braces
deriving DecidableEq

/-- A value of a table. -/
inductive Item
  | scalar (scalar : Scalar)
  | array (items : List Item)
  | table (origin : Origin) (entries : List (String × Item))
  /-- The elements of an array of tables: those before the last one, and the last one. -/
  | tables (earlier : List (List (String × Item))) (last : List (String × Item))

/-- The entries of a table, in order. -/
abbrev Table := List (String × Item)

namespace Table

/-- The value of an entry. -/
def get? (name : String) (table : Table) : Option Item := table.lookup name

/-- The table with an entry more at the end. -/
def push (name : String) (item : Item) (table : Table) : Table := table ++ [(name, item)]

/-- The table with another value for an entry. -/
def set (name : String) (item : Item) (table : Table) : Table :=
  table.map fun entry => if entry.1 = name then (name, item) else entry

/-- Adds an entry under a new name. -/
def insertNew (name : String) (item : Item) (table : Table) : Option Table :=
  match table.get? name with
  | none => some (table.push name item)
  | some _ => none

/-- Adds an entry whose key may have points. Only a table that points made may be extended. -/
def define (key : String) (item : Item) : (above : List String) → Table → Option Table
  | [], table => table.insertNew key item
  | name :: above, table =>
    match table.get? name with
    | none => (define key item above []).map fun inner => table.push name (.table .dotted inner)
    | some (.table origin inner) =>
      if origin = .dotted || (origin = .implicit && !above.isEmpty) then
        (define key item above inner).map fun inner => table.set name (.table origin inner)
      else none
    | some (.tables earlier last) =>
      if above.isEmpty then none
      else (define key item above last).map fun last => table.set name (.tables earlier last)
    | some (.scalar _) | some (.array _) => none

/-- Changes the table that the names of a header lead to. -/
def alter (change : Table → Option Table) : (above : List String) → Table → Option Table
  | [], table => change table
  | name :: above, table =>
    match table.get? name with
    | none => (alter change above []).map fun inner => table.push name (.table .implicit inner)
    | some (.table origin inner) =>
      if origin = .braces then none
      else (alter change above inner).map fun inner => table.set name (.table origin inner)
    | some (.tables earlier last) =>
      (alter change above last).map fun last => table.set name (.tables earlier last)
    | some (.scalar _) | some (.array _) => none

/-- Names the table `key`, and fills it. -/
def openTable (key : String) (fill : Table → Option Table) (table : Table) : Option Table :=
  match table.get? key with
  | none => (fill []).map fun inner => table.push key (.table .named inner)
  | some (.table .implicit inner) =>
    (fill inner).map fun inner => table.set key (.table .named inner)
  | some _ => none

/-- Adds an element to the array of tables `key`, and fills it. -/
def openElement (key : String) (fill : Table → Option Table) (table : Table) : Option Table :=
  match table.get? key with
  | none => (fill []).map fun last => table.push key (.tables [] last)
  | some (.tables earlier last) =>
    (fill []).map fun element => table.set key (.tables (earlier ++ [last]) element)
  | some _ => none

end Table

mutual

/-- What a written value stands for. -/
def Value.item? : Value → Option Item
  | .scalar single => some (.scalar single)
  | .array items => (Value.items? items).map .array
  | .inlineTable entries => (Value.fill? entries []).map (.table .braces)

/-- What the items of an array stand for. -/
def Value.items? : List Value → Option (List Item)
  | [] => some []
  | value :: rest => do return (← value.item?) :: (← Value.items? rest)

/-- Adds written entries to a table. -/
def Value.fill? : List (KeyPath × Value) → Table → Option Table
  | [], table => some table
  | (path, value) :: rest, table => do
    let item ← value.item?
    Value.fill? rest (← table.define path.key item path.above)

end

/-- Adds a section to the table of the document. -/
def Section.addTo (part : Section) (table : Table) : Option Table :=
  let fill := Value.fill? part.assignments
  table.alter
    (if part.repeated then Table.openElement part.path.key fill
      else Table.openTable part.path.key fill)
    part.path.above

/-- The table that a document defines. -/
def Document.table? (document : Document) : Option Table := do
  let opening ← Value.fill? document.opening []
  document.sections.foldlM (fun table part => part.addTo table) opening

/-- The table that a text defines, if it is a TOML document. -/
def read (text : String) : Option Table := do (← document text.toList).table?

end BooleanSearch.Toml
