import BooleanSearch.Toml.Layout

/-! # Texts of a TOML document

A text stands between double quotes, with escapes, or between single quotes, as it is; three
quotes on each side let it run over several lines. Every reader here starts behind the opening
quotes and leaves what follows the closing ones.
-/

namespace BooleanSearch.Toml

/-- Whether a character may stand in a text on one line. -/
def isTextChar (c : Char) : Bool := isCommentChar c

/-- The value of a hexadecimal digit. -/
def hexValue? (c : Char) : Option Nat :=
  if '0' ≤ c && c ≤ '9' then some (c.toNat - '0'.toNat)
  else if 'a' ≤ c && c ≤ 'f' then some (c.toNat - 'a'.toNat + 10)
  else if 'A' ≤ c && c ≤ 'F' then some (c.toNat - 'A'.toNat + 10)
  else none

/-- What a character after a backslash stands for. -/
inductive Escape
  | char (c : Char)
  /-- A code point, written with this many hexadecimal digits. -/
  | code (digits : Nat)

/-- The meaning of the character after a backslash. -/
def Escape.of? : Char → Option Escape
  | 'b' => some (.char '\x08')
  | 'e' => some (.char '\x1b')
  | 'f' => some (.char '\x0c')
  | 'n' => some (.char '\n')
  | 'r' => some (.char '\r')
  | 't' => some (.char '\t')
  | '"' => some (.char '"')
  | '\\' => some (.char '\\')
  | 'x' => some (.code 2)
  | 'u' => some (.code 4)
  | 'U' => some (.code 8)
  | _ => none

/-- How far the reading of an escape has come. -/
inductive EscapeState
  /-- Not in an escape. -/
  | outside
  /-- Right behind a backslash. -/
  | started
  /-- In the digits of a code point: how many are missing, and the value so far. -/
  | digits (missing value : Nat)
  /-- Behind a backslash and spaces, before the line end that has to follow. -/
  | lineEnding
  /-- Behind a backslash at the end of a line, where blanks mean nothing. -/
  | folding

/-- One step inside an escape: the next state, and the character that the escape gave. -/
def EscapeState.next? (state : EscapeState) (c : Char) : Option (EscapeState × Option Char) :=
  match state with
  | .started =>
    match Escape.of? c with
    | some (.char meant) => some (.outside, some meant)
    | some (.code count) => some (.digits count 0, none)
    | none => none
  | .digits missing value => do
    let value := 16 * value + (← hexValue? c)
    if 1 < missing then some (.digits (missing - 1) value, none)
    else if value.isValidChar then some (.outside, some (Char.ofNat value))
    else none
  | .outside | .lineEnding | .folding => none

/-- Puts a character before a text that has been read. -/
def consChar (c : Char) (read : List Char × List Char) : List Char × List Char :=
  (c :: read.1, read.2)

/-- Puts the character that an escape gave, if it gave one, before a text that has been read. -/
def consChar? (c : Option Char) (read : List Char × List Char) : List Char × List Char :=
  match c with
  | some c => consChar c read
  | none => read

/-- A text between double quotes on one line. -/
def basicText (state : EscapeState) : List Char → Option (List Char × List Char)
  | [] => none
  | c :: rest =>
    match state with
    | .outside =>
      if c = '"' then some ([], rest)
      else if c = '\\' then basicText .started rest
      else if isTextChar c then (basicText .outside rest).map (consChar c)
      else none
    | _ =>
      match state.next? c with
      | some (state, meant) => (basicText state rest).map (consChar? meant)
      | none => none

/-- A text between single quotes on one line. -/
def literalText : List Char → Option (List Char × List Char)
  | [] => none
  | c :: rest =>
    if c = '\'' then some ([], rest)
    else if isTextChar c then (literalText rest).map (consChar c)
    else none

/-- A text between three double quotes on each side. Up to two quotes may touch the closing
ones. -/
def basicLines (state : EscapeState) : List Char → Option (List Char × List Char)
  | [] => none
  | '\r' :: '\n' :: rest =>
    match state with
    | .outside => (basicLines .outside rest).map (consChar '\n')
    | .started | .lineEnding | .folding => basicLines .folding rest
    | .digits .. => none
  | c :: rest =>
    match state with
    | .started =>
      if c = '\n' then basicLines .folding rest
      else if isSpace c then basicLines .lineEnding rest
      else
        match state.next? c with
        | some (state, meant) => (basicLines state rest).map (consChar? meant)
        | none => none
    | .digits .. =>
      match state.next? c with
      | some (state, meant) => (basicLines state rest).map (consChar? meant)
      | none => none
    | .lineEnding =>
      if c = '\n' then basicLines .folding rest
      else if isSpace c then basicLines .lineEnding rest
      else none
    | .outside | .folding =>
      if c = '\n' || isSpace c then
        match state with
        | .folding => basicLines .folding rest
        | _ => (basicLines .outside rest).map (consChar c)
      else if c = '\\' then basicLines .started rest
      else if c = '"' then
        match rest with
        | '"' :: '"' :: '"' :: '"' :: after => some (['"', '"'], after)
        | '"' :: '"' :: '"' :: after => some (['"'], after)
        | '"' :: '"' :: after => some ([], after)
        | _ => (basicLines .outside rest).map (consChar '"')
      else if isTextChar c then (basicLines .outside rest).map (consChar c)
      else none

/-- A text between three single quotes on each side. Up to two quotes may touch the closing
ones. -/
def literalLines : List Char → Option (List Char × List Char)
  | [] => none
  | '\r' :: '\n' :: rest => (literalLines rest).map (consChar '\n')
  | c :: rest =>
    if c = '\'' then
      match rest with
      | '\'' :: '\'' :: '\'' :: '\'' :: after => some (['\'', '\''], after)
      | '\'' :: '\'' :: '\'' :: after => some (['\''], after)
      | '\'' :: '\'' :: after => some ([], after)
      | _ => (literalLines rest).map (consChar '\'')
    else if c = '\n' || isTextChar c then (literalLines rest).map (consChar c)
    else none

/-- Drops a line end right behind the opening quotes. -/
def skipFirstLineEnd : List Char → List Char
  | '\n' :: rest => rest
  | '\r' :: '\n' :: rest => rest
  | input => input

/-- A text that may not run over several lines, with its opening quote. -/
def lineText : List Char → Option (List Char × List Char)
  | '"' :: rest => basicText .outside rest
  | '\'' :: rest => literalText rest
  | _ => none

/-- A text of any kind, with its opening quotes. -/
def anyText : List Char → Option (List Char × List Char)
  | '"' :: '"' :: '"' :: rest => basicLines .outside (skipFirstLineEnd rest)
  | '\'' :: '\'' :: '\'' :: rest => literalLines (skipFirstLineEnd rest)
  | input => lineText input

end BooleanSearch.Toml
