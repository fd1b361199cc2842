/-! # Text without terminal controls

A message shows the words it was given, but none of the controls in them: characters that mean
something to a terminal are left out, whole control sequences too. Blanks stay, and one inside
a sequence ends it, unless the sequence is a text of its own or a command for the device.
-/

namespace BooleanSearch.Text

/-- Whether a character is a control that moves within a text or to its next line. -/
def isLayoutControl (c : Char) : Bool := c == '\t' || c == '\n' || c == '\x0c' || c == '\r'

/-- Whether a character is a control, blanks apart. -/
def isTerminalControl (c : Char) : Bool := c == '\x7f' || (c < ' ' && !isLayoutControl c)

/-- Whether a character ends a text inside of a control sequence. A terminal waits for one octet,
so every character ends it that has this octet in its UTF-8 form. -/
def endsString (c : Char) : Bool := (String.utf8EncodeChar c).contains 0x9c

/-- What the head of a command for the device has held so far. -/
inductive DeviceHead
  | start
  /-- Numbers, or the mark of a private command before them. -/
  | numbers
  | marks
deriving DecidableEq

/-- Where in a control sequence a character stands. -/
inductive ControlState
  | outside
  /-- Right behind an escape. -/
  | escaped
  /-- Behind an escape and marks, before the character that ends the sequence. -/
  | marked
  /-- Behind an escape and a bracket, before the letter that ends the sequence. -/
  | parameters
  /-- In the head of a command for the device. -/
  | device (head : DeviceHead)
  /-- In a text that the string terminator ends. -/
  | message
  /-- In a text that a bell ends. -/
  | title
deriving DecidableEq

/-- The state behind a character of the head of a command for the device. Its letter begins the text
of the command; numbers out of place make the rest a text that means nothing. -/
def DeviceHead.next (head : DeviceHead) (c : Char) : ControlState :=
  if ' ' ≤ c && c ≤ '/' then .device .marks
  else if '0' ≤ c && c ≤ ';' then if head = .marks then .message else .device .numbers
  else if '<' ≤ c && c ≤ '?' then if head = .start then .device .numbers else .message
  else if '@' ≤ c && c ≤ '~' then .message
  else .device head

/-- The state behind a character of a control sequence, blanks apart. -/
def ControlState.next (state : ControlState) (c : Char) : ControlState :=
  if c = '\x1b' then .escaped
  else if c = '\x18' || c = '\x1a' then .outside
  else
    match state with
    | .outside => .outside
    | .escaped =>
      if c = '[' then .parameters
      else if c = ']' then .title
      else if c = 'P' then .device .start
      else if c = 'X' || c = '^' || c = '_' then .message
      else if ' ' ≤ c && c ≤ '/' then .marked
      else if '0' ≤ c && c ≤ '~' then .outside
      else .escaped
    | .marked => if '0' ≤ c && c ≤ '~' then .outside else .marked
    | .parameters => if '@' ≤ c && c ≤ '~' then .outside else .parameters
    | .device head => head.next c
    | .message => if endsString c then .outside else .message
    | .title => if c = '\x07' then .outside else .title

/-- Whether a character is shown. -/
def ControlState.shows (state : ControlState) (c : Char) : Bool :=
  match state with
  | .outside => !isTerminalControl c
  | .escaped | .marked | .parameters => isLayoutControl c
  | .device _ | .message | .title => false

/-- Leaves the controls out. -/
def withoutControls : ControlState → List Char → List Char
  | _, [] => []
  | state, c :: rest =>
    if state.shows c then c :: withoutControls .outside rest
    else withoutControls (state.next c) rest

end BooleanSearch.Text
