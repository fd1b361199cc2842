import BooleanSearch.Text.Emoji
import BooleanSearch.Text.Ligature

/-! # Display width

The number of columns that a text takes in a fixed-width font. Most characters take the columns
that they take alone. What stands right of a character may change that: joined emoji are one
picture, a selector asks for a picture or for text, and some letters melt together. So a text is
read from its end, and `Context` keeps what matters of the characters that have been read.
-/

namespace BooleanSearch.Text

/-- What a variation selector asks for. -/
inductive Selector
  | picture
  | text
  /-- A quotation mark as wide as an ideograph. -/
  | wideQuote
deriving DecidableEq

/-- What a character asks for, if it is a selector. -/
def Selector.of? (c : Char) : Option Selector :=
  if c = '\ufe0f' then some .picture
  else if c = '\ufe0e' then some .text
  else if c = '\ufe01' then some .wideQuote
  else none

/-- Whether a character is a curly quotation mark. -/
def isCurlyQuote (c : Char) : Bool :=
  c == '\u2018' || c == '\u2019' || c == '\u201c' || c == '\u201d'

/-- How many letters of flags stand before a joiner and a picture. Two letters are a flag, counted
from the left: the last flag of an even run is part of the picture and takes no column of its own,
the last letter of an odd run stands alone. So each letter more turns one count into the other. -/
inductive FlagRun
  | one
  | even
  | odd
deriving DecidableEq

/-- What stands right of a character, selectors apart. -/
inductive Follower
  | plain
  | tone
  /-- Letters of a flag; whether there are at least two. -/
  | flagLetters (several : Bool)
  | picture
  /-- A joiner and a picture. -/
  | joiner
  /-- The frame of a key, a joiner and a picture. -/
  | keycap
  /-- Letters of a flag, a joiner and a picture. -/
  | flagJoined (run : FlagRun)
  /-- That many letters at the end of a tag, a joiner and a picture. -/
  | tagLetters (count : Nat)
  /-- That many digits before letters of a tag, a joiner and a picture. -/
  | tagDigits (count : Nat)
  /-- The Kirat Rai vowel sign e. -/
  | vowelE
  /-- The Kirat Rai vowel sign ai, which is e written twice. -/
  | vowelAi
  /-- The end of a ligature; whether a joiner stands before it. -/
  | ligature (last : Ligature) (joined : Bool)
deriving DecidableEq

namespace Follower

/-- What a character is for the one on its left, if nothing on its own right matters. -/
def of (c : Char) : Follower :=
  if c.toNat < 0x300 then .plain
  else
    match Ligature.endingIn? c with
    | some last => .ligature last false
    | none =>
      if c.toNat = 0x16d67 then .vowelE
      else if c.toNat = 0x16d68 then .vowelAi
      else if isFlagLetter c then .flagLetters false
      else if isTone c then .tone
      else if isPicture c then .picture
      else .plain

/-- The follower behind a ligature that has been met so far. -/
def ofLigature (joined : Bool) : Option Ligature → Follower
  | some last => .ligature last joined
  | none => .plain

/-- Whether a picture begins here that is joined to another one. -/
def isJoined : Follower → Bool
  | .joiner | .keycap => true
  | _ => false

/-- Whether a selector leaves the follower as it is, ligatures apart. -/
def keepsUnder (selector : Selector) : Follower → Bool
  | .joiner | .keycap => selector == .picture
  | _ => false

/-- What a character makes of its follower: the columns that it adds, which may make up for
others, and the follower of the next character. -/
def meet? (c : Char) : Follower → Option (Int × Follower)
  | .plain | .keycap => none
  | .tone =>
    if takesTone c then some (0, .picture) else if c = '\u200d' then some (0, .joiner) else none
  | .flagLetters several =>
    if isFlagLetter c then some (1, .flagLetters true)
    else if several && c == '\u200d' then some (0, .joiner)
    else none
  | .picture => if c = '\u200d' then some (0, .joiner) else none
  | .joiner =>
    if c = '\u20e3' then some (0, .keycap)
    else if isFlagLetter c then some (1, .flagJoined .one)
    else if isTone c then some (0, .tone)
    else if isTagEnd c then some (0, .tagLetters 0)
    else if isPicture c then some (0, .picture)
    else none
  | .flagJoined run =>
    if isFlagLetter c then
      if run = .even then some (3, .flagJoined .odd) else some (-1, .flagJoined .even)
    else if run != .one && c == '\u200d' then some (0, .joiner)
    else none
  | .tagLetters count =>
    if isTagLetter c && count < 6 then some (0, .tagLetters (count + 1))
    else if isTagDigit c && count < 5 then some (0, .tagDigits 1)
    else if isBlackFlag c && 3 ≤ count then some (0, .picture)
    else none
  | .tagDigits count =>
    if isTagDigit c && count < 3 then some (0, .tagDigits (count + 1))
    else if isBlackFlag c && count == 3 then some (0, .picture)
    else none
  | .vowelE =>
    if c.toNat = 0x16d63 || c.toNat = 0x16d69 then some (0, .plain)
    else if c.toNat = 0x16d67 then some (0, .vowelAi)
    else if c.toNat = 0x16d68 then some (1, .vowelE)
    else none
  | .vowelAi => if c.toNat = 0x16d63 then some (0, .plain) else none
  | .ligature last joined =>
    if last != .alef && c == '\u200d' then some (0, .ligature last true)
    else
      match last.meet? joined c with
      | some (columns, rest) => some (columns, ofLigature false rest)
      | none => if last.passes c then some (0, .ligature last joined) else none

end Follower

/-- What stands right of a character, with the selectors right behind it. Selectors pile up before
the end of a ligature, where the inner ones still ask; elsewhere the outermost replaces the rest. -/
structure Context where
  follower : Follower := .plain
  selectors : List Selector := []

namespace Context

/-- Whether a selector asks the next character for something. -/
def asks (right : Context) (selector : Selector) : Bool := right.selectors.contains selector

/-- The context before a selector. -/
def select (right : Context) (selector : Selector) : Context :=
  match right.follower with
  | .ligature .. => { right with selectors := selector :: right.selectors }
  | follower => ⟨if follower.keepsUnder selector then follower else .plain, [selector]⟩

/-- The context with its selector, if that asked for a picture, passed over. -/
def dropPicture (right : Context) : Context :=
  if right.asks .picture then
    match right.follower with
    | .ligature .. => { right with selectors := right.selectors.filter (· != .picture) }
    | _ => {}
  else right

/-- The columns that a character adds, and the context of the character on its left. -/
def meet (right : Context) (c : Char) : Int × Context :=
  if right.asks .picture && selectsPicture c then
    (if right.follower.isJoined then 0 else 2, ⟨.picture, []⟩)
  else if c ≤ '\u00a0' then (1, {})
  else
    let right := right.dropPicture
    match Selector.of? c with
    | some selector => (0, right.select selector)
    | none =>
      if right.asks .text && selectsNarrowText c then (1, {})
      else if right.asks .wideQuote && isCurlyQuote c then (2, {})
      else
        match right.follower.meet? c with
        | some (columns, follower) => (columns, ⟨follower, []⟩)
        | none => (charWidth c, ⟨.of c, []⟩)

end Context

/-- The columns of a text, and the context that it makes for what stands before it. -/
def measure : List Char → Int × Context
  | [] => (0, {})
  | c :: rest =>
    let (columns, right) := measure rest
    let (added, context) := right.meet c
    (columns + added, context)

/-- The columns of a text. -/
def displayWidth (text : String) : Nat := (measure text.toList).1.toNat

end BooleanSearch.Text
