import BooleanSearch.Text.CharWidth

/-! # Letters that melt together

In some scripts two letters that follow each other are drawn as one sign, which is narrower than
the two. A ligature is found from its end: `Ligature` tells what has been met of it so far, and
`Ligature.meet?` what the character on its left makes of it.
-/

namespace BooleanSearch.Text

/-- Zero-width characters that keep a lam and an alef apart when they stand between them. -/
def separatingRanges : List CodeRange :=
  [(0x605, 0x605), (0x890, 0x891), (0x8e2, 0x8e2), (0x9be, 0x9be), (0x9d7, 0x9d7), (0xb3e, 0xb3e),
   (0xb57, 0xb57), (0xbbe, 0xbbe), (0xbd7, 0xbd7), (0xcc0, 0xcc0), (0xcc2, 0xcc2), (0xcc7, 0xcc8),
   (0xcca, 0xccb), (0xcd5, 0xcd6), (0xd3e, 0xd3e), (0xd4e, 0xd4e), (0xd57, 0xd57), (0xdcf, 0xdcf),
   (0xddf, 0xddf), (0x1160, 0x11ff), (0x1715, 0x1715), (0x1734, 0x1734), (0x180e, 0x180e),
   (0x1b35, 0x1b35), (0x1b3b, 0x1b3b), (0x1b3d, 0x1b3d), (0x1b43, 0x1b44), (0x1baa, 0x1baa),
   (0x1bf2, 0x1bf3), (0x200c, 0x200d), (0x2065, 0x2069), (0x302e, 0x302f), (0x3164, 0x3164),
   (0xa8fa, 0xa8fa), (0xa953, 0xa953), (0xa9c0, 0xa9c0), (0xd7b0, 0xd7c6), (0xd7cb, 0xd7fb),
   (0xffa0, 0xffa0), (0xfff0, 0xfff8), (0x111c0, 0x111c0), (0x111c2, 0x111c3), (0x11235, 0x11235),
   (0x1133e, 0x1133e), (0x1134d, 0x1134d), (0x11357, 0x11357), (0x113b8, 0x113b8),
   (0x113c2, 0x113c2), (0x113c5, 0x113c5), (0x113c7, 0x113c9), (0x113cf, 0x113cf),
   (0x113d1, 0x113d1), (0x114b0, 0x114b0), (0x114bd, 0x114bd), (0x115af, 0x115af),
   (0x116b6, 0x116b6), (0x11930, 0x11930), (0x1193d, 0x1193d), (0x1193f, 0x1193f),
   (0x11941, 0x11941), (0x11a84, 0x11a89), (0x11d46, 0x11d46), (0x11f02, 0x11f02),
   (0x11f41, 0x11f41), (0x16ff0, 0x16ff1), (0x1d165, 0x1d166), (0x1d16d, 0x1d172),
   (0xe0000, 0xe0000), (0xe0002, 0xe001f), (0xe0080, 0xe00ff), (0xe01f0, 0xe0fff)]

/-- Whether a character may stand between a lam and an alef that melt together. -/
def letsArabicMelt (c : Char) : Bool := isZeroWidth c && !inRanges separatingRanges c

/-- Whether a character may stand inside of the other ligatures: marks that are not meant to be
seen. -/
def letsMelt (c : Char) : Bool :=
  c == '\u034f' || inRange 0x17b4 0x17b5 c || inRange 0x180b 0x180d c || c == '\u180f' ||
    c == '\u200d' || inRange 0xfe00 0xfe0f c || inRange 0xe0100 0xe01ef c

/-- Whether a letter is a lam. -/
def isLam (c : Char) : Bool :=
  c == '\u0644' || inRange 0x6b5 0x6b8 c || c == '\u076a' || c == '\u08a6' || c == '\u08c7'

/-- Whether a letter is an alef. -/
def isAlef (c : Char) : Bool :=
  inRange 0x622 0x623 c || c == '\u0625' || c == '\u0627' || inRange 0x671 0x673 c ||
    c == '\u0675' || inRange 0x773 0x774 c || inRange 0x870 0x882 c

/-- Whether a letter is a Tifinagh consonant. -/
def isTifinaghConsonant (c : Char) : Bool := inRange 0x2d31 0x2d65 c || c == '\u2d6f'

/-- Whether a Khmer letter fits below the letter before it. -/
def isKhmerSubscript (c : Char) : Bool :=
  inRange 0x1780 0x1782 c || inRange 0x1784 0x1787 c || inRange 0x1789 0x178c c ||
    inRange 0x178e 0x1793 c || inRange 0x1795 0x1798 c || inRange 0x179b 0x179d c ||
    c == '\u17a0' || c == '\u17a2' || c == '\u17a7' || inRange 0x17ab 0x17ac c || c == '\u17af'

/-- The end of a ligature, as far as it has been met. -/
inductive Ligature
  | alef
  /-- The Hebrew letter lamed. -/
  | lamed
  /-- The Buginese letter ya. -/
  | ya
  /-- The Buginese letter ya with a joiner and the vowel i before it. -/
  | yaVowel
  | tifinagh
  /-- A Tifinagh consonant with the consonant joiner before it. -/
  | tifinaghJoined
  /-- One of the Lisu tone letters that close a pair. -/
  | lisuTone
  /-- The Old Turkic letter i. -/
  | turkicVowel
  | khmerSubscript
deriving DecidableEq

namespace Ligature

/-- The ligature that a character may end. -/
def endingIn? (c : Char) : Option Ligature :=
  if c.toNat < 0x5dc then none
  else if c = '\u05dc' then some .lamed
  else if isAlef c then some .alef
  else if isKhmerSubscript c then some .khmerSubscript
  else if c = '\u1a10' then some .ya
  else if isTifinaghConsonant c then some .tifinagh
  else if inRange 0xa4fc 0xa4fd c then some .lisuTone
  else if c.toNat = 0x10c03 then some .turkicVowel
  else none

/-- What the character on the left makes of the end of a ligature: the columns that it adds, and
what has been met then, if the ligature may go on. `joined` tells that a joiner stands between. -/
def meet? (joined : Bool) (c : Char) : Ligature → Option (Int × Option Ligature)
  | .alef => if isLam c then some (0, none) else none
  | .lamed => if joined && c == '\u05d0' then some (0, none) else none
  | .ya => if joined && c == '\u1a17' then some (0, some .yaVowel) else none
  | .yaVowel => if c = '\u1a15' then some (0, none) else none
  | .tifinagh =>
    if c = '\u2d7f' then some (1, some .tifinaghJoined)
    else if joined && isTifinaghConsonant c then some (0, none)
    else none
  | .tifinaghJoined => if isTifinaghConsonant c then some (-1, none) else none
  | .lisuTone => if inRange 0xa4f8 0xa4fb c then some (0, none) else none
  | .turkicVowel => if joined && c.toNat == 0x10c32 then some (0, none) else none
  | .khmerSubscript => if c = '\u17d2' then some (-1, none) else none

/-- Whether a character inside of a ligature changes nothing. -/
def passes (c : Char) : Ligature → Bool
  | .alef => letsArabicMelt c
  | _ => letsMelt c

end Ligature

end BooleanSearch.Text
