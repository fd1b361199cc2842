import BooleanSearch.Text.DefaultIgnorable
import BooleanSearch.Text.GraphemeExtend
import BooleanSearch.Text.Printable

/-! # Quoted text

A text between double quotes on one line. A few characters are escaped by name; those that show
nothing, and those that would join the character before them, by their code point.
-/

namespace BooleanSearch.Text

/-- The lower-case hexadecimal digits of a number. -/
def hexDigits (n : Nat) : List Char := Nat.toDigits 16 n

/-- The written form of one character between quotes. -/
def quotedChar (c : Char) : List Char :=
  if c = '\x00' then ['\\', '0']
  else if c = '\t' then ['\\', 't']
  else if c = '\n' then ['\\', 'n']
  else if c = '\r' then ['\\', 'r']
  else if c = '"' then ['\\', '"']
  else if c = '\\' then ['\\', '\\']
  else if extendsGrapheme c || isDefaultIgnorable c || !isPrintable c then
    ['\\', 'u', '\x7b'] ++ hexDigits c.toNat ++ ['\x7d']
  else [c]

/-- A text between double quotes, with what cannot stand for itself escaped. -/
def quoted (text : String) : String :=
  String.ofList ('"' :: text.toList.flatMap quotedChar ++ ['"'])

end BooleanSearch.Text
