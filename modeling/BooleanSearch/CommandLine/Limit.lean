import BooleanSearch.Settings

/-! # The limit on the command line

A limit is written in decimal digits, perhaps with a plus sign in front.
-/

namespace BooleanSearch

/-- Why a word is no number. -/
inductive NumeralFault
  | empty
  | badDigit
  | tooLarge
deriving DecidableEq

/-- The fault in a few words. -/
def NumeralFault.message : NumeralFault → String
  | .empty => "cannot parse integer from empty string"
  | .badDigit => "invalid digit found in string"
  | .tooLarge => "number too large to fit in target type"

/-- The numbers that can be written are below this bound. -/
def numeralBound : Nat := Nat.pow 2 64

/-- Appends digits to a number. The first fault counts. -/
def readDigits (number : Nat) : List Char → Except NumeralFault Nat
  | [] => .ok number
  | c :: rest =>
    if c.isDigit then
      let longer := 10 * number + (c.toNat - '0'.toNat)
      if longer < numeralBound then readDigits longer rest else .error .tooLarge
    else .error .badDigit

/-- Reads a whole number without a minus sign. -/
def readNumeral : List Char → Except NumeralFault Nat
  | [] => .error .empty
  | ['+'] => .error .badDigit
  | '+' :: digits => readDigits 0 digits
  | digits => readDigits 0 digits

/-- Reads a limit that a parser honours as it is. -/
def readLimit (word : String) : Except String Nat :=
  match readNumeral word.toList with
  | .ok depth =>
    if Settings.acceptsDepth depth then .ok depth
    else .error ("max depth must be between 1 and " ++ toString maxSupportedDepth)
  | .error fault => .error fault.message

end BooleanSearch
