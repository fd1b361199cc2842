import BooleanSearch.Toml.Text

/-! # Numbers, dates and truth values of a TOML document

Each of them is written without blanks, a date before its time apart, and has one exact form.
Of a decimal fraction only the size matters here, of a date only that it exists.
-/

namespace BooleanSearch.Toml

/-- A value without parts. -/
inductive Scalar
  | text (value : String)
  | integer (value : Int)
  /-- A decimal fraction; whether a double can hold one of its size. -/
  | decimal (fits : Bool)
  | boolean (value : Bool)
  /-- A date, a time or both. -/
  | moment

/-- The value of a digit that is less than the base. -/
def digitValue? (base : Nat) (c : Char) : Option Nat :=
  match hexValue? c with
  | some value => if value < base then some value else none
  | none => none

/-- The digits of a number, where one underscore may stand between two of them. -/
def digitsOf? (base : Nat) : List Char → Option (List Nat)
  | [] => none
  | [c] => (digitValue? base c).map ([·])
  | c :: '_' :: rest => do return (← digitValue? base c) :: (← digitsOf? base rest)
  | c :: rest => do return (← digitValue? base c) :: (← digitsOf? base rest)

/-- The number with these digits. -/
def ofDigits (base : Nat) (digits : List Nat) : Nat :=
  digits.foldl (fun number digit => base * number + digit) 0

/-- A number without sign and without needless zeros in front. -/
def decimalDigits? (written : List Char) : Option (List Nat) :=
  match written with
  | ['0'] => some [0]
  | '0' :: _ => none
  | _ => digitsOf? 10 written

/-- Splits a sign off: whether the number is negative, and what follows. -/
def signed : List Char → Bool × List Char
  | '-' :: rest => (true, rest)
  | '+' :: rest => (false, rest)
  | written => (false, written)

/-- The whole number with this size. -/
def withSign (negative : Bool) (size : Nat) : Int := if negative then -size else size

/-- A whole number. Only decimal ones may have a sign. -/
def integer? (written : List Char) : Option Int :=
  match written with
  | '0' :: 'x' :: digits => (digitsOf? 16 digits).map fun digits => Int.ofNat (ofDigits 16 digits)
  | '0' :: 'o' :: digits => (digitsOf? 8 digits).map fun digits => Int.ofNat (ofDigits 8 digits)
  | '0' :: 'b' :: digits => (digitsOf? 2 digits).map fun digits => Int.ofNat (ofDigits 2 digits)
  | _ =>
    let (negative, digits) := signed written
    (decimalDigits? digits).map fun digits => withSign negative (ofDigits 10 digits)

/-- The smallest number that a double rounds to infinity. -/
def overflowBound : Nat := Nat.pow 2 1024 - Nat.pow 2 970

/-- Whether a double can hold the number with these digits, of which `places` stand behind the
point, times ten to the `exponent`. -/
def fitsDouble (digits : List Nat) (places : Nat) (exponent : Int) : Bool :=
  let digits := digits.dropWhile (· == 0)
  let shift := exponent - places
  let magnitude := digits.length + shift
  if digits.isEmpty || magnitude < 300 then true
  else if 400 < magnitude then false
  else if 0 ≤ shift then ofDigits 10 digits * Nat.pow 10 shift.toNat < overflowBound
  else ofDigits 10 digits < overflowBound * Nat.pow 10 (-shift).toNat

/-- The exponent behind an `e`. -/
def exponent? (written : List Char) : Option Int :=
  let (negative, digits) := signed written
  (digitsOf? 10 digits).map fun digits => withSign negative (ofDigits 10 digits)

/-- Splits at the first exponent sign. -/
def splitExponent (written : List Char) : List Char × Option (List Char) :=
  let mantissa := written.takeWhile fun c => c != 'e' && c != 'E'
  match written.dropWhile fun c => c != 'e' && c != 'E' with
  | [] => (mantissa, none)
  | _ :: exponent => (mantissa, some exponent)

/-- A decimal fraction: places behind a point, an exponent, or both. -/
def decimal? (written : List Char) : Option Scalar := do
  let (_, size) := signed written
  if size = ['i', 'n', 'f'] || size = ['n', 'a', 'n'] then return .decimal true
  let (mantissa, exponent) := splitExponent size
  let whole ← decimalDigits? (mantissa.takeWhile (· != '.'))
  match mantissa.dropWhile (· != '.'), exponent with
  | _ :: places, none =>
    let places ← digitsOf? 10 places
    return .decimal (fitsDouble (whole ++ places) places.length 0)
  | _ :: places, some exponent =>
    let places ← digitsOf? 10 places
    return .decimal (fitsDouble (whole ++ places) places.length (← exponent? exponent))
  | [], some exponent => return .decimal (fitsDouble whole 0 (← exponent? exponent))
  | [], none => none

/-- Exactly this many decimal digits at the front. -/
def fixedNumber? : Nat → List Char → Option (Nat × List Char)
  | 0, written => some (0, written)
  | _ + 1, [] => none
  | count + 1, c :: rest => do
    let digit ← digitValue? 10 c
    let (number, after) ← fixedNumber? count rest
    return (digit * Nat.pow 10 count + number, after)

/-- Whether a year has a twenty-ninth of February. -/
def isLeapYear (year : Nat) : Bool := year % 4 == 0 && (year % 100 != 0 || year % 400 == 0)

/-- The number of days of a month. -/
def daysInMonth (year month : Nat) : Nat :=
  if month = 2 then if isLeapYear year then 29 else 28
  else if month = 4 || month = 6 || month = 9 || month = 11 then 30
  else 31

/-- A date that exists, and what follows it. -/
def dateRest? (written : List Char) : Option (List Char) := do
  let (year, written) ← fixedNumber? 4 written
  let '-' :: written := written | none
  let (month, written) ← fixedNumber? 2 written
  let '-' :: written := written | none
  let (day, written) ← fixedNumber? 2 written
  if 1 ≤ month && month ≤ 12 && 1 ≤ day && day ≤ daysInMonth year month then some written else none

/-- The digits behind the seconds of a time, and what follows them. -/
def fractionRest? : List Char → Option (List Char)
  | '.' :: c :: rest => if c.isDigit then some (rest.dropWhile Char.isDigit) else none
  | '.' :: [] => none
  | written => some written

/-- A time of day, and what follows it. Seconds may be missing, and may be leap seconds. -/
def timeRest? (written : List Char) : Option (List Char) := do
  let (hour, written) ← fixedNumber? 2 written
  let ':' :: written := written | none
  let (minute, written) ← fixedNumber? 2 written
  if 23 < hour || 59 < minute then none
  else
    match written with
    | ':' :: written =>
      let (second, written) ← fixedNumber? 2 written
      if 60 < second then none else fractionRest? written
    | written => some written

/-- Whether this is nothing or the distance to universal time, less than a day. -/
def isOffset (written : List Char) : Bool :=
  match written with
  | [] => true
  | ['Z'] | ['z'] => true
  | sign :: written =>
    if sign = '+' || sign = '-' then
      match fixedNumber? 2 written with
      | some (hours, ':' :: written) =>
        match fixedNumber? 2 written with
        | some (minutes, []) => hours ≤ 23 && minutes ≤ 59
        | _ => false
      | _ => false
    else false

/-- A date, a time, or a date with a time and perhaps an offset. -/
def moment? (written : List Char) : Option Scalar := do
  match dateRest? written with
  | some [] => some .moment
  | some (separator :: written) =>
    if separator = 'T' || separator = 't' || separator = ' ' then
      if isOffset (← timeRest? written) then some .moment else none
    else none
  | none => if (← timeRest? written).isEmpty then some .moment else none

/-- A value that is written without quotes. -/
def bareScalar? (written : List Char) : Option Scalar :=
  if written = ['t', 'r', 'u', 'e'] then some (.boolean true)
  else if written = ['f', 'a', 'l', 's', 'e'] then some (.boolean false)
  else
    match integer? written with
    | some value => some (.integer value)
    | none => (decimal? written).or (moment? written)

/-- Whether a character can be part of a value without quotes. -/
def isBareChar (c : Char) : Bool :=
  c.isAlphanum || c == '_' || c == '-' || c == '+' || c == '.' || c == ':'

/-- A value without parts, and what follows it. A single space may stand between a date and its
time. -/
def scalar (input : List Char) : Option (Scalar × List Char) :=
  match anyText input with
  | some (text, rest) => some (.text (String.ofList text), rest)
  | none =>
    let written := input.takeWhile isBareChar
    match dateRest? written, input.dropWhile isBareChar with
    | some [], ' ' :: c :: rest =>
      if c.isDigit then do
        let time := c :: rest.takeWhile isBareChar
        return (← moment? (written ++ ' ' :: time), rest.dropWhile isBareChar)
      else do return (← bareScalar? written, ' ' :: c :: rest)
    | _, rest => do return (← bareScalar? written, rest)

end BooleanSearch.Toml
