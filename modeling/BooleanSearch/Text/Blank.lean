/-! # Blank characters

The characters with the property `White_Space`: the five controls from tab to carriage return,
the spaces of every width, and the line and paragraph separators.
-/

namespace BooleanSearch.Text

/-- Whether a character only separates. -/
def isBlank (c : Char) : Bool :=
  c == ' ' || ('\t' ≤ c && c ≤ '\r') || c == '\u0085' || c == '\u00a0' || c == '\u1680' ||
    ('\u2000' ≤ c && c ≤ '\u200a') || c == '\u2028' || c == '\u2029' || c == '\u202f' ||
    c == '\u205f' || c == '\u3000'

example : isBlank '\u000b' = true ∧ isBlank '\u200b' = false := by decide

end BooleanSearch.Text
