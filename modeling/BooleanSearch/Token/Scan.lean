import BooleanSearch.Text.Blank
import BooleanSearch.Token

/-! # Scanning one token

`scan` skips blanks and reads one token. What it leaves is shorter unless the input has ended,
so reading on and on comes to an end.
-/

namespace BooleanSearch

open Text (isBlank)

/-- What is wrong with a quoted phrase. -/
inductive PhraseFault
  /-- The input ends, at this position, before the closing quote. -/
  | unterminated (position : Nat)
  /-- Nothing stands between the quotes; the opening one is at this position. -/
  | empty (position : Nat)
deriving DecidableEq

/-- What stands next in the input. -/
inductive Found
  | token (token : Token)
  /-- The input ends, with this many characters in all. -/
  | finish (offset : Nat)
deriving DecidableEq

/-- One scan: what it found, and where the next one starts. -/
structure Scan where
  outcome : Except PhraseFault Found
  rest : List Char
  position : Nat

/-- Whether a character can be part of a word. -/
def isWordChar (c : Char) : Bool :=
  !(isBlank c || c == '(' || c == ')' || c == '"')

/-- Splits what follows an opening quote at the closing one. A backslash protects a quote or a
backslash after it, and nothing else. -/
def phraseBody : List Char → Option (List Char × List Char)
  | [] => none
  | '"' :: rest => some ([], rest)
  | '\\' :: '"' :: rest => (phraseBody rest).map fun (body, after) => ('\\' :: '"' :: body, after)
  | '\\' :: '\\' :: rest => (phraseBody rest).map fun (body, after) => ('\\' :: '\\' :: body, after)
  | c :: rest => (phraseBody rest).map fun (body, after) => (c :: body, after)

/-- Drops the backslash of every protected character. -/
def unescape : List Char → List Char
  | [] => []
  | '\\' :: '"' :: rest => '"' :: unescape rest
  | '\\' :: '\\' :: rest => '\\' :: unescape rest
  | c :: rest => c :: unescape rest

/-- Reads one token of the input, whose first character has `position` others before it. After a
fault the rest begins where the reading stopped. -/
def scan (position : Nat) (input : List Char) : Scan :=
  let offset := position + (input.takeWhile isBlank).length
  match input.dropWhile isBlank with
  | [] => ⟨.ok (.finish offset), [], offset⟩
  | '(' :: rest => ⟨.ok (.token ⟨.openParen, offset⟩), rest, offset + 1⟩
  | ')' :: rest => ⟨.ok (.token ⟨.closeParen, offset⟩), rest, offset + 1⟩
  | '"' :: rest =>
    match phraseBody rest with
    | none =>
      let stop := offset + 1 + rest.length
      ⟨.error (.unterminated stop), [], stop⟩
    | some ([], after) => ⟨.error (.empty offset), after, offset + 2⟩
    | some (body, after) =>
      ⟨.ok (.token ⟨.phrase (String.ofList (unescape body)), offset⟩), after,
        offset + body.length + 2⟩
  | c :: rest =>
    let run := c :: rest.takeWhile isWordChar
    ⟨.ok (.token ⟨.ofRun run, offset⟩), rest.dropWhile isWordChar, offset + run.length⟩

theorem length_of_phraseBody {input body after : List Char}
    (h : phraseBody input = some (body, after)) :
    input.length = body.length + 1 + after.length := by
  fun_induction phraseBody input generalizing body after with
  | case1 => simp at h
  | case2 rest => simp_all; omega
  | case3 rest ih | case4 rest ih | case5 c rest _ _ _ ih =>
    simp only [Option.map_eq_some_iff, Prod.exists, Prod.mk.injEq] at h
    obtain ⟨inner, tail, found, rfl, rfl⟩ := h
    have := ih found
    simp only [List.length_cons]
    omega

/-- A scan that finds a token leaves less than there was. -/
theorem length_rest_scan_lt {position : Nat} {input : List Char} {token : Token}
    (h : (scan position input).outcome = .ok (.token token)) :
    (scan position input).rest.length < input.length := by
  have skipped : (input.dropWhile isBlank).length ≤ input.length :=
    (List.dropWhile_sublist isBlank).length_le
  unfold scan at h ⊢
  simp only at h ⊢
  split at h <;> rename_i eq <;> rw [eq] at skipped
  · simp at h
  · exact skipped
  · exact skipped
  · rw [List.length_cons] at skipped
    split at h
    · simp at h
    · simp at h
    · rename_i body after _ found
      have := length_of_phraseBody found
      simp only
      omega
  · exact Nat.lt_of_le_of_lt (List.dropWhile_sublist isWordChar).length_le skipped

end BooleanSearch
