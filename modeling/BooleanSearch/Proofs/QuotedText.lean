import BooleanSearch.Text.Quoted
import BooleanSearch.Proofs.JsonText

/-! # Quoted text read back

Between quotes every character is written in a way of its own: as itself, by a name behind a
backslash, or by its code point. So the characters of a quoted text can be told from left to right,
and none of them breaks the line.
-/

namespace BooleanSearch.Text

/-! ### Code points -/

theorem exists_digitChar {n : Nat} {c : Char} (h : c ∈ hexDigits n) :
    ∃ k < 16, c = Nat.digitChar k := by
  unfold hexDigits at h
  induction n using Nat.strongRecOn with
  | ind n ih =>
    rw [Nat.toDigits_eq_if (by decide)] at h
    split at h
    · next small => exact ⟨n, small, List.mem_singleton.mp h⟩
    · next large =>
      rcases List.mem_append.mp h with h | h
      · exact ih (n / 16) (by omega) h
      · exact ⟨n % 16, Nat.mod_lt n (by decide), List.mem_singleton.mp h⟩

/-- A code point is written without line feeds and braces. -/
theorem ne_of_mem_hexDigits {n : Nat} {c : Char} (h : c ∈ hexDigits n) :
    c ≠ '\n' ∧ c ≠ '\x7d' := by
  obtain ⟨k, small, rfl⟩ := exists_digitChar h
  exact ⟨Nat.digitChar_ne _ rfl, Nat.digitChar_ne _ rfl⟩

/-- The number that some hexadecimal digits write. -/
def hexValue? (digits : List Char) : Option Nat :=
  digits.foldlM (fun value c => (Json.hexDigit? c).map (16 * value + ·)) 0

theorem hexValue?_hexDigits (n : Nat) : hexValue? (hexDigits n) = some n := by
  unfold hexDigits
  induction n using Nat.strongRecOn with
  | ind n ih =>
    rw [Nat.toDigits_eq_if (by decide)]
    split
    · next small => simp [hexValue?, Json.hexDigit?_digitChar n small]
    · next large =>
      have front := ih (n / 16) (by omega)
      have last := Json.hexDigit?_digitChar (n % 16) (Nat.mod_lt n (by decide))
      rw [hexValue?] at front ⊢
      simp [List.foldlM_append, front, last, Nat.div_add_mod]

/-! ### One character after the other -/

/-- The character that a letter behind a backslash stands for. -/
def named? : Char → Option Char
  | '0' => some '\x00'
  | 't' => some '\t'
  | 'n' => some '\n'
  | 'r' => some '\r'
  | '"' => some '"'
  | '\\' => some '\\'
  | _ => none

/-- Reads one character between quotes. -/
def readQuoted? : List Char → Option (Char × List Char)
  | '\\' :: 'u' :: '\x7b' :: rest =>
    (hexValue? (rest.takeWhile (· != '\x7d'))).map fun value =>
      (Char.ofNat value, (rest.dropWhile (· != '\x7d')).drop 1)
  | '\\' :: letter :: rest => (named? letter).map (·, rest)
  | c :: rest => some (c, rest)
  | [] => none

/-- The written form of a character is read as that character. -/
theorem readQuoted?_quotedChar (c : Char) (rest : List Char) :
    readQuoted? (quotedChar c ++ rest) = some (c, rest) := by
  unfold quotedChar
  iterate 6
    split
    · next h =>
      rw [h]
      rfl
  split
  · have digits : ∀ d ∈ hexDigits c.toNat, (d != '\x7d') = true := by
      intro d hd
      simpa using (ne_of_mem_hexDigits hd).2
    have text : ['\\', 'u', '\x7b'] ++ hexDigits c.toNat ++ ['\x7d'] ++ rest =
        '\\' :: 'u' :: '\x7b' :: (hexDigits c.toNat ++ '\x7d' :: rest) := by simp
    rw [text, readQuoted?, List.takeWhile_append_of_pos digits, List.dropWhile_append_of_pos digits]
    simp [hexValue?_hexDigits]
  · next hbackslash _ =>
    rw [List.singleton_append, readQuoted?.eq_3 _ _ (by simp [hbackslash]) (by simp [hbackslash])]

theorem flatMap_quotedChar_injective {text other : List Char}
    (h : text.flatMap quotedChar = other.flatMap quotedChar) : text = other := by
  have read (c : Char) (rest : List Char) :
      readQuoted? ((c :: rest).flatMap quotedChar) = some (c, rest.flatMap quotedChar) := by
    rw [List.flatMap_cons, readQuoted?_quotedChar]
  induction text generalizing other with
  | nil =>
    cases other with
    | nil => rfl
    | cons d other =>
      have same := (congrArg readQuoted? h).trans (read d other)
      cases same
  | cons c text ih =>
    have same := (read c text).symm.trans (congrArg readQuoted? h)
    cases other with
    | nil => cases same
    | cons d other =>
      obtain ⟨rfl, hrest⟩ := Prod.mk.inj (Option.some.inj (same.trans (read d other)))
      rw [ih hrest]

/-- No two texts are quoted alike. -/
theorem quoted_injective {text other : String} (h : quoted text = quoted other) :
    text = other := by
  have inner := List.append_cancel_right (List.cons.inj (String.ofList_inj.mp h)).2
  exact String.toList_inj.mp (flatMap_quotedChar_injective inner)

/-! ### One line -/

theorem lineFeed_notMem_quotedChar (c : Char) : '\n' ∉ quotedChar c := by
  unfold quotedChar
  iterate 2
    split
    · simp
  split
  · simp
  · next lineFeed =>
    iterate 3
      split
      · simp
    split
    · intro h
      have digit : '\n' ∈ hexDigits c.toNat := by simpa using h
      exact (ne_of_mem_hexDigits digit).1 rfl
    · simpa using Ne.symm lineFeed

/-- A quoted text stays on one line. -/
theorem lineFeed_notMem_quoted (text : String) : '\n' ∉ (quoted text).toList := by
  simp [quoted, lineFeed_notMem_quotedChar]

end BooleanSearch.Text
