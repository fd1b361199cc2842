import BooleanSearch.Json

/-! # Reading JSON documents

What a text says as a JSON document, stated without a printer: blanks may stand between the parts of
a document, and a character between quotes may be escaped. Documents that a text cannot be, such as
truth values and fractions, are left out. A text is read in one way only, and the printed form of a
document is read as that document.
-/

namespace BooleanSearch.Json

/-! ### Characters between quotes -/

/-- The value of a hexadecimal digit. -/
def hexDigit? (c : Char) : Option Nat :=
  if '0' ≤ c ∧ c ≤ '9' then some (c.toNat - '0'.toNat)
  else if 'a' ≤ c ∧ c ≤ 'f' then some (c.toNat - 'a'.toNat + 10)
  else if 'A' ≤ c ∧ c ≤ 'F' then some (c.toNat - 'A'.toNat + 10)
  else none

/-- Reads a code unit of four hexadecimal digits. -/
def readUnit? : List Char → Option (Nat × List Char)
  | a :: b :: c :: d :: rest => do
    let a ← hexDigit? a
    let b ← hexDigit? b
    let c ← hexDigit? c
    let d ← hexDigit? d
    return (((a * 16 + b) * 16 + c) * 16 + d, rest)
  | _ => none

/-- The character that a letter behind a backslash stands for. -/
def escaped? : Char → Option Char
  | '"' => some '"'
  | '\\' => some '\\'
  | '/' => some '/'
  | 'b' => some '\x08'
  | 'f' => some '\x0c'
  | 'n' => some '\n'
  | 'r' => some '\r'
  | 't' => some '\t'
  | _ => none

/-- Reads one character between quotes. A character beyond the first plane is escaped as two code
units. -/
def readChar? : List Char → Option (Char × List Char)
  | '\\' :: 'u' :: input => do
    let (unit, rest) ← readUnit? input
    if unit < 0xD800 ∨ 0xDFFF < unit then return (Char.ofNat unit, rest)
    else
      match rest with
      | '\\' :: 'u' :: rest =>
        let (low, rest) ← readUnit? rest
        if unit < 0xDC00 ∧ 0xDC00 ≤ low ∧ low ≤ 0xDFFF then
          return (Char.ofNat (0x10000 + (unit - 0xD800) * 0x400 + (low - 0xDC00)), rest)
        else none
      | _ => none
  | '\\' :: letter :: rest => (escaped? letter).map (·, rest)
  | c :: rest => if c = '"' ∨ c = '\\' ∨ c.toNat < 0x20 then none else some (c, rest)
  | [] => none

/-- How a text is read behind its opening quote, up to the closing one. -/
inductive ReadsText : List Char → List Char → List Char → Prop
  | close (rest : List Char) : ReadsText ('"' :: rest) [] rest
  | char {input middle text rest : List Char} {c : Char} (h : readChar? input = some (c, middle))
      (h' : ReadsText middle text rest) : ReadsText input (c :: text) rest

/-! ### Documents -/

/-- The blanks that mean nothing between the parts of a document. -/
def isLayout (c : Char) : Bool := c == ' ' || c == '\n' || c == '\r' || c == '\t'

/-- A text without the blanks at its front. -/
def skip (input : List Char) : List Char := input.dropWhile isLayout

/-- Whether a number goes on with this character. -/
def continuesNumber (c : Char) : Bool := c.isDigit || c == '.' || c == 'e' || c == 'E'

/-- A number that stands before this text ends there. -/
def EndsNumber (rest : List Char) : Prop := ∀ c ∈ rest.head?, continuesNumber c = false

/-- The brackets around the entries of a list or of a record. -/
inductive Bracket
  | list
  | record

namespace Bracket

/-- The character before the entries. -/
def opening : Bracket → Char
  | .list => '['
  | .record => '\x7b'

/-- The character behind the entries. -/
def closing : Bracket → Char
  | .list => ']'
  | .record => '\x7d'

/-- The document without an entry. -/
def empty : Bracket → Json
  | .list => .list []
  | .record => .record []

end Bracket

/-- The parts of a document: a value, the entries behind an opening bracket, and what comes behind
an entry. -/
inductive Part
  | value
  | entries (bracket : Bracket)
  | more (bracket : Bracket)

/-- How a part is read from the front of a text, as which document, and what is left. -/
inductive Reads : Part → List Char → Json → List Char → Prop
  | text {input inner text rest : List Char} (opens : skip input = '"' :: inner)
      (h : ReadsText inner text rest) : Reads .value input (.text (String.ofList text)) rest
  | number {input rest : List Char} {value : Nat} (h : skip input = Nat.toDigits 10 value ++ rest)
      (ends : EndsNumber rest) : Reads .value input (.number value) rest
  | empty (bracket : Bracket) {input inner rest : List Char}
      (opens : skip input = bracket.opening :: inner)
      (closes : skip inner = bracket.closing :: rest) : Reads .value input bracket.empty rest
  | filled (bracket : Bracket) {input inner rest : List Char} {document : Json}
      (opens : skip input = bracket.opening :: inner)
      (h : Reads (.entries bracket) inner document rest) : Reads .value input document rest
  | item {input middle rest : List Char} {item : Json} {others : List Json}
      (h : Reads .value input item middle) (h' : Reads (.more .list) middle (.list others) rest) :
      Reads (.entries .list) input (.list (item :: others)) rest
  | field {input inner name middle after last rest : List Char} {value : Json}
      {others : List (String × Json)} (opens : skip input = '"' :: inner)
      (h : ReadsText inner name middle) (binds : skip middle = ':' :: after)
      (h' : Reads .value after value last)
      (h'' : Reads (.more .record) last (.record others) rest) :
      Reads (.entries .record) input (.record ((String.ofList name, value) :: others)) rest
  | last (bracket : Bracket) {input rest : List Char}
      (closes : skip input = bracket.closing :: rest) :
      Reads (.more bracket) input bracket.empty rest
  | next (bracket : Bracket) {input inner rest : List Char} {document : Json}
      (next : skip input = ',' :: inner) (h : Reads (.entries bracket) inner document rest) :
      Reads (.more bracket) input document rest

/-- The value of a field of a record. -/
def field? (document : Json) (name : String) : Option Json :=
  match document with
  | .record fields => fields.lookup name
  | _ => none

/-- A text is a document, with nothing but blanks around it. -/
def IsTextOf (document : Json) (text : String) : Prop :=
  ∃ rest, Reads .value text.toList document rest ∧ skip rest = []

/-! ### One text, one document -/

theorem ReadsText.unique {input text rest : List Char} (h : ReadsText input text rest) :
    ∀ {text' rest'}, ReadsText input text' rest' → text = text' ∧ rest = rest' := by
  induction h with
  | close rest =>
    intro text' rest' h'
    cases h' with
    | close => exact ⟨rfl, rfl⟩
    | char h' _ => cases h'
  | @char input middle text rest c h _ ih =>
    intro text' rest' h'
    cases h' with
    | close => cases h
    | @char _ _ others _ c' h' tail =>
      obtain ⟨rfl, rfl⟩ := Prod.mk.inj (Option.some.inj (h.symm.trans h'))
      obtain ⟨rfl, rfl⟩ := ih tail
      exact ⟨rfl, rfl⟩

theorem all_isDigit_toDigits (value : Nat) : ∀ c ∈ Nat.toDigits 10 value, c.isDigit = true :=
  fun _ h => Nat.isDigit_of_mem_toDigits (by decide) (by decide) h

/-- A number ends where its digits do. -/
theorem toDigits_append_unique {value value' : Nat} {rest rest' : List Char}
    (h : Nat.toDigits 10 value ++ rest = Nat.toDigits 10 value' ++ rest')
    (ends : EndsNumber rest) (ends' : EndsNumber rest') : value = value' ∧ rest = rest' := by
  have digits (value : Nat) {rest : List Char} (ends : EndsNumber rest) :
      (Nat.toDigits 10 value ++ rest).takeWhile Char.isDigit = Nat.toDigits 10 value := by
    rw [List.takeWhile_append_of_pos (all_isDigit_toDigits value)]
    cases rest with
    | nil => simp
    | cons c rest =>
      have hc : c.isDigit = false := by
        have := ends c rfl
        simp only [continuesNumber, Bool.or_eq_false_iff] at this
        exact this.1.1.1
      simp [hc]
  have same : Nat.toDigits 10 value = Nat.toDigits 10 value' := by
    rw [← digits value ends, h, digits value' ends']
  have values := congrArg (fun digits => Nat.ofDigitChars 10 digits 0) same
  simp only [Nat.ofDigitChars_ten_toDigits] at values
  subst values
  exact ⟨rfl, List.append_cancel_left h⟩

theorem toDigits_append_ne_cons {value : Nat} {rest others : List Char} {c : Char}
    (h : c.isDigit = false) : Nat.toDigits 10 value ++ rest ≠ c :: others := by
  obtain ⟨first, digits, hdigits⟩ :=
    List.exists_cons_of_ne_nil (Nat.toDigits_ne_nil (n := value) (b := 10))
  have hfirst := all_isDigit_toDigits value first (by simp [hdigits])
  rw [hdigits]
  rintro heq
  obtain rfl := (List.cons.inj heq).1
  rw [h] at hfirst
  cases hfirst

namespace Reads

variable {input rest others : List Char} {document : Json}

/-- Entries do not begin with the bracket behind them. -/
theorem not_closed {bracket : Bracket} (h : Reads (.entries bracket) input document rest) :
    skip input ≠ bracket.closing :: others := by
  intro closes
  cases h with
  | item h _ =>
    cases h with
    | text opens => exact absurd (opens.symm.trans closes) (by simp [Bracket.closing])
    | number h _ => exact toDigits_append_ne_cons (by decide) (h.symm.trans closes)
    | empty bracket opens | filled bracket opens =>
      rw [opens] at closes
      cases bracket <;> simp [Bracket.opening, Bracket.closing] at closes
  | field opens => exact absurd (opens.symm.trans closes) (by simp [Bracket.closing])

theorem text_ne_bracket {inner : List Char} (opens : skip input = '"' :: inner)
    (bracket : Bracket) : skip input ≠ bracket.opening :: others := by
  rw [opens]
  cases bracket <;> simp [Bracket.opening]

theorem number_ne_bracket {value : Nat} (h : skip input = Nat.toDigits 10 value ++ rest)
    (bracket : Bracket) : skip input ≠ bracket.opening :: others := by
  rw [h]
  cases bracket <;> exact toDigits_append_ne_cons (by decide)

theorem text_ne_number {value : Nat} (opens : skip input = '"' :: others) :
    skip input ≠ Nat.toDigits 10 value ++ rest := by
  rw [opens]
  exact (toDigits_append_ne_cons (by decide)).symm

theorem bracket_inj {bracket bracket' : Bracket} {inner inner' : List Char}
    (h : skip input = bracket.opening :: inner) (h' : skip input = bracket'.opening :: inner') :
    bracket = bracket' ∧ inner = inner' := by
  obtain ⟨hopening, hinner⟩ := List.cons.inj (h.symm.trans h')
  refine ⟨?_, hinner⟩
  cases bracket <;> cases bracket' <;> simp_all [Bracket.opening]

/-- What is read from the front of a text is one document. -/
theorem unique {part : Part} (h : Reads part input document rest) :
    ∀ {document' rest'}, Reads part input document' rest' →
      document = document' ∧ rest = rest' := by
  -- The first character of a part decides which rule can have read it.
  induction h with
  | text opens h =>
    intro document' rest' h'
    cases h' with
    | text opens' h' =>
      obtain ⟨-, rfl⟩ := List.cons.inj (opens.symm.trans opens')
      obtain ⟨rfl, rfl⟩ := h.unique h'
      exact ⟨rfl, rfl⟩
    | number h' _ => exact absurd h' (text_ne_number opens)
    | empty bracket opens' | filled bracket opens' => exact absurd opens' (text_ne_bracket opens _)
  | number h ends =>
    intro document' rest' h'
    cases h' with
    | text opens' => exact absurd h (text_ne_number opens')
    | number h' ends' =>
      obtain ⟨rfl, rfl⟩ := toDigits_append_unique (h.symm.trans h') ends ends'
      exact ⟨rfl, rfl⟩
    | empty bracket opens' | filled bracket opens' => exact absurd opens' (number_ne_bracket h _)
  | empty bracket opens closes =>
    intro document' rest' h'
    cases h' with
    | text opens' => exact absurd opens (text_ne_bracket opens' _)
    | number h' _ => exact absurd opens (number_ne_bracket h' _)
    | empty bracket' opens' closes' =>
      obtain ⟨rfl, rfl⟩ := bracket_inj opens opens'
      obtain ⟨-, rfl⟩ := List.cons.inj (closes.symm.trans closes')
      exact ⟨rfl, rfl⟩
    | filled bracket' opens' h' =>
      obtain ⟨rfl, rfl⟩ := bracket_inj opens opens'
      exact absurd closes h'.not_closed
  | filled bracket opens h ih =>
    intro document' rest' h'
    cases h' with
    | text opens' => exact absurd opens (text_ne_bracket opens' _)
    | number h' _ => exact absurd opens (number_ne_bracket h' _)
    | empty bracket' opens' closes' =>
      obtain ⟨rfl, rfl⟩ := bracket_inj opens opens'
      exact absurd closes' h.not_closed
    | filled bracket' opens' h' =>
      obtain ⟨rfl, rfl⟩ := bracket_inj opens opens'
      exact ih h'
  | item h tail ih ihTail =>
    intro document' rest' h'
    cases h' with
    | item h' tail' =>
      obtain ⟨rfl, rfl⟩ := ih h'
      obtain ⟨hothers, rfl⟩ := ihTail tail'
      obtain rfl := Json.list.inj hothers
      exact ⟨rfl, rfl⟩
  | field opens h binds value tail ih ihTail =>
    intro document' rest' h'
    cases h' with
    | field opens' h' binds' value' tail' =>
      obtain ⟨-, rfl⟩ := List.cons.inj (opens.symm.trans opens')
      obtain ⟨rfl, rfl⟩ := h.unique h'
      obtain ⟨-, rfl⟩ := List.cons.inj (binds.symm.trans binds')
      obtain ⟨rfl, rfl⟩ := ih value'
      obtain ⟨hothers, rfl⟩ := ihTail tail'
      obtain rfl := Json.record.inj hothers
      exact ⟨rfl, rfl⟩
  | last bracket closes =>
    intro document' rest' h'
    generalize hdocument : bracket.empty = empty
    cases h' with
    | last _ closes' =>
      obtain ⟨-, rfl⟩ := List.cons.inj (closes.symm.trans closes')
      exact ⟨hdocument.symm, rfl⟩
    | next _ next' =>
      cases bracket <;> exact absurd (closes.symm.trans next') (by simp [Bracket.closing])
  | next bracket next h ih =>
    intro document' rest' h'
    cases h' with
    | last _ closes' =>
      cases bracket <;> exact absurd (closes'.symm.trans next) (by simp [Bracket.closing])
    | next _ next' h' =>
      obtain ⟨-, rfl⟩ := List.cons.inj (next.symm.trans next')
      exact ih h'

end Reads

/-- No text is two documents. -/
theorem IsTextOf.unique {document other : Json} {text : String} (h : IsTextOf document text)
    (h' : IsTextOf other text) : document = other := by
  obtain ⟨_, hread, -⟩ := h
  obtain ⟨_, hread', -⟩ := h'
  exact (hread.unique hread').1

/-- A text of one document is a text of no other. -/
theorem IsTextOf.iff_eq {document other : Json} {text : String} (h : IsTextOf document text) :
    IsTextOf other text ↔ other = document := by
  constructor
  · exact fun h' => h'.unique h
  · rintro rfl
    exact h

/-! ### Printed documents -/

theorem hexDigit?_digitChar : ∀ n < 16, hexDigit? (Nat.digitChar n) = some n := by decide

/-- The written form of a character is read as that character. -/
theorem readChar?_escapedChar (c : Char) (rest : List Char) :
    readChar? (escapedChar c ++ rest) = some (c, rest) := by
  unfold escapedChar
  iterate 7
    split
    · next h =>
      rw [h]
      rfl
  split
  · next control =>
    have hhigh := hexDigit?_digitChar (c.toNat / 16) (by omega)
    have hlow := hexDigit?_digitChar (c.toNat % 16) (Nat.mod_lt _ (by decide))
    have zero : hexDigit? '0' = some 0 := rfl
    have unit : readUnit? (['0', '0', Nat.digitChar (c.toNat / 16), Nat.digitChar (c.toNat % 16)] ++
        rest) = some (c.toNat, rest) := by
      have value : c.toNat / 16 * 16 + c.toNat % 16 = c.toNat := Nat.div_add_mod' _ _
      simp [readUnit?, zero, hhigh, hlow, value]
    have plane : c.toNat < 0xD800 ∨ 0xDFFF < c.toNat := Or.inl (by omega)
    simp only [List.cons_append, List.nil_append] at unit ⊢
    rw [readChar?, unit, Option.bind_eq_bind, Option.bind_some]
    simp only [if_pos plane, Char.ofNat_toNat]
    rfl
  · next hquote hbackslash _ _ _ _ _ shown =>
    have plain : ¬(c = '"' ∨ c = '\\' ∨ c.toNat < 0x20) := by simp [hquote, hbackslash, shown]
    rw [List.singleton_append, readChar?.eq_3 _ _ (by simp [hbackslash]) (by simp [hbackslash]),
      if_neg plain]

theorem readsText_escaped (text rest : List Char) :
    ReadsText (text.flatMap escapedChar ++ '"' :: rest) text rest := by
  induction text with
  | nil => exact .close rest
  | cons c text ih =>
    rw [List.flatMap_cons, List.append_assoc]
    exact .char (readChar?_escapedChar c _) ih

/-- Blanks before a part do not matter. -/
theorem Reads.of_skip_eq {part : Part} {input other rest : List Char} {document : Json}
    (h : Reads part input document rest) (same : skip other = skip input) :
    Reads part other document rest := by
  induction h with
  | text opens h => exact .text (same.trans opens) h
  | number h ends => exact .number (same.trans h) ends
  | empty bracket opens closes => exact .empty bracket (same.trans opens) closes
  | filled bracket opens h ih => exact .filled bracket (same.trans opens) h
  | item h tail ih => exact .item (ih same) tail
  | field opens h binds value tail => exact .field (same.trans opens) h binds value tail
  | last bracket closes => exact .last bracket (same.trans closes)
  | next bracket next h => exact .next bracket (same.trans next) h

theorem skip_cons {c : Char} (h : isLayout c = false) (rest : List Char) :
    skip (c :: rest) = c :: rest :=
  List.dropWhile_cons_of_neg (by simp [h])

theorem skip_toDigits (value : Nat) (rest : List Char) :
    skip (Nat.toDigits 10 value ++ rest) = Nat.toDigits 10 value ++ rest := by
  obtain ⟨first, others, hdigits⟩ :=
    List.exists_cons_of_ne_nil (Nat.toDigits_ne_nil (n := value) (b := 10))
  have hfirst : isLayout first = false := by
    have digit := all_isDigit_toDigits value first (by simp [hdigits])
    rw [← Bool.not_eq_true]
    intro layout
    simp only [isLayout, Bool.or_eq_true, beq_iff_eq, or_assoc] at layout
    rcases layout with rfl | rfl | rfl | rfl <;> cases digit
  rw [hdigits]
  exact skip_cons hfirst _

theorem skip_lineBreak (level : Nat) (rest : List Char) :
    skip ((lineBreak level).toList ++ rest) = skip rest := by
  rw [skip, skip, List.dropWhile_append_of_pos]
  intro c hc
  simp only [lineBreak, String.toList_append, String.toList_ofList, List.mem_append] at hc
  rcases hc with hc | hc
  · rw [List.mem_singleton.mp hc]
    rfl
  · rw [List.eq_of_mem_replicate hc]
    rfl

theorem toList_quotedText (text : String) (rest : List Char) :
    (quotedText text).toList ++ rest =
      '"' :: (text.toList.flatMap escapedChar ++ '"' :: rest) := by
  simp [quotedText]

theorem skip_quotedText (text : String) (rest : List Char) :
    skip ((quotedText text).toList ++ rest) = (quotedText text).toList ++ rest := by
  rw [toList_quotedText]
  exact skip_cons rfl _

theorem reads_quotedText (value : String) (rest : List Char) :
    Reads .value ((quotedText value).toList ++ rest) (.text value) rest := by
  have h := Reads.text (skip_cons (c := '"') rfl _) (readsText_escaped value.toList rest)
  rwa [← toList_quotedText, String.ofList_toList] at h

theorem reads_number (value : Nat) {rest : List Char} (ends : EndsNumber rest) :
    Reads .value ((toString value).toList ++ rest) (.number value) rest := by
  rw [Nat.toString_eq_ofList_toDigits, String.toList_ofList]
  exact .number (skip_toDigits value rest) ends

/-- A field is read from its quoted name, a colon and its value. -/
theorem reads_field (name : String) {input middle after last rest : List Char} {value : Json}
    {others : List (String × Json)} (opens : skip input = (quotedText name).toList ++ middle)
    (binds : skip middle = ':' :: after) (h : Reads .value after value last)
    (tail : Reads (.more .record) last (.record others) rest) :
    Reads (.entries .record) input (.record ((name, value) :: others)) rest := by
  rw [toList_quotedText] at opens
  have field := Reads.field opens (readsText_escaped name.toList middle) binds h tail
  rwa [String.ofList_toList] at field

theorem endsNumber_cons {c : Char} (h : continuesNumber c = false) (rest : List Char) :
    EndsNumber (c :: rest) := by
  rintro _ ⟨⟩
  exact h

theorem endsNumber_lineBreak (level : Nat) (rest : List Char) :
    EndsNumber ((lineBreak level).toList ++ rest) := by
  rw [lineBreak, String.toList_append, List.append_assoc]
  exact endsNumber_cons rfl _

/-- The text of a field on a line of its own, and what comes behind it. -/
def fieldText (level : Nat) (name value : String) (rest : List Char) : List Char :=
  (lineBreak level).toList ++ ((quotedText name).toList ++ ':' :: ' ' :: (value.toList ++ rest))

theorem reads_fieldText (level : Nat) (name : String) {text : String} {value : Json}
    {rest after : List Char} {others : List (String × Json)}
    (h : Reads .value (text.toList ++ after) value after)
    (tail : Reads (.more .record) after (.record others) rest) :
    Reads (.entries .record) (fieldText level name text after) (.record ((name, value) :: others))
      rest := by
  have opens : skip (fieldText level name text after) =
      (quotedText name).toList ++ ':' :: ' ' :: (text.toList ++ after) := by
    rw [fieldText, skip_lineBreak, skip_quotedText]
  exact reads_field name opens (skip_cons rfl _) (h.of_skip_eq rfl) tail

mutual

/-- The printed form of a document is read as the document, wherever a number ends behind it. -/
theorem reads_pretty (document : Json) (level : Nat) {rest : List Char} (ends : EndsNumber rest) :
    Reads .value ((document.pretty level).toList ++ rest) document rest := by
  cases document with
  | text value => exact reads_quotedText value rest
  | number value => exact reads_number value ends
  | list items =>
    cases items with
    | nil =>
      have text : ((list []).pretty level).toList ++ rest = '[' :: ']' :: rest := by simp [pretty]
      rw [text]
      exact .empty .list (skip_cons rfl _) (skip_cons rfl _)
    | cons item others =>
      have text : ((list (item :: others)).pretty level).toList ++ rest =
          '[' :: ((prettyItems (level + 1) (item :: others)).toList ++
            ((lineBreak level).toList ++ ']' :: rest)) := by simp [pretty]
      rw [text]
      exact .filled .list (skip_cons rfl _)
        (reads_prettyItems (item :: others) nofun (level + 1) level rest)
  | record fields =>
    cases fields with
    | nil =>
      have text : ((record []).pretty level).toList ++ rest = '\x7b' :: '\x7d' :: rest := by
        simp [pretty]
      rw [text]
      exact .empty .record (skip_cons rfl _) (skip_cons rfl _)
    | cons field others =>
      have text : ((record (field :: others)).pretty level).toList ++ rest =
          '\x7b' :: ((prettyFields (level + 1) (field :: others)).toList ++
            ((lineBreak level).toList ++ '\x7d' :: rest)) := by simp [pretty]
      rw [text]
      exact .filled .record (skip_cons rfl _)
        (reads_prettyFields (field :: others) nofun (level + 1) level rest)

theorem reads_prettyItems (items : List Json) (filled : items ≠ []) (level outer : Nat)
    (rest : List Char) :
    Reads (.entries .list)
      ((prettyItems level items).toList ++ ((lineBreak outer).toList ++ ']' :: rest))
      (.list items) rest := by
  match items with
  | [item] =>
    have text : (prettyItems level [item]).toList ++ ((lineBreak outer).toList ++ ']' :: rest) =
        (lineBreak level).toList ++ ((item.pretty level).toList ++
          ((lineBreak outer).toList ++ ']' :: rest)) := by simp [prettyItems]
    have value := reads_pretty item level (endsNumber_lineBreak outer (']' :: rest))
    rw [text]
    apply Reads.item (value.of_skip_eq (skip_lineBreak level _))
    exact .last .list ((skip_lineBreak outer _).trans (skip_cons rfl _))
  | item :: next :: others =>
    have text : (prettyItems level (item :: next :: others)).toList ++
        ((lineBreak outer).toList ++ ']' :: rest) = (lineBreak level).toList ++
          ((item.pretty level).toList ++ ',' :: ((prettyItems level (next :: others)).toList ++
            ((lineBreak outer).toList ++ ']' :: rest))) := by simp [prettyItems]
    have value := reads_pretty item level (endsNumber_cons (c := ',') rfl
      ((prettyItems level (next :: others)).toList ++ ((lineBreak outer).toList ++ ']' :: rest)))
    rw [text]
    apply Reads.item (value.of_skip_eq (skip_lineBreak level _))
    exact .next .list (skip_cons rfl _) (reads_prettyItems (next :: others) nofun level outer rest)

theorem reads_prettyFields (fields : List (String × Json)) (filled : fields ≠ [])
    (level outer : Nat) (rest : List Char) :
    Reads (.entries .record)
      ((prettyFields level fields).toList ++ ((lineBreak outer).toList ++ '\x7d' :: rest))
      (.record fields) rest := by
  match fields with
  | [(name, value)] =>
    have text : (prettyFields level [(name, value)]).toList ++
        ((lineBreak outer).toList ++ '\x7d' :: rest) =
          fieldText level name (value.pretty level)
            ((lineBreak outer).toList ++ '\x7d' :: rest) := by
      simp [prettyFields, fieldText]
    rw [text]
    apply reads_fieldText level name (reads_pretty value level (endsNumber_lineBreak outer _))
    exact .last .record ((skip_lineBreak outer _).trans (skip_cons rfl _))
  | (name, value) :: next :: others =>
    have text : (prettyFields level ((name, value) :: next :: others)).toList ++
        ((lineBreak outer).toList ++ '\x7d' :: rest) =
          fieldText level name (value.pretty level) (',' ::
            ((prettyFields level (next :: others)).toList ++
              ((lineBreak outer).toList ++ '\x7d' :: rest))) := by
      simp [prettyFields, fieldText]
    rw [text]
    apply reads_fieldText level name (reads_pretty value level (endsNumber_cons rfl _))
    exact .next .record (skip_cons rfl _)
      (reads_prettyFields (next :: others) nofun level outer rest)

end

mutual

/-- The form of a document on one line is read as the document, wherever a number ends behind it. -/
theorem reads_compact (document : Json) {rest : List Char} (ends : EndsNumber rest) :
    Reads .value (document.compact.toList ++ rest) document rest := by
  cases document with
  | text value => exact reads_quotedText value rest
  | number value => exact reads_number value ends
  | list items =>
    have text : (list items).compact.toList ++ rest =
        '[' :: ((compactItems items).toList ++ ']' :: rest) := by simp [compact]
    rw [text]
    cases items with
    | nil => exact .empty .list (skip_cons rfl _) (skip_cons rfl _)
    | cons item others =>
      exact .filled .list (skip_cons rfl _) (reads_compactItems (item :: others) nofun rest)
  | record fields =>
    have text : (record fields).compact.toList ++ rest =
        '\x7b' :: ((compactFields fields).toList ++ '\x7d' :: rest) := by simp [compact]
    rw [text]
    cases fields with
    | nil => exact .empty .record (skip_cons rfl _) (skip_cons rfl _)
    | cons field others =>
      exact .filled .record (skip_cons rfl _) (reads_compactFields (field :: others) nofun rest)

theorem reads_compactItems (items : List Json) (filled : items ≠ []) (rest : List Char) :
    Reads (.entries .list) ((compactItems items).toList ++ ']' :: rest) (.list items) rest := by
  match items with
  | [item] =>
    exact .item (reads_compact item (endsNumber_cons rfl rest)) (.last .list (skip_cons rfl _))
  | item :: next :: others =>
    have text : (compactItems (item :: next :: others)).toList ++ ']' :: rest =
        item.compact.toList ++ ',' :: ((compactItems (next :: others)).toList ++ ']' :: rest) := by
      simp [compactItems]
    rw [text]
    apply Reads.item (reads_compact item (endsNumber_cons rfl _))
    exact .next .list (skip_cons rfl _) (reads_compactItems (next :: others) nofun rest)

theorem reads_compactFields (fields : List (String × Json)) (filled : fields ≠ [])
    (rest : List Char) :
    Reads (.entries .record) ((compactFields fields).toList ++ '\x7d' :: rest) (.record fields)
      rest := by
  match fields with
  | [(name, value)] =>
    have text : (compactFields [(name, value)]).toList ++ '\x7d' :: rest =
        (quotedText name).toList ++ ':' :: (value.compact.toList ++ '\x7d' :: rest) := by
      simp [compactFields]
    rw [text]
    apply reads_field name (skip_quotedText name _) (skip_cons rfl _)
      (reads_compact value (endsNumber_cons rfl rest))
    exact .last .record (skip_cons rfl _)
  | (name, value) :: next :: others =>
    have text : (compactFields ((name, value) :: next :: others)).toList ++ '\x7d' :: rest =
        (quotedText name).toList ++ ':' :: (value.compact.toList ++
          ',' :: ((compactFields (next :: others)).toList ++ '\x7d' :: rest)) := by
      simp [compactFields]
    rw [text]
    apply reads_field name (skip_quotedText name _) (skip_cons rfl _)
      (reads_compact value (endsNumber_cons rfl _))
    exact .next .record (skip_cons rfl _) (reads_compactFields (next :: others) nofun rest)

end

/-- The printed form of a document and a line feed are a text of the document, and of no other. -/
theorem isTextOf_pretty_iff {document other : Json} :
    IsTextOf other (document.pretty 0 ++ "\n") ↔ other = document := by
  apply IsTextOf.iff_eq
  refine ⟨['\n'], ?_, rfl⟩
  rw [String.toList_append]
  exact reads_pretty document 0 (by rintro c ⟨⟩; rfl)

/-- The form of a document on one line is a text of the document, and of no other. -/
theorem isTextOf_compact_iff {document other : Json} :
    IsTextOf other document.compact ↔ other = document := by
  apply IsTextOf.iff_eq
  have read : Reads .value (document.compact.toList ++ []) document [] :=
    reads_compact document (by rintro c ⟨⟩)
  rw [List.append_nil] at read
  exact ⟨[], read, rfl⟩

end BooleanSearch.Json
