import BooleanSearch.Token.Lexer
import BooleanSearch.Proofs.TokenStream
import Mathlib.Data.Set.Card

/-! # Looking ahead

A lexer that is only asked to hand out what stands next gives a sequence of answers. Showing a token
beforehand changes nothing in that sequence, and a faulty phrase that is met while looking ahead
takes its place in it. The sequence reaches the end of the input after as many answers as there are
characters, and stays there.
-/

namespace BooleanSearch

open Text (isBlank)

/-! ### One scan -/

/-- A scan is at the end of the input, or it finds something else and leaves less than there was. -/
theorem scan_ends_or_advances (position : Nat) (input : List Char) :
    scan position input =
        ⟨.ok (.finish (position + input.length)), [], position + input.length⟩ ∨
      (∀ offset, (scan position input).outcome ≠ .ok (.finish offset)) ∧
        (scan position input).rest.length < input.length ∧
        (scan position input).position + (scan position input).rest.length =
          position + input.length := by
  induction input generalizing position with
  | nil => exact Or.inl rfl
  | cons c rest ih =>
    rcases isBlank_or_isWordChar c with hblank | rfl | rfl | rfl | hword
    · have hlength : position + (c :: rest).length = position + 1 + rest.length := by
        rw [List.length_cons, Nat.add_right_comm, Nat.add_assoc]
      rw [scan_blank position rest hblank, hlength]
      rcases ih (position + 1) with ends | ⟨found, shorter, whole⟩
      · exact Or.inl ends
      · exact Or.inr ⟨found, Nat.lt_succ_of_lt shorter, whole⟩
    · right
      simp [scan, isBlank, Nat.add_assoc, Nat.add_comm 1]
    · right
      simp [scan, isBlank, Nat.add_assoc, Nat.add_comm 1]
    · right
      cases found : phraseBody rest with
      | none => simp [scan, isBlank, found, Nat.add_assoc, Nat.add_comm 1]
      | some split =>
        obtain ⟨body, after⟩ := split
        have hlength := length_of_phraseBody found
        cases body with
        | nil =>
          rw [List.length_nil] at hlength
          simp [scan, isBlank, found]
          omega
        | cons d body =>
          rw [List.length_cons] at hlength
          simp [scan, isBlank, found]
          omega
    · have hsplit : rest.takeWhile isWordChar ++ rest.dropWhile isWordChar = rest :=
        List.takeWhile_append_dropWhile
      have hlength := congrArg List.length hsplit
      rw [List.length_append] at hlength
      rw [scan_word position rest hword, List.length_cons, List.length_cons]
      exact Or.inr ⟨by simp, by simp only; omega, by simp only; omega⟩

/-! ### Requests and replies -/

/-- What a lexer says when it is asked: what stands next, or what is wrong with it. -/
abbrev Answer := Except PhraseFault Found

/-- What a lexer can be asked. -/
inductive Request
  /-- To show what stands next. -/
  | peek
  /-- To hand out what stands next. -/
  | next

/-- A request and the answer to it. -/
structure Reply where
  request : Request
  answer : Answer

/-- What a reply takes out of the lexer: everything but a token that is only shown. -/
def Reply.taken? : Reply → Option Answer
  | ⟨.peek, .ok _⟩ => none
  | ⟨_, answer⟩ => some answer

theorem Reply.answer_of_taken? {reply : Reply} {answer : Answer} (h : reply.taken? = some answer) :
    reply.answer = answer := by
  unfold taken? at h
  split at h
  · cases h
  · exact Option.some.inj h

/-- What some replies take out of the lexer, in order. -/
def taken (replies : List Reply) : List Answer := replies.filterMap Reply.taken?

namespace Lexer

/-- Puts a request to a lexer. -/
def ask (lexer : Lexer) : Request → Answer × Lexer
  | .peek => lexer.peek
  | .next => lexer.next

/-- The replies to some requests, put one after the other. -/
def replies (lexer : Lexer) : List Request → List Reply
  | [] => []
  | request :: requests =>
    ⟨request, (lexer.ask request).1⟩ :: (lexer.ask request).2.replies requests

/-- The answers of a lexer that is asked again and again to hand out what stands next. -/
def answer (lexer : Lexer) : Nat → Answer
  | 0 => lexer.next.1
  | i + 1 => lexer.next.2.answer i

/-! ### Showing and handing out -/

/-- A token that is shown is still to be handed out, and a fault that is met by looking ahead is
over. -/
theorem peek_cases (lexer : Lexer) :
    (∃ found, lexer.peek.1 = .ok found ∧ lexer.next.1 = .ok found ∧
        lexer.peek.2.next = lexer.next) ∨
      ∃ fault, lexer.next.1 = .error fault ∧ lexer.peek = lexer.next := by
  obtain ⟨input, rest, position, shown⟩ := lexer
  cases shown with
  | some found => exact Or.inl ⟨found, rfl, rfl, rfl⟩
  | none =>
    cases outcome : (scan position rest).outcome with
    | ok found => left; simp [peek, next, read, outcome]
    | error fault => right; simp [peek, next, read, outcome]

/-- Lexers that hand out the same, and are the same afterwards, give the same answers. -/
theorem answer_congr {lexer other : Lexer} (h : lexer.next = other.next) (i : Nat) :
    lexer.answer i = other.answer i := by
  cases i with
  | zero => simp only [answer, h]
  | succ i => simp only [answer, h]

/-- A request is answered with what stands next. -/
theorem ask_answer (lexer : Lexer) (request : Request) :
    (lexer.ask request).1 = lexer.answer 0 := by
  cases request with
  | next => rfl
  | peek =>
    rcases lexer.peek_cases with ⟨found, shown, handed, -⟩ | ⟨fault, -, same⟩
    · exact shown.trans handed.symm
    · exact congrArg Prod.fst same

variable {lexer : Lexer} {request : Request}

theorem answer_of_shown (h : Reply.taken? ⟨request, (lexer.ask request).1⟩ = none) (i : Nat) :
    (lexer.ask request).2.answer i = lexer.answer i := by
  cases request with
  | next => cases h
  | peek =>
    rcases lexer.peek_cases with ⟨found, -, -, same⟩ | ⟨fault, handed, same⟩
    · exact answer_congr same i
    · simp only [ask, same, handed, Reply.taken?] at h
      cases h

theorem answer_of_taken {answer : Answer}
    (h : Reply.taken? ⟨request, (lexer.ask request).1⟩ = some answer) (i : Nat) :
    (lexer.ask request).2.answer i = lexer.answer (i + 1) := by
  cases request with
  | next => rfl
  | peek =>
    rcases lexer.peek_cases with ⟨found, shown, -, -⟩ | ⟨fault, -, same⟩
    · simp only [ask, shown, Reply.taken?] at h
      cases h
    · simp only [ask, same, Lexer.answer]

/-- Whatever is asked, the answers that are taken are the first of those that are handed out. -/
theorem exists_taken_replies (lexer : Lexer) (requests : List Request) :
    ∃ m, taken (lexer.replies requests) = (List.range m).map lexer.answer := by
  induction requests generalizing lexer with
  | nil => exact ⟨0, rfl⟩
  | cons request requests ih =>
    obtain ⟨m, hm⟩ := ih (lexer.ask request).2
    rw [replies, taken, List.filterMap_cons]
    cases takes : Reply.taken? ⟨request, (lexer.ask request).1⟩ with
    | none =>
      refine ⟨m, hm.trans ?_⟩
      exact List.map_congr_left fun i _ => answer_of_shown takes i
    | some answer =>
      have first : answer = lexer.answer 0 :=
        (Reply.answer_of_taken? takes).symm.trans (lexer.ask_answer request)
      refine ⟨m + 1, ?_⟩
      rw [List.range_succ_eq_map, List.map_cons, List.map_map, first]
      apply congrArg (lexer.answer 0 :: ·)
      exact hm.trans (List.map_congr_left fun i _ => answer_of_taken takes i)

/-- What is shown is the next answer to be taken. -/
theorem eq_of_shown {requests : List Request} {before after : List Reply} {found : Found}
    (h : lexer.replies requests = before ++ ⟨.peek, .ok found⟩ :: after) :
    ∀ answer ∈ (taken after).head?, answer = .ok found := by
  induction before generalizing lexer requests with
  | nil =>
    cases requests with
    | nil => cases h
    | cons request requests =>
      obtain ⟨hreply, rfl⟩ := List.cons.inj h
      obtain ⟨m, hm⟩ := (lexer.ask request).2.exists_taken_replies requests
      rw [hm]
      intro answer hanswer
      cases m with
      | zero => cases hanswer
      | succ m =>
        obtain rfl : (lexer.ask request).2.answer 0 = answer := by
          simpa [List.range_succ_eq_map] using hanswer
        rw [answer_of_shown (by rw [hreply]; rfl), ← lexer.ask_answer request]
        exact congrArg Reply.answer hreply
  | cons reply before ih =>
    cases requests with
    | nil => cases h
    | cons request requests => exact ih (List.cons.inj h).2

/-! ### The end of the input -/

/-- A lexer that shows nothing, in an input of so many characters. -/
structure Within (length : Nat) (lexer : Lexer) : Prop where
  shown : lexer.shown = none
  whole : lexer.position + lexer.rest.length = length

theorem within_ofString (input : String) : Within input.length (ofString input) where
  shown := rfl
  whole := by rw [ofString, Nat.zero_add, String.length_toList]

/-- What is handed out is the end of the input, behind which there is nothing, or something else
that takes characters from the input. -/
theorem Within.next_cases {length : Nat} (h : Within length lexer) :
    Within length lexer.next.2 ∧
      (lexer.next.1 = .ok (.finish length) ∧ lexer.next.2.rest = [] ∨
        (∀ offset, lexer.next.1 ≠ .ok (.finish offset)) ∧
          lexer.next.2.rest.length < lexer.rest.length) := by
  obtain ⟨input, rest, position, shown⟩ := lexer
  obtain ⟨rfl, rfl⟩ := h
  rcases scan_ends_or_advances position rest with ends | ⟨found, shorter, whole⟩
  · refine ⟨⟨rfl, ?_⟩, Or.inl ⟨?_, ?_⟩⟩ <;> simp [next, read, ends]
  · exact ⟨⟨rfl, whole⟩, Or.inr ⟨found, shorter⟩⟩

/-- The end of the input is reached after as many answers as there are characters. -/
theorem Within.answer_eq_finish {length i : Nat} (h : Within length lexer)
    (late : lexer.rest.length ≤ i) : lexer.answer i = .ok (.finish length) := by
  induction i generalizing lexer with
  | zero =>
    rcases h.next_cases with ⟨-, ⟨ends, -⟩ | ⟨-, shorter⟩⟩
    · exact ends
    · omega
  | succ i ih =>
    rcases h.next_cases with ⟨within, ⟨-, nothing⟩ | ⟨-, shorter⟩⟩
    · exact ih within (by simp [nothing])
    · exact ih within (by omega)

/-- The input stays at its end. -/
theorem Within.answer_of_finish {length i j offset : Nat} (h : Within length lexer)
    (ends : lexer.answer i = .ok (.finish offset)) (later : i ≤ j) :
    lexer.answer j = .ok (.finish length) := by
  induction i generalizing lexer j with
  | zero =>
    rcases h.next_cases with ⟨within, ⟨first, nothing⟩ | ⟨found, -⟩⟩
    · cases j with
      | zero => exact first
      | succ j => exact within.answer_eq_finish (by simp [nothing])
    · exact absurd ends (found offset)
  | succ i ih =>
    cases j with
    | zero => cases later
    | succ j =>
      change lexer.next.2.answer i = _ at ends
      change lexer.next.2.answer j = _
      exact ih h.next_cases.1 ends (Nat.le_of_succ_le_succ later)

/-- Whatever is asked, and in whichever order, what is taken out of a lexer is the beginning of what
it hands out when nothing is shown, and what is shown is what is taken next. Of what is handed out
there are at most as many answers as characters before the end of the input, which stays the answer
from then on. -/
theorem replies_in_any_order (input : String) :
    (∀ requests, ∃ m, taken ((ofString input).replies requests) =
      (List.range m).map (ofString input).answer) ∧
    (∀ requests before found after,
      (ofString input).replies requests = before ++ ⟨.peek, .ok found⟩ :: after →
      ∀ answer ∈ (taken after).head?, answer = .ok found) ∧
    {i | ∀ offset, (ofString input).answer i ≠ .ok (.finish offset)}.encard ≤ input.length ∧
    ∀ i offset, (ofString input).answer i = .ok (.finish offset) →
      ∀ j, i ≤ j → (ofString input).answer j = .ok (.finish input.length) := by
  have within := within_ofString input
  refine ⟨(ofString input).exists_taken_replies, ?_, ?_, ?_⟩
  · intro requests before found after h
    exact eq_of_shown h
  · have early : {i | ∀ offset, (ofString input).answer i ≠ .ok (.finish offset)} ⊆
        Finset.range input.length := by
      intro i hi
      rw [Finset.coe_range, Set.mem_Iio]
      by_contra late
      have hlength : (ofString input).rest.length = input.length := String.length_toList
      exact hi input.length (within.answer_eq_finish (by omega))
    calc Set.encard _
      _ ≤ Set.encard (Finset.range input.length : Set Nat) := Set.encard_le_encard early
      _ = input.length := by rw [Set.encard_coe_eq_coe_finsetCard, Finset.card_range]
  · intro i offset ends j later
    exact within.answer_of_finish ends later

/-- The empty phrase is reported by the request that looks ahead, and not once more. -/
theorem replies_in_any_order_fault_ahead :
    let lexer := ofString "(\"\"a"
    let shown : Answer := .ok (.token ⟨.word "a", 3⟩)
    lexer.replies [.peek, .next, .peek, .peek, .next] =
      [⟨.peek, .ok (.token ⟨.openParen, 0⟩)⟩, ⟨.next, .ok (.token ⟨.openParen, 0⟩)⟩,
        ⟨.peek, .error (.empty 1)⟩, ⟨.peek, shown⟩, ⟨.next, shown⟩] ∧
    (∃ m, [.ok (.token ⟨.openParen, 0⟩), .error (.empty 1), shown] =
      (List.range m).map lexer.answer) ∧
    (∀ answer ∈ (taken [⟨.next, shown⟩]).head?, answer = shown) ∧
    lexer.answer 3 = .ok (.finish 4) ∧ lexer.answer 9 = .ok (.finish 4) := by
  intro lexer shown
  have replied : lexer.replies [.peek, .next, .peek, .peek, .next] =
      [⟨.peek, .ok (.token ⟨.openParen, 0⟩)⟩, ⟨.next, .ok (.token ⟨.openParen, 0⟩)⟩,
        ⟨.peek, .error (.empty 1)⟩, ⟨.peek, shown⟩, ⟨.next, shown⟩] := rfl
  have ends : lexer.answer 3 = .ok (.finish 4) := rfl
  obtain ⟨first, next, -, last⟩ := replies_in_any_order "(\"\"a"
  obtain ⟨m, hm⟩ := first [.peek, .next, .peek, .peek, .next]
  refine ⟨replied, ⟨m, ?_⟩, ?_, ends, last 3 4 ends 9 (by decide)⟩
  · rw [← hm]
    exact (congrArg taken replied).symm
  · exact next _ [⟨.peek, .ok (.token ⟨.openParen, 0⟩)⟩, ⟨.next, .ok (.token ⟨.openParen, 0⟩)⟩,
      ⟨.peek, .error (.empty 1)⟩] _ _ replied

end Lexer

end BooleanSearch
