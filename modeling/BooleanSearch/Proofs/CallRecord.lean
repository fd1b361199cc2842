import BooleanSearch.Proofs.Soundness

/-! # A record of the calls that the rules make

The rules once more, with a number of steps in place of a proof that they end, and with a record of
what happens: which rule is called and where, when the counter is lowered, and when a call goes
back. A record tallies when the counter tells how many calls are active. From this it follows that
the counter is never lowered below zero and how many calls can be active at once. And the calls of
a record are nested in each other: each goes back with what its rule gives in the parser.
-/

namespace BooleanSearch

/-- The rule that reads expressions of this kind. -/
def Nonterminal.rule : Nonterminal → Rule
  | .disjunction => .disjunction
  | .conjunction => .conjunction
  | .unary => .unary
  | .primary => .primary

/-- What happens while rules are read. -/
inductive Event
  | call (place : Nonterminal) (cursor : Cursor)
  /-- The counter has this value and is lowered. -/
  | leave (depth : Nat)
  /-- The innermost call goes back to where it was made, with a node or with a fault. -/
  | back

/-- The number of calls that have been made. -/
def calls : List Event → Nat
  | [] => 0
  | .call .. :: rest => calls rest + 1
  | .leave _ :: rest | .back :: rest => calls rest

/-- The number of calls that have gone back. -/
def backs : List Event → Nat
  | [] => 0
  | .back :: rest => backs rest + 1
  | .call .. :: rest | .leave _ :: rest => backs rest

theorem calls_append (events others : List Event) :
    calls (events ++ others) = calls events + calls others := by
  induction events with
  | nil => exact (Nat.zero_add _).symm
  | cons event rest ih =>
    cases event with
    | call place cursor =>
      rw [List.cons_append, calls, calls, ih]
      omega
    | leave depth | back => exact ih

theorem backs_append (events others : List Event) :
    backs (events ++ others) = backs events + backs others := by
  induction events with
  | nil => exact (Nat.zero_add _).symm
  | cons event rest ih =>
    cases event with
    | back =>
      rw [List.cons_append, backs, backs, ih]
      omega
    | call place cursor | leave depth => exact ih

/-- A computation that keeps a record. It has no outcome where its steps do not suffice. -/
structure Recorded (α : Type) where
  outcome : Option (Except SearchError α)
  events : List Event

namespace Recorded

variable {α β : Type}

/-- Goes on behind a value. A fault ends everything. -/
protected def bind (first : Recorded α) (next : α → Recorded β) : Recorded β :=
  match first.outcome with
  | some (.ok value) => ⟨(next value).outcome, first.events ++ (next value).events⟩
  | some (.error error) => ⟨some (.error error), first.events⟩
  | none => ⟨none, first.events⟩

instance : Monad Recorded where
  pure value := ⟨some (.ok value), []⟩
  bind := Recorded.bind

/-- What leaves nothing in the record. -/
def plain (outcome : Except SearchError α) : Recorded α := ⟨some outcome, []⟩

instance : MonadLift (Except SearchError) Recorded := ⟨plain⟩

/-- Lowers the counter. -/
def leave (cursor : Cursor) : Recorded Cursor := ⟨some (.ok cursor.leave), [.leave cursor.depth]⟩

/-- Makes a call, which goes back with what its body gives. -/
def called (place : Nonterminal) (cursor : Cursor) (body : Recorded α) : Recorded α :=
  ⟨body.outcome,
    .call place cursor :: (body.events ++ if body.outcome.isSome then [.back] else [])⟩

end Recorded

namespace Source

variable (source : Source)

/-- The cursor behind the parenthesis that closes a group. -/
def closing (cursor : Cursor) : Except SearchError Cursor :=
  match cursor.ahead with
  | ⟨.closeParen, _⟩ :: after => .ok { cursor with ahead := after }
  | token :: _ => .error (.unclosedGroup token.offset source.input)
  | [] => do
    let offset ← source.finish
    throw (.unclosedGroup offset source.input)

/-- Reads a rule in a number of steps. The two loops are steps of the call that they belong to. -/
def perform : Nat → Rule → Cursor → Recorded Progress
  | 0, _, _ => ⟨none, []⟩
  | steps + 1, .disjunction, cursor => .called .disjunction cursor do
    source.checkDepth (cursor.depth + 1)
    let first ← perform steps .conjunction cursor.enter
    let whole ← perform steps (.moreDisjuncts first.node) first.next
    return ⟨whole.node, ← Recorded.leave whole.next⟩
  | steps + 1, .moreDisjuncts left, cursor =>
    match cursor with
    | ⟨⟨.or, _⟩ :: rest, depth⟩ => do
      let right ← perform steps .conjunction ⟨rest, depth⟩
      let both ← source.join .or left right.node
      perform steps (.moreDisjuncts both) right.next
    | ⟨[], depth⟩ => do
      let _ ← source.finish
      return ⟨left, ⟨[], depth⟩⟩
    | cursor => return ⟨left, cursor⟩
  | steps + 1, .conjunction, cursor => .called .conjunction cursor do
    source.checkDepth (cursor.depth + 1)
    let first ← perform steps .unary cursor.enter
    let whole ← perform steps (.moreConjuncts first.node) first.next
    return ⟨whole.node, ← Recorded.leave whole.next⟩
  | steps + 1, .moreConjuncts left, cursor =>
    match cursor with
    | ⟨⟨.and, _⟩ :: rest, depth⟩ => do
      let right ← perform steps .unary ⟨rest, depth⟩
      let both ← source.join .and left right.node
      perform steps (.moreConjuncts both) right.next
    | ⟨[], depth⟩ => do
      let _ ← source.finish
      return ⟨left, ⟨[], depth⟩⟩
    | ⟨token :: rest, depth⟩ =>
      if token.lexeme.startsOperand then do
        let right ← perform steps .unary ⟨token :: rest, depth⟩
        let both ← source.join .and left right.node
        perform steps (.moreConjuncts both) right.next
      else return ⟨left, ⟨token :: rest, depth⟩⟩
  | steps + 1, .unary, cursor => .called .unary cursor do
    source.checkDepth (cursor.depth + 1)
    match cursor.ahead with
    | ⟨.not, _⟩ :: rest =>
      let operand ← perform steps .unary ⟨rest, cursor.depth + 1⟩
      let negated ← source.negate operand.node
      return ⟨negated, ← Recorded.leave operand.next⟩
    | [] =>
      let _ ← source.finish
      let operand ← perform steps .primary cursor.enter
      return ⟨operand.node, ← Recorded.leave operand.next⟩
    | _ :: _ =>
      let operand ← perform steps .primary cursor.enter
      return ⟨operand.node, ← Recorded.leave operand.next⟩
  | steps + 1, .primary, cursor => .called .primary cursor do
    source.checkDepth (cursor.depth + 1)
    match cursor.ahead with
    | [] =>
      let offset ← source.finish
      Recorded.plain (.error (.missingOperand offset source.input))
    | ⟨.openParen, _⟩ :: rest =>
      let inner ← perform steps .disjunction ⟨rest, cursor.depth + 1⟩
      let behind ← source.closing inner.next
      return ⟨inner.node, ← Recorded.leave behind⟩
    | ⟨.phrase text, _⟩ :: rest | ⟨.word text, _⟩ :: rest =>
      return ⟨⟨.literal text, 1⟩, ← Recorded.leave ⟨rest, cursor.depth + 1⟩⟩
    | token :: _ => Recorded.plain (.error (.missingOperand token.offset source.input))

end Source

/-! ### Counting active calls -/

/-- A record that leads from one number of active calls to another. Wherever a rule is called or the
counter lowered, the counter tells this number; rules are only called up to the limit. -/
inductive Tallies (limit : Nat) : Nat → List Event → Nat → Prop
  | nil {level} : Tallies limit level [] level
  | call {place cursor rest last} (h : cursor.depth ≤ limit)
      (more : Tallies limit (cursor.depth + 1) rest last) :
      Tallies limit cursor.depth (.call place cursor :: rest) last
  | leave {level rest last} (h : 0 < level) (more : Tallies limit level rest last) :
      Tallies limit level (.leave level :: rest) last
  | back {level rest last} (more : Tallies limit level rest last) :
      Tallies limit (level + 1) (.back :: rest) last

namespace Tallies

variable {limit level last : Nat} {events : List Event}

theorem append {middle : Nat} {others : List Event} (h : Tallies limit level events middle)
    (h' : Tallies limit middle others last) : Tallies limit level (events ++ others) last := by
  induction h with
  | nil => exact h'
  | call h more ih => exact .call h (ih h')
  | leave h more ih => exact .leave h (ih h')
  | back more ih => exact .back (ih h')

/-- At any moment the calls that are active are at most one more than the limit. -/
theorem active_le (h : Tallies limit level events last) (hlevel : level ≤ limit + 1)
    {before : List Event} (hbefore : before <+: events) :
    level + calls before ≤ backs before + (limit + 1) := by
  induction h generalizing before with
  | nil =>
    rw [List.prefix_nil.mp hbefore]
    simpa [calls, backs] using hlevel
  | call h more ih | leave h more ih | back more ih =>
    rcases List.prefix_cons_iff.mp hbefore with rfl | ⟨front, rfl, hfront⟩
    · simpa [calls, backs] using hlevel
    · have := ih (by omega) hfront
      simp only [calls, backs]
      omega

/-- Where a rule is called, the counter tells how many calls are active, and is within the limit. -/
theorem depth_of_call (h : Tallies limit level events last) {before after : List Event}
    {place : Nonterminal} {cursor : Cursor}
    (split : events = before ++ .call place cursor :: after) :
    cursor.depth ≤ limit ∧ level + calls before = backs before + cursor.depth := by
  induction h generalizing before with
  | nil => simp at split
  | call h more ih | leave h more ih | back more ih =>
    cases before with
    | nil =>
      cases split <;> exact ⟨h, by simp [calls, backs]⟩
    | cons event front =>
      obtain ⟨rfl, rfl⟩ := List.cons.inj split
      have := ih rfl
      simp only [calls, backs]
      omega

theorem pos_of_leave (h : Tallies limit level events last) {depth : Nat}
    (hmem : .leave depth ∈ events) : 0 < depth := by
  induction h with
  | nil => cases hmem
  | call h more ih => exact ih (by simpa using hmem)
  | leave h more ih =>
    rcases List.mem_cons.mp hmem with heq | hmem
    · cases heq
      exact h
    · exact ih hmem
  | back more ih => exact ih (by simpa using hmem)

end Tallies

/-! ### What belongs to a call -/

/-- A record of calls that are nested in each other, which lowers the counter from these values
outside of them. Every call goes back with what its rule gives in the parser. If that is a node, the
call itself lowers the counter once, to where it was; if it is a fault, it never does. -/
inductive Nested (source : Source) : List Nat → List Event → Prop
  | nil : Nested source [] []
  | given {place cursor progress inner lowered rest}
      (h : source.run (Nonterminal.rule place) cursor = .ok progress)
      (body : Nested source [cursor.depth + 1] inner) (more : Nested source lowered rest) :
      Nested source lowered (.call place cursor :: (inner ++ .back :: rest))
  | failed {place cursor error inner lowered rest}
      (h : source.run (Nonterminal.rule place) cursor = .error error)
      (body : Nested source [] inner) (more : Nested source lowered rest) :
      Nested source lowered (.call place cursor :: (inner ++ .back :: rest))
  | leave {depth lowered rest} (more : Nested source lowered rest) :
      Nested source (depth :: lowered) (.leave depth :: rest)

/-- Whether the counter is lowered. -/
def Event.isLeave : Event → Bool
  | .leave _ => true
  | .call .. | .back => false

/-- Whether a rule is called that gives a node. -/
def Source.isGiven (source : Source) : Event → Bool
  | .call place cursor => (source.run place.rule cursor).isOk
  | .leave _ | .back => false

namespace Nested

variable {source : Source} {lowered others : List Nat} {events more : List Event}

theorem append (h : Nested source lowered events) (h' : Nested source others more) :
    Nested source (lowered ++ others) (events ++ more) := by
  induction h with
  | nil => exact h'
  | given h body rest _ ih =>
    rw [List.cons_append, List.append_assoc, List.cons_append]
    exact .given h body ih
  | failed h body rest _ ih =>
    rw [List.cons_append, List.append_assoc, List.cons_append]
    exact .failed h body ih
  | leave rest ih => exact .leave ih

/-- All calls have gone back. -/
theorem backs_eq_calls (h : Nested source lowered events) : backs events = calls events := by
  induction h with
  | nil => rfl
  | given h body more ihbody ihmore | failed h body more ihbody ihmore =>
    simp only [backs, calls, backs_append, calls_append, ihbody, ihmore]
    rfl
  | leave more ih => exact ih

/-- The counter has been lowered once for every call that gives a node. -/
theorem countP_isLeave (h : Nested source lowered events) :
    events.countP Event.isLeave = lowered.length + events.countP source.isGiven := by
  induction h with
  | nil => rfl
  | given h body more ihbody ihmore | failed h body more ihbody ihmore =>
    simp only [List.countP_cons, List.countP_append, Event.isLeave, Source.isGiven, h, Except.isOk,
      Except.toBool, ihbody, ihmore, List.length_cons, List.length_nil, Bool.false_eq_true,
      ↓reduceIte]
    omega
  | leave more ih =>
    simp only [List.countP_cons, Event.isLeave, Source.isGiven, ih, List.length_cons,
      Bool.false_eq_true, ↓reduceIte]
    omega

end Nested

/-! ### What a computation spends -/

namespace Recorded

variable {α β : Type} {source : Source} {level credit : Nat} {lowered : List Nat}
variable {result : Except SearchError α} {rest : α → Nat}

/-- A computation comes to this result, tallies and has its calls nested, with no more calls than
`credit`. Before a value it has lowered the counter from these values outside of its calls, and what
is left of the credit is at least `rest`; before a fault it has not lowered the counter. -/
structure Spends (source : Source) (level credit : Nat) (lowered : List Nat) (record : Recorded α)
    (result : Except SearchError α) (rest : α → Nat) : Prop where
  outcome : record.outcome = some result
  tallies : Tallies source.maxDepth level record.events level
  nested : Nested source (if result.isOk then lowered else []) record.events
  calls_le : calls record.events ≤ credit
  saves : ∀ value, result = .ok value → calls record.events + rest value ≤ credit

theorem spends_plain (result : Except SearchError α) :
    Spends source level credit [] (plain result) result fun _ => credit where
  outcome := rfl
  tallies := .nil
  nested := by
    rw [ite_self]
    exact .nil
  calls_le := Nat.zero_le credit
  saves _ _ := Nat.le_of_eq (Nat.zero_add credit)

theorem spends_pure {value : α} (h : rest value ≤ credit) :
    Spends source level credit [] (pure value) (pure value) rest where
  outcome := rfl
  tallies := .nil
  nested := .nil
  calls_le := Nat.zero_le credit
  saves value' hvalue' := by
    cases hvalue'
    exact Nat.le_trans (Nat.le_of_eq (Nat.zero_add _)) h

theorem spends_fault (error : SearchError) :
    Spends source level credit lowered (plain (.error error)) (.error error) rest where
  outcome := rfl
  tallies := .nil
  nested := .nil
  calls_le := Nat.zero_le credit
  saves := by rintro _ ⟨⟩

namespace Spends

variable {record : Recorded α}

/-- A computation is paid from what the one before it has left. -/
theorem bind {next : α → Recorded β} {nextResult : α → Except SearchError β} {rest' : β → Nat}
    (h : Spends source level credit [] record result rest)
    (h' : ∀ value, result = .ok value →
      Spends source level (rest value) lowered (next value) (nextResult value) rest') :
    Spends source level credit lowered (record >>= next) (result >>= nextResult) rest' := by
  obtain ⟨outcome, events⟩ := record
  obtain ⟨rfl, tallies, nested, calls_le, saves⟩ := h
  rw [ite_self] at nested
  cases result with
  | error error => exact ⟨rfl, tallies, nested, calls_le, by rintro _ ⟨⟩⟩
  | ok value =>
    obtain ⟨outcome', tallies', nested', calls_le', saves'⟩ := h' value rfl
    have spent := saves value rfl
    refine ⟨outcome', tallies.append tallies', nested.append nested', ?_, fun value' hvalue' => ?_⟩
    · change calls (events ++ _) ≤ credit
      rw [calls_append]
      exact Nat.le_trans (Nat.add_le_add_left calls_le' _) spent
    · change calls (events ++ _) + _ ≤ credit
      rw [calls_append, Nat.add_assoc]
      exact Nat.le_trans (Nat.add_le_add_left (saves' value' hvalue') _) spent

theorem plain_bind {check : Except SearchError α} {next : α → Recorded β}
    {nextResult : α → Except SearchError β} {rest' : β → Nat}
    (h : ∀ value, check = .ok value →
      Spends source level credit lowered (next value) (nextResult value) rest') :
    Spends source level credit lowered (plain check >>= next) (check >>= nextResult) rest' :=
  (spends_plain check).bind h

theorem mono {more : Nat} (h : Spends source level credit lowered record result rest)
    (hcredit : credit ≤ more) : Spends source level more lowered record result rest where
  outcome := h.outcome
  tallies := h.tallies
  nested := h.nested
  calls_le := Nat.le_trans h.calls_le hcredit
  saves value hvalue := Nat.le_trans (h.saves value hvalue) hcredit

/-- A call costs one more than its body, which lowers the counter to where it was. -/
theorem called {place : Nonterminal} {cursor : Cursor} {record : Recorded Progress}
    {rest : Progress → Nat} (h : cursor.depth ≤ source.maxDepth)
    (body : Spends source (cursor.depth + 1) credit [cursor.depth + 1] record
      (source.run place.rule cursor) rest) :
    Spends source cursor.depth (credit + 1) [] (called place cursor record)
      (source.run place.rule cursor) rest := by
  obtain ⟨outcome, events⟩ := record
  obtain ⟨rfl, tallies, nested, calls_le, saves⟩ := body
  have count : calls (.call place cursor :: (events ++ [.back])) = calls events + 1 := by
    rw [calls, calls_append]
    rfl
  refine ⟨rfl, .call h (tallies.append (.back .nil)), ?_, ?_, fun value hvalue => ?_⟩
  · rw [ite_self]
    cases hresult : source.run place.rule cursor with
    | ok progress =>
      rw [hresult] at nested
      exact .given hresult nested .nil
    | error error =>
      rw [hresult] at nested
      exact .failed hresult nested .nil
  · change calls (.call place cursor :: (events ++ [.back])) ≤ credit + 1
    rw [count]
    exact Nat.succ_le_succ calls_le
  · change calls (.call place cursor :: (events ++ [.back])) + rest value ≤ credit + 1
    have spent : calls events + rest value ≤ credit := saves value hvalue
    omega

end Spends

end Recorded

end BooleanSearch
