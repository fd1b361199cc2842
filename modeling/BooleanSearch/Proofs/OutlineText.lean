import BooleanSearch.Query.Outline
import BooleanSearch.Proofs.QuotedText

/-! # The text of an outline

An outline has one line for every node of a query. Its nodes are told by their addresses, which say
which operand to go on with, and the lines follow the lexicographic order of the addresses. A line
tells how many operands follow it, so no two queries have one outline.
-/

namespace BooleanSearch

/-! ### Lines -/

theorem toList_line_append (line text : String) :
    (line ++ "\n" ++ text).toList = line.toList ++ '\n' :: text.toList := by
  simp

/-- Lines that are ended by line feeds, and hold none, are what the text splits into. -/
theorem splitOn_join_lines {lines : List String} (h : ∀ line ∈ lines, '\n' ∉ line.toList) :
    (String.join (lines.map (· ++ "\n"))).toList.splitOn '\n' =
      lines.map String.toList ++ [[]] := by
  induction lines with
  | nil => simp
  | cons line lines ih =>
    rw [List.map_cons, String.join_cons, toList_line_append,
      List.splitOn_append_cons_self_of_not_mem (h line (by simp)),
      ih fun line hline => h line (by simp [hline])]
    rfl

theorem eq_of_join_lines {lines others : List String} (h : ∀ line ∈ lines, '\n' ∉ line.toList)
    (h' : ∀ line ∈ others, '\n' ∉ line.toList)
    (same : String.join (lines.map (· ++ "\n")) = String.join (others.map (· ++ "\n"))) :
    lines = others := by
  have split := (splitOn_join_lines h).symm.trans (same ▸ splitOn_join_lines h')
  have texts := List.append_cancel_right split
  exact List.map_inj_right (fun _ _ => String.toList_inj.mp) |>.mp texts

namespace Query

open Text (quoted)

/-! ### Nodes and their addresses -/

/-- The operands of a query. -/
def parts : Query → List Query
  | .literal _ => []
  | .binary _ left right => [left, right]
  | .negation operand => [operand]

/-- The node at an address, which says with which operand to go on at each of its ancestors. -/
def at? : Query → List Nat → Option Query
  | query, [] => some query
  | query, i :: address => query.parts[i]?.bind (·.at? address)

/-- A node of an operand, with its address in the whole query. -/
def inPart (i : Nat) (node : List Nat × Query) : List Nat × Query := (i :: node.1, node.2)

/-- The nodes of a query with their addresses, each before its operands. -/
def nodes : Query → List (List Nat × Query)
  | .literal text => [([], .literal text)]
  | .binary op left right =>
    ([], .binary op left right) :: (left.nodes.map (inPart 0) ++ right.nodes.map (inPart 1))
  | .negation operand => ([], .negation operand) :: operand.nodes.map (inPart 0)

/-- The nodes are what the addresses lead to. -/
theorem mem_nodes_iff {query node : Query} {address : List Nat} :
    (address, node) ∈ query.nodes ↔ query.at? address = some node := by
  induction query generalizing address with
  | literal text =>
    cases address with
    | nil => simpa [nodes, at?] using eq_comm
    | cons i address => simp [nodes, at?, parts]
  | binary op left right ihl ihr =>
    match address with
    | [] => simpa [nodes, at?, inPart] using eq_comm
    | 0 :: address => simp [nodes, at?, inPart, parts, ihl]
    | 1 :: address => simp [nodes, at?, inPart, parts, ihr]
    | (i + 2) :: address => simp [nodes, at?, inPart, parts]
  | negation operand ih =>
    match address with
    | [] => simpa [nodes, at?, inPart] using eq_comm
    | 0 :: address => simp [nodes, at?, inPart, parts, ih]
    | (i + 1) :: address => simp [nodes, at?, inPart, parts]

/-- A node comes before another if it is above it, or in an operand further to the left. -/
def Precedes (node other : List Nat × Query) : Prop := List.Lex (· < ·) node.1 other.1

theorem pairwise_nodes (query : Query) : query.nodes.Pairwise Precedes := by
  have inside (i : Nat) {nodes : List (List Nat × Query)} (h : nodes.Pairwise Precedes) :
      (nodes.map (inPart i)).Pairwise Precedes :=
    List.pairwise_map.mpr (h.imp List.Lex.cons)
  induction query with
  | literal text => exact List.pairwise_singleton _ _
  | binary op left right ihl ihr =>
    refine List.pairwise_cons.mpr ⟨?_, List.pairwise_append.mpr ⟨inside 0 ihl, inside 1 ihr, ?_⟩⟩
    · intro node hnode
      rw [List.mem_append, List.mem_map, List.mem_map] at hnode
      rcases hnode with ⟨node, -, rfl⟩ | ⟨node, -, rfl⟩ <;> exact List.Lex.nil
    · intro node hnode other hother
      obtain ⟨node, -, rfl⟩ := List.mem_map.mp hnode
      obtain ⟨other, -, rfl⟩ := List.mem_map.mp hother
      exact List.Lex.rel Nat.zero_lt_one
  | negation operand ih =>
    refine List.pairwise_cons.mpr ⟨?_, inside 0 ih⟩
    intro node hnode
    obtain ⟨node, -, rfl⟩ := List.mem_map.mp hnode
    exact List.Lex.nil

/-- What the line of a node shows. -/
def label : Query → String
  | .literal text => quoted text
  | .binary op _ _ => op.name
  | .negation _ => "Not"

theorem lineFeed_notMem_label (query : Query) : '\n' ∉ query.label.toList := by
  cases query with
  | literal text => exact Text.lineFeed_notMem_quoted text
  | binary op left right => cases op <;> simp [label, Connective.name]
  | negation operand => simp [label]

/-- The lines of an outline are those of its nodes, each indented as deep as its address is long. -/
theorem outlineLines_eq (query : Query) (level : Nat) :
    query.outlineLines level =
      query.nodes.map fun node => outlineLine (level + node.1.length) node.2.label := by
  have inside (level i : Nat) (nodes : List (List Nat × Query)) :
      nodes.map (fun node => outlineLine (level + 1 + node.1.length) node.2.label) =
        (nodes.map (inPart i)).map fun node =>
          outlineLine (level + node.1.length) node.2.label := by
    rw [List.map_map]
    refine List.map_congr_left fun node _ => ?_
    rw [Nat.add_right_comm]
    rfl
  induction query generalizing level with
  | literal text => rfl
  | binary op left right ihl ihr =>
    rw [outlineLines, ihl, ihr, inside level 0, inside level 1, ← List.map_append]
    rfl
  | negation operand ih =>
    rw [outlineLines, ih, inside level 0]
    rfl

/-! ### One outline, one query -/

/-- Two nodes that differ at most in what their operands are. -/
inductive SameNode : Query → Query → Prop
  | literal (text : String) : SameNode (.literal text) (.literal text)
  | binary (op : Connective) (left right left' right' : Query) :
      SameNode (.binary op left right) (.binary op left' right')
  | negation (operand operand' : Query) : SameNode (.negation operand) (.negation operand')

theorem sameNode_of_label {first second : Query} (h : first.label = second.label) :
    SameNode first second := by
  have head := congrArg (fun label => label.toList.head?) h
  cases first with
  | literal text =>
    cases second with
    | literal text' =>
      obtain rfl := Text.quoted_injective h
      exact .literal text
    | binary op _ _ => cases op <;> simp [label, quoted, Connective.name] at head
    | negation _ => simp [label, quoted] at head
  | binary op left right =>
    cases second with
    | literal _ => cases op <;> simp [label, quoted, Connective.name] at head
    | binary op' _ _ =>
      have same : op = op' := by cases op <;> cases op' <;> simp_all [label, Connective.name]
      rw [same]
      exact .binary op' _ _ _ _
    | negation _ => cases op <;> simp [label, Connective.name] at head
  | negation operand =>
    cases second with
    | literal _ => simp [label, quoted] at head
    | binary op _ _ => cases op <;> simp [label, Connective.name] at head
    | negation _ => exact .negation _ _

theorem outlineLine_injective {level : Nat} {line other : String}
    (h : outlineLine level line = outlineLine level other) : line = other := by
  have texts := congrArg String.toList h
  simp only [outlineLine, String.toList_append] at texts
  exact String.toList_inj.mp (List.append_cancel_left texts)

theorem sameNode_of_outlineLines {first second : Query} {level : Nat} {rest rest' : List String}
    (h : first.outlineLines level ++ rest = second.outlineLines level ++ rest') :
    SameNode first second := by
  have root (query : Query) :
      ∃ lines, query.outlineLines level = outlineLine level query.label :: lines := by
    cases query <;> exact ⟨_, rfl⟩
  obtain ⟨lines, hlines⟩ := root first
  obtain ⟨lines', hlines'⟩ := root second
  rw [hlines, hlines'] at h
  exact sameNode_of_label (outlineLine_injective (List.cons.inj h).1)

/-- A query is told from the front of some lines, since each line tells how many operands follow. -/
theorem eq_of_outlineLines {first second : Query} {level : Nat} {rest rest' : List String}
    (h : first.outlineLines level ++ rest = second.outlineLines level ++ rest') :
    first = second ∧ rest = rest' := by
  induction first generalizing second level rest rest' with
  | literal text =>
    cases sameNode_of_outlineLines h with
    | literal => exact ⟨rfl, (List.cons.inj h).2⟩
  | binary op left right ihl ihr =>
    cases sameNode_of_outlineLines h with
    | binary _ _ _ left' right' =>
      have operands : left.outlineLines (level + 1) ++ (right.outlineLines (level + 1) ++ rest) =
          left'.outlineLines (level + 1) ++ (right'.outlineLines (level + 1) ++ rest') := by
        simpa [outlineLines] using h
      obtain ⟨rfl, others⟩ := ihl operands
      obtain ⟨rfl, rfl⟩ := ihr others
      exact ⟨rfl, rfl⟩
  | negation operand ih =>
    cases sameNode_of_outlineLines h with
    | negation _ operand' =>
      obtain ⟨rfl, rfl⟩ := ih (List.cons.inj h).2
      exact ⟨rfl, rfl⟩

theorem outline_injective {first second : Query} (h : first.outline = second.outline) :
    first = second := by
  have unbroken (query : Query) : ∀ line ∈ query.outlineLines 0, '\n' ∉ line.toList := by
    rw [outlineLines_eq]
    intro line hline
    obtain ⟨node, -, rfl⟩ := List.mem_map.mp hline
    rw [outlineLine, String.toList_append, String.toList_ofList, List.mem_append]
    rintro (hblank | hlabel)
    · exact absurd (List.eq_of_mem_replicate hblank) (by decide)
    · exact lineFeed_notMem_label node.2 hlabel
  have lines := eq_of_join_lines (unbroken first) (unbroken second) h
  exact (eq_of_outlineLines (congrArg (· ++ []) lines)).1

/-- An outline has a line for every node, each before its operands and the left operand before the
right one. The line of a node is indented by two blanks for each of its ancestors and shows the
connective, the negation or the quoted text, without a line feed. No two queries have the same
outline. -/
theorem outline_tells_nodes :
    (∀ query : Query, ∃ nodes : List (List Nat × Query),
      (∀ address node, (address, node) ∈ nodes ↔ query.at? address = some node) ∧
      nodes.Pairwise Precedes ∧
      query.outline = String.join (nodes.map fun node =>
        String.ofList (List.replicate (2 * node.1.length) ' ') ++ node.2.label ++ "\n") ∧
      ∀ node ∈ nodes, '\n' ∉ node.2.label.toList) ∧
    ∀ first second : Query, first.outline = second.outline → first = second := by
  constructor
  · intro query
    refine ⟨query.nodes, fun address node => mem_nodes_iff, query.pairwise_nodes, ?_,
      fun node _ => lineFeed_notMem_label node.2⟩
    rw [outline, outlineLines_eq, List.map_map]
    congr 1
    refine List.map_congr_left fun node _ => ?_
    simp [outlineLine]
  · intro first second h
    exact outline_injective h

/-- The literal with a line feed does not look like a literal above a negation. -/
theorem outline_tells_nodes_line_feed :
    let query : Query := .binary .or (.literal "a\nNot") (.literal "b")
    let other : Query := .binary .or (.literal "a") (.negation (.literal "b"))
    query.outline = "Or\n  \"a\\nNot\"\n  \"b\"\n" ∧
    (∃ nodes : List (List Nat × Query), ([0], .literal "a\nNot") ∈ nodes ∧
      '\n' ∉ (Query.literal "a\nNot").label.toList) ∧
    query.outline ≠ other.outline := by
  intro query other
  obtain ⟨nodes, hnodes, -, -, unbroken⟩ := outline_tells_nodes.1 query
  have hmem : ([0], .literal "a\nNot") ∈ nodes := (hnodes [0] _).mpr rfl
  have hlabel := unbroken _ hmem
  refine ⟨by decide +kernel, ⟨nodes, hmem, hlabel⟩, fun h => ?_⟩
  exact absurd (outline_tells_nodes.2 query other h) (by simp [query, other])

end Query

end BooleanSearch
