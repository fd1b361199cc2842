import BooleanSearch.Program
import BooleanSearch.Proofs.JsonText
import BooleanSearch.Proofs.StrayParenthesis
import Mathlib.Data.List.Forall2

/-! # The report on parsed expressions

Every expression is reported as if it stood alone, at its place in the order. As JSON the report is
one document with an entry for every expression; as outlines it is what there is to say of every
query on one channel and of every fault on the other.
-/

namespace BooleanSearch

/-- An entry of a report tells the expression, and its query or its fault, but not both. A fault is
told with its place, if it has one. -/
structure EntryOf (expression : String) (result : Except SearchError Query) (entry : Json) :
    Prop where
  expression : entry.field? "expression" = some (.text expression)
  query : ∀ query, result = .ok query →
    entry.field? "ast" = some query.toJson ∧ entry.field? "error" = none
  fault : ∀ error, result = .error error → entry.field? "ast" = none ∧
    ∃ fault, entry.field? "error" = some fault ∧
      fault.field? "kind" = some (.text error.kindName) ∧
      fault.field? "message" = some (.text error.message) ∧
      fault.field? "position" = error.position?.map .number

/-- What is shown of a result: its outline, or nothing. -/
def shownQuery : Except SearchError Query → String
  | .ok query => query.outline
  | .error _ => ""

/-- What is said of a fault. -/
def saidFault? (expression : String) : Except SearchError Query → Option String
  | .ok _ => none
  | .error error => some (error.diagnostic expression ++ "\n")

namespace Outcome

variable (parser : SearchParser)

theorem entryOf_toJson (expression : String) :
    EntryOf expression (parser.parse expression) (ofExpression parser expression).toJson := by
  unfold toJson ofExpression
  cases parser.parse expression with
  | ok query =>
    refine ⟨rfl, ?_, nofun⟩
    rintro _ ⟨⟩
    exact ⟨rfl, rfl⟩
  | error error =>
    refine ⟨rfl, nofun, ?_⟩
    rintro _ ⟨⟩
    refine ⟨rfl, _, rfl, rfl, rfl, ?_⟩
    cases error <;> rfl

theorem outline_eq (outcome : Outcome) : outcome.outline = shownQuery outcome.result := by
  unfold outline
  cases outcome.result <;> rfl

theorem join_diagnostics (expressions : List String) :
    String.join ((expressions.map (ofExpression parser)).map diagnostic) =
      String.join (expressions.filterMap fun expression =>
        saidFault? expression (parser.parse expression)) := by
  induction expressions with
  | nil => rfl
  | cons expression expressions ih =>
    rw [List.map_cons, List.map_cons, String.join_cons, ih, List.filterMap_cons, diagnostic,
      ofExpression]
    cases parser.parse expression with
    | ok query => simp [saidFault?]
    | error error => simp [saidFault?]

theorem all_isOk_iff (expressions : List String) :
    (expressions.map (ofExpression parser)).all isOk = true ↔
      ∀ expression ∈ expressions, ∃ query, parser.parse expression = .ok query := by
  rw [List.all_map, List.all_eq_true]
  refine forall₂_congr fun expression _ => ?_
  simp only [Function.comp, isOk, ofExpression]
  cases parser.parse expression <;> simp [Except.isOk, Except.toBool]

end Outcome

namespace Environment

variable {env : Environment} {configuration : Configuration}

/-- With settings a parse command prints its report, and changes no file. -/
theorem run_parse_eq (loaded : env.load env.directory = .ok configuration)
    (expressions : List String) (maxDepth : Option Nat) (json tree : Bool) :
    env.run (.parse expressions maxDepth json tree) =
      (runParse configuration.settings expressions maxDepth json tree, env.store) := by
  rw [run, withSettings, loaded]

/-- Whether the report is a JSON document: the flags go before the settings. -/
def AsJson (settings : Settings) (json tree : Bool) : Prop :=
  json = true ∨ (tree = false ∧ settings.format = .json)

theorem exists_parseReport (settings : Settings) (expressions : List String)
    (maxDepth : Option Nat) (json tree : Bool) :
    ∃ format, (format = .json ↔ AsJson settings json tree) ∧
      runParse settings expressions maxDepth json tree = parseReport format
        (expressions.map (Outcome.ofExpression (.ofLimit (maxDepth.getD settings.maxDepth)))) := by
  refine ⟨_, ?_, rfl⟩
  unfold AsJson
  cases json <;> cases tree <;> simp

section

variable {settings : Settings} {maxDepth : Option Nat} {json tree : Bool} {parser : SearchParser}
  (limit : parser = .ofLimit (maxDepth.getD settings.maxDepth)) (expressions : List String)

include limit

theorem runParse_succeeded_iff :
    (runParse settings expressions maxDepth json tree).succeeded = true ↔
      ∀ expression ∈ expressions, ∃ query, parser.parse expression = .ok query := by
  obtain ⟨format, -, hrun⟩ := exists_parseReport settings expressions maxDepth json tree
  rw [hrun, ← limit, ← Outcome.all_isOk_iff]
  cases format <;> rfl

/-- A report that is a JSON document is the list of the entries. -/
theorem isTextOf_runParse_iff (asJson : AsJson settings json tree) {document : Json} :
    Json.IsTextOf document (runParse settings expressions maxDepth json tree).stdout ↔
      document = .record [("results", .list (expressions.map fun expression =>
        (Outcome.ofExpression parser expression).toJson))] := by
  obtain ⟨format, hformat, hrun⟩ := exists_parseReport settings expressions maxDepth json tree
  obtain rfl := hformat.mpr asJson
  rw [hrun, ← limit, parseReport, outcomesDocument, List.map_map]
  exact Json.isTextOf_pretty_iff

theorem runParse_outlines (asTree : ¬ AsJson settings json tree) :
    (runParse settings expressions maxDepth json tree).stdout =
        String.join (expressions.map fun expression =>
          if 1 < expressions.length then
            expression ++ ":\n" ++ shownQuery (parser.parse expression) ++ "\n"
          else shownQuery (parser.parse expression)) ∧
      (runParse settings expressions maxDepth json tree).stderr =
        String.join (expressions.filterMap fun expression =>
          saidFault? expression (parser.parse expression)) := by
  obtain ⟨format, hformat, hrun⟩ := exists_parseReport settings expressions maxDepth json tree
  cases format with
  | json => exact absurd (hformat.mp rfl) asTree
  | tree =>
    rw [hrun, ← limit, parseReport, List.length_map]
    refine ⟨?_, Outcome.join_diagnostics parser expressions⟩
    rw [List.map_map]
    split <;>
      simp only [Function.comp_def, Outcome.framed, Outcome.outline_eq, Outcome.ofExpression]

end

/-- Parsing succeeds if every expression is accepted. As JSON the report is one document, which has
an entry for every expression, in order, and each is the entry that the expression gets alone.
Otherwise the outlines of the queries are printed on one channel, framed if there are several
expressions, and on the other what is wrong with those that have a fault, both in order. -/
theorem run_parse_each_in_order (env : Environment) {configuration : Configuration}
    (loaded : env.load env.directory = .ok configuration) (expressions : List String)
    (maxDepth : Option Nat) (json tree : Bool) {parser : SearchParser}
    (limit : parser = .ofLimit (maxDepth.getD configuration.settings.maxDepth)) :
    ∃ output, env.run (.parse expressions maxDepth json tree) = (output, env.store) ∧
      (output.succeeded = true ↔
        ∀ expression ∈ expressions, ∃ query, parser.parse expression = .ok query) ∧
      (AsJson configuration.settings json tree →
        ∃ entries, List.Forall₂ (fun expression entry =>
            EntryOf expression (parser.parse expression) entry ∧
            ∃ alone, env.run (.parse [expression] maxDepth json tree) = (alone, env.store) ∧
              ∀ document, Json.IsTextOf document alone.stdout ↔
                document = .record [("results", .list [entry])]) expressions entries ∧
          ∀ document, Json.IsTextOf document output.stdout ↔
            document = .record [("results", .list entries)]) ∧
      (¬ AsJson configuration.settings json tree →
        output.stdout = String.join (expressions.map fun expression =>
          if 1 < expressions.length then
            expression ++ ":\n" ++ shownQuery (parser.parse expression) ++ "\n"
          else shownQuery (parser.parse expression)) ∧
        output.stderr = String.join (expressions.filterMap fun expression =>
          saidFault? expression (parser.parse expression))) := by
  refine ⟨_, run_parse_eq loaded expressions maxDepth json tree,
    runParse_succeeded_iff limit expressions, fun asJson => ?_, runParse_outlines limit expressions⟩
  refine ⟨expressions.map fun expression => (Outcome.ofExpression parser expression).toJson, ?_,
    fun document => isTextOf_runParse_iff limit expressions asJson⟩
  rw [List.forall₂_map_right_iff, List.forall₂_same]
  intro expression _
  refine ⟨Outcome.entryOf_toJson parser expression, _,
    run_parse_eq loaded [expression] maxDepth json tree, fun document => ?_⟩
  exact isTextOf_runParse_iff limit [expression] asJson

/-- The second expression fails, which does not keep the first and the third from being shown. -/
theorem run_parse_each_in_order_with_fault :
    let env : Environment := { store := .empty, home := some (.ofText "/h"), here := [] }
    let error : SearchError := .strayToken 1 "a)"
    ∃ output, env.run (.parse ["a", "a)", "a"] (some 9) false true) = (output, env.store) ∧
      output.succeeded = false ∧
      output.stdout = "a:\n" ++ (Query.literal "a").outline ++ "\na):\n\na:\n" ++
        (Query.literal "a").outline ++ "\n" ∧
      output.stderr = error.diagnostic "a)" ++ "\n" := by
  intro env error
  have loaded : env.load env.directory = .ok {} := rfl
  have tokenized : tokenize "a" = .ok [⟨.word "a", 0⟩] := by cbv
  have derived : Derives .disjunction [.word "a"] (.literal "a") :=
    .disjunct (.conjunct (.operand (.word "a")))
  have accepted : (SearchParser.ofLimit 9).parse "a" = .ok (.literal "a") := by
    rw [SearchParser.parse_of_derives _ tokenized derived]
    decide
  have stray : (SearchParser.ofLimit 9).parse "a)" = .error error :=
    SearchParser.parse_eq_strayToken_iff_before.mpr ⟨rfl, ['a'], [], rfl, rfl, _, accepted⟩
  obtain ⟨output, hrun, hsucceeded, -, htree⟩ :=
    run_parse_each_in_order env loaded ["a", "a)", "a"] (some 9) false true rfl
  obtain ⟨hstdout, hstderr⟩ := htree (by simp [AsJson])
  refine ⟨output, hrun, ?_, ?_, ?_⟩
  · rw [Bool.eq_false_iff, ne_eq, hsucceeded]
    intro all
    obtain ⟨query, hquery⟩ := all "a)" (by simp)
    rw [Option.getD_some, stray] at hquery
    cases hquery
  · rw [hstdout]
    apply String.toList_inj.mp
    simp [accepted, stray, shownQuery]
  · rw [hstderr]
    simp [accepted, stray, saidFault?]

end Environment

end BooleanSearch
