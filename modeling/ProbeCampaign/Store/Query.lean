import ProbeCampaign.Json.Parser
import ProbeCampaign.Store

/-!
# Queries for results

A `Statement` selects results, each joined with the response and the browser that
it refers to. Its conditions do not hold the values that they compare with but
the numbers of those in a list of their own. `ofFilter?` makes the statement of a
filter, and `query` reads the rows that it selects. The engine does not take
every statement: it numbers only so many values, and an expression is nested
only so deep (`refusal?`).
-/

namespace ProbeCampaign

/-- What a column holds. -/
inductive ColumnValue where
  | integer (n : Int)
  | text (s : String)
  deriving DecidableEq

/-- A result with the response and the browser that it refers to. -/
structure JoinedRow where
  result : ResultRow
  response : StoredResponse
  browser : Browser

/-- A column that a condition is about. -/
inductive Column where
  | testStatus
  | respType
  | browserId
  | os

/-- The name of a column, with that of its table. -/
def Column.sql : Column → String
  | .testStatus => "r.test_status"
  | .respType => "resp.resp_type"
  | .browserId => "r.browser_id"
  | .os => "b.os"

namespace JoinedRow

/-- What a column of a row holds. -/
def value (j : JoinedRow) : Column → ColumnValue
  | .testStatus => .integer j.result.testStatus
  | .respType => .text j.response.spec.respType.name
  | .browserId => .integer j.result.browserId
  | .os => .text j.browser.entry.os

/-- Reads the JSON text of an outcome. -/
def readOutcome : Option String → Except Failure (Option Datum)
  | none => .ok none
  | some text =>
    match Json.parse? text with
    | some d => .ok (some d.canonical)
    | none => .error .serialization

/-- Reads the name of a type. -/
def readType (name : String) : Except Failure RespType :=
  match RespType.ofName? name with
  | some t => .ok t
  | none => .error (.unknownRespType name)

/-- Reads the record of a row. Its type is that of the stored response. -/
def parse (j : JoinedRow) : Except Failure ResultRecord := do
  let outcomeValue ← readOutcome j.result.outcome
  let respType ← readType j.response.spec.respType.name
  pure {
    id := some j.result.id
    testName := j.result.testName
    testStatus := j.result.testStatus
    relationInfo := j.result.relationInfo
    orgScheme := j.result.orgScheme
    orgHost := j.result.orgHost
    respScheme := j.result.respScheme
    respHost := j.result.respHost
    responseId := j.result.responseId
    respType := respType
    browserId := j.result.browserId
    fullUrl := j.result.fullUrl
    outcomeValue := outcomeValue }

end JoinedRow

/-- How a column compares with one value. -/
inductive Comparison where
  | equal
  | different

namespace Comparison

/-- Whether two values compare like that. -/
def holds (x y : ColumnValue) : Comparison → Bool
  | .equal => x = y
  | .different => x ≠ y

/-- The operator of a comparison. -/
def sql : Comparison → String
  | .equal => "="
  | .different => "!="

end Comparison

/-- The text that stands for a value. -/
def parameterSql (p : Nat) : String :=
  "?" ++ toString p

/-- A condition on rows. Values are given by their numbers, which start at one. -/
inductive Condition where
  | compare (comparison : Comparison) (column : Column) (parameter : Nat)
  | among (column : Column) (parameters : List Nat)

namespace Condition

/-- The numbers of the values of a condition, in order. -/
def parameters : Condition → List Nat
  | .compare _ _ p => [p]
  | .among _ ps => ps

/-- Whether a condition holds of a row; a comparison without a value does not. -/
def holds (values : Array ColumnValue) (j : JoinedRow) : Condition → Bool
  | .compare comparison column p => values[p - 1]?.any fun v => comparison.holds (j.value column) v
  | .among column ps => ps.any fun p => values[p - 1]?.any fun v => j.value column = v

/-- The text of a condition. -/
def sql : Condition → String
  | .compare comparison column p => column.sql ++ " " ++ comparison.sql ++ " " ++ parameterSql p
  | .among column ps => column.sql ++ " IN (" ++ ", ".intercalate (ps.map parameterSql) ++ ")"

end Condition

/-- Conditions that all have to hold, and the values that they compare with, which
they number one after the other. -/
structure Statement where
  conditions : List Condition
  values : Array ColumnValue
  numbered : conditions.flatMap Condition.parameters = List.range' 1 values.size

namespace Statement

/-- The statement that selects everything. -/
def everything : Statement where
  conditions := []
  values := #[]
  numbered := rfl

/-- Adds a condition on the next value. -/
def require (s : Statement) (comparison : Comparison) (column : Column) (v : ColumnValue) :
    Statement where
  conditions := s.conditions ++ [.compare comparison column (s.values.size + 1)]
  values := s.values.push v
  numbered := by
    rw [List.flatMap_append, s.numbered, Array.size_push, List.range'_1_concat, Nat.add_comm]
    rfl

/-- Adds values to those that there are, and the number of each to other numbers. -/
def number (values : Array ColumnValue) (ps : Array Nat) :
    List ColumnValue → Array ColumnValue × Array Nat
  | [] => (values, ps)
  | v :: vs =>
    let values := values.push v
    number values (ps.push values.size) vs

theorem number_eq (values : Array ColumnValue) (ps : Array Nat) (vs : List ColumnValue) :
    number values ps vs =
      (values ++ vs.toArray, ps ++ (List.range' (values.size + 1) vs.length).toArray) := by
  induction vs generalizing values ps with
  | nil => simp [number]
  | cons v vs ih =>
    rw [number, ih, Prod.mk.injEq]
    exact ⟨by simp, Array.toList_inj.1 (by simp [List.range'_succ])⟩

/-- Adds a condition on the next values. -/
def requireAmong (s : Statement) (column : Column) (vs : List ColumnValue) : Statement where
  conditions := s.conditions ++ [.among column (number s.values #[] vs).2.toList]
  values := (number s.values #[] vs).1
  numbered := by
    rw [number_eq, Array.empty_append, List.flatMap_append, s.numbered, Array.size_append,
      List.size_toArray, ← List.range'_append_1, Nat.add_comm 1]
    exact congrArg _ (List.append_nil _)

/-- Adds a condition if a value is given. -/
def requireGiven (s : Statement) (comparison : Comparison) (column : Column) :
    Option ColumnValue → Statement
  | some v => s.require comparison column v
  | none => s

/-- Adds a condition if a list of values is given, which must not be empty. -/
def requireAmong? (s : Statement) (column : Column) :
    Option (List ColumnValue) → Option Statement
  | some [] => none
  | some vs => some (s.requireAmong column vs)
  | none => some s

/-- The statement of a filter, unless the filter leaves no browser. -/
def ofFilter? (filter : ResultFilter) : Option Statement := do
  let s := everything.requireGiven .equal .testStatus (filter.testStatus.map .integer)
  let s := filter.excludeRespTypes.foldl
    (fun s t => s.require .different .respType (.text t.name)) s
  let s := s.requireGiven .different .browserId
    (if filter.excludeUnknownBrowser then some (.integer unknownBrowserId) else none)
  let s ← s.requireAmong? .browserId (filter.browserIds.map (·.map .integer))
  pure (s.requireGiven .equal .os (filter.os.map .text))

/-- Whether a statement selects a row. -/
def accepts (s : Statement) (j : JoinedRow) : Bool :=
  s.conditions.all (·.holds s.values j)

/-- The text of a statement. -/
def sql (s : Statement) : String :=
  let given := match s.conditions with
    | [] => ""
    | conditions => "WHERE " ++ " AND ".intercalate (conditions.map Condition.sql)
  "\n".intercalate [
    "SELECT r.id, r.test_name, r.test_status, r.relation_info, r.org_scheme, r.org_host,",
    "                    r.resp_scheme, r.resp_host, r.response_id, resp.resp_type, r.browser_id,",
    "                    r.full_url, r.outcome_value",
    "             FROM results r",
    "             JOIN responses resp ON r.response_id = resp.id",
    "             JOIN browsers b ON r.browser_id = b.id",
    "             " ++ given,
    "             ORDER BY r.id"]

/-- The greatest number that a value can have. -/
def maxParameter : Nat := 32766

/-- The number of levels of the deepest expression that the engine takes. -/
def maxDepth : Nat := 1000

/-- The number of levels of conditions that all have to hold. One condition has
three: its operator, the dot in the name of its column, and the names beside it.
Each further one is joined to those before it, a level up. -/
def depth : Nat → Nat
  | 0 => 0
  | n + 1 => n + 3

/-- The conditions that the engine reads before it finds that those read so far are
nested too deep. -/
def readConditions (s : Statement) : List Condition :=
  s.conditions.take (maxDepth - 1)

/-- What the engine says of a statement that it does not take. The conditions that
join the tables are added to those of the statement once it is read. -/
def refusal? (s : Statement) : Option StoreError :=
  if (s.readConditions.flatMap Condition.parameters).any (maxParameter < ·) then
    let before := (s.sql.splitOn (parameterSql (maxParameter + 1))).headD ""
    some (.tooManyParameters maxParameter s.sql before.utf8ByteSize)
  else if maxDepth < depth (s.conditions.length + 2) then some (.tooDeep maxDepth)
  else none

end Statement

namespace Store

/-- The results in order, each joined with every response and browser of the ids
that it refers to. -/
def joined (s : Store) : List JoinedRow :=
  s.results.toList.flatMap fun result =>
    (s.responses.filter fun r => r.id = result.responseId).toList.flatMap fun response =>
      (s.browsers.filter fun b => b.id = result.browserId).map fun browser =>
        ⟨result, response, browser⟩

/-- The results that a filter selects, in order, if the engine takes its
statement. -/
def query (s : Store) (filter : ResultFilter) : Except Failure (List ResultRecord) :=
  match Statement.ofFilter? filter with
  | none => .ok []
  | some statement =>
    match statement.refusal? with
    | some e => .error (.database e)
    | none => (s.joined.filter statement.accepts).mapM JoinedRow.parse

end Store

end ProbeCampaign
