import ProbeCampaign.Config.Limits
import ProbeCampaign.Result
import ProbeCampaign.TestUrl
import ProbeCampaign.Text.Ascending

/-!
# Repeating incomplete tests

A test is complete in a browser when enough records of its identity come from
there. `reconcile` finds for every browser the tests that are not, and writes
for each a URL that repeats it with a longer timeout. An identity whose records
do not agree on one test page is left out with a warning.
-/

namespace ProbeCampaign

/-- How to repeat, and the browsers that every test is expected from; by default
those with records. -/
structure RepeatOptions where
  policy : RepeatPolicy
  browserIds : Option (List Int)

/-- Why the records of one identity do not give one test page: a URL that cannot
be read, popups on a range of several ids that has to be narrowed, different
popups, or different pages. -/
inductive Ambiguity where
  | unparsableUrl (url reason : String)
  | popupsOnGroupedRange (url : String)
  | inconsistentPopups
  | conflictingUrls (urls : List String)
  deriving DecidableEq

/-- A warning about an identity left out, which it names by its text. -/
structure RepeatWarning where
  identity : String
  ambiguity : Ambiguity

/-- The wording of a warning. -/
def RepeatWarning.message (w : RepeatWarning) : String :=
  w.identity ++ ": " ++
    match w.ambiguity with
    | .unparsableUrl url reason => "cannot parse " ++ url ++ ": " ++ reason
    | .popupsOnGroupedRange url => "popups on grouped range " ++ url
    | .inconsistentPopups => "inconsistent popup configuration across rows"
    | .conflictingUrls urls => "rows point at " ++ toString urls.length ++ " different tests"

/-- The record of a warning. -/
def RepeatWarning.toDatum (w : RepeatWarning) : Datum :=
  let kind (name : String) (more : List (String × Datum)) : Datum :=
    .table (("kind", .text name) :: ("identity", .text w.identity) :: more)
  match w.ambiguity with
  | .unparsableUrl url reason =>
    kind "unparsable_url" [("url", .text url), ("reason", .text reason)]
  | .popupsOnGroupedRange url => kind "popups_on_grouped_range" [("url", .text url)]
  | .inconsistentPopups => kind "inconsistent_popups" []
  | .conflictingUrls urls => kind "conflicting_urls" [("urls", .texts urls)]

/-- The URLs to repeat by browser, both ascending; the warnings; the number of
identities and of pairs of identity and browser that are repeated. -/
structure RepeatOutcome where
  urls : List (Int × List String)
  warnings : List RepeatWarning
  identities : Nat
  incomplete : Nat

/-- The number of URLs over all browsers. -/
def RepeatOutcome.urlCount (o : RepeatOutcome) : Nat :=
  (o.urls.flatMap (·.2)).length

namespace Repeat

/-- The distinct elements of a list, ascending. -/
def ascendingIds (ids : List Int) : List Int :=
  (ids.mergeSort fun a b => decide (a ≤ b)).eraseReps

/-- The distinct identities of records, ascending. -/
def identities (records : List ResultRecord) : List TestIdentity :=
  ((records.map (·.identity)).mergeSort fun a b => (a.compare b).isLE).eraseReps

/-- The browsers that every test is expected from, ascending. -/
def expected (options : RepeatOptions) (records : List ResultRecord) : List Int :=
  ascendingIds <|
    match options.browserIds with
    | some ids => ids
    | none => (records.map (·.browserId)).filter (· ≠ unknownBrowserId)

/-- The records of an identity, in order. -/
def rows (records : List ResultRecord) (identity : TestIdentity) : List ResultRecord :=
  records.filter (·.identity = identity)

/-- The browsers that have not completed a test with the given records. -/
def missing (options : RepeatOptions) (browsers : List Int) (rows : List ResultRecord) :
    List Int :=
  browsers.filter fun b => rows.countP (·.browserId = b) < options.policy.requiredRuns

/-- The visit that a record reports, narrowed to the response of its identity
unless ranges are kept. -/
def narrowed (options : RepeatOptions) (row : ResultRecord) : Except Ambiguity TestPlanEntry := do
  let entry ← (TestPlanEntry.parse row.fullUrl).mapError fun f =>
    .unparsableUrl row.fullUrl f.message
  if options.policy.keepRanges then pure entry
  else if entry.popups.isSome ∧ entry.ids.first ≠ entry.ids.last then
    throw (.popupsOnGroupedRange row.fullUrl)
  else pure { entry with ids := ⟨row.responseId, row.responseId⟩ }

/-- The largest timeout that a URL carries. -/
def maxTimeout : Nat := capacity 32 - 1

/-- The visit with its timeout multiplied, up to the largest one. -/
def extended (options : RepeatOptions) (entry : TestPlanEntry) : TestPlanEntry :=
  { entry with timeout := min (entry.timeout * options.policy.timeoutMultiplier) maxTimeout }

/-- The visit that repeats what the first of several visits tests, if all of
them test it. -/
def agreed (options : RepeatOptions) (first : TestPlanEntry) (others : List TestPlanEntry) :
    Except Ambiguity TestPlanEntry :=
  if others.any (·.popups ≠ first.popups) then .error .inconsistentPopups
  else
    match Text.ascending ((first :: others).map (·.cleanUrl)) with
    | [_] => .ok (extended options first)
    | urls => .error (.conflictingUrls urls)

/-- The visit that repeats the test of some records of one identity. -/
def representative (options : RepeatOptions) (row : ResultRecord) (rows : List ResultRecord) :
    Except Ambiguity TestPlanEntry := do
  let first ← narrowed options row
  let others ← rows.mapM (narrowed options)
  agreed options first others

/-- What becomes of an identity: nothing, a warning, or repetition of a visit by
some browsers. -/
inductive Verdict where
  | complete
  | ambiguous (reason : Ambiguity)
  | again (entry : TestPlanEntry) (browserIds : List Int)

/-- The verdict on the records of an identity. -/
def judge (options : RepeatOptions) (browsers : List Int) (rows : List ResultRecord) : Verdict :=
  match missing options browsers rows, rows with
  | [], _ => .complete
  | _, [] => .complete
  | lacking, row :: others =>
    match representative options row others with
    | .ok entry => .again entry lacking
    | .error reason => .ambiguous reason

/-- The verdicts on all identities, ascending. -/
def verdicts (options : RepeatOptions) (records : List ResultRecord) :
    List (TestIdentity × Verdict) :=
  let browsers := expected options records
  (identities records).map fun i => (i, judge options browsers (rows records i))

/-- The URL that a browser repeats by a verdict. -/
def retryUrl? (browserId : Int) : Verdict → Option String
  | .again entry browserIds =>
    if browserIds.contains browserId then some { entry with browserId }.url else none
  | _ => none

/-- The warning of a verdict. -/
def warning? : TestIdentity × Verdict → Option RepeatWarning
  | (i, .ambiguous reason) => some ⟨i.text, reason⟩
  | _ => none

/-- The browsers that repeat by a verdict. -/
def repeating : Verdict → List Int
  | .again _ browserIds => browserIds
  | _ => []

/-- What has to be repeated, given the records of what has been done. -/
def reconcile (options : RepeatOptions) (records : List ResultRecord) : RepeatOutcome :=
  let judged := verdicts options records
  { urls := (expected options records).filterMap fun b =>
      match judged.filterMap fun v => retryUrl? b v.2 with
      | [] => none
      | urls => some (b, Text.ascending urls)
    warnings := judged.filterMap warning?
    identities := judged.length
    incomplete := (judged.flatMap fun v => repeating v.2).length }

end Repeat

end ProbeCampaign
