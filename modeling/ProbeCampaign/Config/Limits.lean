import ProbeCampaign.Response

/-!
# Limits of a campaign

`PlanLimits` bounds what one test URL carries, `RepeatPolicy` says when a test
has run often enough, and `CorpusPolicy` how the corpus is built. Each has
defaults for what a configuration leaves out.
-/

namespace ProbeCampaign

/-- Bounds on planned test URLs, and the schemes to plan for in order. -/
structure PlanLimits where
  maxRespsPerUrl : Nat
  maxPopupsPerUrl : Nat
  timeoutSecs : Nat
  schemes : List Scheme
  maxUrlsUntilRestart : Nat
  deriving DecidableEq

namespace PlanLimits

/-- The limits used when none are configured. -/
def default : PlanLimits :=
  ⟨10, 100, 5, [.http, .https], 100⟩

/-- The fields of the limits, in order. -/
def fields : List String :=
  ["max_resps_per_url", "max_popups_per_url", "timeout_secs", "schemes", "max_urls_until_restart"]

/-- The limits that a record denotes; each has a default. -/
def ofDatum? (d : Datum) : Option PlanLimits := do
  let r ← Record.of? fields d
  let maxResps ← r.defaulted "max_resps_per_url" (Datum.natOfBits? 32) default.maxRespsPerUrl
  let maxPopups ← r.defaulted "max_popups_per_url" (Datum.natOfBits? 32) default.maxPopupsPerUrl
  let timeout ← r.defaulted "timeout_secs" (Datum.natOfBits? 32) default.timeoutSecs
  let schemes ← r.defaulted "schemes" (Datum.list? Scheme.ofDatum?) default.schemes
  let maxUrls ← r.defaulted "max_urls_until_restart" (Datum.natOfBits? 64)
    default.maxUrlsUntilRestart
  pure ⟨maxResps, maxPopups, timeout, schemes, maxUrls⟩

/-- The record of the limits. -/
def toDatum (p : PlanLimits) : Datum :=
  .table [
    ("max_resps_per_url", .int p.maxRespsPerUrl),
    ("max_popups_per_url", .int p.maxPopupsPerUrl),
    ("timeout_secs", .int p.timeoutSecs),
    ("schemes", .texts (p.schemes.map Scheme.name)),
    ("max_urls_until_restart", .int p.maxUrlsUntilRestart)]

end PlanLimits

/-- How many records complete a test in one browser, and what a retry looks
like: its timeout is multiplied, and it keeps the range of response ids or
narrows it to the one of the test. -/
structure RepeatPolicy where
  requiredRuns : Nat
  timeoutMultiplier : Nat
  keepRanges : Bool
  deriving DecidableEq

namespace RepeatPolicy

/-- The policy used when none is configured. -/
def default : RepeatPolicy :=
  ⟨5, 2, false⟩

/-- The fields of the policy, in order. -/
def fields : List String :=
  ["required_runs", "timeout_multiplier", "mult_resp_ids"]

/-- The policy that a record denotes; each field has a default. -/
def ofDatum? (d : Datum) : Option RepeatPolicy := do
  let r ← Record.of? fields d
  let runs ← r.defaulted "required_runs" (Datum.natOfBits? 32) default.requiredRuns
  let multiplier ← r.defaulted "timeout_multiplier" (Datum.natOfBits? 32)
    default.timeoutMultiplier
  let keep ← r.defaulted "mult_resp_ids" Datum.bool? default.keepRanges
  pure ⟨runs, multiplier, keep⟩

/-- The record of the policy. -/
def toDatum (p : RepeatPolicy) : Datum :=
  .table [
    ("required_runs", .int p.requiredRuns),
    ("timeout_multiplier", .int p.timeoutMultiplier),
    ("mult_resp_ids", .bool p.keepRanges)]

end RepeatPolicy

/-- A file of observed header values and the count that a value needs. -/
structure ValueListSource where
  path : String
  minCount : Nat
  deriving DecidableEq

namespace ValueListSource

/-- The source that a record denotes; the count may be left out. -/
def ofDatum? (d : Datum) : Option ValueListSource := do
  let r ← Record.of? ["path", "min_count"] d
  let path ← r.required "path" Datum.text?
  let minCount ← r.defaulted "min_count" (Datum.natOfBits? 64) 0
  pure ⟨path, minCount⟩

/-- The record of a source. -/
def toDatum (s : ValueListSource) : Datum :=
  .table [("path", .text s.path), ("min_count", .int s.minCount)]

end ValueListSource

/-- How often storing a response is attempted, and the files that add values to
families, ascending by the label of the family. -/
structure CorpusPolicy where
  upsertRetries : Nat
  valueLists : List (String × List ValueListSource)
  deriving DecidableEq

namespace CorpusPolicy

/-- The policy used when none is configured. -/
def default : CorpusPolicy :=
  ⟨3, []⟩

/-- The fields of the policy, in order. -/
def fields : List String :=
  ["upsert_retries", "value_lists"]

/-- The policy that a record denotes; each field has a default. -/
def ofDatum? (d : Datum) : Option CorpusPolicy := do
  let r ← Record.of? fields d
  let retries ← r.defaulted "upsert_retries" (Datum.natOfBits? 32) default.upsertRetries
  let lists ← r.defaulted "value_lists" (Datum.map? (Datum.list? ValueListSource.ofDatum?))
    default.valueLists
  pure ⟨retries, lists⟩

/-- The record of the policy. -/
def toDatum (p : CorpusPolicy) : Datum :=
  .table [
    ("upsert_retries", .int p.upsertRetries),
    ("value_lists", .table (p.valueLists.map fun (label, sources) =>
      (label, .list (sources.map ValueListSource.toDatum))))]

end CorpusPolicy

end ProbeCampaign
