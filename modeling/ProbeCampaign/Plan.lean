import ProbeCampaign.Host
import ProbeCampaign.Store.Index
import ProbeCampaign.Template
import ProbeCampaign.TestUrl

/-!
# Test plans

A plan lists the visits of test pages that a set of browsers has to make for one
type of responses. The pages that fit the limits are planned scheme by scheme;
`visits` is the block of one page over one scheme: for every browser, the
response ids in groups, and for every group its popups in buckets. `plan?` is
the plan that the program makes, which breaks down where a group has more
buckets than there is room for; `plan` is the plan wherever it does not.
-/

namespace ProbeCampaign

/-- What a plan is made from: the pages, their hosts, the limits, the type of
responses and the browsers. -/
structure PlanRequest where
  templates : List TestTemplate
  hosts : HostConfig
  limits : PlanLimits
  mode : RespType
  browserIds : List Int

/-- The visits of a plan, and the pages left out of it. -/
structure PlanOutcome where
  entries : List TestPlanEntry
  errors : List TemplateError

/-- The URLs of a plan, in order. -/
def PlanOutcome.urls (o : PlanOutcome) : List String :=
  o.entries.map (·.url)

/-- The visits of a range of ids with its popups in buckets: the visit with all
of them if there is no bucket, or else one for each. -/
def TestPlanEntry.perBucket (whole : TestPlanEntry) : List PopupBucket → List TestPlanEntry
  | [] => [whole]
  | buckets => buckets.map fun b => { whole with popups := some b }

namespace PlanRequest

/-- The pages that run for the type of responses. -/
def running (r : PlanRequest) : List TestTemplate :=
  r.templates.filter (·.runsIn r.mode)

/-- The pages that run and fit the limits. -/
def valid (r : PlanRequest) : List TestTemplate :=
  r.running.filter fun t => (t.flaw? r.mode r.limits).isNone

/-- The errors of the pages that run but do not fit. -/
def errors (r : PlanRequest) : List TemplateError :=
  r.running.filterMap (·.error? r.mode r.limits)

/-- The pages to plan with their schemes, in order. -/
def steps (r : PlanRequest) : List (Scheme × TestTemplate) :=
  r.limits.schemes.flatMap fun scheme =>
    (r.valid.filter (·.runsOver scheme)).map (scheme, ·)

/-- The visit of a page for a range of ids, with all of its popups. -/
def visit (r : PlanRequest) (scheme : Scheme) (t : TestTemplate) (browserId : Int)
    (ids : IdRange) : TestPlanEntry where
  scheme
  host := r.hosts.testHost
  path := r.hosts.testDir ++ "/" ++ t.file
  respType := r.mode
  browserId
  label := t.label
  ids
  timeout := r.limits.timeoutSecs
  popups := none

/-- The number of popups that a page opens for a range of ids. -/
def popups (r : PlanRequest) (t : TestTemplate) (ids : IdRange) : Nat :=
  t.popupsPerId r.mode * ids.size

/-- The visits of a page for a range of ids: one, or one for each bucket of
popups. -/
def bucketVisits (r : PlanRequest) (scheme : Scheme) (t : TestTemplate) (browserId : Int)
    (ids : IdRange) : List TestPlanEntry :=
  (r.visit scheme t browserId ids).perBucket
    (PopupBucket.split (r.popups t ids) r.limits.maxPopupsPerUrl)

/-- The visits of a page over a scheme for the responses of its label. -/
def visits (r : PlanRequest) (scheme : Scheme) (t : TestTemplate) (ids : List Int) :
    List TestPlanEntry :=
  let ranges := IdRange.chunk ids (t.idGroupLimit r.mode r.limits)
  r.browserIds.flatMap fun browserId =>
    ranges.flatMap (r.bucketVisits scheme t browserId)

/-- The visits of several pages; their response ids are looked up on the way. -/
def planSteps (r : PlanRequest) :
    List (Scheme × TestTemplate) → ResponseIndex → Connection → List TestPlanEntry × Connection
  | [], _, c => ([], c)
  | (scheme, t) :: rest, index, c =>
    let (ids, index, c) := index.ids c t.label r.mode
    let (entries, c) := r.planSteps rest index c
    (r.visits scheme t ids ++ entries, c)

/-- The plan for the responses in a store. -/
def plan (r : PlanRequest) (c : Connection) : PlanOutcome × Connection :=
  let (entries, c) := r.planSteps r.steps .empty c
  (⟨entries, r.errors⟩, c)

/-! ## The plan that the program makes -/

/-- `bucketVisits`, unless there is no room for the buckets. -/
def bucketVisits? (r : PlanRequest) (scheme : Scheme) (t : TestTemplate) (browserId : Int)
    (ids : IdRange) : Option (List TestPlanEntry) := do
  let buckets ← PopupBucket.split? (r.popups t ids) r.limits.maxPopupsPerUrl
  pure ((r.visit scheme t browserId ids).perBucket buckets)

/-- `visits`, unless there is no room for the buckets of a range. -/
def visits? (r : PlanRequest) (scheme : Scheme) (t : TestTemplate) (ids : List Int) :
    Option (List TestPlanEntry) := do
  let ranges := IdRange.chunk ids (t.idGroupLimit r.mode r.limits)
  let visits ← r.browserIds.mapM fun browserId =>
    ranges.mapM (r.bucketVisits? scheme t browserId)
  pure (visits.flatMap List.flatten)

/-- `planSteps`, unless there is no room for the buckets of a page. -/
def planSteps? (r : PlanRequest) :
    List (Scheme × TestTemplate) → ResponseIndex → Connection →
      Option (List TestPlanEntry × Connection)
  | [], _, c => some ([], c)
  | (scheme, t) :: rest, index, c => do
    let (ids, index, c) := index.ids c t.label r.mode
    let visits ← r.visits? scheme t ids
    let (entries, c) ← r.planSteps? rest index c
    pure (visits ++ entries, c)

/-- The plan for the responses in a store, unless the program breaks down. -/
def plan? (r : PlanRequest) (c : Connection) : Option (PlanOutcome × Connection) := do
  let (entries, c) ← r.planSteps? r.steps .empty c
  pure (⟨entries, r.errors⟩, c)

end PlanRequest

end ProbeCampaign
