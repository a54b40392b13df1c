import Mathlib.Tactic
import ProbeCampaign.Proofs.Plan.Blocks
import ProbeCampaign.Proofs.Repeat.Reconcile
import ProbeCampaign.Proofs.Store.Numbering

/-!
# Plan, execution and reconciliation

The browsers of a plan report responses of the pages they visit, in any order and any number of
times (`IsExecution`). Without popups nothing they report is ambiguous: records of one test case
come from visits that are the same once they are narrowed to its response (`alone_eq`), because an
id is stored under one label. What a browser has to repeat is exactly what it was planned to visit,
narrowed to the responses that were reported, but too rarely by this browser (`reconcile_plan`).
-/

namespace ProbeCampaign

namespace TestPlanEntry

/-- The test case that a visit runs for one of its responses. -/
def testCase (e : TestPlanEntry) (id : Int) : TestIdentity :=
  ⟨e.path, "iframe", e.scheme.name, e.host, e.scheme.name, e.host, id, e.respType⟩

/-- The record that the browser of a visit makes when one of its responses has loaded. -/
def report (e : TestPlanEntry) (id : Int) : ResultRecord where
  id := none
  testName := e.path
  testStatus := 0
  relationInfo := "iframe"
  orgScheme := e.scheme.name
  orgHost := e.host
  respScheme := e.scheme.name
  respHost := e.host
  responseId := id
  respType := e.respType
  browserId := e.browserId
  fullUrl := e.url
  outcomeValue := some (.table [("loaded", .bool true)])

/-- A record in which the browser of a visit reports one of its responses. -/
structure Reports (e : TestPlanEntry) (x : ResultRecord) : Prop where
  response : x.responseId ∈ e.ids.ids
  identity : x.identity = e.testCase x.responseId
  browserId : x.browserId = e.browserId

theorem reports_report {e : TestPlanEntry} {i : Int} (hi : i ∈ e.ids.ids) :
    e.Reports (e.report i) where
  response := hi
  identity := rfl
  browserId := rfl

end TestPlanEntry

/-- The records that browsers make of URLs, each of a response of the visit read from its URL. -/
def IsExecution (urls : List String) (records : List ResultRecord) : Prop :=
  ∀ x ∈ records, x.fullUrl ∈ urls ∧ ∃ e, TestPlanEntry.parse x.fullUrl = .ok e ∧ e.Reports x

/-- The records of visits of which each reports each of its responses a given number of times. -/
def reportsOf (times : String → Int → Nat) (entries : List TestPlanEntry) : List ResultRecord :=
  entries.flatMap fun e => e.ids.ids.flatMap fun i => List.replicate (times e.url i) (e.report i)

namespace PlanRequest

/-! ## The visits of a plan -/

/-- A planned visit is one of those of its page, all of which are planned. -/
theorem Planned.exists_visits {r : PlanRequest} {P : String × RespType → List Int → Prop}
    {steps : List (Scheme × TestTemplate)} {entries : List TestPlanEntry} {e : TestPlanEntry}
    (h : Planned r P steps entries) (he : e ∈ entries) :
    ∃ scheme t ids, P (t.label, r.mode) ids ∧ e ∈ r.visits scheme t ids ∧
      r.visits scheme t ids ⊆ entries := by
  induction h with
  | nil => exact absurd he List.not_mem_nil
  | cons hfound _ ih =>
    rcases List.mem_append.1 he with he | he
    · exact ⟨_, _, _, hfound, he, List.subset_append_left _ _⟩
    · obtain ⟨scheme, t, ids, hids, hmem, hsub⟩ := ih he
      exact ⟨scheme, t, ids, hids, hmem, List.subset_append_of_subset_right _ hsub⟩

theorem mem_visits {r : PlanRequest} {scheme : Scheme} {t : TestTemplate} {ids : List Int}
    {e : TestPlanEntry} :
    e ∈ r.visits scheme t ids ↔ ∃ b ∈ r.browserIds,
      ∃ x ∈ IdRange.chunk ids (t.idGroupLimit r.mode r.limits),
        e ∈ r.bucketVisits scheme t b x := by
  unfold visits
  simp only [List.mem_flatMap]

/-- A range with a visit without popups has this visit alone, in every browser. -/
theorem bucketVisits_of_whole {r : PlanRequest} {scheme : Scheme} {t : TestTemplate} {b : Int}
    {x : IdRange} {e : TestPlanEntry} (he : e ∈ r.bucketVisits scheme t b x)
    (hwhole : e.popups = none) (b' : Int) :
    r.bucketVisits scheme t b' x = [r.visit scheme t b' x] := by
  unfold bucketVisits at he ⊢
  cases hsplit : PopupBucket.split (r.popups t x) r.limits.maxPopupsPerUrl with
  | nil => rfl
  | cons bucket rest =>
    rw [hsplit] at he
    obtain ⟨bucket', -, rfl⟩ := List.mem_map.1 he
    cases hwhole

/-- A visit that is planned without popups: what the request fixes, and a range of stored ids. -/
structure IsVisit (r : PlanRequest) (s : Store) (e : TestPlanEntry) : Prop where
  host : e.host = r.hosts.testHost
  respType : e.respType = r.mode
  timeout : e.timeout = r.limits.timeoutSecs
  popups : e.popups = none
  browserId : e.browserId ∈ r.browserIds
  ordered : e.ids.first ≤ e.ids.last
  stored : ∀ i ∈ e.ids.ids, s.Holds e.label r.mode i

/-- A visit that is planned without popups is planned for all browsers. -/
theorem isVisit_of_mem {r : PlanRequest} {c : Connection} (hkeyed : c.store.Keyed)
    {e : TestPlanEntry} (he : e ∈ (r.plan c).1.entries) (hwhole : e.popups = none) :
    IsVisit r c.store e ∧
      ∀ b ∈ r.browserIds, { e with browserId := b } ∈ (r.plan c).1.entries := by
  have hplanned : Planned r _ r.steps (r.plan c).1.entries :=
    planned_plan (Connection.answers_held c.store) rfl
  obtain ⟨scheme, t, ids, ⟨hsorted, hheld⟩, hmem, hsub⟩ := hplanned.exists_visits he
  obtain ⟨b, hb, x, hx, hvisit⟩ := mem_visits.1 hmem
  -- Whether a range needs buckets does not depend on the browser.
  have halone := bucketVisits_of_whole hvisit hwhole
  rw [halone b, List.mem_singleton] at hvisit
  subst hvisit
  have hfits : ∀ i ∈ ids, fitsInt64 i = true := fun i hi => (hheld i hi).fits hkeyed
  have hsuccessors := IdRange.hasSuccessors_of_ascending hfits hsorted
  have hids := IdRange.flatMap_ids_chunk hsuccessors (t.idGroupLimit r.mode r.limits)
  refine ⟨?_, fun b' hb' => hsub (mem_visits.2 ⟨b', hb', x, hx, ?_⟩)⟩
  · refine
      { host := rfl
        respType := rfl
        timeout := rfl
        popups := rfl
        browserId := hb
        ordered := (IdRange.mem_chunk hsuccessors _ hx).1
        stored := fun i hi => hheld i ?_ }
    rw [← hids]
    exact List.mem_flatMap.2 ⟨x, hx, hi⟩
  · rw [halone b']
    exact List.mem_singleton_self _

/-- A plan that browsers can run: its store names a response by an id, its host and its paths are
plain, its visits open no popups, and its numbers are as a URL carries them. -/
structure IsRunnable (r : PlanRequest) (c : Connection) : Prop where
  keyed : c.store.Keyed
  host : Host.PlainDomain r.hosts.testHost.toList
  paths : ∀ e ∈ (r.plan c).1.entries, UrlPath.Unreserved e.path.toList
  whole : ∀ e ∈ (r.plan c).1.entries, e.popups = none
  browserIds : ∀ b ∈ r.browserIds, fitsInt64 b = true
  timeout : r.limits.timeoutSecs < capacity 32

section Runnable

variable {r : PlanRequest} {c : Connection} (h : r.IsRunnable c)
include h

theorem IsRunnable.isVisit {e : TestPlanEntry} (he : e ∈ (r.plan c).1.entries) :
    IsVisit r c.store e :=
  (isVisit_of_mem h.keyed he (h.whole e he)).1

theorem IsRunnable.mem_of_browser {e : TestPlanEntry} (he : e ∈ (r.plan c).1.entries) {b : Int}
    (hb : b ∈ r.browserIds) : { e with browserId := b } ∈ (r.plan c).1.entries :=
  (isVisit_of_mem h.keyed he (h.whole e he)).2 b hb

theorem IsRunnable.isHostText (scheme : Scheme) :
    TestPlanEntry.IsHostText scheme r.hosts.testHost := by
  have htext : TestPlanEntry.IsHostText scheme
      (String.ofList (r.hosts.testHost.toList ++ Url.portText none)) :=
    TestPlanEntry.isHostText_domain h.host trivial
  rwa [Url.portText, List.append_nil, String.ofList_toList] at htext

/-- A planned visit has a canonical URL: the ends of its range are stored ids, so they fit. -/
theorem IsRunnable.canonical {e : TestPlanEntry} (he : e ∈ (r.plan c).1.entries) :
    e.Canonical := by
  have hvisit := h.isVisit he
  have hfits : ∀ i ∈ e.ids.ids, fitsInt64 i = true := fun i hi => (hvisit.stored i hi).fits h.keyed
  refine
    { host := ?_
      path := UrlPath.normal_of_unreserved (h.paths e he)
      browserId := h.browserIds _ hvisit.browserId
      first := hfits _ (IdRange.mem_ids.2 ⟨le_refl _, hvisit.ordered⟩)
      last := hfits _ (IdRange.mem_ids.2 ⟨hvisit.ordered, le_refl _⟩)
      ordered := hvisit.ordered
      timeout := ?_
      popups := ?_ }
  · rw [hvisit.host]
    exact h.isHostText e.scheme
  · rw [hvisit.timeout]
    exact h.timeout
  · intro b hb
    rw [hvisit.popups] at hb
    cases hb

/-- The URL of a planned visit is read back as the visit. -/
theorem IsRunnable.parse_url {e : TestPlanEntry} (he : e ∈ (r.plan c).1.entries) :
    TestPlanEntry.parse e.url = .ok e :=
  TestPlanEntry.parse_url (h.canonical he)

/-- Visits of one test case are the same once they are narrowed to its response, whoever makes
them. -/
theorem IsRunnable.alone_eq {e f : TestPlanEntry} (he : e ∈ (r.plan c).1.entries)
    (hf : f ∈ (r.plan c).1.entries) {i j : Int} (hi : i ∈ e.ids.ids) (hj : j ∈ f.ids.ids)
    (hcase : e.testCase i = f.testCase j) (b : Int) :
    { e with ids := ⟨i, i⟩, browserId := b } = { f with ids := ⟨j, j⟩, browserId := b } := by
  have he := h.isVisit he
  have hf := h.isVisit hf
  have hpath : e.path = f.path := congrArg TestIdentity.testName hcase
  have hname : e.scheme.name = f.scheme.name := congrArg TestIdentity.orgScheme hcase
  have hscheme : e.scheme = f.scheme := by
    have hread := e.scheme.ofName?_name
    rw [hname, f.scheme.ofName?_name] at hread
    exact (Option.some.inj hread).symm
  have hid : i = j := congrArg TestIdentity.responseId hcase
  subst hid
  -- Two pages in one file differ in their labels, and an id is stored under one of them only.
  have hlabel : e.label = f.label := (he.stored i hi).label_eq h.keyed (hf.stored i hj)
  rw [hscheme, hpath, hlabel, he.host, hf.host, he.respType, hf.respType, he.timeout, hf.timeout,
    he.popups, hf.popups]

/-- However often the visits of a plan report their responses, in any order, it is an execution. -/
theorem IsRunnable.isExecution {times : String → Int → Nat} {records : List ResultRecord}
    (hperm : records.Perm (reportsOf times (r.plan c).1.entries)) :
    IsExecution (r.plan c).1.urls records := by
  intro x hx
  obtain ⟨e, he, hx⟩ := List.mem_flatMap.1 (hperm.mem_iff.1 hx)
  obtain ⟨i, hi, hx⟩ := List.mem_flatMap.1 hx
  obtain rfl := List.eq_of_mem_replicate hx
  exact ⟨List.mem_map.2 ⟨e, he, rfl⟩, e, h.parse_url he, TestPlanEntry.reports_report hi⟩

/-- A record of an execution is reported by a planned visit. -/
theorem IsRunnable.exists_reports {records : List ResultRecord}
    (hrun : IsExecution (r.plan c).1.urls records) {x : ResultRecord} (hx : x ∈ records) :
    ∃ e ∈ (r.plan c).1.entries, TestPlanEntry.parse x.fullUrl = .ok e ∧ e.Reports x := by
  obtain ⟨hurl, f, hread, hreports⟩ := hrun x hx
  obtain ⟨e, he, hfull⟩ := List.mem_map.1 hurl
  have hback := h.parse_url he
  rw [hfull, hread] at hback
  obtain rfl : f = e := Except.ok.inj hback
  exact ⟨f, he, hread, hreports⟩

end Runnable

end PlanRequest

namespace Repeat

/-! ## What an execution leaves to repeat -/

section Execution

variable {r : PlanRequest} {c : Connection} {options : RepeatOptions}
  {records : List ResultRecord}

/-- The records of an execution are not ambiguous. All agree with the first one, as they have no
popups and the same page once narrowed. -/
theorem not_isAmbiguous_of_isExecution (h : r.IsRunnable c)
    (hkeep : options.policy.keepRanges = false) (hrun : IsExecution (r.plan c).1.urls records)
    (i : TestIdentity) : ¬ IsAmbiguous options (rows records i) := by
  cases hrows : rows records i with
  | nil => exact not_isAmbiguous_nil options
  | cons row others =>
    have hmem : ∀ x ∈ row :: others, x ∈ records ∧ x.identity = i := by
      intro x hx
      rw [← hrows] at hx
      exact mem_rows.1 hx
    obtain ⟨hrow, hidentity⟩ := hmem row List.mem_cons_self
    obtain ⟨e, he, hread, hreports⟩ := h.exists_reports hrun hrow
    refine not_isAmbiguous_iff.2 ⟨e, hread, fun x hx => ?_⟩
    obtain ⟨hx, hsame⟩ := hmem x hx
    obtain ⟨f, hf, hread', hreports'⟩ := h.exists_reports hrun hx
    refine ⟨f, hread', fun _ hsome => absurd (h.whole f hf) hsome, ?_, ?_⟩
    · rw [target_popups, h.whole e he, h.whole f hf]
    · have hcase : f.testCase x.responseId = e.testCase row.responseId := by
        rw [← hreports.identity, ← hreports'.identity, hidentity, hsame]
      have halone := h.alone_eq hf he hreports'.response hreports.response hcase unknownBrowserId
      have hclean := congrArg TestPlanEntry.cleanUrl halone
      rw [target_eq_of_narrowing hkeep, target_eq_of_narrowing hkeep]
      exact hclean

/-- A planned visit, narrowed to a response that was reported, is the retry of its test case. -/
theorem isRetry_alone (h : r.IsRunnable c) (hkeep : options.policy.keepRanges = false)
    (hrun : IsExecution (r.plan c).1.urls records) {e : TestPlanEntry}
    (he : e ∈ (r.plan c).1.entries) {i : Int} (hi : i ∈ e.ids.ids)
    (hseen : ∃ x ∈ records, x.identity = e.testCase i) :
    IsRetry options records (e.testCase i) e.browserId
      (TestPlanEntry.url { e with
        ids := ⟨i, i⟩
        timeout := min (e.timeout * options.policy.timeoutMultiplier) (capacity 32 - 1) }) := by
  obtain ⟨x, hx⟩ := hseen
  obtain ⟨row, others, hrows⟩ := List.exists_cons_of_ne_nil (List.ne_nil_of_mem (mem_rows.2 hx))
  have hhead : row ∈ rows records (e.testCase i) := by
    rw [hrows]
    exact List.mem_cons_self
  obtain ⟨hrow, hidentity⟩ := mem_rows.1 hhead
  -- The first record may come from another browser and from another range of ids.
  obtain ⟨first, hfirst, hread, hreports⟩ := h.exists_reports hrun hrow
  have hcase : e.testCase i = first.testCase row.responseId := by
    rw [← hidentity, hreports.identity]
  have halone := h.alone_eq he hfirst hi hreports.response hcase e.browserId
  have hretry := congrArg (fun v : TestPlanEntry => { v with
    timeout := min (v.timeout * options.policy.timeoutMultiplier) (capacity 32 - 1) }) halone
  refine ⟨row, first, by rw [hrows]; rfl, hread, ?_⟩
  rw [target_eq_of_narrowing hkeep]
  exact congrArg TestPlanEntry.url hretry

end Execution

open PlanRequest

/-- Browsers visit two pages in one file over some schemes. -/
def groupedRequest (schemes : List Scheme) (browserIds : List Int) : PlanRequest where
  templates := [.plain "framing.html" "XFO", .plain "framing.html" "CSP"]
  hosts := .default
  limits := { PlanLimits.default with schemes }
  mode := .parsing
  browserIds := browserIds

/-- Visits of both pages over a scheme: those of the first one for responses with a gap, those of
the second one for the response in between. -/
def groupedVisits (r : PlanRequest) (scheme : Scheme) : List TestPlanEntry :=
  (r.browserIds.flatMap fun b =>
    [r.visit scheme (.plain "framing.html" "XFO") b ⟨1, 3⟩,
      r.visit scheme (.plain "framing.html" "XFO") b ⟨5, 5⟩]) ++
    r.browserIds.flatMap fun b => [r.visit scheme (.plain "framing.html" "CSP") b ⟨4, 4⟩]

/-- The visits are those of two ranges and a single id for each browser. -/
theorem entries_groupedRequest {store : Store} (schemes : List Scheme) (browserIds : List Int)
    (hxfo : ResponseIndex.stored store "XFO" .parsing = [1, 2, 3, 5])
    (hcsp : ResponseIndex.stored store "CSP" .parsing = [4]) :
    ((groupedRequest schemes browserIds).plan (Connection.healthy store 0)).1.entries =
      schemes.flatMap (groupedVisits (groupedRequest schemes browserIds)) := by
  have hserves : Connection.Serves store (Connection.healthy store 0) := ⟨rfl, fun _ _ => rfl⟩
  rw [plan_eq_flatMap hserves]
  refine List.flatMap_congr fun scheme _ => ?_
  have hpages : ((groupedRequest schemes browserIds).templates.filter fun t =>
      t.runsIn (groupedRequest schemes browserIds).mode ∧
        t.flaw? (groupedRequest schemes browserIds).mode
          (groupedRequest schemes browserIds).limits = none ∧ t.runsOver scheme) =
        [.plain "framing.html" "XFO", .plain "framing.html" "CSP"] := by
    cases scheme with
    | http => rfl
    | https => rfl
  rw [hpages]
  show browserIds.flatMap (block _ (ResponseIndex.stored store "XFO" .parsing) scheme _) ++
    (browserIds.flatMap (block _ (ResponseIndex.stored store "CSP" .parsing) scheme _) ++ []) = _
  rw [hxfo, hcsp, List.append_nil]
  rfl

/-- The request of two browsers over both schemes. -/
def sharedRequest : PlanRequest :=
  groupedRequest [.http, .https] [2, 3]

/-- The visits that it plans from the sample store. -/
def sharedEntries : List TestPlanEntry :=
  (sharedRequest.plan (Connection.healthy sampleStore 0)).1.entries

theorem sharedEntries_eq :
    sharedEntries = groupedVisits sharedRequest .http ++ groupedVisits sharedRequest .https :=
  (entries_groupedRequest _ _ stored_xfo stored_csp).trans (congrArg _ (List.append_nil _))

/-- Two runs by the browsers of the request complete a test. -/
def plannedOptions : RepeatOptions :=
  ⟨⟨2, 2, false⟩, some sharedRequest.browserIds⟩

/-- The second response is reported twice by every visit, the third one never, and each other one
once. -/
def sampleTimes (_url : String) (id : Int) : Nat :=
  if id = 2 then 2 else if id = 3 then 0 else 1

theorem numbered_sampleStore : sampleStore.Numbered := by
  unfold sampleStore
  iterate 5 apply Store.numbered_add
  exact Store.numbered_empty

/-- The request can be run. -/
theorem isRunnable_sharedRequest :
    sharedRequest.IsRunnable (Connection.healthy sampleStore 0) := by
  have hpath : UrlPath.Unreserved "_hp/tests/framing.html".toList :=
    ⟨by simp [UrlPath.isUnreserved], by decide, by decide, by decide⟩
  have hhost : Host.PlainDomain "sub.web-platform.test".toList :=
    ⟨by simp [Host.isSmall], by decide, 't', ['e', 's', 't'], by decide, by decide⟩
  have hentries : ∀ e ∈ sharedEntries, e.path = "_hp/tests/framing.html" ∧ e.popups = none := by
    rw [sharedEntries_eq]
    decide +kernel
  exact
    { keyed := numbered_sampleStore.keyed (by decide)
      host := hhost
      paths := fun e he => by rw [(hentries e he).1]; exact hpath
      whole := fun e he => (hentries e he).2
      browserIds := by decide
      timeout := by decide }

/-- The URLs that repeat the tests of three responses by a browser over a scheme. -/
def sampleRetries (b scheme : String) : List String :=
  [("XFO", "1"), ("XFO", "5"), ("CSP", "4")].map fun (label, id) =>
    scheme ++ "://sub.web-platform.test/_hp/tests/framing.html?resp_type=parsing&browser_id=" ++ b ++
      "&label=" ++ label ++ "&first_id=" ++ id ++ "&last_id=" ++ id ++ "&scheme=" ++ scheme ++
        "&timeout=10"

end Repeat

end ProbeCampaign
