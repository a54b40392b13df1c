import Mathlib.Tactic
import ProbeCampaign.Config
import ProbeCampaign.Plan
import ProbeCampaign.Proofs.Plan.Buckets
import ProbeCampaign.Proofs.Plan.Runs
import ProbeCampaign.Proofs.Store.Snapshot

/-!
# The blocks of a plan

A plan consists of one block for each scheme, page and browser, in this order (`plan_blocks`). A
block has every response of the page's label once, in runs of ids, and every popup of a run once, in
buckets.
-/

namespace ProbeCampaign.PlanRequest

open ResponseIndex

/-! ## From steps to blocks -/

/-- The visits of pages of which each was planned for an answer with a property. -/
inductive Planned (r : PlanRequest) (P : String × RespType → List Int → Prop) :
    List (Scheme × TestTemplate) → List TestPlanEntry → Prop
  | nil : Planned r P [] []
  | cons {scheme : Scheme} {t : TestTemplate} {ids : List Int} {rest : List (Scheme × TestTemplate)}
      {entries : List TestPlanEntry} : P (t.label, r.mode) ids → Planned r P rest entries →
      Planned r P ((scheme, t) :: rest) (r.visits scheme t ids ++ entries)

/-- What holds of every answer holds of what the steps are planned for. The remembered answers are
the invariant. -/
theorem planned_planSteps {r : PlanRequest} {Q : Connection → Prop}
    {P : String × RespType → List Int → Prop} (h : Answers Q P)
    (steps : List (Scheme × TestTemplate)) {index : ResponseIndex} {c : Connection} (hc : Q c)
    (hindex : ∀ a ∈ index.answers, P a.1 a.2) :
    Planned r P steps (r.planSteps steps index c).1 := by
  induction steps generalizing index c with
  | nil => exact .nil
  | cons step rest ih =>
    obtain ⟨scheme, t⟩ := step
    obtain ⟨hfound, hindex', hc'⟩ := ids_spec h hc hindex t.label r.mode
    exact .cons hfound (ih hc' hindex')

theorem planned_plan {r : PlanRequest} {Q : Connection → Prop}
    {P : String × RespType → List Int → Prop} (h : Answers Q P) {c : Connection} (hc : Q c) :
    Planned r P r.steps (r.plan c).1.entries :=
  planned_planSteps h r.steps hc fun _ ha => absurd ha List.not_mem_nil

/-- Where answers are determined, so is the plan. -/
theorem Planned.eq_flatMap {r : PlanRequest} {P : String × RespType → List Int → Prop}
    {steps : List (Scheme × TestTemplate)} {entries : List TestPlanEntry}
    (h : Planned r P steps entries) (answer : String × RespType → List Int)
    (hanswer : ∀ key ids, P key ids → ids = answer key) :
    entries = steps.flatMap fun step => r.visits step.1 step.2 (answer (step.2.label, r.mode)) := by
  induction h with
  | nil => rfl
  | cons hfound _ ih =>
    rw [List.flatMap_cons, hanswer _ _ hfound, ← ih]

/-- A visit of a range of ids is settled but for its popups. -/
theorem exists_popups_of_mem_bucketVisits {r : PlanRequest} {scheme : Scheme} {t : TestTemplate}
    {b : Int} {x : IdRange} {e : TestPlanEntry} (he : e ∈ r.bucketVisits scheme t b x) :
    ∃ popups, e = { r.visit scheme t b x with popups := popups } := by
  unfold bucketVisits TestPlanEntry.perBucket at he
  split at he
  · exact ⟨none, List.mem_singleton.1 he⟩
  · obtain ⟨bucket, -, rfl⟩ := List.mem_map.1 he
    exact ⟨some bucket, rfl⟩

theorem exists_visit_of_mem_visits {r : PlanRequest} {scheme : Scheme} {t : TestTemplate}
    {ids : List Int} {e : TestPlanEntry} (he : e ∈ r.visits scheme t ids) :
    ∃ b x popups, e = { r.visit scheme t b x with popups := popups } := by
  obtain ⟨b, -, he⟩ := List.mem_flatMap.1 he
  obtain ⟨x, -, he⟩ := List.mem_flatMap.1 he
  exact ⟨b, x, exists_popups_of_mem_bucketVisits he⟩

/-- The visits of a page over a scheme by one browser, for responses with the given ids. -/
def block (r : PlanRequest) (ids : List Int) (scheme : Scheme) (t : TestTemplate)
    (browserId : Int) : List TestPlanEntry :=
  (IdRange.chunk ids (t.idGroupLimit r.mode r.limits)).flatMap (r.bucketVisits scheme t browserId)

/-- On a connection that serves the store, a plan has one block for each scheme, page and browser in
the order of the loops. -/
theorem plan_eq_flatMap {r : PlanRequest} {s : Store} {c : Connection}
    (hc : Connection.Serves s c) :
    (r.plan c).1.entries = r.limits.schemes.flatMap fun scheme =>
      (r.templates.filter fun t => t.runsIn r.mode ∧ t.flaw? r.mode r.limits = none ∧
        t.runsOver scheme).flatMap fun t =>
          r.browserIds.flatMap (r.block (stored s t.label r.mode) scheme t) := by
  have hplanned : Planned r _ r.steps (r.plan c).1.entries :=
    planned_plan (Connection.answers_serves s) hc
  have hpages : ∀ scheme, r.valid.filter (·.runsOver scheme) =
      r.templates.filter fun t => t.runsIn r.mode ∧ t.flaw? r.mode r.limits = none ∧
        t.runsOver scheme := by
    intro scheme
    unfold valid running
    rw [List.filter_filter, List.filter_filter]
    apply List.filter_congr
    intro t _
    rw [Bool.eq_iff_iff]
    simp
    tauto
  rw [hplanned.eq_flatMap (fun key => stored s key.1 key.2) fun _ _ h => h]
  unfold steps
  rw [List.flatMap_assoc]
  simp only [List.flatMap_map, hpages]
  rfl

/-! ## What a block holds -/

/-- The visits for one range of ids: a single one when its popups fit, and otherwise one for each
bucket of its popups. -/
inductive RangeVisits (popupsPerId limit : Nat) (whole : TestPlanEntry) :
    List TestPlanEntry → Prop
  | single : popupsPerId * whole.ids.ids.length ≤ limit →
      RangeVisits popupsPerId limit whole [whole]
  | bucketed {bs : List PopupBucket} : limit < popupsPerId * whole.ids.ids.length →
      PopupBucket.Covers limit (popupsPerId * whole.ids.ids.length) 1 true bs →
      RangeVisits popupsPerId limit whole (bs.map fun b => { whole with popups := some b })

/-- The visits of a page over a scheme by one browser: every stored response of the label and the
type lies in one of the ranges, which are ascending and within the bound of the type. -/
structure IsBlock (r : PlanRequest) (s : Store) (scheme : Scheme) (t : TestTemplate)
    (browserId : Int) (ranges : List IdRange) (visits : IdRange → List TestPlanEntry) : Prop where
  ascending : (ranges.flatMap IdRange.ids).Pairwise (· < ·)
  exact : ∀ i, i ∈ ranges.flatMap IdRange.ids ↔ s.Holds t.label r.mode i
  nonempty : ∀ x ∈ ranges, x.ids ≠ []
  grouped : r.mode = .parsing → ∀ x ∈ ranges,
    x.ids.length ≤ min t.numRespIds r.limits.maxRespsPerUrl
  alone : r.mode ≠ .parsing → ∀ x ∈ ranges, x.ids.length = 1
  covered : ∀ x ∈ ranges, RangeVisits (t.popupsPerId r.mode) r.limits.maxPopupsPerUrl
    { scheme
      host := r.hosts.testHost
      path := r.hosts.testDir ++ "/" ++ t.file
      respType := r.mode
      browserId
      label := t.label
      ids := x
      timeout := r.limits.timeoutSecs
      popups := none } (visits x)

/-- A valid configuration allows for one response and one popup at least. -/
theorem one_le_limits {config : CampaignConfig} (h : config.validate = .ok ()) :
    1 ≤ config.plan.maxRespsPerUrl ∧ 1 ≤ config.plan.maxPopupsPerUrl := by
  have hflaw : config.flaw? = none := by
    unfold CampaignConfig.validate at h
    split at h
    · next hnone => exact hnone
    · cases h
  unfold CampaignConfig.flaw? at hflaw
  split at hflaw
  · cases hflaw
  · next hresps =>
    split at hflaw
    · cases hflaw
    · next hpopups => omega

/-- A page that fits takes one response at least. -/
theorem one_le_numRespIds {t : TestTemplate} {mode : RespType} {limits : PlanLimits}
    (h : t.flaw? mode limits = none) : 1 ≤ t.numRespIds := by
  unfold TestTemplate.flaw? at h
  dsimp only at h
  split at h
  · cases h
  · split at h
    · cases h
    · next hids => omega

theorem idGroupLimit_parsing {t : TestTemplate} {limits : PlanLimits} (ht : 1 ≤ t.numRespIds)
    (hlimits : 1 ≤ limits.maxRespsPerUrl) :
    t.idGroupLimit .parsing limits = min t.numRespIds limits.maxRespsPerUrl := by
  show max (min t.numRespIds limits.maxRespsPerUrl) 1 = _
  omega

theorem idGroupLimit_other (t : TestTemplate) (limits : PlanLimits) {mode : RespType}
    (h : mode ≠ .parsing) : t.idGroupLimit mode limits = 1 := by
  cases mode with
  | parsing => exact absurd rfl h
  | basic => rfl
  | debug => rfl

/-- Ranges may have one id at least. -/
theorem one_le_idGroupLimit (t : TestTemplate) (mode : RespType) (limits : PlanLimits) :
    1 ≤ t.idGroupLimit mode limits := by
  cases mode with
  | parsing => exact Nat.le_max_right _ _
  | basic => exact le_refl _
  | debug => exact le_refl _

/-- The limit on ranges is a number of 32 bits, as the one of the plan is. -/
theorem idGroupLimit_lt {t : TestTemplate} {mode : RespType} {limits : PlanLimits}
    (h : limits.maxRespsPerUrl < capacity 32) : t.idGroupLimit mode limits < capacity 32 := by
  have hcapacity : 1 < capacity 32 := by decide
  cases mode with
  | parsing =>
    show max (min t.numRespIds limits.maxRespsPerUrl) 1 < capacity 32
    omega
  | basic => exact hcapacity
  | debug => exact hcapacity

/-- A range is visited once if all its popups fit, and else once for each bucket. No bucket means
that they fit, as the loop over more popups makes at least one. -/
theorem rangeVisits_bucketVisits {r : PlanRequest} {scheme : Scheme} {t : TestTemplate}
    {browserId : Int} {x : IdRange} (hlimit : 1 ≤ r.limits.maxPopupsPerUrl)
    (hsize : x.size = x.ids.length) :
    RangeVisits (t.popupsPerId r.mode) r.limits.maxPopupsPerUrl (r.visit scheme t browserId x)
      (r.bucketVisits scheme t browserId x) := by
  have hids : (r.visit scheme t browserId x).ids = x := rfl
  unfold bucketVisits popups TestPlanEntry.perBucket
  rw [hsize]
  by_cases hfit : t.popupsPerId r.mode * x.ids.length ≤ r.limits.maxPopupsPerUrl
  · rw [PopupBucket.split_eq_nil hfit]
    apply RangeVisits.single
    rw [hids]
    exact hfit
  · have hlt : r.limits.maxPopupsPerUrl < t.popupsPerId r.mode * x.ids.length := by omega
    have hcovers := PopupBucket.covers_split hlt
    rw [max_eq_left hlimit] at hcovers
    split
    · next hnil => exact absurd hnil (PopupBucket.split_ne_nil hlt)
    · refine .bucketed ?_ ?_
      · rw [hids]
        exact hlt
      · rw [hids]
        exact hcovers

/-- The visits of a page over one scheme by one browser are a block. Its ranges are the runs of the
stored ids, of which a limit of one leaves single ids. -/
theorem isBlock_block {r : PlanRequest} {s : Store} {scheme : Scheme} {t : TestTemplate}
    {browserId : Int} (hresps : 1 ≤ r.limits.maxRespsPerUrl)
    (hpopups : 1 ≤ r.limits.maxPopupsPerUrl) (hwidth : r.limits.maxRespsPerUrl < capacity 32)
    (ht : 1 ≤ t.numRespIds) (hstore : ∀ x ∈ s.responses.toList, fitsInt64 x.id = true) :
    IsBlock r s scheme t browserId
      (IdRange.chunk (stored s t.label r.mode) (t.idGroupLimit r.mode r.limits))
      (r.bucketVisits scheme t browserId) := by
  have hfits : ∀ i ∈ stored s t.label r.mode, fitsInt64 i = true := by
    intro i hi
    obtain ⟨x, hx, -, -, rfl⟩ := mem_stored.1 hi
    exact hstore x hx
  have hlimit := one_le_idGroupLimit t r.mode r.limits
  have hcapacity : t.idGroupLimit r.mode r.limits < capacity 64 :=
    (idGroupLimit_lt hwidth).trans (by decide)
  have hsuccessors := IdRange.hasSuccessors_of_ascending hfits (pairwise_stored s t.label r.mode)
  -- The ranges are the runs of the stored ids, none of which is longer than the limit.
  have hids := IdRange.flatMap_ids_chunk hsuccessors (t.idGroupLimit r.mode r.limits)
  have hrange : ∀ x ∈ IdRange.chunk (stored s t.label r.mode) (t.idGroupLimit r.mode r.limits),
      x.first ≤ x.last ∧ x.ids.length ≤ t.idGroupLimit r.mode r.limits := by
    intro x hx
    have hmem := IdRange.mem_chunk hsuccessors _ hx
    rwa [max_eq_left hlimit] at hmem
  have hpos : ∀ x ∈ IdRange.chunk (stored s t.label r.mode) (t.idGroupLimit r.mode r.limits),
      1 ≤ x.ids.length := fun x hx => IdRange.one_le_length_ids (hrange x hx).1
  refine
    { ascending := ?_
      exact := fun i => ?_
      nonempty := fun x hx => List.length_pos_iff.1 (hpos x hx)
      grouped := fun hmode x hx => ?_
      alone := fun hmode x hx => ?_
      covered := fun x hx => ?_ }
  · rw [hids]
    exact pairwise_stored s t.label r.mode
  · rw [hids]
    exact mem_stored
  · have hlength := (hrange x hx).2
    rwa [hmode, idGroupLimit_parsing ht hresps] at hlength
  · have hlength := (hrange x hx).2
    have hone := hpos x hx
    rw [idGroupLimit_other t r.limits hmode] at hlength
    omega
  · have hlength := (hrange x hx).2
    exact rangeVisits_bucketVisits hpopups (IdRange.size_eq (by omega) (hrange x hx).1)

/-- The plan is the concatenation, over the schemes, the pages that run and fit, and the browsers,
of blocks that hold every stored response once within both limits. -/
theorem plan_blocks {r : PlanRequest} {config : CampaignConfig} {s : Store} {c : Connection}
    (hvalid : config.validate = .ok ()) (hlimits : r.limits = config.plan)
    (hwidth : r.limits.maxRespsPerUrl < capacity 32)
    (hstore : ∀ x ∈ s.responses.toList, fitsInt64 x.id = true) (hc : Connection.Serves s c) :
    ∃ ranges : Scheme → TestTemplate → Int → List IdRange,
    ∃ visits : Scheme → TestTemplate → Int → IdRange → List TestPlanEntry,
      ((r.plan c).1.entries = r.limits.schemes.flatMap fun scheme =>
        (r.templates.filter fun t => t.runsIn r.mode ∧ t.flaw? r.mode r.limits = none ∧
          t.runsOver scheme).flatMap fun t =>
            r.browserIds.flatMap fun b =>
              (ranges scheme t b).flatMap (visits scheme t b)) ∧
      ∀ scheme ∈ r.limits.schemes, ∀ t ∈ r.templates, t.runsIn r.mode →
        t.flaw? r.mode r.limits = none → t.runsOver scheme → ∀ b ∈ r.browserIds,
          IsBlock r s scheme t b (ranges scheme t b) (visits scheme t b) := by
  obtain ⟨hresps, hpopups⟩ := one_le_limits hvalid
  rw [← hlimits] at hresps hpopups
  refine ⟨fun _ t _ => IdRange.chunk (stored s t.label r.mode) (t.idGroupLimit r.mode r.limits),
    fun scheme t b => r.bucketVisits scheme t b, plan_eq_flatMap hc, ?_⟩
  intro scheme _ t _ _ hflaw _ b _
  exact isBlock_block hresps hpopups hwidth (one_le_numRespIds hflaw) hstore

/-! ## A plan for responses with a gap -/

/-- A store in which the responses of one label are numbered up to three, and five. -/
def sampleStore : Store :=
  let store := Store.empty.add 0 ⟨[], 200, "XFO", .parsing⟩ "a" (by simp [Store.empty])
  let store := store.add 0 ⟨[], 302, "XFO", .parsing⟩ "b" (by rw [Store.byDigest_eq]; rfl)
  let store := store.add 0 ⟨[], 404, "XFO", .parsing⟩ "c" (by rw [Store.byDigest_eq]; rfl)
  let store := store.add 0 ⟨[], 200, "CSP", .parsing⟩ "d" (by rw [Store.byDigest_eq]; rfl)
  store.add 0 ⟨[], 500, "XFO", .parsing⟩ "e" (by rw [Store.byDigest_eq]; rfl)

theorem stored_xfo : stored sampleStore "XFO" .parsing = [1, 2, 3, 5] := by
  rw [stored_eq]
  exact Distinct.distinct_of_pairwise Distinct.isOrder_int (by decide)

theorem stored_csp : stored sampleStore "CSP" .parsing = [4] := by
  rw [stored_eq]
  exact Distinct.distinct_of_pairwise Distinct.isOrder_int (by decide)

/-- A page that takes up to three responses and opens four popups for each. -/
def popupPage : TestTemplate :=
  { TestTemplate.plain "framing.html" "XFO" with numRespIds := 3, popupsParsing := 4 }

/-- Two browsers visit two pages over both schemes, with at most eight popups at once. -/
def sampleRequest : PlanRequest where
  templates := [popupPage, .plain "embed.html" "CSP"]
  hosts := .default
  limits := { PlanLimits.default with maxPopupsPerUrl := 8 }
  mode := .parsing
  browserIds := [2, 3]

/-- The configuration with the limits of the request. -/
def sampleConfig : CampaignConfig :=
  { CampaignConfig.default "" with plan := sampleRequest.limits }

theorem serves_sampleStore : Connection.Serves sampleStore (Connection.healthy sampleStore 0) :=
  ⟨rfl, fun _ _ => rfl⟩

theorem fitsInt64_sampleStore : ∀ x ∈ sampleStore.responses.toList, fitsInt64 x.id = true := by
  decide

/-- What tells the visits of the sample plan apart. -/
def shape (e : TestPlanEntry) : Scheme × String × Int × IdRange × Option PopupBucket :=
  (e.scheme, e.label, e.browserId, e.ids, e.popups)

/-- The visits of both pages over a scheme: the popups of the first three responses take two visits,
those of the response after the gap take one. -/
def sampleShapes (scheme : Scheme) : List (Scheme × String × Int × IdRange × Option PopupBucket) :=
  [(scheme, "XFO", 2, ⟨1, 3⟩, some ⟨1, 8, true⟩), (scheme, "XFO", 2, ⟨1, 3⟩, some ⟨9, 12, false⟩),
    (scheme, "XFO", 2, ⟨5, 5⟩, none), (scheme, "XFO", 3, ⟨1, 3⟩, some ⟨1, 8, true⟩),
    (scheme, "XFO", 3, ⟨1, 3⟩, some ⟨9, 12, false⟩), (scheme, "XFO", 3, ⟨5, 5⟩, none),
    (scheme, "CSP", 2, ⟨4, 4⟩, none), (scheme, "CSP", 3, ⟨4, 4⟩, none)]

/-- The shapes of the plan, read off its blocks. -/
theorem shapes_sampleRequest :
    (sampleRequest.plan (Connection.healthy sampleStore 0)).1.entries.map shape =
      sampleShapes .http ++ sampleShapes .https := by
  have hpages : ∀ scheme, (sampleRequest.templates.filter fun t => t.runsIn sampleRequest.mode ∧
      t.flaw? sampleRequest.mode sampleRequest.limits = none ∧ t.runsOver scheme) =
        sampleRequest.templates := by
    intro scheme
    cases scheme with
    | http => rfl
    | https => rfl
  have hxfo : ∀ scheme b, (sampleRequest.block [1, 2, 3, 5] scheme popupPage b).map shape =
      [(scheme, "XFO", b, ⟨1, 3⟩, some ⟨1, 8, true⟩), (scheme, "XFO", b, ⟨1, 3⟩, some ⟨9, 12, false⟩),
        (scheme, "XFO", b, ⟨5, 5⟩, none)] := by
    intro scheme b
    have hbuckets : PopupBucket.split 12 8 = [⟨1, 8, true⟩, ⟨9, 12, false⟩] := by decide +kernel
    show (TestPlanEntry.perBucket _ (PopupBucket.split 12 8) ++ (_ ++ [])).map shape = _
    rw [hbuckets]
    rfl
  have hcsp : ∀ scheme b,
      (sampleRequest.block [4] scheme (.plain "embed.html" "CSP") b).map shape =
        [(scheme, "CSP", b, ⟨4, 4⟩, none)] := fun _ _ => rfl
  have hscheme : ∀ scheme, (sampleRequest.templates.flatMap fun t =>
      sampleRequest.browserIds.flatMap
        (sampleRequest.block (stored sampleStore t.label sampleRequest.mode) scheme t)).map shape =
          sampleShapes scheme := by
    intro scheme
    show ([2, 3].flatMap (sampleRequest.block (stored sampleStore "XFO" .parsing) scheme popupPage) ++
      ([2, 3].flatMap (sampleRequest.block (stored sampleStore "CSP" .parsing) scheme _) ++
        [])).map shape = _
    rw [stored_xfo, stored_csp]
    simp only [List.flatMap_cons, List.flatMap_nil, List.map_append, hxfo, hcsp]
    rfl
  rw [plan_eq_flatMap serves_sampleStore, List.map_flatMap]
  simp only [hpages, hscheme]
  rfl

/-- Two pages are planned for two browsers over both schemes. The block of the page with popups, of
the second browser over the second scheme, holds its four responses. -/
theorem plan_sample :
    sampleConfig.validate = .ok () ∧ sampleRequest.limits = sampleConfig.plan ∧
    sampleRequest.limits.maxRespsPerUrl < capacity 32 ∧
    (∀ x ∈ sampleStore.responses.toList, fitsInt64 x.id = true) ∧
    Connection.Serves sampleStore (Connection.healthy sampleStore 0) ∧
    (sampleRequest.plan (Connection.healthy sampleStore 0)).1.entries.map shape =
      sampleShapes .http ++ sampleShapes .https ∧
    ∃ ranges visits, IsBlock sampleRequest sampleStore .https popupPage 3 ranges visits ∧
      ranges.flatMap IdRange.ids = [1, 2, 3, 5] ∧
      ranges.flatMap visits ⊆ (sampleRequest.plan (Connection.healthy sampleStore 0)).1.entries := by
  have hvalid : sampleConfig.validate = .ok () := rfl
  have hlimits : sampleRequest.limits = sampleConfig.plan := rfl
  have hwidth : sampleRequest.limits.maxRespsPerUrl < capacity 32 := by decide
  refine ⟨hvalid, hlimits, hwidth, fitsInt64_sampleStore, serves_sampleStore, shapes_sampleRequest,
    ?_⟩
  obtain ⟨ranges, visits, hentries, hblocks⟩ :=
    plan_blocks hvalid hlimits hwidth fitsInt64_sampleStore serves_sampleStore
  have hblock := hblocks .https (by decide) popupPage (by decide) rfl (by decide) rfl 3 (by decide)
  refine ⟨_, _, hblock, ?_, fun e he => ?_⟩
  -- The ids of the block are those that are stored, in the same order.
  · refine List.Perm.eq_of_pairwise (fun a b _ _ hab hba => absurd hab (not_lt_of_gt hba))
      hblock.ascending (pairwise_stored sampleStore "XFO" .parsing) ?_ |>.trans stored_xfo
    rw [List.perm_ext_iff_of_nodup hblock.ascending.nodup (pairwise_stored _ _ _).nodup]
    exact fun i => (hblock.exact i).trans mem_stored.symm
  · rw [hentries]
    refine List.mem_flatMap.2 ⟨.https, by decide, ?_⟩
    refine List.mem_flatMap.2 ⟨popupPage, List.mem_filter.2 ⟨by decide, by decide⟩, ?_⟩
    exact List.mem_flatMap.2 ⟨3, by decide, he⟩

end ProbeCampaign.PlanRequest
