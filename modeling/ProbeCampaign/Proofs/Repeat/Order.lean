import Mathlib.Tactic
import ProbeCampaign.Proofs.Repeat.Rounds
import ProbeCampaign.Proofs.TestUrl.Written

/-!
# The order of records

Reconciliation sees each identity by its own records, so how the records of different identities
are interleaved does not matter. Of the records of one identity the order decides which of them is
repeated, but visits of one page with the same popups and the same timeout have the same retries
(`url_retry_eq`). So as long as an identity was visited with one timeout, its records may come in any
order: what changes is at most the reason of a warning (`reconcile_order`).
-/

namespace ProbeCampaign.Repeat

/-- Every identity was visited with one timeout, as far as its records can be read. -/
def OneTimeout (records : List ResultRecord) : Prop :=
  ∀ r ∈ records, ∀ s ∈ records, r.identity = s.identity → ∀ e f : TestPlanEntry,
    TestPlanEntry.parse r.fullUrl = .ok e → TestPlanEntry.parse s.fullUrl = .ok f →
      e.timeout = f.timeout

/-! ## Records in another order -/

/-- What is ambiguous stays so with further records. -/
theorem isAmbiguous_of_subset {options : RepeatOptions} {rows rows' : List ResultRecord}
    (hsub : rows ⊆ rows') (h : IsAmbiguous options rows) : IsAmbiguous options rows' := by
  cases h with
  | unparsable hr hread => exact .unparsable (hsub hr) hread
  | groupedPopups hr hread hkeep hpopups hlt =>
    exact .groupedPopups (hsub hr) hread hkeep hpopups hlt
  | popups hr hs hread hread' hne => exact .popups (hsub hr) (hsub hs) hread hread' hne
  | pages hr hs hread hread' hne => exact .pages (hsub hr) (hsub hs) hread hread' hne

section Members

variable {options : RepeatOptions} {records records' : List ResultRecord}
  (hmem : ∀ r, r ∈ records ↔ r ∈ records')
include hmem

theorem seen_of_mem_iff (i : TestIdentity) :
    (∃ r ∈ records, r.identity = i) ↔ ∃ r ∈ records', r.identity = i :=
  exists_congr fun r => and_congr_left fun _ => hmem r

/-- Which browsers are expected depends only on the records there are. -/
theorem isExpected_of_mem_iff (b : Int) :
    IsExpected options records b ↔ IsExpected options records' b := by
  unfold IsExpected
  cases options.browserIds with
  | some ids => exact Iff.rfl
  | none => exact and_congr_right fun _ => exists_congr fun r => and_congr_left fun _ => hmem r

end Members

theorem mem_iff_of_rows_eq {records records' : List ResultRecord}
    (h : ∀ i, rows records i = rows records' i) (r : ResultRecord) : r ∈ records ↔ r ∈ records' := by
  have hrows : r ∈ rows records r.identity ↔ r ∈ rows records' r.identity := by rw [h]
  rwa [mem_rows, mem_rows, and_iff_left rfl, and_iff_left rfl] at hrows

/-- The interleaving of the records of different identities does not matter. -/
theorem reconcile_congr {options : RepeatOptions} {records records' : List ResultRecord}
    (h : ∀ i, rows records i = rows records' i) :
    reconcile options records = reconcile options records' := by
  have hmem := mem_iff_of_rows_eq h
  have hexpected : expected options records = expected options records' :=
    expected_congr (isExpected_of_mem_iff hmem)
  have hverdicts : verdicts options records = verdicts options records' := by
    unfold verdicts
    rw [hexpected, identities_congr (seen_of_mem_iff hmem)]
    simp only [h]
  unfold reconcile
  rw [hverdicts, hexpected]

/-! ## Verdicts that differ only in their reasons -/

/-- Two verdicts come to the same but for the reason of an ambiguity. -/
inductive Alike : Verdict → Verdict → Prop
  | complete : Alike .complete .complete
  | ambiguous {reason reason' : Ambiguity} : Alike (.ambiguous reason) (.ambiguous reason')
  | again {e f : TestPlanEntry} {browserIds : List Int} :
      (∀ b, TestPlanEntry.url { e with browserId := b } = TestPlanEntry.url { f with browserId := b }) →
      Alike (.again e browserIds) (.again f browserIds)

section Alike

variable {v w : Verdict} (h : Alike v w)
include h

theorem Alike.retryUrl? (b : Int) : retryUrl? b v = Repeat.retryUrl? b w := by
  cases h with
  | complete => rfl
  | ambiguous => rfl
  | again hurl => rw [Repeat.retryUrl?, Repeat.retryUrl?, hurl]

theorem Alike.repeating : repeating v = Repeat.repeating w := by
  cases h with
  | complete | ambiguous | again => rfl

theorem Alike.warned (i : TestIdentity) :
    (warning? (i, v)).map (·.identity) = (warning? (i, w)).map (·.identity) := by
  cases h with
  | complete | ambiguous | again => rfl

end Alike

/-! ## Verdicts on records in another order -/

theorem extended_target (options : RepeatOptions) (row : ResultRecord) (first : TestPlanEntry)
    (b : Int) :
    { extended options (target options row first) with browserId := b } =
      retry options row first b := by
  unfold extended maxTimeout retry
  rw [target_timeout]

theorem unqueried_retry {options : RepeatOptions} {row : ResultRecord} {first : TestPlanEntry}
    {b : Int} (h : first.Unqueried) : (retry options row first b).Unqueried := by
  unfold retry target
  split
  · exact ⟨h.host, h.path⟩
  · exact ⟨h.host, h.path⟩

/-- Visits of one page with the same popups and the same timeout are repeated by the same URL. -/
theorem url_retry_eq {options : RepeatOptions} {r s : ResultRecord} {e f : TestPlanEntry}
    (he : TestPlanEntry.parse r.fullUrl = .ok e) (hf : TestPlanEntry.parse s.fullUrl = .ok f)
    (hpage : (target options r e).cleanUrl = (target options s f).cleanUrl)
    (hpopups : e.popups = f.popups) (htimeout : e.timeout = f.timeout) (b : Int) :
    (retry options r e b).url = (retry options s f b).url := by
  have hunqueried : (retry options r e b).Unqueried :=
    unqueried_retry (TestPlanEntry.unqueried_of_parse he)
  have hunqueried' : (retry options s f b).Unqueried :=
    unqueried_retry (TestPlanEntry.unqueried_of_parse hf)
  refine (TestPlanEntry.url_inj hunqueried hunqueried').2 ⟨hpage, rfl, ?_, ?_⟩
  · show min (e.timeout * _) _ = min (f.timeout * _) _
    rw [htimeout]
  · show (target options r e).popups = (target options s f).popups
    rw [target_popups, target_popups, hpopups]

section Perm

variable {options : RepeatOptions} {records records' : List ResultRecord}
  (hperm : records.Perm records')
include hperm

theorem runs_perm (i : TestIdentity) (b : Int) : runs records i b = runs records' i b :=
  hperm.countP_eq _

/-- A browser is missing in whatever order the records come. -/
theorem isMissing_perm {i : TestIdentity} {b : Int} :
    IsMissing options records i b ↔ IsMissing options records' i b := by
  have hmem : ∀ r, r ∈ records ↔ r ∈ records' := fun r => hperm.mem_iff
  constructor
  · rintro ⟨hseen, hexpected, hshort⟩
    rw [runs_perm hperm] at hshort
    exact ⟨(seen_of_mem_iff hmem i).1 hseen, (isExpected_of_mem_iff hmem b).1 hexpected, hshort⟩
  · rintro ⟨hseen, hexpected, hshort⟩
    rw [← runs_perm hperm] at hshort
    exact ⟨(seen_of_mem_iff hmem i).2 hseen, (isExpected_of_mem_iff hmem b).2 hexpected, hshort⟩

theorem rows_perm (i : TestIdentity) : (rows records i).Perm (rows records' i) :=
  hperm.filter _

theorem expected_perm : expected options records = expected options records' :=
  expected_congr (isExpected_of_mem_iff fun _ => hperm.mem_iff)

theorem missing_perm (i : TestIdentity) :
    missing options (expected options records) (rows records i) =
      missing options (expected options records') (rows records' i) := by
  unfold missing
  rw [expected_perm hperm]
  refine List.filter_congr fun b _ => ?_
  rw [(rows_perm hperm i).countP_eq]

/-- Records that agree have the same retries, whichever of them is the first. -/
theorem url_retry_eq_of_perm (htimeout : OneTimeout records) {i : TestIdentity}
    (hunambiguous : ¬ IsAmbiguous options (rows records i)) {r s : ResultRecord} {e f : TestPlanEntry}
    (hr : (rows records i).head? = some r) (hs : (rows records' i).head? = some s)
    (he : TestPlanEntry.parse r.fullUrl = .ok e) (hf : TestPlanEntry.parse s.fullUrl = .ok f)
    (b : Int) : (retry options r e b).url = (retry options s f b).url := by
  have hr := List.mem_of_head? hr
  have hs := (rows_perm hperm i).mem_iff.2 (List.mem_of_head? hs)
  obtain ⟨hmemr, hir⟩ := mem_rows.1 hr
  obtain ⟨hmems, his⟩ := mem_rows.1 hs
  -- Two records with different pages or different popups would make the identity ambiguous.
  refine url_retry_eq he hf ?_ ?_ (htimeout r hmemr s hmems (hir.trans his.symm) e f he hf) b
  · by_contra hne
    exact hunambiguous (.pages hr hs he hf hne)
  · by_contra hne
    exact hunambiguous (.popups hr hs he hf hne)

/-- The verdicts on an identity are alike: the first records may be different ones, but they have
the same retries. -/
theorem alike_verdictOn (htimeout : OneTimeout records) (i : TestIdentity) :
    Alike (verdictOn options records i) (verdictOn options records' i) := by
  by_cases hmissing : ∃ b, IsMissing options records i b
  · obtain ⟨b, hb⟩ := hmissing
    have hb' := (isMissing_perm hperm).1 hb
    by_cases hambiguous : IsAmbiguous options (rows records i)
    · have hambiguous' := isAmbiguous_of_subset (rows_perm hperm i).subset hambiguous
      obtain ⟨reason, hverdict, -⟩ := verdictOn_of_ambiguous hb hambiguous
      obtain ⟨reason', hverdict', -⟩ := verdictOn_of_ambiguous hb' hambiguous'
      rw [hverdict, hverdict']
      exact .ambiguous
    · have hambiguous' : ¬ IsAmbiguous options (rows records' i) := fun h =>
        hambiguous (isAmbiguous_of_subset (rows_perm hperm i).symm.subset h)
      obtain ⟨r, e, hr, he, hverdict⟩ := verdictOn_of_unambiguous hb hambiguous
      obtain ⟨s, f, hs, hf, hverdict'⟩ := verdictOn_of_unambiguous hb' hambiguous'
      rw [hverdict, hverdict', missing_perm hperm]
      refine .again fun c => ?_
      rw [extended_target, extended_target]
      exact url_retry_eq_of_perm hperm htimeout hambiguous hr hs he hf c
  · have hmissing' : ∀ b, ¬ IsMissing options records' i b := fun b hb =>
      hmissing ⟨b, (isMissing_perm hperm).2 hb⟩
    rw [verdictOn_of_complete fun b hb => hmissing ⟨b, hb⟩, verdictOn_of_complete hmissing']
    exact .complete

theorem identities_perm : identities records = identities records' :=
  identities_congr (seen_of_mem_iff fun _ => hperm.mem_iff)

/-- The same URLs are repeated in whatever order the records come. -/
theorem urls_perm (htimeout : OneTimeout records) :
    (reconcile options records).urls = (reconcile options records').urls := by
  have hretries : ∀ b, retries options records b = retries options records' b := by
    intro b
    unfold retries
    rw [verdicts_eq, verdicts_eq, identities_perm hperm, List.filterMap_map, List.filterMap_map]
    exact List.filterMap_congr fun i _ => (alike_verdictOn hperm htimeout i).retryUrl? b
  unfold reconcile
  dsimp only
  rw [expected_perm hperm]
  exact List.filterMap_congr fun b _ => by rw [← retries, hretries b, retries]

/-- The same number of identities is incomplete. -/
theorem incomplete_perm (htimeout : OneTimeout records) :
    (reconcile options records).incomplete = (reconcile options records').incomplete := by
  unfold reconcile
  dsimp only
  rw [verdicts_eq, verdicts_eq, identities_perm hperm, List.flatMap_map, List.flatMap_map]
  congr 1
  exact List.flatMap_congr fun i _ => (alike_verdictOn hperm htimeout i).repeating

theorem warned_perm (htimeout : OneTimeout records) :
    (reconcile options records).warnings.map (·.identity) =
      (reconcile options records').warnings.map (·.identity) := by
  rw [warnings_eq, warnings_eq, identities_perm hperm, List.map_filterMap, List.map_filterMap]
  exact List.filterMap_congr fun i _ => (alike_verdictOn hperm htimeout i).warned i

/-- The same identities are left out. -/
theorem excluded_perm (htimeout : OneTimeout records) :
    excluded options records = excluded options records' := by
  unfold excluded
  rw [identities_perm hperm]
  refine List.filter_congr fun i _ => ?_
  have halike : Alike (verdictOn options records i) (verdictOn options records' i) :=
    alike_verdictOn hperm htimeout i
  have hwarned := congrArg Option.isSome (halike.warned i)
  rwa [Option.isSome_map, Option.isSome_map] at hwarned

end Perm

/-- The order of records matters at most within an identity; and if each identity was visited with
one timeout, it changes neither what is repeated nor who is warned about. -/
theorem reconcile_order (options : RepeatOptions) (records records' : List ResultRecord) :
    ((∀ i, rows records i = rows records' i) →
      reconcile options records = reconcile options records') ∧
    (records.Perm records' → OneTimeout records →
      (reconcile options records).urls = (reconcile options records').urls ∧
      (reconcile options records).identities = (reconcile options records').identities ∧
      (reconcile options records).incomplete = (reconcile options records').incomplete ∧
      (reconcile options records).warnings.map (·.identity) =
        (reconcile options records').warnings.map (·.identity) ∧
      excluded options records = excluded options records') := by
  refine ⟨reconcile_congr, fun hperm htimeout => ?_⟩
  refine ⟨urls_perm hperm htimeout, ?_, incomplete_perm hperm htimeout, warned_perm hperm htimeout,
    excluded_perm hperm htimeout⟩
  unfold reconcile
  dsimp only
  rw [verdicts_eq, verdicts_eq, identities_perm hperm, List.length_map, List.length_map]

/-! ## Two browsers, in either order -/

/-- What a browser reports of the sample visit, for one way to load the page. -/
def reportBy (b : Int) (relation : String) : ResultRecord :=
  { sampleRecord with
    relationInfo := relation
    browserId := b
    fullUrl := TestPlanEntry.url { sampleVisit with browserId := b } }

theorem parse_reportBy {b : Int} (hb : fitsInt64 b = true) (relation : String) :
    TestPlanEntry.parse (reportBy b relation).fullUrl = .ok { sampleVisit with browserId := b } :=
  TestPlanEntry.parse_url { canonical_sampleVisit with browserId := hb }

theorem oneTimeout_reportBy (relation : String) :
    OneTimeout [reportBy 2 relation, reportBy 3 relation] := by
  have htimeout : ∀ r ∈ [reportBy 2 relation, reportBy 3 relation], ∀ e,
      TestPlanEntry.parse r.fullUrl = .ok e → e.timeout = sampleVisit.timeout := by
    intro r hr e he
    simp only [List.mem_cons, List.not_mem_nil, or_false] at hr
    rcases hr with rfl | rfl
    · rw [parse_reportBy (by decide)] at he
      cases he
      rfl
    · rw [parse_reportBy (by decide)] at he
      cases he
      rfl
  exact fun r hr s hs _ e f he hf => (htimeout r hr e he).trans (htimeout s hs f hf).symm

/-- Records of a frame and of a window may be exchanged, and so may those of two browsers. -/
theorem reconcile_order_sample :
    (∀ i, rows [reportBy 2 "iframe", reportBy 2 "window"] i =
      rows [reportBy 2 "window", reportBy 2 "iframe"] i) ∧
    reconcile sampleOptions [reportBy 2 "iframe", reportBy 2 "window"] =
      reconcile sampleOptions [reportBy 2 "window", reportBy 2 "iframe"] ∧
    OneTimeout [reportBy 2 "iframe", reportBy 3 "iframe"] ∧
    (reconcile sampleOptions [reportBy 2 "iframe", reportBy 3 "iframe"]).urls =
      (reconcile sampleOptions [reportBy 3 "iframe", reportBy 2 "iframe"]).urls := by
  have hrows : ∀ i, rows [reportBy 2 "iframe", reportBy 2 "window"] i =
      rows [reportBy 2 "window", reportBy 2 "iframe"] i := by
    intro i
    have hne : (reportBy 2 "iframe").identity ≠ (reportBy 2 "window").identity := by decide
    unfold rows
    by_cases hframe : (reportBy 2 "iframe").identity = i
    · have hwindow : (reportBy 2 "window").identity ≠ i := fun h => hne (hframe.trans h.symm)
      simp [hframe, hwindow]
    · simp [hframe, List.filter_cons]
  have hone := oneTimeout_reportBy "iframe"
  obtain ⟨hurls, -⟩ := (reconcile_order sampleOptions _ _).2 (List.Perm.swap _ _ []) hone
  exact ⟨hrows, (reconcile_order sampleOptions _ _).1 hrows, hone, hurls⟩

end ProbeCampaign.Repeat
