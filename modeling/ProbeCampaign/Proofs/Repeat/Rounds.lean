import Mathlib.Tactic
import ProbeCampaign.Proofs.Repeat.Reconcile
import ProbeCampaign.Proofs.TestUrl.RoundTrip

/-!
# Rounds of repetition

When browsers repeat what they had to, the records they add agree with those before: the URL of a
retry is read back as the visit it was made from, but for browser and timeout, so that it stands for
the same page (`agrees_retry`). Hence a round changes neither the first record of an identity nor
whether its records agree; it only adds runs (`reconcile_append`). Any number of rounds is one round
in this sense (`isRound_of_rounds`).
-/

namespace ProbeCampaign.Repeat

/-- The visit by which a browser repeats the visit of a record. -/
def retry (options : RepeatOptions) (row : ResultRecord) (first : TestPlanEntry) (b : Int) :
    TestPlanEntry :=
  { target options row first with
    browserId := b
    timeout := min (first.timeout * options.policy.timeoutMultiplier) (capacity 32 - 1) }

/-- The ids of options and records are integers of 64 bits. -/
structure Fits (options : RepeatOptions) (records : List ResultRecord) : Prop where
  options : ∀ ids, options.browserIds = some ids → ∀ b ∈ ids, fitsInt64 b = true
  browserIds : ∀ r ∈ records, fitsInt64 r.browserId = true
  responseIds : ∀ r ∈ records, fitsInt64 r.responseId = true

/-- The records of a round: each is of a pair that has to be repeated, by the URL it has to be
repeated by. -/
def IsRound (options : RepeatOptions) (records appended : List ResultRecord) : Prop :=
  ∀ r ∈ appended, Repeats options records r.identity r.browserId r.fullUrl

/-! ## One record of a round -/

theorem Fits.of_isExpected {options : RepeatOptions} {records : List ResultRecord} {b : Int}
    (h : Fits options records) (hb : IsExpected options records b) : fitsInt64 b = true := by
  unfold IsExpected at hb
  split at hb
  · next ids hids => exact h.options ids hids b hb
  · obtain ⟨-, r, hr, rfl⟩ := hb
    exact h.browserIds r hr

/-- The retry of a visit that was read from a URL can be read from its own URL. -/
theorem canonical_retry {options : RepeatOptions} {row : ResultRecord} {first : TestPlanEntry}
    {b : Int} (hfirst : first.Canonical) (hid : fitsInt64 row.responseId = true)
    (hb : fitsInt64 b = true) : (retry options row first b).Canonical := by
  have htimeout : min (first.timeout * options.policy.timeoutMultiplier) (capacity 32 - 1) <
      capacity 32 := by
    have hpos : 0 < capacity 32 := by decide
    omega
  -- Narrowing leaves a range of one id, and the timeout stays within 32 bits.
  unfold retry target
  split
  · exact { hfirst with browserId := hb, timeout := htimeout }
  · exact { hfirst with
      browserId := hb
      timeout := htimeout
      first := hid
      last := hid
      ordered := le_refl _ }

/-- A record of a retry agrees with the visit that the retry was made from. -/
theorem agrees_retry {options : RepeatOptions} {row added : ResultRecord} {first : TestPlanEntry}
    {b : Int} (hread : TestPlanEntry.parse added.fullUrl = .ok (retry options row first b))
    (hid : added.responseId = row.responseId) :
    Agrees options (target options row first) added (retry options row first b) := by
  refine ⟨hread, ?_, rfl, ?_⟩
  · intro hkeep _
    unfold retry target
    rw [if_neg (by simp [hkeep])]
  · unfold retry target
    by_cases hkeep : options.policy.keepRanges = true
    · simp only [if_pos hkeep]
      rfl
    · simp only [if_neg hkeep]
      rw [hid]
      rfl

theorem responseId_eq {r s : ResultRecord} {i : TestIdentity} (hr : r.identity = i)
    (hs : s.identity = i) : r.responseId = s.responseId :=
  congrArg TestIdentity.responseId (hr.trans hs.symm)

theorem mem_of_head?_rows {records : List ResultRecord} {i : TestIdentity} {row : ResultRecord}
    (h : (rows records i).head? = some row) : row ∈ records ∧ row.identity = i :=
  mem_rows.1 (List.mem_of_head? h)

/-- The retry of an identity agrees with its first record: what was read from a URL is written and
read once more. -/
theorem agrees_of_repeats {options : RepeatOptions} {records : List ResultRecord}
    {added row : ResultRecord} {first : TestPlanEntry} (hfits : Fits options records)
    (hhosts : ∀ r ∈ records, TestPlanEntry.HostReadsBack r.fullUrl)
    (h : Repeats options records added.identity added.browserId added.fullUrl)
    (hhead : (rows records added.identity).head? = some row)
    (hread : TestPlanEntry.parse row.fullUrl = .ok first) :
    ∃ f, Agrees options (target options row first) added f := by
  obtain ⟨row', first', hhead', hread', hurl⟩ := h.retry
  obtain rfl : row = row' := Option.some.inj (hhead.symm.trans hhead')
  obtain rfl : first = first' := Except.ok.inj (hread.symm.trans hread')
  obtain ⟨hrow, hidentity⟩ := mem_of_head?_rows hhead
  have hcanonical : (retry options row first added.browserId).Canonical :=
    canonical_retry (TestPlanEntry.canonical_of_parse hread (hhosts row hrow))
      (hfits.responseIds row hrow) (hfits.of_isExpected h.missing.expected)
  have hback : TestPlanEntry.parse added.fullUrl =
      .ok (retry options row first added.browserId) := by
    rw [hurl]
    exact TestPlanEntry.parse_url hcanonical
  exact ⟨_, agrees_retry hback (responseId_eq rfl hidentity)⟩

/-! ## A whole round -/

section Round

variable {options : RepeatOptions} {records appended : List ResultRecord}

theorem rows_append (i : TestIdentity) :
    rows (records ++ appended) i = rows records i ++ rows appended i :=
  List.filter_append _ _

theorem runs_append (i : TestIdentity) (b : Int) :
    runs (records ++ appended) i b = runs records i b + runs appended i b :=
  List.countP_append

/-- A round brings in no further identities. -/
theorem seen_append (hround : IsRound options records appended) {i : TestIdentity} :
    (∃ r ∈ records ++ appended, r.identity = i) ↔ ∃ r ∈ records, r.identity = i := by
  constructor
  · rintro ⟨r, hr, rfl⟩
    rcases List.mem_append.1 hr with hr | hr
    · exact ⟨r, hr, rfl⟩
    · exact (hround r hr).missing.seen
  · rintro ⟨r, hr, rfl⟩
    exact ⟨r, List.mem_append_left _ hr, rfl⟩

/-- Nor any further browsers. -/
theorem isExpected_append (hround : IsRound options records appended) {b : Int} :
    IsExpected options (records ++ appended) b ↔ IsExpected options records b := by
  cases hids : options.browserIds with
  | some ids =>
    unfold IsExpected
    rw [hids]
  | none =>
    constructor
    · intro hb
      have hb' := hb
      unfold IsExpected at hb
      rw [hids] at hb
      obtain ⟨hknown, r, hr, rfl⟩ := hb
      rcases List.mem_append.1 hr with hr | hr
      · unfold IsExpected
        rw [hids]
        exact ⟨hknown, r, hr, rfl⟩
      · exact (hround r hr).missing.expected
    · intro hb
      unfold IsExpected at hb ⊢
      rw [hids] at hb ⊢
      obtain ⟨hknown, r, hr, rfl⟩ := hb
      exact ⟨hknown, r, List.mem_append_left _ hr, rfl⟩

/-- The first record of an identity stays the first, and one without records is not repeated
either. -/
theorem head?_rows_append (hround : IsRound options records appended) {i : TestIdentity}
    {row : ResultRecord} :
    (rows (records ++ appended) i).head? = some row ↔ (rows records i).head? = some row := by
  rw [rows_append]
  cases hrows : rows records i with
  | cons r rest => exact Iff.rfl
  | nil =>
    have hnone : rows appended i = [] := by
      rw [List.eq_nil_iff_forall_not_mem]
      intro r hr
      obtain ⟨hmem, rfl⟩ := mem_rows.1 hr
      obtain ⟨s, hs⟩ := (hround r hmem).missing.seen
      have hnonempty := mem_rows.2 hs
      rw [hrows] at hnonempty
      exact absurd hnonempty List.not_mem_nil
    rw [hnone]
    rfl

theorem isRetry_append (hround : IsRound options records appended) {i : TestIdentity} {b : Int}
    {url : String} :
    IsRetry options (records ++ appended) i b url ↔ IsRetry options records i b url := by
  unfold IsRetry
  simp only [head?_rows_append hround]

/-- After a round a browser is missing if its runs from before and from the round are too few. -/
theorem isMissing_append (hround : IsRound options records appended) {i : TestIdentity} {b : Int} :
    IsMissing options (records ++ appended) i b ↔
      IsMissing options records i b ∧
        runs records i b + runs appended i b < options.policy.requiredRuns := by
  constructor
  · rintro ⟨hseen, hexpected, hshort⟩
    rw [runs_append] at hshort
    exact ⟨⟨(seen_append hround).1 hseen, (isExpected_append hround).1 hexpected, by omega⟩, hshort⟩
  · rintro ⟨⟨hseen, hexpected, -⟩, hshort⟩
    refine ⟨(seen_append hround).2 hseen, (isExpected_append hround).2 hexpected, ?_⟩
    rw [runs_append]
    exact hshort

/-- The rows that a round adds do not make an identity ambiguous, nor do they settle one that is. -/
theorem isAmbiguous_append (hfits : Fits options records)
    (hhosts : ∀ r ∈ records, TestPlanEntry.HostReadsBack r.fullUrl)
    (hround : IsRound options records appended) {i : TestIdentity} :
    IsAmbiguous options (rows (records ++ appended) i) ↔ IsAmbiguous options (rows records i) := by
  rw [rows_append]
  by_cases hnone : rows appended i = []
  · rw [hnone, List.append_nil]
  · obtain ⟨added, hadded⟩ := List.exists_mem_of_ne_nil _ hnone
    obtain ⟨hmem, rfl⟩ := mem_rows.1 hadded
    -- A record was added, so the records before were not ambiguous; nor are they with it.
    have hbefore : ¬ IsAmbiguous options (rows records added.identity) :=
      (hround added hmem).unambiguous
    have hagree := hbefore
    obtain ⟨row, -, hhead, -⟩ := (hround added hmem).retry
    obtain ⟨others, hrows⟩ := List.head?_eq_some_iff.1 hhead
    rw [hrows] at hagree
    obtain ⟨first, hread, hall⟩ := not_isAmbiguous_iff.1 hagree
    refine iff_of_false ?_ hbefore
    rw [hrows, List.cons_append]
    refine not_isAmbiguous_iff.2 ⟨first, hread, fun r hr => ?_⟩
    rw [← List.cons_append] at hr
    rcases List.mem_append.1 hr with hr | hr
    · exact hall r hr
    · obtain ⟨hr, hidentity⟩ := mem_rows.1 hr
      refine agrees_of_repeats hfits hhosts (hround r hr) ?_ hread
      rw [hidentity]
      exact hhead

/-- After a round the pairs that still have too few runs are repeated as before. -/
theorem repeats_append (hfits : Fits options records)
    (hhosts : ∀ r ∈ records, TestPlanEntry.HostReadsBack r.fullUrl)
    (hround : IsRound options records appended) {i : TestIdentity} {b : Int} {url : String} :
    Repeats options (records ++ appended) i b url ↔
      Repeats options records i b url ∧
        runs records i b + runs appended i b < options.policy.requiredRuns := by
  have hambiguous := isAmbiguous_append hfits hhosts hround (i := i)
  constructor
  · rintro ⟨hmissing, hunambiguous, hretry⟩
    obtain ⟨hmissing, hshort⟩ := (isMissing_append hround).1 hmissing
    exact ⟨⟨hmissing, fun h => hunambiguous (hambiguous.2 h), (isRetry_append hround).1 hretry⟩,
      hshort⟩
  · rintro ⟨⟨hmissing, hunambiguous, hretry⟩, hshort⟩
    exact ⟨(isMissing_append hround).2 ⟨hmissing, hshort⟩, fun h => hunambiguous (hambiguous.1 h),
      (isRetry_append hround).2 hretry⟩

/-- The records after any number of rounds, each of what was to be repeated when it began. -/
inductive Rounds (options : RepeatOptions) (records : List ResultRecord) :
    List ResultRecord → Prop
  | start : Rounds options records records
  | next {before added : List ResultRecord} : Rounds options records before →
      IsRound options before added → Rounds options records (before ++ added)

/-- Any number of rounds amounts to one. -/
theorem isRound_of_rounds (hfits : Fits options records)
    (hhosts : ∀ r ∈ records, TestPlanEntry.HostReadsBack r.fullUrl) {after : List ResultRecord}
    (h : Rounds options records after) :
    ∃ appended, after = records ++ appended ∧ IsRound options records appended := by
  -- By induction on the rounds: what a later round repeats was to be repeated at the start.
  induction h with
  | start => exact ⟨[], (List.append_nil _).symm, fun r hr => absurd hr List.not_mem_nil⟩
  | next _ hadded ih =>
    obtain ⟨appended, rfl, hround⟩ := ih
    refine ⟨appended ++ _, List.append_assoc _ _ _, fun r hr => ?_⟩
    rcases List.mem_append.1 hr with hr | hr
    · exact hround r hr
    · exact ((repeats_append hfits hhosts hround).1 (hadded r hr)).1

theorem identities_append (hround : IsRound options records appended) :
    identities (records ++ appended) = identities records :=
  identities_congr fun _ => seen_append hround

theorem expected_append (hround : IsRound options records appended) :
    expected options (records ++ appended) = expected options records :=
  expected_congr fun _ => isExpected_append hround

/-- A round changes no warning. -/
theorem warning?_append (hfits : Fits options records)
    (hhosts : ∀ r ∈ records, TestPlanEntry.HostReadsBack r.fullUrl)
    (hround : IsRound options records appended) (i : TestIdentity) :
    warning? (i, verdictOn options (records ++ appended) i) =
      warning? (i, verdictOn options records i) := by
  by_cases hambiguous : IsAmbiguous options (rows records i)
  · -- The records of an ambiguous identity are the same after the round.
    have hnone : rows appended i = [] := by
      rw [List.eq_nil_iff_forall_not_mem]
      intro r hr
      obtain ⟨hmem, rfl⟩ := mem_rows.1 hr
      exact (hround r hmem).unambiguous hambiguous
    unfold verdictOn
    rw [expected_append hround, rows_append, hnone, List.append_nil]
  · have hafter : ¬ IsAmbiguous options (rows (records ++ appended) i) :=
      fun h => hambiguous ((isAmbiguous_append hfits hhosts hround).1 h)
    rw [warning?_of_unambiguous hambiguous, warning?_of_unambiguous hafter]

end Round

/-- An identity with one record, without popups, is repeated by the visit of this record. -/
theorem repeats_iff_of_rows_eq {options : RepeatOptions} {records : List ResultRecord}
    {row : ResultRecord} {first : TestPlanEntry} {b : Int}
    (hrows : rows records row.identity = [row])
    (hread : TestPlanEntry.parse row.fullUrl = .ok first) (hpopups : first.popups = none)
    (hmissing : IsMissing options records row.identity b) (url : String) :
    Repeats options records row.identity b url ↔ url = (retry options row first b).url := by
  have hretry : IsRetry options records row.identity b url ↔
      url = (retry options row first b).url := by
    unfold IsRetry
    rw [hrows]
    constructor
    · rintro ⟨row', first', hhead, hread', hurl⟩
      obtain rfl : row = row' := Option.some.inj hhead
      obtain rfl : first = first' := Except.ok.inj (hread.symm.trans hread')
      exact hurl
    · exact fun hurl => ⟨row, first, rfl, hread, hurl⟩
  have hunambiguous : ¬ IsAmbiguous options (rows records row.identity) := by
    rw [hrows]
    refine not_isAmbiguous_iff.2 ⟨first, hread, fun s hs => ⟨first, ?_⟩⟩
    rw [List.mem_singleton.1 hs]
    exact ⟨hread, fun _ hsome => absurd hpopups hsome, (target_popups options row first).symm, rfl⟩
  exact ⟨fun h => hretry.1 h.retry, fun h => ⟨hmissing, hunambiguous, hretry.2 h⟩⟩

/-! ## One of two tests repeated -/

/-- A visit of one page by one browser for two responses. -/
def sampleVisit : TestPlanEntry where
  scheme := .http
  host := "probe.test"
  path := "framing.html"
  respType := .basic
  browserId := 2
  label := "XFO"
  ids := ⟨7, 8⟩
  timeout := 5
  popups := none

/-- What the browser reports of the visit for the first response. -/
def sampleRecord : ResultRecord where
  id := none
  testName := "framing.html"
  testStatus := 0
  relationInfo := "iframe"
  orgScheme := "http"
  orgHost := "probe.test"
  respScheme := "http"
  respHost := "probe.test"
  responseId := 7
  respType := .basic
  browserId := 2
  fullUrl := sampleVisit.url
  outcomeValue := none

/-- What it reports for the second response. -/
def otherRecord : ResultRecord :=
  { sampleRecord with responseId := 8 }

/-- Two runs complete a test. -/
def sampleOptions : RepeatOptions :=
  ⟨⟨2, 2, false⟩, none⟩

/-- The record of the visit that repeats the test of the first response. -/
def rerun : ResultRecord :=
  { sampleRecord with fullUrl := (retry sampleOptions sampleRecord sampleVisit 2).url }

theorem isHostText_sample (scheme : Scheme) : TestPlanEntry.IsHostText scheme "probe.test" := by
  have hplain : Host.PlainDomain "probe.test".toList :=
    ⟨by simp [Host.isSmall], by decide, 't', ['e', 's', 't'], by decide, by decide⟩
  exact ⟨.domain "probe.test".toList, none, rfl, Host.parse_of_plainDomain hplain, trivial⟩

theorem canonical_sampleVisit : sampleVisit.Canonical where
  host := isHostText_sample .http
  path := by
    have hpath : UrlPath.Unreserved "framing.html".toList :=
      ⟨by simp [UrlPath.isUnreserved], by decide, by decide, by decide⟩
    exact UrlPath.normal_of_unreserved hpath
  browserId := rfl
  first := rfl
  last := rfl
  ordered := by decide
  timeout := by decide
  popups := fun b hb => absurd hb (by simp [sampleVisit])

theorem parse_sampleVisit : TestPlanEntry.parse sampleVisit.url = .ok sampleVisit :=
  TestPlanEntry.parse_url canonical_sampleVisit

theorem identity_sampleRecord_ne : sampleRecord.identity ≠ otherRecord.identity := by
  decide

theorem identity_rerun : rerun.identity = sampleRecord.identity := by
  unfold ResultRecord.identity rerun
  rfl

theorem isMissing_sample {row : ResultRecord} (hrow : row ∈ [sampleRecord, otherRecord])
    (hshort : runs [sampleRecord, otherRecord] row.identity 2 < 2) :
    IsMissing sampleOptions [sampleRecord, otherRecord] row.identity 2 where
  seen := ⟨row, hrow, rfl⟩
  expected := ⟨by decide, sampleRecord, List.mem_cons_self, rfl⟩
  short := hshort

end ProbeCampaign.Repeat
