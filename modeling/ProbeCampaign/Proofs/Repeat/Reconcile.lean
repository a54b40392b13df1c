import Mathlib.Tactic
import ProbeCampaign.Proofs.Repeat.Agreement

/-!
# What is repeated

A pair of an identity and a browser is missing when the browser is expected and has reported too
few records of the identity. The outcome of `reconcile` is exact: what a browser has to repeat are
the retries of its missing pairs, of identities whose records agree (`mem_urlsOf`), and the warnings
are about the other identities with a missing browser, one for each in order (`forall₂_excluded`). A
warning names an identity by its text, which identities may share, so that it is by this order that
one tells which identity a warning is about.
-/

namespace ProbeCampaign

/-- The URLs that a browser has to repeat. -/
def RepeatOutcome.urlsOf (o : RepeatOutcome) (browserId : Int) : List String :=
  (o.urls.lookup browserId).getD []

namespace Repeat

/-- A browser that every test is expected from. -/
def IsExpected (options : RepeatOptions) (records : List ResultRecord) (browserId : Int) : Prop :=
  match options.browserIds with
  | some ids => browserId ∈ ids
  | none => browserId ≠ unknownBrowserId ∧ ∃ r ∈ records, r.browserId = browserId

/-- The number of records of an identity from a browser. -/
def runs (records : List ResultRecord) (i : TestIdentity) (browserId : Int) : Nat :=
  records.countP fun r => r.identity = i ∧ r.browserId = browserId

/-- An expected browser has reported too few records of an identity. -/
structure IsMissing (options : RepeatOptions) (records : List ResultRecord) (i : TestIdentity)
    (browserId : Int) : Prop where
  seen : ∃ r ∈ records, r.identity = i
  expected : IsExpected options records browserId
  short : runs records i browserId < options.policy.requiredRuns

/-- The URL by which a browser repeats the test of an identity: that of the visit of its first
record, by this browser, with the timeout multiplied within 32 bits. -/
def IsRetry (options : RepeatOptions) (records : List ResultRecord) (i : TestIdentity)
    (browserId : Int) (url : String) : Prop :=
  ∃ row first, (rows records i).head? = some row ∧ TestPlanEntry.parse row.fullUrl = .ok first ∧
    url = TestPlanEntry.url { target options row first with
      browserId
      timeout := min (first.timeout * options.policy.timeoutMultiplier) (capacity 32 - 1) }

/-- A browser has to repeat the test of an identity by a URL. -/
structure Repeats (options : RepeatOptions) (records : List ResultRecord) (i : TestIdentity)
    (browserId : Int) (url : String) : Prop where
  missing : IsMissing options records i browserId
  unambiguous : ¬ IsAmbiguous options (rows records i)
  retry : IsRetry options records i browserId url

/-! ## Browsers and identities -/

/-- Identities that compare as equal have equal fields; types compare by their ranks. -/
theorem eq_of_compare_eq {a b : TestIdentity} (heq : a.compare b = .eq) : a = b := by
  simp only [TestIdentity.compare, Ordering.then_eq_eq, Std.LawfulEqCmp.compare_eq_iff_eq] at heq
  obtain ⟨h1, h2, h3, h4, h5, h6, h7, h8⟩ := heq
  have htype : a.respType = b.respType := by
    cases ha : a.respType <;> cases hb : b.respType <;> rw [ha, hb] at h8 <;>
      first | rfl | exact absurd h8 (by decide)
  cases a
  cases b
  simp_all

/-- Identities are compared field by field, which is an order. -/
theorem isOrder_identity : Distinct.IsOrder fun a b : TestIdentity => (a.compare b).isLE := by
  have hlex : TestIdentity.compare = compareLex (compareOn (·.testName)) (
      compareLex (compareOn (·.relationInfo)) <| compareLex (compareOn (·.orgScheme)) <|
      compareLex (compareOn (·.orgHost)) <| compareLex (compareOn (·.respScheme)) <|
      compareLex (compareOn (·.respHost)) <| compareLex (compareOn (·.responseId)) <|
      compareOn fun i : TestIdentity => i.respType.rank) := rfl
  have htrans : Std.TransCmp TestIdentity.compare := by
    rw [hlex]
    infer_instance
  refine ⟨fun a b c => Std.TransCmp.isLE_trans, fun a b => ?_, fun a b hab hba => ?_⟩
  · have hswap : b.compare a = (a.compare b).swap := Std.OrientedCmp.eq_swap
    rw [hswap]
    cases a.compare b with
    | lt => rfl
    | eq => rfl
    | gt => rfl
  · exact eq_of_compare_eq (Std.OrientedCmp.isLE_antisymm hab hba)

theorem identities_eq (records : List ResultRecord) :
    identities records =
      Distinct.distinct (fun a b => (a.compare b).isLE) (records.map (·.identity)) := by
  unfold identities Distinct.distinct
  congr

theorem mem_identities {records : List ResultRecord} {i : TestIdentity} :
    i ∈ identities records ↔ ∃ r ∈ records, r.identity = i := by
  rw [identities_eq, Distinct.mem_distinct, List.mem_map]

theorem nodup_identities (records : List ResultRecord) : (identities records).Nodup := by
  rw [identities_eq]
  exact Distinct.nodup_distinct isOrder_identity _

theorem ascendingIds_eq (ids : List Int) :
    ascendingIds ids = Distinct.distinct (fun a b => decide (a ≤ b)) ids := by
  unfold ascendingIds Distinct.distinct
  congr

theorem mem_ascendingIds {b : Int} {ids : List Int} : b ∈ ascendingIds ids ↔ b ∈ ids := by
  rw [ascendingIds_eq, Distinct.mem_distinct]

theorem nodup_ascendingIds (ids : List Int) : (ascendingIds ids).Nodup := by
  rw [ascendingIds_eq]
  exact Distinct.nodup_distinct Distinct.isOrder_int ids

/-- The expected browsers are listed. -/
theorem mem_expected {options : RepeatOptions} {records : List ResultRecord} {b : Int} :
    b ∈ expected options records ↔ IsExpected options records b := by
  unfold expected IsExpected
  rw [mem_ascendingIds]
  cases options.browserIds with
  | some ids => exact Iff.rfl
  | none =>
    simp only [List.mem_filter, List.mem_map, decide_eq_true_eq]
    exact and_comm

/-- Records of the same identities have these in the same form. -/
theorem identities_congr {records records' : List ResultRecord}
    (h : ∀ i, (∃ r ∈ records, r.identity = i) ↔ ∃ r ∈ records', r.identity = i) :
    identities records = identities records' := by
  rw [identities_eq, identities_eq]
  refine Distinct.distinct_congr isOrder_identity fun i => ?_
  rw [List.mem_map, List.mem_map]
  exact h i

/-- Their list depends only on which they are. -/
theorem expected_congr {options : RepeatOptions} {records records' : List ResultRecord}
    (h : ∀ b, IsExpected options records b ↔ IsExpected options records' b) :
    expected options records = expected options records' := by
  have hmem : ∀ b, b ∈ expected options records ↔ b ∈ expected options records' := fun b =>
    mem_expected.trans ((h b).trans mem_expected.symm)
  unfold expected at hmem ⊢
  rw [ascendingIds_eq, ascendingIds_eq]
  refine Distinct.distinct_congr Distinct.isOrder_int fun b => ?_
  rw [← mem_ascendingIds, hmem b, mem_ascendingIds]

theorem mem_rows {records : List ResultRecord} {i : TestIdentity} {r : ResultRecord} :
    r ∈ rows records i ↔ r ∈ records ∧ r.identity = i := by
  unfold rows
  rw [List.mem_filter, decide_eq_true_iff]

theorem countP_rows (records : List ResultRecord) (i : TestIdentity) (b : Int) :
    (rows records i).countP (·.browserId = b) = runs records i b := by
  unfold rows runs
  rw [List.countP_filter]
  apply List.countP_congr
  intro r _
  simp [and_comm]

theorem mem_missing {options : RepeatOptions} {records : List ResultRecord} {i : TestIdentity}
    {b : Int} :
    b ∈ missing options (expected options records) (rows records i) ↔
      IsExpected options records b ∧ runs records i b < options.policy.requiredRuns := by
  unfold missing
  rw [List.mem_filter, mem_expected, decide_eq_true_iff, countP_rows]

/-! ## Verdicts -/

/-- The verdict on the records of an identity. -/
def verdictOn (options : RepeatOptions) (records : List ResultRecord) (i : TestIdentity) : Verdict :=
  judge options (expected options records) (rows records i)

theorem verdicts_eq (options : RepeatOptions) (records : List ResultRecord) :
    verdicts options records =
      (identities records).map fun i => (i, verdictOn options records i) := rfl

/-- An identity is complete if no browser is missing. -/
theorem verdictOn_of_complete {options : RepeatOptions} {records : List ResultRecord}
    {i : TestIdentity} (h : ∀ b, ¬ IsMissing options records i b) :
    verdictOn options records i = .complete := by
  unfold verdictOn
  cases hrows : rows records i with
  | nil =>
    unfold judge
    cases missing options (expected options records) [] with
    | nil => rfl
    | cons b rest => rfl
  | cons row others =>
    have hnone : missing options (expected options records) (row :: others) = [] := by
      rw [← hrows, List.eq_nil_iff_forall_not_mem]
      intro b hb
      have hrow : row ∈ rows records i := by
        rw [hrows]
        exact List.mem_cons_self
      obtain ⟨hexpected, hshort⟩ := mem_missing.1 hb
      exact h b ⟨⟨row, mem_rows.1 hrow⟩, hexpected, hshort⟩
    unfold judge
    rw [hnone]

/-- With a missing browser the verdict is that on the visit of the first record. -/
theorem verdictOn_of_missing {options : RepeatOptions} {records : List ResultRecord}
    {i : TestIdentity} {b : Int} (h : IsMissing options records i b) :
    ∃ row others, rows records i = row :: others ∧ verdictOn options records i =
      match representative options row others with
      | .ok entry => .again entry (missing options (expected options records) (rows records i))
      | .error reason => .ambiguous reason := by
  obtain ⟨r, hr⟩ := h.seen
  obtain ⟨row, others, hrows⟩ := List.exists_cons_of_ne_nil (List.ne_nil_of_mem (mem_rows.2 hr))
  refine ⟨row, others, hrows, ?_⟩
  have hmem := mem_missing.2 ⟨h.expected, h.short⟩
  unfold verdictOn judge
  cases hmissing : missing options (expected options records) (rows records i) with
  | nil =>
    rw [hmissing] at hmem
    exact absurd hmem List.not_mem_nil
  | cons c rest =>
    generalize rows records i = rs at hrows ⊢
    subst hrows
    rfl

/-- An ambiguous identity is told so, with a reason that holds of its records. -/
theorem verdictOn_of_ambiguous {options : RepeatOptions} {records : List ResultRecord}
    {i : TestIdentity} {b : Int} (h : IsMissing options records i b)
    (hambiguous : IsAmbiguous options (rows records i)) :
    ∃ reason, verdictOn options records i = .ambiguous reason ∧
      Explains options (rows records i) reason := by
  obtain ⟨row, others, hrows, hverdict⟩ := verdictOn_of_missing h
  rw [hverdict]
  cases hrep : representative options row others with
  | error reason =>
    refine ⟨reason, rfl, ?_⟩
    rw [hrows]
    exact explains_of_representative hrep
  | ok e =>
    obtain ⟨first, hread, hall, -⟩ := representative_ok_iff.1 hrep
    rw [hrows] at hambiguous
    exact absurd hambiguous (not_isAmbiguous_iff.2 ⟨first, hread, hall⟩)

/-- Any other identity is repeated, from its first record. -/
theorem verdictOn_of_unambiguous {options : RepeatOptions} {records : List ResultRecord}
    {i : TestIdentity} {b : Int} (h : IsMissing options records i b)
    (hunambiguous : ¬ IsAmbiguous options (rows records i)) :
    ∃ row first, (rows records i).head? = some row ∧
      TestPlanEntry.parse row.fullUrl = .ok first ∧
      verdictOn options records i = .again (extended options (target options row first))
        (missing options (expected options records) (rows records i)) := by
  obtain ⟨row, others, hrows, hverdict⟩ := verdictOn_of_missing h
  have hagree := hunambiguous
  rw [hrows] at hagree
  obtain ⟨first, hread, hall⟩ := not_isAmbiguous_iff.1 hagree
  refine ⟨row, first, by rw [hrows]; rfl, hread, ?_⟩
  rw [hverdict, representative_ok_iff.2 ⟨first, hread, hall, rfl⟩]

theorem target_timeout (options : RepeatOptions) (row : ResultRecord) (entry : TestPlanEntry) :
    (target options row entry).timeout = entry.timeout := by
  unfold target
  split
  · rfl
  · rfl

/-- A verdict has a browser repeat a URL exactly when the browser has to. -/
theorem retryUrl?_eq_some_iff {options : RepeatOptions} {records : List ResultRecord}
    {i : TestIdentity} {b : Int} {url : String} :
    retryUrl? b (verdictOn options records i) = some url ↔ Repeats options records i b url := by
  by_cases hsome : ∃ c, IsMissing options records i c
  · obtain ⟨c, hc⟩ := hsome
    by_cases hambiguous : IsAmbiguous options (rows records i)
    · obtain ⟨reason, hverdict, -⟩ := verdictOn_of_ambiguous hc hambiguous
      rw [hverdict]
      exact ⟨fun h => (by cases h), fun h => absurd hambiguous h.unambiguous⟩
    · obtain ⟨row, first, hhead, hread, hverdict⟩ := verdictOn_of_unambiguous hc hambiguous
      have hlacking : (missing options (expected options records) (rows records i)).contains b =
          true ↔ IsMissing options records i b := by
        rw [List.contains_iff_mem, mem_missing]
        exact ⟨fun h => ⟨hc.seen, h.1, h.2⟩, fun h => ⟨h.expected, h.short⟩⟩
      have hretry : TestPlanEntry.url { extended options (target options row first) with
          browserId := b } = url ↔ IsRetry options records i b url := by
        unfold extended maxTimeout
        rw [target_timeout]
        constructor
        · exact fun h => ⟨row, first, hhead, hread, h.symm⟩
        · rintro ⟨row', first', hhead', hread', rfl⟩
          obtain rfl : row = row' := Option.some.inj (hhead.symm.trans hhead')
          obtain rfl : first = first' := Except.ok.inj (hread.symm.trans hread')
          rfl
      rw [hverdict, retryUrl?]
      by_cases hb : IsMissing options records i b
      · rw [if_pos (hlacking.2 hb), Option.some.injEq, hretry]
        exact ⟨fun h => ⟨hb, hambiguous, h⟩, fun h => h.retry⟩
      · rw [if_neg fun h => hb (hlacking.1 h)]
        exact ⟨fun h => (by cases h), fun h => absurd h.missing hb⟩
  · rw [verdictOn_of_complete fun c hc => hsome ⟨c, hc⟩]
    exact ⟨fun h => (by cases h), fun h => absurd ⟨b, h.missing⟩ hsome⟩

/-! ## The outcome -/

/-- The list of a browser has its URLs. One that is listed later on is found there, as the key of an
earlier one differs. -/
theorem mem_lookup_urls {f : Int → List String} {bs : List Int} {b : Int} {url : String} :
    url ∈ ((bs.filterMap fun c =>
      match f c with
      | [] => none
      | urls => some (c, Text.ascending urls)).lookup b).getD [] ↔ b ∈ bs ∧ url ∈ f b := by
  induction bs with
  | nil => simp
  | cons c bs ih =>
    by_cases hbc : b = c
    · subst hbc
      cases hf : f b with
      | nil =>
        rw [List.filterMap_cons_none (by rw [hf]), ih, hf]
        simp
      | cons first rest =>
        rw [List.filterMap_cons_some (b := (b, Text.ascending (first :: rest))) (by rw [hf]),
          List.lookup_cons_self, Option.getD_some, Text.mem_ascending]
        simp
    · have hmem : b ∈ c :: bs ↔ b ∈ bs := by
        rw [List.mem_cons]
        exact or_iff_right hbc
      rw [hmem, ← ih]
      cases hf : f c with
      | nil => rw [List.filterMap_cons_none (by rw [hf])]
      | cons first rest =>
        rw [List.filterMap_cons_some (b := (c, Text.ascending (first :: rest))) (by rw [hf]),
          List.lookup_cons, beq_eq_false_iff_ne.2 hbc]

/-- The URLs by which a browser repeats the tests of all identities. -/
def retries (options : RepeatOptions) (records : List ResultRecord) (b : Int) : List String :=
  (verdicts options records).filterMap fun v => retryUrl? b v.2

/-- The URLs of a browser are those that it repeats for some identity. -/
theorem mem_retries {options : RepeatOptions} {records : List ResultRecord} {b : Int}
    {url : String} :
    url ∈ retries options records b ↔ ∃ i, Repeats options records i b url := by
  unfold retries
  rw [verdicts_eq, List.filterMap_map, List.mem_filterMap]
  constructor
  · rintro ⟨i, -, h⟩
    exact ⟨i, retryUrl?_eq_some_iff.1 h⟩
  · rintro ⟨i, h⟩
    exact ⟨i, mem_identities.2 h.missing.seen, retryUrl?_eq_some_iff.2 h⟩

/-- A browser has to repeat exactly the retries of its missing pairs that agree. -/
theorem mem_urlsOf {options : RepeatOptions} {records : List ResultRecord} {b : Int}
    {url : String} :
    url ∈ (reconcile options records).urlsOf b ↔ ∃ i, Repeats options records i b url := by
  have hlookup : url ∈ (reconcile options records).urlsOf b ↔
      b ∈ expected options records ∧ url ∈ retries options records b := mem_lookup_urls
  rw [hlookup, mem_retries]
  constructor
  · exact fun h => h.2
  · rintro ⟨i, h⟩
    exact ⟨mem_expected.2 h.missing.expected, i, h⟩

/-- Each list is that of a browser, ascending and not empty. -/
theorem mem_urls {options : RepeatOptions} {records : List ResultRecord} {p : Int × List String}
    (h : p ∈ (reconcile options records).urls) :
    p.2 = Text.ascending (retries options records p.1) ∧ p.2 ≠ [] := by
  obtain ⟨b, -, h⟩ := List.mem_filterMap.1 h
  split at h
  · cases h
  · next hne =>
    cases h
    obtain ⟨url, hurl⟩ := List.exists_mem_of_ne_nil _ hne
    exact ⟨rfl, List.ne_nil_of_mem (Text.mem_ascending.2 hurl)⟩

/-- Where nothing is repeated there are no lists. -/
theorem urls_eq_nil {options : RepeatOptions} {records : List ResultRecord}
    (h : ∀ i b url, ¬ Repeats options records i b url) : (reconcile options records).urls = [] := by
  rw [List.eq_nil_iff_forall_not_mem]
  intro p hp
  obtain ⟨hurls, hne⟩ := mem_urls hp
  obtain ⟨url, hurl⟩ := List.exists_mem_of_ne_nil _ hne
  rw [hurls, Text.mem_ascending, mem_retries] at hurl
  obtain ⟨i, hi⟩ := hurl
  exact h i p.1 url hi

/-- Every browser is listed once, with at least one URL and none of them twice. -/
structure IsListed (urls : List (Int × List String)) : Prop where
  browsers : (urls.map (·.1)).Nodup
  nonempty : ∀ p ∈ urls, p.2 ≠ []
  distinct : ∀ p ∈ urls, p.2.Nodup

/-- Each browser has one list. -/
theorem nodup_map_filterMap {f : Int → List String} {bs : List Int} (hbs : bs.Nodup) :
    ((bs.filterMap fun b =>
      match f b with
      | [] => none
      | urls => some (b, Text.ascending urls)).map (·.1)).Nodup := by
  rw [List.map_filterMap]
  have hkey : ∀ b c, Option.map (fun p : Int × List String => p.1) (match f b with
      | [] => none
      | urls => some (b, Text.ascending urls)) = some c → c = b := by
    intro b c h
    split at h
    · cases h
    · exact (Option.some.inj h).symm
  apply hbs.filterMap
  intro b c d hb hc
  exact (hkey b d hb).symm.trans (hkey c d hc)

theorem isListed_reconcile (options : RepeatOptions) (records : List ResultRecord) :
    IsListed (reconcile options records).urls := by
  refine ⟨nodup_map_filterMap (nodup_ascendingIds _), fun p hp => (mem_urls hp).2, fun p hp => ?_⟩
  rw [(mem_urls hp).1, Text.ascending_eq]
  exact Distinct.nodup_distinct Distinct.isOrder_string _

theorem warnings_eq (options : RepeatOptions) (records : List ResultRecord) :
    (reconcile options records).warnings =
      (identities records).filterMap fun i => warning? (i, verdictOn options records i) := by
  show (verdicts options records).filterMap warning? = _
  rw [verdicts_eq, List.filterMap_map]
  rfl

/-- There is no warning of an identity that is not ambiguous. -/
theorem warning?_of_unambiguous {options : RepeatOptions} {records : List ResultRecord}
    {i : TestIdentity} (hunambiguous : ¬ IsAmbiguous options (rows records i)) :
    warning? (i, verdictOn options records i) = none := by
  by_cases hmissing : ∃ b, IsMissing options records i b
  · obtain ⟨b, hb⟩ := hmissing
    obtain ⟨row, first, -, -, hverdict⟩ := verdictOn_of_unambiguous hb hunambiguous
    rw [hverdict]
    rfl
  · rw [verdictOn_of_complete fun b hb => hmissing ⟨b, hb⟩]
    rfl

/-- Without an ambiguous identity there is no warning. -/
theorem warnings_eq_nil {options : RepeatOptions} {records : List ResultRecord}
    (h : ∀ i, ¬ IsAmbiguous options (rows records i)) : (reconcile options records).warnings = [] := by
  rw [warnings_eq, List.filterMap_eq_nil_iff]
  exact fun i _ => warning?_of_unambiguous (h i)

/-! ## Who is warned about -/

/-- The identities that are left out with a warning, ascending. -/
def excluded (options : RepeatOptions) (records : List ResultRecord) : List TestIdentity :=
  (identities records).filter fun i => (warning? (i, verdictOn options records i)).isSome

/-- A warning is about an identity: it has the text of the identity, and it gives a reason that
holds of its records. -/
structure IsWarning (options : RepeatOptions) (records : List ResultRecord) (i : TestIdentity)
    (w : RepeatWarning) : Prop where
  identity : w.identity = i.text
  reason : Explains options (rows records i) w.ambiguity

theorem warning?_of_ambiguous {options : RepeatOptions} {records : List ResultRecord}
    {i : TestIdentity} {b : Int} (h : IsMissing options records i b)
    (hambiguous : IsAmbiguous options (rows records i)) :
    ∃ w, warning? (i, verdictOn options records i) = some w ∧ IsWarning options records i w := by
  obtain ⟨reason, hverdict, hexplains⟩ := verdictOn_of_ambiguous h hambiguous
  rw [hverdict]
  exact ⟨⟨i.text, reason⟩, rfl, rfl, hexplains⟩

/-- An identity is warned about for its missing browsers and its ambiguous records. -/
theorem of_warning?_eq_some {options : RepeatOptions} {records : List ResultRecord}
    {i : TestIdentity} {w : RepeatWarning}
    (hw : warning? (i, verdictOn options records i) = some w) :
    (∃ b, IsMissing options records i b) ∧ IsAmbiguous options (rows records i) := by
  have hmissing : ∃ b, IsMissing options records i b := by
    by_contra hnone
    rw [verdictOn_of_complete fun b hb => hnone ⟨b, hb⟩] at hw
    cases hw
  refine ⟨hmissing, ?_⟩
  by_contra hunambiguous
  rw [warning?_of_unambiguous hunambiguous] at hw
  cases hw

/-- Exactly the identities with a missing browser and ambiguous records are left out. -/
theorem mem_excluded {options : RepeatOptions} {records : List ResultRecord} {i : TestIdentity} :
    i ∈ excluded options records ↔
      (∃ b, IsMissing options records i b) ∧ IsAmbiguous options (rows records i) := by
  unfold excluded
  rw [List.mem_filter, Option.isSome_iff_exists]
  constructor
  · rintro ⟨-, w, hw⟩
    exact of_warning?_eq_some hw
  · rintro ⟨⟨b, hb⟩, hambiguous⟩
    obtain ⟨w, hw, -⟩ := warning?_of_ambiguous hb hambiguous
    exact ⟨mem_identities.2 hb.seen, w, hw⟩

/-- The identities that are left out are ascending, so each of them is listed once. -/
theorem pairwise_excluded (options : RepeatOptions) (records : List ResultRecord) :
    (excluded options records).Pairwise fun i j => i.compare j = .lt := by
  unfold excluded
  rw [identities_eq]
  refine ((Distinct.pairwise_distinct isOrder_identity _).filter _).imp fun {i j} h => ?_
  obtain ⟨hle, hne⟩ := h
  cases hcompare : i.compare j with
  | lt => rfl
  | gt => simp [hcompare] at hle
  | eq => exact absurd (eq_of_compare_eq hcompare) hne

/-- What a function selects stands in the order of what it gives. -/
theorem forall₂_filterMap {α β : Type} {f : α → Option β} {P : α → β → Prop} (xs : List α)
    (h : ∀ a b, f a = some b → P a b) :
    List.Forall₂ P (xs.filter fun a => (f a).isSome) (xs.filterMap f) := by
  induction xs with
  | nil => exact .nil
  | cons a xs ih =>
    cases hf : f a with
    | none => rwa [List.filterMap_cons_none hf, List.filter_cons_of_neg (by simp [hf])]
    | some b =>
      rw [List.filterMap_cons_some hf, List.filter_cons_of_pos (by simp [hf])]
      exact .cons (h a b hf) ih

/-- The warnings are about the identities that are left out, one for each, in their order. -/
theorem forall₂_excluded (options : RepeatOptions) (records : List ResultRecord) :
    List.Forall₂ (IsWarning options records) (excluded options records)
      (reconcile options records).warnings := by
  rw [warnings_eq]
  refine forall₂_filterMap (identities records) fun i w hw => ?_
  obtain ⟨⟨b, hb⟩, hambiguous⟩ := of_warning?_eq_some hw
  obtain ⟨w', hw', hwarning⟩ := warning?_of_ambiguous hb hambiguous
  obtain rfl : w = w' := Option.some.inj (hw.symm.trans hw')
  exact hwarning

/-! ## What is repeated and counted -/

/-- The retry of a missing pair whose records agree can be written. -/
theorem exists_retry {options : RepeatOptions} {records : List ResultRecord} {i : TestIdentity}
    {b : Int} (h : IsMissing options records i b)
    (hunambiguous : ¬ IsAmbiguous options (rows records i)) :
    ∃ url, IsRetry options records i b url := by
  obtain ⟨row, first, hhead, hread, -⟩ := verdictOn_of_unambiguous h hunambiguous
  exact ⟨_, row, first, hhead, hread, rfl⟩

/-- A verdict repeats what there is a URL for. -/
theorem repeating_eq (options : RepeatOptions) (records : List ResultRecord) (i : TestIdentity)
    (b : Int) :
    b ∈ repeating (verdictOn options records i) ↔ ∃ url, Repeats options records i b url := by
  have hretry : ∀ v : Verdict, b ∈ repeating v ↔ ∃ url, retryUrl? b v = some url := by
    intro v
    cases v with
    | complete => simp [repeating, retryUrl?]
    | ambiguous reason => simp [repeating, retryUrl?]
    | again entry browserIds => simp [repeating, retryUrl?]
  rw [hretry]
  exact exists_congr fun url => retryUrl?_eq_some_iff

/-- No browser repeats an identity twice, as the missing browsers are some of the expected ones,
which are distinct. -/
theorem nodup_repeating (options : RepeatOptions) (records : List ResultRecord) (i : TestIdentity) :
    (repeating (verdictOn options records i)).Nodup := by
  have hmissing : (missing options (expected options records) (rows records i)).Nodup :=
    List.Nodup.filter _ (nodup_ascendingIds _)
  by_cases h : ∃ b, IsMissing options records i b
  · obtain ⟨b, hb⟩ := h
    by_cases hambiguous : IsAmbiguous options (rows records i)
    · obtain ⟨reason, hverdict, -⟩ := verdictOn_of_ambiguous hb hambiguous
      rw [hverdict]
      exact List.nodup_nil
    · obtain ⟨row, first, -, -, hverdict⟩ := verdictOn_of_unambiguous hb hambiguous
      rw [hverdict]
      exact hmissing
  · rw [verdictOn_of_complete fun b hb => h ⟨b, hb⟩]
    exact List.nodup_nil

/-- The outcome counts the identities seen and the pairs repeated, each once. -/
structure Counts (options : RepeatOptions) (records : List ResultRecord) (o : RepeatOutcome) :
    Prop where
  identities : ∃ is : List TestIdentity, is.Nodup ∧ o.identities = is.length ∧
    ∀ i, i ∈ is ↔ ∃ r ∈ records, r.identity = i
  incomplete : ∃ pairs : List (TestIdentity × Int), pairs.Nodup ∧ o.incomplete = pairs.length ∧
    ∀ i b, (i, b) ∈ pairs ↔ ∃ url, Repeats options records i b url

/-- The numbers of the outcome count identities and pairs. Pairs of one identity differ in their
browsers, others in their identities. -/
theorem counts_reconcile (options : RepeatOptions) (records : List ResultRecord) :
    Counts options records (reconcile options records) := by
  refine ⟨⟨identities records, nodup_identities records, ?_, fun i => mem_identities⟩, ?_⟩
  · exact List.length_map _
  · let pairsOf := fun i => (repeating (verdictOn options records i)).map fun b => (i, b)
    refine ⟨(identities records).flatMap pairsOf, ?_, ?_, ?_⟩
    · rw [List.nodup_flatMap]
      refine ⟨fun i _ => (nodup_repeating options records i).map (Prod.mk_right_injective i), ?_⟩
      apply (nodup_identities records).imp
      intro i j hij p hpi hpj
      obtain ⟨b, -, rfl⟩ := List.mem_map.1 hpi
      obtain ⟨c, -, heq⟩ := List.mem_map.1 hpj
      exact hij (congrArg Prod.fst heq).symm
    · show ((verdicts options records).flatMap fun v => repeating v.2).length = _
      rw [verdicts_eq, List.flatMap_map, List.length_flatMap, List.length_flatMap]
      simp only [pairsOf, List.length_map]
    · intro i b
      rw [List.mem_flatMap, ← repeating_eq]
      constructor
      · rintro ⟨j, -, hj⟩
        obtain ⟨c, hc, heq⟩ := List.mem_map.1 hj
        cases heq
        exact hc
      · intro hb
        obtain ⟨url, hurl⟩ := (repeating_eq options records i b).1 hb
        exact ⟨i, mem_identities.2 hurl.missing.seen, List.mem_map.2 ⟨b, hb, rfl⟩⟩

/-- An identity is left out: there is one warning about it, and every URL to repeat is the retry of
another identity. -/
structure LeftOut (options : RepeatOptions) (records : List ResultRecord) (i : TestIdentity) :
    Prop where
  warned : (excluded options records).count i = 1
  silent : ∀ b url, url ∈ (reconcile options records).urlsOf b →
    ∃ j, j ≠ i ∧ Repeats options records j b url

/-- An identity is repeated by each of its missing browsers, and there is no warning about it. -/
structure Repeated (options : RepeatOptions) (records : List ResultRecord) (i : TestIdentity) :
    Prop where
  unwarned : i ∉ excluded options records
  retried : ∀ b, IsMissing options records i b →
    ∃ url, IsRetry options records i b url ∧ url ∈ (reconcile options records).urlsOf b

/-- An ambiguous identity that is not complete is left out. -/
theorem leftOut_of_ambiguous {options : RepeatOptions} {records : List ResultRecord}
    {i : TestIdentity} {b : Int} (h : IsMissing options records i b)
    (hambiguous : IsAmbiguous options (rows records i)) : LeftOut options records i := by
  have hnodup : (excluded options records).Nodup := (nodup_identities records).filter _
  refine ⟨List.count_eq_one_of_mem hnodup (mem_excluded.2 ⟨⟨b, h⟩, hambiguous⟩), fun c url hurl => ?_⟩
  obtain ⟨j, hj⟩ := mem_urlsOf.1 hurl
  refine ⟨j, ?_, hj⟩
  rintro rfl
  exact hj.unambiguous hambiguous

theorem repeated_of_unambiguous {options : RepeatOptions} {records : List ResultRecord}
    {i : TestIdentity} (hunambiguous : ¬ IsAmbiguous options (rows records i)) :
    Repeated options records i := by
  refine ⟨fun hmem => hunambiguous (mem_excluded.1 hmem).2, fun b hb => ?_⟩
  obtain ⟨url, hurl⟩ := exists_retry hb hunambiguous
  exact ⟨url, hurl, mem_urlsOf.2 ⟨i, hb, hunambiguous, hurl⟩⟩

end Repeat

end ProbeCampaign
