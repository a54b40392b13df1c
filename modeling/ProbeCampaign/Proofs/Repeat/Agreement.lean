import Mathlib.Tactic
import ProbeCampaign.Proofs.Distinct
import ProbeCampaign.Proofs.Fallible
import ProbeCampaign.Proofs.TestUrl.RoundTrip
import ProbeCampaign.Repeat

/-!
# When the records of an identity agree

The records of one identity stand for one test page unless they are ambiguous, for one of four
reasons (`IsAmbiguous`). They are not ambiguous exactly when all of them agree with the first
(`not_isAmbiguous_iff`), and exactly then there is a visit that repeats their test
(`representative_ok_iff`). Agreement is a statement about one record and the first, so records that
agree may be added at the end.
-/

namespace ProbeCampaign.Repeat

/-- The visit that a record reports, in the form in which it is repeated: for the response of the
record alone unless ranges are kept. -/
def target (options : RepeatOptions) (row : ResultRecord) (entry : TestPlanEntry) :
    TestPlanEntry :=
  if options.policy.keepRanges then entry
  else { entry with ids := ⟨row.responseId, row.responseId⟩ }

/-- The reasons for which records of one identity do not give one test page. -/
inductive IsAmbiguous (options : RepeatOptions) (rows : List ResultRecord) : Prop
  | unparsable {r : ResultRecord} {reason : Failure} : r ∈ rows →
      TestPlanEntry.parse r.fullUrl = .error reason → IsAmbiguous options rows
  | groupedPopups {r : ResultRecord} {e : TestPlanEntry} : r ∈ rows →
      TestPlanEntry.parse r.fullUrl = .ok e → options.policy.keepRanges = false →
      e.popups ≠ none → e.ids.first < e.ids.last → IsAmbiguous options rows
  | popups {r s : ResultRecord} {e f : TestPlanEntry} : r ∈ rows → s ∈ rows →
      TestPlanEntry.parse r.fullUrl = .ok e → TestPlanEntry.parse s.fullUrl = .ok f →
      e.popups ≠ f.popups → IsAmbiguous options rows
  | pages {r s : ResultRecord} {e f : TestPlanEntry} : r ∈ rows → s ∈ rows →
      TestPlanEntry.parse r.fullUrl = .ok e → TestPlanEntry.parse s.fullUrl = .ok f →
      (target options r e).cleanUrl ≠ (target options s f).cleanUrl → IsAmbiguous options rows

/-- What a reason that is given for leaving out records of one identity says of them. Different
pages are given by all of their clean URLs, ascending. -/
inductive Explains (options : RepeatOptions) (rows : List ResultRecord) : Ambiguity → Prop
  | unparsable {r : ResultRecord} {f : Failure} : r ∈ rows →
      TestPlanEntry.parse r.fullUrl = .error f →
      Explains options rows (.unparsableUrl r.fullUrl f.message)
  | groupedPopups {r : ResultRecord} {e : TestPlanEntry} : r ∈ rows →
      TestPlanEntry.parse r.fullUrl = .ok e → options.policy.keepRanges = false →
      e.popups ≠ none → e.ids.first < e.ids.last →
      Explains options rows (.popupsOnGroupedRange r.fullUrl)
  | popups {r s : ResultRecord} {e f : TestPlanEntry} : r ∈ rows → s ∈ rows →
      TestPlanEntry.parse r.fullUrl = .ok e → TestPlanEntry.parse s.fullUrl = .ok f →
      e.popups ≠ f.popups → Explains options rows .inconsistentPopups
  | pages {urls : List String} : urls.Pairwise (· < ·) → 1 < urls.length →
      (∀ url, url ∈ urls ↔ ∃ r ∈ rows, ∃ e, TestPlanEntry.parse r.fullUrl = .ok e ∧
        (target options r e).cleanUrl = url) →
      Explains options rows (.conflictingUrls urls)

/-- A record reports a visit that can be repeated, of the test of a given visit. -/
structure Agrees (options : RepeatOptions) (goal : TestPlanEntry) (row : ResultRecord)
    (entry : TestPlanEntry) : Prop where
  read : TestPlanEntry.parse row.fullUrl = .ok entry
  single : options.policy.keepRanges = false → entry.popups ≠ none →
    entry.ids.first = entry.ids.last
  popups : entry.popups = goal.popups
  page : (target options row entry).cleanUrl = goal.cleanUrl

/-! ## One record -/

theorem target_popups (options : RepeatOptions) (row : ResultRecord) (entry : TestPlanEntry) :
    (target options row entry).popups = entry.popups := by
  unfold target
  split
  · rfl
  · rfl

theorem target_eq_of_narrowing {options : RepeatOptions} (hkeep : options.policy.keepRanges = false)
    (row : ResultRecord) (entry : TestPlanEntry) :
    target options row entry = { entry with ids := ⟨row.responseId, row.responseId⟩ } := by
  unfold target
  rw [if_neg (by simp [hkeep])]

/-- A record is narrowed to its goal if its URL is read, unless it is a range with popups that would
have to be narrowed. -/
theorem narrowed_ok_iff {options : RepeatOptions} {row : ResultRecord} {goal : TestPlanEntry} :
    narrowed options row = .ok goal ↔
      ∃ entry, TestPlanEntry.parse row.fullUrl = .ok entry ∧
        (options.policy.keepRanges = false → entry.popups ≠ none →
          entry.ids.first = entry.ids.last) ∧
        goal = target options row entry := by
  unfold narrowed
  rw [Fallible.bind_ok_iff]
  apply exists_congr
  intro entry
  rw [Fallible.mapError_ok_iff]
  apply and_congr_right
  intro _
  unfold target
  by_cases hkeep : options.policy.keepRanges = true
  · rw [if_pos hkeep, if_pos hkeep]
    constructor
    · intro h
      cases h
      exact ⟨fun hno => absurd hkeep (by simp [hno]), rfl⟩
    · rintro ⟨-, rfl⟩
      rfl
  · rw [if_neg hkeep, if_neg hkeep]
    by_cases hgrouped : entry.popups.isSome ∧ entry.ids.first ≠ entry.ids.last
    · rw [if_pos hgrouped]
      constructor
      · intro h
        cases h
      · rintro ⟨hsingle, -⟩
        have hsome : entry.popups ≠ none := Option.isSome_iff_ne_none.1 hgrouped.1
        exact absurd (hsingle (by simpa using hkeep) hsome) hgrouped.2
    · rw [if_neg hgrouped]
      constructor
      · intro h
        cases h
        refine ⟨fun _ hsome => ?_, rfl⟩
        by_contra hne
        exact hgrouped ⟨Option.isSome_iff_ne_none.2 hsome, hne⟩
      · rintro ⟨-, rfl⟩
        rfl

/-! ## All records -/

/-- The three outcomes for some visits: different popups are found first, then different pages. The
distinct clean URLs are one exactly when each is that of the first visit. -/
theorem agreed_cases (options : RepeatOptions) (first : TestPlanEntry)
    (others : List TestPlanEntry) :
    ((∃ f ∈ others, f.popups ≠ first.popups) ∧
        agreed options first others = .error .inconsistentPopups) ∨
      ((∀ f ∈ others, f.popups = first.popups ∧ f.cleanUrl = first.cleanUrl) ∧
        agreed options first others = .ok (extended options first)) ∨
      ((∃ f ∈ others, f.cleanUrl ≠ first.cleanUrl) ∧
        agreed options first others =
          .error (.conflictingUrls (Text.ascending ((first :: others).map (·.cleanUrl))))) := by
  unfold agreed
  by_cases hpopups : ∃ f ∈ others, f.popups ≠ first.popups
  · exact .inl ⟨hpopups, if_pos (by simpa using hpopups)⟩
  · rw [if_neg (by simpa using hpopups)]
    push Not at hpopups
    right
    by_cases hpages : ∃ f ∈ others, f.cleanUrl ≠ first.cleanUrl
    · obtain ⟨f, hf, hne⟩ := hpages
      have hlen : 1 < (Text.ascending ((first :: others).map (·.cleanUrl))).length :=
        Text.one_lt_length_ascending (List.mem_map_of_mem (List.mem_cons_of_mem first hf))
          (List.mem_map_of_mem List.mem_cons_self) hne
      refine .inr ⟨⟨f, hf, hne⟩, ?_⟩
      split
      · next hone =>
        rw [hone] at hlen
        exact absurd hlen (by simp)
      · rfl
    · push Not at hpages
      have hone : Text.ascending ((first :: others).map (·.cleanUrl)) = [first.cleanUrl] := by
        rw [Text.ascending_eq, List.map_cons,
          Distinct.distinct_eq_singleton_iff Distinct.isOrder_string, List.forall_mem_map]
        exact hpages
      rw [hone]
      exact .inl ⟨fun f hf => ⟨hpopups f hf, hpages f hf⟩, rfl⟩

/-- Records agree on a goal if all of them have the popups and the page of the first. -/
theorem agreed_ok_iff {options : RepeatOptions} {first e : TestPlanEntry}
    {others : List TestPlanEntry} :
    agreed options first others = .ok e ↔
      (∀ f ∈ others, f.popups = first.popups ∧ f.cleanUrl = first.cleanUrl) ∧
        e = extended options first := by
  rcases agreed_cases options first others with
    ⟨⟨f, hf, hne⟩, heq⟩ | ⟨hall, heq⟩ | ⟨⟨f, hf, hne⟩, heq⟩
  · rw [heq]
    constructor
    · intro h
      cases h
    · rintro ⟨hall, -⟩
      exact absurd (hall f hf).1 hne
  · rw [heq, Except.ok.injEq, eq_comm]
    exact ⟨fun h => ⟨hall, h⟩, fun h => h.2⟩
  · rw [heq]
    constructor
    · intro h
      cases h
    · rintro ⟨hall, -⟩
      exact absurd (hall f hf).2 hne

/-- What cannot be narrowed explains itself. -/
theorem explains_of_narrowed {options : RepeatOptions} {rows : List ResultRecord}
    {row : ResultRecord} {reason : Ambiguity} (hrow : row ∈ rows)
    (h : narrowed options row = .error reason) : Explains options rows reason := by
  unfold narrowed at h
  rcases Fallible.bind_error_iff.1 h with hparse | ⟨entry, hparse, h⟩
  · obtain ⟨f, hf, rfl⟩ := Fallible.mapError_error_iff.1 hparse
    exact .unparsable hrow hf
  · rw [Fallible.mapError_ok_iff] at hparse
    have hle : entry.ids.first ≤ entry.ids.last := TestPlanEntry.ordered_of_parse hparse
    split at h
    · cases h
    · next hkeep =>
      split at h
      · next hgrouped =>
        cases h
        exact .groupedPopups hrow hparse (by simpa using hkeep)
          (Option.isSome_iff_ne_none.1 hgrouped.1) (lt_of_le_of_ne hle hgrouped.2)
      · cases h

/-- The pages of the visits that some records are narrowed to are those of the records. -/
theorem mem_pages_iff {options : RepeatOptions} {rows : List ResultRecord}
    {visits : List TestPlanEntry} (h : rows.mapM (narrowed options) = .ok visits) {url : String} :
    url ∈ visits.map (·.cleanUrl) ↔
      ∃ r ∈ rows, ∃ e, TestPlanEntry.parse r.fullUrl = .ok e ∧
        (target options r e).cleanUrl = url := by
  rw [List.mem_map]
  constructor
  · rintro ⟨goal, hgoal, rfl⟩
    obtain ⟨r, hr, hgoal⟩ := (Fallible.mem_of_mapM h goal).1 hgoal
    obtain ⟨e, hread, -, rfl⟩ := narrowed_ok_iff.1 hgoal
    exact ⟨r, hr, e, hread, rfl⟩
  · rintro ⟨r, hr, e, hread, rfl⟩
    have hall : ∀ r ∈ rows, ∃ goal, narrowed options r = .ok goal ∧ True :=
      Fallible.exists_mapM_ok_iff.1 ⟨visits, h, fun _ _ => trivial⟩
    obtain ⟨goal, hgoal, -⟩ := hall r hr
    obtain ⟨e', hread', -, rfl⟩ := narrowed_ok_iff.1 hgoal
    obtain rfl : e' = e := Except.ok.inj (hread'.symm.trans hread)
    exact ⟨_, (Fallible.mem_of_mapM h _).2 ⟨r, hr, hgoal⟩, rfl⟩

/-- The visits of records that do not agree have different popups or different pages. -/
theorem explains_of_agreed {options : RepeatOptions} {row : ResultRecord}
    {rows : List ResultRecord} {first : TestPlanEntry} {others : List TestPlanEntry}
    {reason : Ambiguity} (hfirst : narrowed options row = .ok first)
    (hothers : rows.mapM (narrowed options) = .ok others)
    (h : agreed options first others = .error reason) : Explains options (row :: rows) reason := by
  have hvisits : (row :: rows).mapM (narrowed options) = .ok (first :: others) := by
    rw [List.mapM_cons, hfirst, hothers]
    rfl
  rcases agreed_cases options first others with
    ⟨⟨goal, hgoal, hne⟩, heq⟩ | ⟨-, heq⟩ | ⟨⟨goal, hgoal, hne⟩, heq⟩
  · obtain rfl := Except.error.inj (heq.symm.trans h)
    obtain ⟨r, hr, hgoal⟩ := (Fallible.mem_of_mapM hothers goal).1 hgoal
    obtain ⟨f, hread, -, rfl⟩ := narrowed_ok_iff.1 hgoal
    obtain ⟨e, hread', -, rfl⟩ := narrowed_ok_iff.1 hfirst
    rw [target_popups, target_popups] at hne
    exact .popups (List.mem_cons_of_mem row hr) List.mem_cons_self hread hread' hne
  · cases heq.symm.trans h
  · obtain rfl := Except.error.inj (heq.symm.trans h)
    refine .pages (Text.pairwise_ascending _) ?_ fun url => ?_
    · exact Text.one_lt_length_ascending (List.mem_map_of_mem (List.mem_cons_of_mem first hgoal))
        (List.mem_map_of_mem List.mem_cons_self) hne
    · rw [Text.mem_ascending]
      exact mem_pages_iff hvisits

/-- A record agrees with a goal if it is narrowed to the same popups and page. -/
theorem exists_agrees_iff {options : RepeatOptions} {goal : TestPlanEntry} {row : ResultRecord} :
    (∃ f, Agrees options goal row f) ↔
      ∃ f, narrowed options row = .ok f ∧ f.popups = goal.popups ∧ f.cleanUrl = goal.cleanUrl := by
  constructor
  · rintro ⟨f, h⟩
    refine ⟨target options row f, narrowed_ok_iff.2 ⟨f, h.read, h.single, rfl⟩, ?_, h.page⟩
    rw [target_popups]
    exact h.popups
  · rintro ⟨goal', hnarrowed, hpopups, hpage⟩
    obtain ⟨f, hread, hsingle, rfl⟩ := narrowed_ok_iff.1 hnarrowed
    rw [target_popups] at hpopups
    exact ⟨f, hread, hsingle, hpopups, hpage⟩

/-- There is a visit that repeats the test of some records exactly when all agree with the first. -/
theorem representative_ok_iff {options : RepeatOptions} {row : ResultRecord}
    {rows : List ResultRecord} {e : TestPlanEntry} :
    representative options row rows = .ok e ↔
      ∃ first, TestPlanEntry.parse row.fullUrl = .ok first ∧
        (∀ r ∈ row :: rows, ∃ f, Agrees options (target options row first) r f) ∧
        e = extended options (target options row first) := by
  unfold representative
  rw [Fallible.bind_ok_iff]
  constructor
  · rintro ⟨goal, hgoal, h⟩
    obtain ⟨others, hothers, h⟩ := Fallible.bind_ok_iff.1 h
    obtain ⟨hall, rfl⟩ := agreed_ok_iff.1 h
    obtain ⟨first, hread, hsingle, rfl⟩ := narrowed_ok_iff.1 hgoal
    refine ⟨first, hread, List.forall_mem_cons.2 ⟨?_, fun r hr => ?_⟩, rfl⟩
    · exact ⟨first, hread, hsingle, (target_popups options row first).symm, rfl⟩
    · exact exists_agrees_iff.2 (Fallible.exists_mapM_ok_iff.1 ⟨others, hothers, hall⟩ r hr)
  · rintro ⟨first, hread, hall, rfl⟩
    obtain ⟨hfirst, hrest⟩ := List.forall_mem_cons.1 hall
    obtain ⟨f, hf⟩ := hfirst
    obtain rfl : f = first := Except.ok.inj (hf.read.symm.trans hread)
    obtain ⟨others, hothers, hsame⟩ :=
      Fallible.exists_mapM_ok_iff.2 fun r hr => exists_agrees_iff.1 (hrest r hr)
    refine ⟨target options row f, narrowed_ok_iff.2 ⟨f, hread, hf.single, rfl⟩, ?_⟩
    exact Fallible.bind_ok_iff.2 ⟨others, hothers, agreed_ok_iff.2 ⟨hsame, rfl⟩⟩

/-- A reason for which there is no visit that repeats the test of some records holds of them. -/
theorem explains_of_representative {options : RepeatOptions} {row : ResultRecord}
    {rows : List ResultRecord} {reason : Ambiguity}
    (h : representative options row rows = .error reason) :
    Explains options (row :: rows) reason := by
  unfold representative at h
  rcases Fallible.bind_error_iff.1 h with hfirst | ⟨first, hfirst, h⟩
  · exact explains_of_narrowed List.mem_cons_self hfirst
  · rcases Fallible.bind_error_iff.1 h with hothers | ⟨others, hothers, h⟩
    · obtain ⟨r, hr, hnarrowed⟩ := Fallible.exists_error_of_mapM hothers
      exact explains_of_narrowed (List.mem_cons_of_mem row hr) hnarrowed
    · exact explains_of_agreed hfirst hothers h

/-- An identity without records is not ambiguous. -/
theorem not_isAmbiguous_nil (options : RepeatOptions) : ¬ IsAmbiguous options [] := by
  intro h
  cases h with
  | unparsable hr => exact absurd hr List.not_mem_nil
  | groupedPopups hr => exact absurd hr List.not_mem_nil
  | popups hr => exact absurd hr List.not_mem_nil
  | pages hr => exact absurd hr List.not_mem_nil

/-- Records are not ambiguous exactly when all agree with the first. -/
theorem not_isAmbiguous_iff {options : RepeatOptions} {row : ResultRecord}
    {rows : List ResultRecord} :
    ¬ IsAmbiguous options (row :: rows) ↔
      ∃ first, TestPlanEntry.parse row.fullUrl = .ok first ∧
        ∀ r ∈ row :: rows, ∃ f, Agrees options (target options row first) r f := by
  constructor
  · intro h
    -- Each reason that is ruled out gives one of the conditions of agreement.
    have hreads : ∀ r ∈ row :: rows, ∃ f, TestPlanEntry.parse r.fullUrl = .ok f := by
      intro r hr
      cases hread : TestPlanEntry.parse r.fullUrl with
      | ok f => exact ⟨f, rfl⟩
      | error reason => exact absurd (IsAmbiguous.unparsable hr hread) h
    obtain ⟨first, hfirst⟩ := hreads row List.mem_cons_self
    refine ⟨first, hfirst, fun r hr => ?_⟩
    obtain ⟨f, hf⟩ := hreads r hr
    refine ⟨f, hf, ?_, ?_, ?_⟩
    · intro hkeep hpopups
      have hle : f.ids.first ≤ f.ids.last := TestPlanEntry.ordered_of_parse hf
      by_contra hne
      exact h (IsAmbiguous.groupedPopups hr hf hkeep hpopups (by omega))
    · rw [target_popups]
      by_contra hne
      exact h (IsAmbiguous.popups hr List.mem_cons_self hf hfirst hne)
    · by_contra hne
      exact h (IsAmbiguous.pages hr List.mem_cons_self hf hfirst hne)
  · rintro ⟨first, -, hall⟩ hambiguous
    have hsame : ∀ {r f}, r ∈ row :: rows → TestPlanEntry.parse r.fullUrl = .ok f →
        Agrees options (target options row first) r f := by
      intro r f hr hf
      obtain ⟨g, hg⟩ := hall r hr
      obtain rfl : g = f := Except.ok.inj (hg.read.symm.trans hf)
      exact hg
    cases hambiguous with
    | unparsable hr hread =>
      obtain ⟨f, hf⟩ := hall _ hr
      cases hread.symm.trans hf.read
    | groupedPopups hr hread hkeep hpopups hlt =>
      have hfirst := (hsame hr hread).single hkeep hpopups
      omega
    | popups hr hs hread hread' hne =>
      exact hne ((hsame hr hread).popups.trans (hsame hs hread').popups.symm)
    | pages hr hs hread hread' hne =>
      exact hne ((hsame hr hread).page.trans (hsame hs hread').page.symm)

end ProbeCampaign.Repeat
