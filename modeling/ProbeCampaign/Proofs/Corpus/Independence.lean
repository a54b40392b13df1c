import Mathlib.Tactic
import ProbeCampaign.Proofs.Corpus.Reports

/-!
# Builds of corpora are independent of each other

A build of one half of the corpora selects all its labels or one. What a sequence of builds stores
depends only on the labels that it selects in each half (`mem_specsOf`), and each label is reported
as if it were built alone (`Builds.gains`). Together these say that builds depend neither on other
labels nor on the other half (`builds_independent`).
-/

namespace ProbeCampaign

namespace Corpus

/-! ## One build -/

/-- A build of one half, of all its labels or of one. -/
structure Call where
  half : Half
  only : Option String

/-- A build on a connection. -/
def Call.run (read : FileReader) (config : CampaignConfig) (call : Call) (c : Connection) :
    Except Failure (List CorpusReport) × Connection :=
  match call.half with
  | .basic => buildBasic config call.only c
  | .parsing => buildParsing read config call.only c

/-- The corpora that a build stores. -/
def Call.corpora (config : CampaignConfig) (fs : List HeaderFamily) (call : Call) :
    List LabelCorpus :=
  selected call.only (call.half.corpora config fs)

/-- The responses of these corpora. -/
def Call.specs (config : CampaignConfig) (fs : List HeaderFamily) (call : Call) :
    List ResponseSpec :=
  responses config (call.corpora config fs)

/-- The build of one label of a half. -/
def Call.single (half : Half) (corpus : LabelCorpus) : Call :=
  ⟨half, some corpus.label⟩

/-- A build includes a label of a half. -/
structure Call.Selects (config : CampaignConfig) (fs : List HeaderFamily) (call : Call) (half : Half)
    (label : String) : Prop where
  ofHalf : call.half = half
  known : label ∈ half.labels config fs
  wanted : wanted call.only label = true

/-- A build succeeds on some connection to a store, with these reports, and leaves another store. -/
def Builds (read : FileReader) (config : CampaignConfig) (s : Store) (call : Call)
    (reports : List CorpusReport) (t : Store) : Prop :=
  ∃ c c', c.store = s ∧ c'.store = t ∧ call.run read config c = (.ok reports, c')

/-- Builds that succeed one after the other, with the reports of all of them in order. -/
inductive Built (read : FileReader) (config : CampaignConfig) :
    Store → List Call → List CorpusReport → Store → Prop
  | nil (s : Store) : Built read config s [] [] s
  | cons {s t u : Store} {call : Call} {calls : List Call} {reports others : List CorpusReport} :
      Builds read config s call reports t → Built read config t calls others u →
      Built read config s (call :: calls) (reports ++ others) u

/-- One of some builds includes a label of a half. -/
def Selected (config : CampaignConfig) (fs : List HeaderFamily) (calls : List Call) (half : Half)
    (label : String) : Prop :=
  ∃ call ∈ calls, call.Selects config fs half label

/-- The responses that some builds store. -/
def specsOf (config : CampaignConfig) (fs : List HeaderFamily) (calls : List Call) :
    List ResponseSpec :=
  calls.flatMap (·.specs config fs)

/-- SHA-256 has no collision on what some builds store and what is stored before. -/
def Apart (config : CampaignConfig) (fs : List HeaderFamily) (calls : List Call) (s : Store) : Prop :=
  ResponseSpec.HashesApart (specsOf config fs calls ++ s.specs)

/-- A build stores the corpora of its half that it selects. -/
theorem Call.mem_corpora {config : CampaignConfig} {fs : List HeaderFamily} {call : Call}
    {corpus : LabelCorpus} :
    corpus ∈ call.corpora config fs ↔
      corpus ∈ call.half.corpora config fs ∧ call.Selects config fs call.half corpus.label := by
  rw [Call.corpora, selected, List.mem_filter]
  constructor
  · rintro ⟨hmem, hwanted⟩
    exact ⟨hmem, rfl, List.mem_map_of_mem hmem, hwanted⟩
  · rintro ⟨hmem, hselects⟩
    exact ⟨hmem, hselects.wanted⟩

theorem corpora_all (config : CampaignConfig) (fs : List HeaderFamily) (half : Half) :
    (⟨half, none⟩ : Call).corpora config fs = half.corpora config fs :=
  List.filter_eq_self.2 fun _ _ => rfl

theorem specsOf_singleton (config : CampaignConfig) (fs : List HeaderFamily) (call : Call) :
    specsOf config fs [call] = call.specs config fs :=
  List.flatMap_singleton _ _

/-- What some builds store depends only on the labels that they select. -/
theorem mem_specsOf {config : CampaignConfig} {fs : List HeaderFamily} {calls : List Call}
    {spec : ResponseSpec} :
    spec ∈ specsOf config fs calls ↔ ∃ half, ∃ corpus ∈ half.corpora config fs,
      Selected config fs calls half corpus.label ∧
        spec ∈ corpus.specs config.hosts.redirectEmpty := by
  rw [specsOf, List.mem_flatMap]
  constructor
  · rintro ⟨call, hcall, hspec⟩
    obtain ⟨corpus, hcorpus, hspec⟩ := List.mem_flatMap.1 hspec
    obtain ⟨hmem, hselects⟩ := Call.mem_corpora.1 hcorpus
    exact ⟨call.half, corpus, hmem, ⟨call, hcall, hselects⟩, hspec⟩
  · rintro ⟨half, corpus, hmem, ⟨call, hcall, hselects⟩, hspec⟩
    obtain rfl := hselects.ofHalf
    exact ⟨call, hcall, List.mem_flatMap.2 ⟨corpus, Call.mem_corpora.2 ⟨hmem, hselects⟩, hspec⟩⟩

/-- Where labels are distinct, the label of a corpus selects it alone. -/
theorem selected_of_mem {corpora : List LabelCorpus} (hlabels : (corpora.map (·.label)).Nodup)
    {corpus : LabelCorpus} (hcorpus : corpus ∈ corpora) :
    selected (some corpus.label) corpora = [corpus] := by
  induction corpora with
  | nil => exact absurd hcorpus List.not_mem_nil
  | cons other rest ih =>
    rw [List.map_cons, List.nodup_cons] at hlabels
    rcases List.mem_cons.1 hcorpus with rfl | hcorpus
    · have hrest : selected (some corpus.label) rest = [] := selected_eq_nil_iff.2 hlabels.1
      rw [selected, List.filter_cons_of_pos (by simp [wanted]), ← selected, hrest]
    · have hne : other.label ≠ corpus.label := fun heq =>
        hlabels.1 (heq ▸ List.mem_map_of_mem hcorpus)
      rw [selected, List.filter_cons_of_neg (by simpa [wanted] using hne.symm), ← selected,
        ih hlabels.2 hcorpus]

/-- An unknown label is refused before anything is stored. -/
theorem buildSelected_of_not_mem {label : String} {corpora : List LabelCorpus}
    (h : label ∉ corpora.map (·.label)) (config : CampaignConfig) (c : Connection) :
    buildSelected config (some label) corpora c = (.error (.unknownFamily label), c) := by
  have hnil := selected_eq_nil_iff.2 h
  rw [selected] at hnil
  unfold buildSelected
  dsimp only
  rw [hnil]

/-- A list of the values of a function in another order has the arguments in this order. -/
theorem exists_map_eq_of_perm {α β : Type} {f : α → β} {xs : List α} {ys : List β}
    (h : ys.Perm (xs.map f)) : ∃ xs' : List α, ys = xs'.map f ∧ xs'.Perm xs := by
  have hcomp := congrFun (congrFun (List.eq_map_comp_perm f) ys) xs
  exact hcomp.mpr h

section Families

variable {read : FileReader} {config : CampaignConfig} {fs : List HeaderFamily}
  (hfamilies : families read config = .ok fs)
include hfamilies

/-- Either half is built from the corpora that it has. -/
theorem run_eq (call : Call) (c : Connection) :
    call.run read config c = buildSelected config call.only (call.half.corpora config fs) c := by
  obtain ⟨half, only⟩ := call
  cases half with
  | basic => rfl
  | parsing => exact buildParsing_of_ok hfamilies only c

/-- A build that succeeds stores all that it selects. -/
theorem run_ok {call : Call} {c c' : Connection} {reports : List CorpusReport}
    (hok : call.run read config c = (.ok reports, c')) :
    persistAll config (call.corpora config fs) c = (.ok reports, c') := by
  rw [run_eq hfamilies] at hok
  rcases buildSelected_cases config call.only (call.half.corpora config fs) c with
    ⟨label, -, -, heq⟩ | heq
  · rw [hok] at heq
    cases heq
  · rw [Call.corpora, ← heq, hok]

/-- A build reports each label that it selects as if it were built alone, and adds what is missing
of its corpora. -/
theorem Builds.gains {s t : Store} {call : Call} {reports : List CorpusReport} (h : s.Sound)
    (hashes : ResponseSpec.HashesApart (call.specs config fs ++ s.specs))
    (hbuilds : Builds read config s call reports t) :
    reports = (call.corpora config fs).map (reportOn config s) ∧
      ∃ now, s.Gains now ((call.corpora config fs).flatMap (missing config s)) t := by
  obtain ⟨c, c', rfl, rfl, hok⟩ := hbuilds
  have hlabels : ((call.corpora config fs).map (·.label)).Nodup :=
    (Half.nodup_labels hfamilies call.half).sublist (List.filter_sublist.map _)
  obtain ⟨hreports, hgains⟩ := persistAll_ok hlabels h hashes (run_ok hfamilies hok)
  exact ⟨hreports, c.now, hgains⟩

theorem Builds.receives {s t : Store} {call : Call} {reports : List CorpusReport} (h : s.Sound)
    (hashes : ResponseSpec.HashesApart (call.specs config fs ++ s.specs))
    (hbuilds : Builds read config s call reports t) : s.Receives (call.specs config fs) t := by
  obtain ⟨c, c', rfl, rfl, hok⟩ := hbuilds
  exact receives_persistAll h hashes (run_ok hfamilies hok)

/-- After a sequence of builds the store holds what it held before and what they store. -/
theorem Built.receives {s t : Store} {calls : List Call} {reports : List CorpusReport} (h : s.Sound)
    (hashes : ResponseSpec.HashesApart (specsOf config fs calls ++ s.specs))
    (hbuilt : Built read config s calls reports t) : s.Receives (specsOf config fs calls) t := by
  induction hbuilt with
  | nil s => exact .refl h
  | cons hbuilds _ ih =>
    rw [specsOf, List.flatMap_cons, ← specsOf] at hashes ⊢
    have hgot := hbuilds.receives hfamilies h hashes.first
    exact hgot.trans (ih hgot.sound (hgot.hashesApart hashes))

/-! ## The same labels -/

omit hfamilies in
theorem specsOf_congr {calls calls' : List Call}
    (hselected : ∀ half label,
      Selected config fs calls half label ↔ Selected config fs calls' half label)
    (spec : ResponseSpec) : spec ∈ specsOf config fs calls ↔ spec ∈ specsOf config fs calls' := by
  rw [mem_specsOf, mem_specsOf]
  simp only [hselected]

/-- Builds that select the same labels end with the same responses. -/
theorem Built.mem_specs_congr {s t t' : Store} {calls calls' : List Call}
    {reports reports' : List CorpusReport} (h : s.Sound) (hapart : Apart config fs calls s)
    (hselected : ∀ half label,
      Selected config fs calls half label ↔ Selected config fs calls' half label)
    (hbuilt : Built read config s calls reports t)
    (hbuilt' : Built read config s calls' reports' t') (spec : ResponseSpec) :
    spec ∈ t.specs ↔ spec ∈ t'.specs := by
  have hapart' : Apart config fs calls' s := by
    refine hapart.subset (List.append_subset.2 ⟨fun spec hspec => ?_, List.subset_append_right _ _⟩)
    exact List.mem_append_left _ ((specsOf_congr hselected spec).2 hspec)
  rw [(hbuilt.receives hfamilies h hapart).mem, (hbuilt'.receives hfamilies h hapart').mem,
    specsOf_congr hselected]

/-- What is reported of a label depends only on which of its responses are stored. -/
theorem Builds.report_congr {s s' t t' : Store} {call call' : Call}
    {reports reports' : List CorpusReport} {r r' : CorpusReport} (h : s.Sound) (h' : s'.Sound)
    (hapart : Apart config fs [call] s) (hapart' : Apart config fs [call'] s')
    (hhalf : call.half = call'.half) (hbuilds : Builds read config s call reports t)
    (hbuilds' : Builds read config s' call' reports' t') (hr : r ∈ reports) (hr' : r' ∈ reports')
    (hlabel : r.label = r'.label)
    (hstored : ∀ spec : ResponseSpec, spec.label = r.label → spec.respType ∈ call.half.types →
      (spec ∈ s.specs ↔ spec ∈ s'.specs)) :
    r = r' := by
  rw [Apart, specsOf_singleton] at hapart hapart'
  obtain ⟨rfl, -⟩ := hbuilds.gains hfamilies h hapart
  obtain ⟨rfl, -⟩ := hbuilds'.gains hfamilies h' hapart'
  obtain ⟨corpus, hcorpus, rfl⟩ := List.mem_map.1 hr
  obtain ⟨corpus', hcorpus', rfl⟩ := List.mem_map.1 hr'
  have hmem := (Call.mem_corpora.1 hcorpus).1
  have hmem' := (Call.mem_corpora.1 hcorpus').1
  rw [← hhalf] at hmem'
  -- The two builds report the same corpus, as its half has no other one with this label.
  obtain rfl : corpus = corpus' :=
    List.inj_on_of_nodup_map (Half.nodup_labels hfamilies call.half) hmem hmem' hlabel
  have hagree : Agree config s s' corpus := fun spec hspec =>
    hstored spec (LabelCorpus.label_of_mem_specs hspec) (Half.respType_of_mem hmem hspec)
  exact hagree.reportOn

/-! ## Repetition -/

/-- A build whose responses are all there adds none. -/
theorem Builds.repeated {s t : Store} {call : Call} {reports : List CorpusReport} (h : s.Sound)
    (hashes : ResponseSpec.HashesApart (call.specs config fs ++ s.specs))
    (hstored : call.specs config fs ⊆ s.specs) (hbuilds : Builds read config s call reports t) :
    (∀ r ∈ reports, r.created = 0) ∧ t.responses = s.responses := by
  obtain ⟨rfl, now, hgains⟩ := hbuilds.gains hfamilies h hashes
  have hnone : ∀ corpus ∈ call.corpora config fs, missing config s corpus = [] := by
    intro corpus hcorpus
    refine List.filter_eq_nil_iff.2 fun spec hspec => ?_
    have hmem := hstored (List.mem_flatMap.2 ⟨corpus, hcorpus, List.mem_eraseDups.1 hspec⟩)
    simpa using hmem
  refine ⟨fun r hr => ?_, ?_⟩
  · obtain ⟨corpus, hcorpus, rfl⟩ := List.mem_map.1 hr
    exact congrArg List.length (hnone corpus hcorpus)
  · rw [List.flatMap_eq_nil_iff.2 hnone] at hgains
    exact hgains.responses_eq

/-- Nor does one whose labels were built before. -/
theorem Built.repeated {s t u : Store} {calls : List Call} {call : Call}
    {reports others : List CorpusReport} (h : s.Sound) (hapart : Apart config fs calls s)
    (hselects : ∀ half label, call.Selects config fs half label →
      Selected config fs calls half label)
    (hbuilt : Built read config s calls reports t) (hbuilds : Builds read config t call others u) :
    (∀ r ∈ others, r.created = 0) ∧ u.responses = t.responses := by
  have hreceives := hbuilt.receives hfamilies h hapart
  have hsub : call.specs config fs ⊆ specsOf config fs calls := by
    intro spec hspec
    obtain ⟨corpus, hcorpus, hspec⟩ := List.mem_flatMap.1 hspec
    obtain ⟨hmem, hselected⟩ := Call.mem_corpora.1 hcorpus
    exact mem_specsOf.2 ⟨call.half, corpus, hmem, hselects _ _ hselected, hspec⟩
  have hstored : call.specs config fs ⊆ t.specs := fun spec hspec =>
    (hreceives.mem spec).2 (Or.inr (hsub hspec))
  refine hbuilds.repeated hfamilies hreceives.sound ?_ hstored
  refine hapart.subset (List.append_subset.2 ⟨fun spec hspec => ?_, fun spec hspec => ?_⟩)
  · exact List.mem_append_left _ (hsub hspec)
  · rw [List.mem_append, or_comm]
    exact (hreceives.mem spec).1 hspec

/-! ## Label by label -/

theorem corpora_single {half : Half} {corpus : LabelCorpus}
    (hcorpus : corpus ∈ half.corpora config fs) :
    (Call.single half corpus).corpora config fs = [corpus] :=
  selected_of_mem (Half.nodup_labels hfamilies half) hcorpus

theorem specs_single {half : Half} {corpus : LabelCorpus}
    (hcorpus : corpus ∈ half.corpora config fs) :
    (Call.single half corpus).specs config fs = corpus.specs config.hosts.redirectEmpty := by
  rw [Call.specs, corpora_single hfamilies hcorpus, responses, List.flatMap_singleton]

theorem specsOf_single {half : Half} {corpora : List LabelCorpus}
    (hsub : corpora ⊆ half.corpora config fs) :
    specsOf config fs (corpora.map (Call.single half)) = responses config corpora := by
  rw [specsOf, List.flatMap_map]
  exact List.flatMap_congr fun corpus hcorpus => specs_single hfamilies (hsub hcorpus)

/-- Corpora that are built one by one are reported as if each were built alone. -/
theorem Built.reports_single {half : Half} {corpora : List LabelCorpus}
    (hsub : corpora ⊆ half.corpora config fs) (hlabels : (corpora.map (·.label)).Nodup) {s t : Store}
    {reports : List CorpusReport} (h : s.Sound)
    (hashes : ResponseSpec.HashesApart (responses config corpora ++ s.specs))
    (hbuilt : Built read config s (corpora.map (Call.single half)) reports t) :
    reports = corpora.map (reportOn config s) := by
  induction corpora generalizing s reports with
  | nil =>
    cases hbuilt
    rfl
  | cons corpus rest ih =>
    obtain ⟨hcorpus, hsub⟩ := List.cons_subset.1 hsub
    rw [List.map_cons, List.nodup_cons] at hlabels
    rw [responses, List.flatMap_cons, ← responses] at hashes
    cases hbuilt with
    | cons hbuilds hrest =>
      have hspecs := specs_single hfamilies hcorpus
      have hfirst := hspecs ▸ hashes.first
      obtain ⟨rfl, now, hgains⟩ := hbuilds.gains hfamilies h hfirst
      have hgot := hspecs ▸ hbuilds.receives hfamilies h hfirst
      rw [corpora_single hfamilies hcorpus, List.flatMap_singleton] at hgains
      rw [corpora_single hfamilies hcorpus,
        ih hsub hlabels.2 hgot.sound (hgot.hashesApart hashes) hrest]
      refine congrArg (_ :: ·) (List.map_congr_left fun other hother => Eq.symm ?_)
      refine (agree_of_gains hgains fun hlabel => hlabels.1 ?_).reportOn
      rw [← hlabel]
      exact List.mem_map_of_mem hother

/-- The labels of a half one by one, in any order, come to all of them at once. -/
theorem Built.perm_all {half : Half} {labels : List String} {s t t' : Store}
    {reports reports' : List CorpusReport} (h : s.Sound) (hapart : Apart config fs [⟨half, none⟩] s)
    (hperm : labels.Perm (half.labels config fs))
    (hbuilt : Built read config s (labels.map fun label => ⟨half, some label⟩) reports t)
    (hbuilds : Builds read config s ⟨half, none⟩ reports' t') :
    reports.Perm reports' ∧ ∀ spec, spec ∈ t.specs ↔ spec ∈ t'.specs := by
  -- The labels are those of the corpora of the half, in some order.
  obtain ⟨corpora, rfl, hcorpora⟩ := exists_map_eq_of_perm hperm
  rw [List.map_map] at hbuilt
  have hbuilt : Built read config s (corpora.map (Call.single half)) reports t := hbuilt
  have hlabels : (corpora.map (·.label)).Nodup :=
    (hcorpora.map _).nodup_iff.2 (Half.nodup_labels hfamilies half)
  have hresponses : (responses config corpora).Perm (responses config (half.corpora config fs)) :=
    hcorpora.flatMap_right _
  rw [Apart, specsOf_singleton] at hapart
  have hall := hapart
  rw [Call.specs, corpora_all] at hall
  have hapart' : ResponseSpec.HashesApart (responses config corpora ++ s.specs) :=
    hall.subset (hresponses.append_right _).subset
  obtain ⟨rfl, -⟩ := hbuilds.gains hfamilies h hapart
  obtain rfl := hbuilt.reports_single hfamilies hcorpora.subset hlabels h hapart'
  refine ⟨?_, fun spec => ?_⟩
  · rw [corpora_all]
    exact hcorpora.map _
  · rw [← specsOf_single hfamilies hcorpora.subset] at hapart'
    rw [(hbuilt.receives hfamilies h hapart').mem, (hbuilds.receives hfamilies h hapart).mem,
      specsOf_single hfamilies hcorpora.subset, Call.specs, corpora_all, hresponses.mem_iff]

/-! ## Success and refusal -/

/-- Where no call to the store fails, builds of known labels succeed. -/
theorem exists_run_ok {call : Call} {c : Connection} (hnever : ∀ k, c.upsertFails k = false)
    (hknown : ∀ label ∈ call.only, label ∈ call.half.labels config fs) :
    ∃ reports c', call.run read config c = (.ok reports, c') := by
  rw [run_eq hfamilies]
  rcases buildSelected_cases config call.only (call.half.corpora config fs) c with
    ⟨label, honly, hunknown, -⟩ | heq
  · exact absurd (hknown label honly) hunknown
  · rw [heq]
    exact persistAll_of_never hnever config _

/-- Builds of known labels succeed on every store. -/
theorem exists_built {calls : List Call}
    (hknown : ∀ call ∈ calls, ∀ label ∈ call.only, label ∈ call.half.labels config fs) (s : Store) :
    ∃ reports t, Built read config s calls reports t := by
  induction calls generalizing s with
  | nil => exact ⟨[], s, .nil s⟩
  | cons call calls ih =>
    obtain ⟨hfirst, hrest⟩ := List.forall_mem_cons.1 hknown
    obtain ⟨reports, c, hok⟩ :=
      exists_run_ok hfamilies (c := Connection.healthy s 0) (fun _ => rfl) hfirst
    obtain ⟨others, t, hbuilt⟩ := ih hrest c.store
    exact ⟨reports ++ others, t, .cons ⟨_, c, rfl, rfl, hok⟩ hbuilt⟩

end Families

/-! ## All builds -/

/-- Builds on a store depend neither on other labels nor on the other half. -/
structure Independent (read : FileReader) (config : CampaignConfig) (fs : List HeaderFamily)
    (s : Store) : Prop where
  /-- Where no call to the store fails, builds of known labels succeed. -/
  succeeds : ∀ (call : Call) (c : Connection), (∀ k, c.upsertFails k = false) →
    (∀ label ∈ call.only, label ∈ call.half.labels config fs) →
    ∃ reports c', call.run read config c = (.ok reports, c')
  /-- Builds of other labels are refused at once. -/
  refused : ∀ (half : Half) (label : String) (c : Connection), label ∉ half.labels config fs →
    Call.run read config ⟨half, some label⟩ c = (.error (.unknownFamily label), c)
  /-- Builds that select the same labels in the same halves, in whatever order and however often,
  end with the same responses. -/
  same : ∀ (calls calls' : List Call) (reports reports' : List CorpusReport) (t t' : Store),
    Apart config fs calls s →
    (∀ half label, Selected config fs calls half label ↔ Selected config fs calls' half label) →
    Built read config s calls reports t → Built read config s calls' reports' t' →
    ∀ spec, spec ∈ t.specs ↔ spec ∈ t'.specs
  /-- The labels of a half one by one, in any order, come to all of them at once. -/
  oneByOne : ∀ (half : Half) (labels : List String) (reports reports' : List CorpusReport)
    (t t' : Store), Apart config fs [⟨half, none⟩] s → labels.Perm (half.labels config fs) →
    Built read config s (labels.map fun label => ⟨half, some label⟩) reports t →
    Builds read config s ⟨half, none⟩ reports' t' →
    reports.Perm reports' ∧ ∀ spec, spec ∈ t.specs ↔ spec ∈ t'.specs
  /-- The report on a label depends only on which responses of this label and of the types of the
  half are stored. -/
  counted : ∀ (s' : Store) (call call' : Call) (reports reports' : List CorpusReport) (t t' : Store)
    (r r' : CorpusReport), s'.Sound → Apart config fs [call] s → Apart config fs [call'] s' →
    call.half = call'.half → Builds read config s call reports t →
    Builds read config s' call' reports' t' → r ∈ reports → r' ∈ reports' → r.label = r'.label →
    (∀ spec : ResponseSpec, spec.label = r.label → spec.respType ∈ call.half.types →
      (spec ∈ s.specs ↔ spec ∈ s'.specs)) →
    r = r'
  /-- A build of labels that were built before counts nothing as new and leaves the rows as they
  are. -/
  repeated : ∀ (calls : List Call) (call : Call) (reports others : List CorpusReport) (t u : Store),
    Apart config fs calls s →
    (∀ half label, call.Selects config fs half label → Selected config fs calls half label) →
    Built read config s calls reports t → Builds read config t call others u →
    (∀ r ∈ others, r.created = 0) ∧ u.responses = t.responses

/-- Once the configured value lists are read, builds on a store depend neither on other labels nor on
the other half, as long as SHA-256 has no collision on what they store. -/
theorem builds_independent {read : FileReader} {config : CampaignConfig} {fs : List HeaderFamily}
    (hfamilies : families read config = .ok fs) {s : Store} (h : s.Sound) :
    Independent read config fs s where
  succeeds _ _ hnever hknown := exists_run_ok hfamilies hnever hknown
  refused _ _ c hunknown := by
    rw [run_eq hfamilies]
    exact buildSelected_of_not_mem hunknown config c
  same _ _ _ _ _ _ hapart hselected hbuilt hbuilt' :=
    hbuilt.mem_specs_congr hfamilies h hapart hselected hbuilt'
  oneByOne _ _ _ _ _ _ hapart hperm hbuilt hbuilds :=
    hbuilt.perm_all hfamilies h hapart hperm hbuilds
  counted _ _ _ _ _ _ _ _ _ h' hapart hapart' hhalf hbuilds hbuilds' hr hr' hlabel hstored :=
    hbuilds.report_congr hfamilies h h' hapart hapart' hhalf hbuilds' hr hr' hlabel hstored
  repeated _ _ _ _ _ _ hapart hselects hbuilt hbuilds :=
    hbuilt.repeated hfamilies h hapart hselects hbuilds

/-- No file can be read. -/
def unread : FileReader :=
  fun _ => .error .notFound

/-- The default configuration, which names no value lists. -/
def plainConfig : CampaignConfig :=
  .default ""

/-- The basic corpora on framing, by one header and by two: some of their headers are the same. -/
def framingCorpora : List LabelCorpus :=
  [.fixed framingCorpus, .fixed (framingConflictCorpus plainConfig.hosts)]

/-- The builds of these corpora, one by one. -/
def framingCalls : List Call :=
  framingCorpora.map (.single .basic)

theorem framingCorpora_subset :
    framingCorpora ⊆ Half.basic.corpora plainConfig (builtinFamilies plainConfig.hosts) := by
  have hsub : [framingCorpus, framingConflictCorpus plainConfig.hosts] ⊆
      builtinCorpora plainConfig.hosts := by
    simp [builtinCorpora]
  exact List.map_subset _ hsub

/-- The hashes of their responses differ in the first byte. -/
theorem hashesApart_framingCorpora :
    ResponseSpec.HashesApart (responses plainConfig framingCorpora) := by
  have hbytes : (responses plainConfig framingCorpora).map
      (fun spec => (Sha256.hash spec.dedupKey).head?) =
        [190, 61, 19, 193, 100, 30, 144, 242, 202, 127, 218, 166, 238, 222, 116, 153, 205, 170, 187,
          83, 55, 198].map some := by
    decide +kernel
  refine ResponseSpec.hashesApart_of_nodup_map List.head? ?_
  rw [hbytes]
  decide

theorem apart_framingCalls :
    Apart plainConfig (builtinFamilies plainConfig.hosts) framingCalls .empty := by
  have hspecs := @specsOf_single unread _ _ rfl _ _ framingCorpora_subset
  rw [Apart, framingCalls, hspecs]
  exact (List.append_nil (responses plainConfig framingCorpora)).symm ▸ hashesApart_framingCorpora

/-- Builds of the corpora report on each as if it were built alone. -/
theorem reports_framing {corpora : List LabelCorpus} (hperm : corpora.Perm framingCorpora)
    {reports : List CorpusReport} {t : Store}
    (hbuilt : Built unread plainConfig .empty (corpora.map (.single .basic)) reports t) :
    reports = corpora.map (reportOn plainConfig .empty) := by
  have hlabels : (framingCorpora.map (·.label)).Nodup := by decide
  have hhashes : ResponseSpec.HashesApart (responses plainConfig corpora) :=
    hashesApart_framingCorpora.subset (hperm.flatMap_right _).subset
  rw [← List.append_nil (responses plainConfig corpora)] at hhashes
  exact hbuilt.reports_single rfl (List.Subset.trans hperm.subset framingCorpora_subset)
    ((hperm.map _).nodup_iff.2 hlabels) Store.sound_empty hhashes

/-- Two corpora that share headers, in both orders: every response is new once, and both orders end
with the same responses. None is new when one of them is built again. -/
theorem builds_independent_framing :
    families unread plainConfig = .ok (builtinFamilies plainConfig.hosts) ∧ Store.empty.Sound ∧
    Apart plainConfig (builtinFamilies plainConfig.hosts) framingCalls .empty ∧
    ∃ t t', Built unread plainConfig .empty framingCalls
        [⟨"XFO", 13, 13, 13⟩, ⟨"CSPvsXFO", 9, 9, 9⟩] t ∧
      Built unread plainConfig .empty framingCalls.reverse
        [⟨"CSPvsXFO", 9, 9, 9⟩, ⟨"XFO", 13, 13, 13⟩] t' ∧
      (∀ spec, spec ∈ t.specs ↔ spec ∈ t'.specs) ∧
      ∃ others u, Builds unread plainConfig t ⟨.basic, some "XFO"⟩ others u ∧
        (∀ r ∈ others, r.created = 0) ∧ u.responses = t.responses := by
  have hfamilies : families unread plainConfig = .ok (builtinFamilies plainConfig.hosts) := rfl
  have hindependent := builds_independent hfamilies Store.sound_empty
  have hknown : ∀ call ∈ framingCalls, ∀ label ∈ call.only,
      label ∈ call.half.labels plainConfig (builtinFamilies plainConfig.hosts) := by
    intro call hcall label hlabel
    obtain ⟨corpus, hcorpus, rfl⟩ := List.mem_map.1 hcall
    cases hlabel
    exact List.mem_map_of_mem (framingCorpora_subset hcorpus)
  have hselected : ∀ half label,
      Selected plainConfig (builtinFamilies plainConfig.hosts) framingCalls half label ↔
        Selected plainConfig (builtinFamilies plainConfig.hosts) framingCalls.reverse half label := by
    simp [Selected]
  obtain ⟨reports, t, hforth⟩ := exists_built hfamilies hknown .empty
  obtain ⟨reports', t', hback⟩ :=
    exists_built hfamilies (fun call hcall => hknown call (List.mem_reverse.1 hcall)) .empty
  have hsame := hindependent.same _ _ _ _ _ _ apart_framingCalls hselected hforth hback
  obtain ⟨others, c, hagain⟩ := hindependent.succeeds ⟨.basic, some "XFO"⟩ (.healthy t 0)
    (fun _ => rfl) (hknown _ List.mem_cons_self)
  have hagain : Builds unread plainConfig t ⟨.basic, some "XFO"⟩ others c.store :=
    ⟨_, c, rfl, rfl, hagain⟩
  have hrepeated := hindependent.repeated _ _ _ _ _ _ apart_framingCalls
    (fun half label hselects => ⟨_, List.mem_cons_self, hselects⟩) hforth hagain
  have hreports := reports_framing (.refl framingCorpora) hforth
  have hreports' := reports_framing (List.reverse_perm framingCorpora)
    (List.map_reverse ▸ hback)
  have halone : framingCorpora.map (reportOn plainConfig .empty) =
      [⟨"XFO", 13, 13, 13⟩, ⟨"CSPvsXFO", 9, 9, 9⟩] := by
    decide +kernel
  rw [List.map_reverse, halone] at hreports'
  rw [halone] at hreports
  subst hreports hreports'
  exact ⟨hfamilies, Store.sound_empty, apart_framingCalls, t, t', hforth, hback, hsame, others,
    c.store, hagain, hrepeated⟩

end Corpus

end ProbeCampaign
