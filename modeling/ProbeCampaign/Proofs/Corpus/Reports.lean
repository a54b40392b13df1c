import Mathlib.Tactic
import ProbeCampaign.Proofs.Corpus.Kinds
import ProbeCampaign.Proofs.Family.Probes

/-!
# What is reported of a corpus

Every response of a corpus has its label (`LabelCorpus.label_of_mem_specs`) and a type of its half
(`Half.respType_of_mem`), so storing one corpus leaves what is missing of another as it was
(`agree_of_gains`). Hence each of several corpora is reported as if it were built alone
(`persistAll_ok`).
-/

namespace ProbeCampaign

/-! ## Labels and types of responses -/

/-- Every response of a corpus has its label. -/
theorem LabelCorpus.label_of_mem_specs {corpus : LabelCorpus} {redirect : Header}
    {spec : ResponseSpec} (h : spec ∈ corpus.specs redirect) : spec.label = corpus.label := by
  cases corpus with
  | family f => exact (HeaderFamily.makes_of_mem_tests h).label
  | multi f =>
    obtain ⟨chosen, i, rfl⟩ := MultiHeaderFamily.exists_round_of_mem_tests h
    rfl
  | fixed c => exact (BasicCorpus.label_of_mem_specs h).1

namespace Corpus

/-- The halves of the corpora: debug and basic ones, and those that probe parsing. -/
inductive Half where
  | basic
  | parsing
  deriving DecidableEq

namespace Half

/-- The types of the responses of a half. -/
def types : Half → List RespType
  | .basic => [.debug, .basic]
  | .parsing => [.parsing]

/-- The corpora of a half. -/
def corpora (config : CampaignConfig) (fs : List HeaderFamily) : Half → List LabelCorpus
  | .basic => basicCorpora config
  | .parsing => parsingCorpora fs

/-- The labels of a half. -/
def labels (config : CampaignConfig) (fs : List HeaderFamily) (half : Half) : List String :=
  (half.corpora config fs).map (·.label)

/-- A half has its own types of responses. -/
theorem respType_of_mem {config : CampaignConfig} {fs : List HeaderFamily} {half : Half}
    {corpus : LabelCorpus} (hcorpus : corpus ∈ half.corpora config fs) {redirect : Header}
    {spec : ResponseSpec} (h : spec ∈ corpus.specs redirect) : spec.respType ∈ half.types := by
  cases half with
  | basic =>
    obtain ⟨fixed, -, rfl⟩ := List.mem_map.1 hcorpus
    rcases (BasicCorpus.label_of_mem_specs h).2 with htype | htype
    · simp [htype, types]
    · simp [htype, types]
  | parsing =>
    rcases List.mem_append.1 hcorpus with hcorpus | hcorpus
    · obtain ⟨f, -, rfl⟩ := List.mem_map.1 hcorpus
      simp [(HeaderFamily.makes_of_mem_tests h).respType, types]
    · obtain ⟨f, -, rfl⟩ := List.mem_map.1 hcorpus
      obtain ⟨chosen, i, rfl⟩ := MultiHeaderFamily.exists_round_of_mem_tests h
      exact List.mem_singleton_self _

/-- No label has two corpora in one half. -/
theorem nodup_labels {read : FileReader} {config : CampaignConfig} {fs : List HeaderFamily}
    (hfamilies : families read config = .ok fs) (half : Half) : (half.labels config fs).Nodup := by
  cases half with
  | basic =>
    have hlabels : labels config fs .basic = ["XFO", "CSP-FA", "CSP-SCRIPT", "CSP-IMG", "CSPvsXFO",
      "CORP", "COEP", "COOP", "CORS", "HSTS", "OAC", "PP", "RP", "TAO"] := rfl
    rw [hlabels]
    decide
  | parsing =>
    have hlabels : (parsingCorpora (builtinFamilies config.hosts)).map (·.label) =
      ["XFO", "CSP-FA", "CORS-ACAO", "CORS-ACAC", "CORS-ACAM", "CORS-ACAH", "CORS-ACEH", "CORP",
        "COEP", "COOP", "CSP-SCRIPT", "CSP-IMG", "HSTS", "PP", "RP", "TAO", "XCTO", "CSPvsXFO"] :=
      rfl
    rw [labels, corpora, map_label_parsingCorpora hfamilies, hlabels]
    decide

end Half

/-! ## Reports -/

/-- The responses of a corpus that a store does not hold, each once. -/
def missing (config : CampaignConfig) (s : Store) (corpus : LabelCorpus) : List ResponseSpec :=
  s.unstored (corpus.specs config.hosts.redirectEmpty).eraseDups

/-- What is reported of a corpus that is built on a store. -/
def reportOn (config : CampaignConfig) (s : Store) (corpus : LabelCorpus) : CorpusReport :=
  let specs := corpus.specs config.hosts.redirectEmpty
  ⟨corpus.label, specs.length, specs.eraseDups.length, (missing config s corpus).length⟩

/-- Two stores hold the same responses of a corpus. -/
def Agree (config : CampaignConfig) (s t : Store) (corpus : LabelCorpus) : Prop :=
  ∀ spec ∈ corpus.specs config.hosts.redirectEmpty, spec ∈ s.specs ↔ spec ∈ t.specs

theorem Agree.missing {config : CampaignConfig} {s t : Store} {corpus : LabelCorpus}
    (h : Agree config s t corpus) : missing config s corpus = missing config t corpus :=
  List.filter_congr fun spec hspec =>
    decide_eq_decide.2 (not_congr (h spec (List.mem_eraseDups.1 hspec)))

theorem Agree.reportOn {config : CampaignConfig} {s t : Store} {corpus : LabelCorpus}
    (h : Agree config s t corpus) : reportOn config s corpus = reportOn config t corpus := by
  unfold Corpus.reportOn
  rw [h.missing]

theorem build_ok {config : CampaignConfig} {corpus : LabelCorpus} {c c' : Connection}
    {report : CorpusReport} (h : c.store.Sound)
    (hashes : ResponseSpec.HashesApart (corpus.specs config.hosts.redirectEmpty ++ c.store.specs))
    (hok : build config corpus c = (.ok report, c')) :
    report = reportOn config c.store corpus ∧ c'.now = c.now ∧
      c.store.Gains c.now (missing config c.store corpus) c'.store :=
  persist_ok config corpus.label h hashes hok

/-- Storing one corpus leaves those of other labels as they are. -/
theorem agree_of_gains {config : CampaignConfig} {s t : Store} {now : Nat}
    {corpus other : LabelCorpus} (hgains : s.Gains now (missing config s corpus) t)
    (hlabel : other.label ≠ corpus.label) : Agree config s t other := by
  intro spec hspec
  rw [hgains.specs, List.mem_append, or_iff_left]
  intro hmem
  have hcorpus := List.mem_eraseDups.1 (List.mem_of_mem_filter hmem)
  rw [← LabelCorpus.label_of_mem_specs hspec] at hlabel
  exact hlabel (LabelCorpus.label_of_mem_specs hcorpus)

/-- Each of several corpora with different labels is stored and reported as if it were alone. -/
theorem persistAll_ok {config : CampaignConfig} {corpora : List LabelCorpus} {c c' : Connection}
    {reports : List CorpusReport} (hlabels : (corpora.map (·.label)).Nodup) (h : c.store.Sound)
    (hashes : ResponseSpec.HashesApart (responses config corpora ++ c.store.specs))
    (hok : persistAll config corpora c = (.ok reports, c')) :
    reports = corpora.map (reportOn config c.store) ∧
      c.store.Gains c.now (corpora.flatMap (missing config c.store)) c'.store := by
  induction corpora generalizing c reports with
  | nil =>
    cases hok
    exact ⟨rfl, .refl h _⟩
  | cons corpus rest ih =>
    rw [persistAll] at hok
    rcases hfirst : build config corpus c with ⟨_ | report, c₁⟩
    · rw [hfirst] at hok
      cases hok
    · rw [hfirst] at hok
      dsimp only at hok
      rcases hrest : persistAll config rest c₁ with ⟨_ | others, c₂⟩
      · rw [hrest] at hok
        cases hok
      · rw [hrest] at hok
        cases hok
        rw [responses, List.flatMap_cons, ← responses] at hashes
        obtain ⟨rfl, hnow, hgains⟩ := build_ok h hashes.first hfirst
        have hgot := receives_persist h hashes.first hfirst
        rw [List.map_cons, List.nodup_cons] at hlabels
        obtain ⟨rfl, hgains'⟩ := ih hlabels.2 hgot.sound (hgot.hashesApart hashes) hrest
        have hagree : ∀ other ∈ rest, Agree config c.store c₁.store other := by
          intro other hother
          refine agree_of_gains hgains fun hlabel => hlabels.1 ?_
          rw [← hlabel]
          exact List.mem_map_of_mem hother
        rw [hnow, ← List.flatMap_congr fun other hother => (hagree other hother).missing] at hgains'
        refine ⟨?_, hgains.trans hgains'⟩
        rw [List.map_cons, List.map_congr_left fun other hother => (hagree other hother).reportOn]

end Corpus

end ProbeCampaign
