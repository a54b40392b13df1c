import Mathlib.Tactic
import ProbeCampaign.Proofs.Corpus.Persist
import ProbeCampaign.Proofs.Fallible

/-!
# Building all kinds of corpora

A build of all kinds goes on after a half of it that has no corpus for the label asked for. It takes
any unknown label for such a half, though, also one that the configured value lists name: then the
parsing half fails, and the build ends well without it (`buildKind_all`).
-/

namespace ProbeCampaign

/-- A store has come to hold some responses, and no others besides those it held. -/
structure Store.Receives (s : Store) (specs : List ResponseSpec) (t : Store) : Prop where
  sound : t.Sound
  mem : ∀ spec, spec ∈ t.specs ↔ spec ∈ s.specs ∨ spec ∈ specs

namespace Store

theorem Receives.refl {s : Store} (h : s.Sound) : s.Receives [] s :=
  ⟨h, fun spec => by simp⟩

theorem Receives.trans {s t u : Store} {xs ys : List ResponseSpec} (h : s.Receives xs t)
    (h' : t.Receives ys u) : s.Receives (xs ++ ys) u :=
  ⟨h'.sound, fun spec => by rw [h'.mem, h.mem, List.mem_append, or_assoc]⟩

/-- Without collisions among old and new responses, there are none after some are stored. -/
theorem Receives.hashesApart {s t : Store} {xs ys : List ResponseSpec} (h : s.Receives xs t)
    (hashes : ResponseSpec.HashesApart (xs ++ ys ++ s.specs)) :
    ResponseSpec.HashesApart (ys ++ t.specs) := by
  refine hashes.subset fun spec hspec => ?_
  rw [List.mem_append, h.mem] at hspec
  rw [List.mem_append, List.mem_append]
  tauto

theorem Gains.receives {s t : Store} {now : Nat} {specs : List ResponseSpec}
    (h : s.Gains now (s.unstored specs.eraseDups) t) : s.Receives specs t := by
  refine ⟨h.sound, fun spec => ?_⟩
  rw [h.specs, List.mem_append, unstored, List.mem_filter, List.mem_eraseDups, decide_eq_true_iff]
  tauto

end Store

theorem ResponseSpec.HashesApart.first {xs ys zs : List ResponseSpec}
    (h : HashesApart (xs ++ ys ++ zs)) : HashesApart (xs ++ zs) := by
  refine h.subset fun spec hspec => ?_
  rw [List.mem_append] at hspec
  rw [List.mem_append, List.mem_append]
  tauto

namespace Corpus

/-! ## Several corpora -/

/-- The corpora that a label selects, all of them without a label. -/
def selected (only : Option String) (corpora : List LabelCorpus) : List LabelCorpus :=
  corpora.filter fun k => wanted only k.label

/-- The responses of some corpora. -/
def responses (config : CampaignConfig) (corpora : List LabelCorpus) : List ResponseSpec :=
  corpora.flatMap (·.specs config.hosts.redirectEmpty)

theorem receives_persist {config : CampaignConfig} {label : String} {specs : List ResponseSpec}
    {c c' : Connection} {report : CorpusReport} (h : c.store.Sound)
    (hashes : ResponseSpec.HashesApart (specs ++ c.store.specs))
    (hok : persist config label specs c = (.ok report, c')) : c.store.Receives specs c'.store :=
  (persist_ok config label h hashes hok).2.2.receives

/-- After the corpora are stored, the store has what it had and their responses. -/
theorem receives_persistAll {config : CampaignConfig} {corpora : List LabelCorpus}
    {c c' : Connection} {reports : List CorpusReport} (h : c.store.Sound)
    (hashes : ResponseSpec.HashesApart (responses config corpora ++ c.store.specs))
    (hok : persistAll config corpora c = (.ok reports, c')) :
    c.store.Receives (responses config corpora) c'.store := by
  induction corpora generalizing c reports with
  | nil =>
    cases hok
    exact .refl h
  | cons corpus rest ih =>
    rw [persistAll] at hok
    rcases hfirst : build config corpus c with ⟨_ | report, c₁⟩
    · rw [hfirst] at hok
      cases hok
    · rw [hfirst] at hok
      dsimp only at hok
      rcases hrest : persistAll config rest c₁ with ⟨_ | others, c₂⟩
      · rw [hrest] at hok
        cases hok
      · rw [hrest] at hok
        cases hok
        rw [responses, List.flatMap_cons, ← responses] at hashes ⊢
        have hgot := receives_persist h hashes.first hfirst
        exact hgot.trans (ih hgot.sound (hgot.hashesApart hashes) hrest)

/-- Responses that cannot be stored are not taken for an unknown label. -/
theorem persistAll_ne_unknownFamily {config : CampaignConfig} {corpora : List LabelCorpus}
    {c : Connection} {label : String} :
    (persistAll config corpora c).1 ≠ .error (.unknownFamily label) := by
  induction corpora generalizing c with
  | nil =>
    intro h
    cases h
  | cons corpus rest ih =>
    intro h
    rw [persistAll, build, persist] at h
    rcases hstore : storeAll (attempts config - 1)
      (distinct (corpus.specs config.hosts.redirectEmpty)) c with ⟨_ | created, c₁⟩
    · rw [hstore] at h
      cases h
    · rw [hstore] at h
      dsimp only at h
      rcases hrest : persistAll config rest c₁ with ⟨e | others, c₂⟩
      · rw [hrest] at h
        have hne := ih (c := c₁)
        rw [hrest] at hne
        exact hne h
      · rw [hrest] at h
        cases h

/-! ## Selected corpora -/

theorem selected_eq_nil_iff {label : String} {corpora : List LabelCorpus} :
    selected (some label) corpora = [] ↔ label ∉ corpora.map (·.label) := by
  rw [selected, List.filter_eq_nil_iff, List.mem_map, not_exists]
  refine forall_congr' fun corpus => ?_
  rw [not_and, wanted, Option.all_some, decide_eq_true_iff, eq_comm]

/-- A selection fails for an unknown label exactly if it selects none. -/
theorem buildSelected_cases (config : CampaignConfig) (only : Option String)
    (corpora : List LabelCorpus) (c : Connection) :
    (∃ label, only = some label ∧ label ∉ corpora.map (·.label) ∧
        buildSelected config only corpora c = (.error (.unknownFamily label), c)) ∨
      buildSelected config only corpora c = persistAll config (selected only corpora) c := by
  unfold buildSelected
  dsimp only
  rw [← selected]
  split
  · next label hnil => exact Or.inl ⟨label, rfl, selected_eq_nil_iff.1 hnil, rfl⟩
  · exact Or.inr rfl

/-- A build that succeeds adds the responses of the corpora that it selects. -/
theorem receives_buildSelected {config : CampaignConfig} {only : Option String}
    {corpora : List LabelCorpus} {c c' : Connection} {reports : List CorpusReport}
    (h : c.store.Sound)
    (hashes : ResponseSpec.HashesApart (responses config (selected only corpora) ++ c.store.specs))
    (hok : buildSelected config only corpora c = (.ok reports, c')) :
    c.store.Receives (responses config (selected only corpora)) c'.store := by
  rcases buildSelected_cases config only corpora c with ⟨label, -, -, heq⟩ | heq
  · rw [hok] at heq
    cases heq
  · rw [hok] at heq
    exact receives_persistAll h hashes heq.symm

/-- What a part of a build may come to without being an obstacle: it succeeds, or it has no corpus
for the label asked for. -/
def Settled (only : Option String) (corpora : List LabelCorpus)
    (result : Except Failure (List CorpusReport)) : Prop :=
  (∃ reports, result = .ok reports) ∨
    ∃ label, only = some label ∧ label ∉ corpora.map (·.label) ∧
      result = .error (.unknownFamily label)

/-- Only a label that no corpus has is refused as unknown, and then nothing is stored. -/
theorem unknownFamily_buildSelected {config : CampaignConfig} {only : Option String}
    {corpora : List LabelCorpus} {c : Connection} {label : String}
    (h : (buildSelected config only corpora c).1 = .error (.unknownFamily label)) :
    only = some label ∧ label ∉ corpora.map (·.label) ∧
      (buildSelected config only corpora c).2 = c := by
  rcases buildSelected_cases config only corpora c with ⟨label', honly, hlabel, heq⟩ | heq
  · rw [heq] at h ⊢
    cases h
    exact ⟨honly, hlabel, rfl⟩
  · rw [heq] at h
    exact absurd h persistAll_ne_unknownFamily

/-! ## Families -/

/-- Added values do not change the labels. -/
theorem map_label_extendLabel (hosts : HostConfig) (label : String) (values : List String)
    (fs : List HeaderFamily) :
    (extendLabel hosts label values fs).map (·.label) = fs.map (·.label) := by
  rw [extendLabel, List.map_map]
  apply List.map_congr_left
  intro f _
  show (if f.label = label then f.extendOther hosts values else f).label = f.label
  split
  · rfl
  · rfl

/-- What adding values to the families with a label keeps is kept by adding those of sources. -/
theorem addSources_keeps {P : List HeaderFamily → Prop} {read : FileReader} {hosts : HostConfig}
    {fs fs' : List HeaderFamily} {label : String} {sources : List ValueListSource}
    (hextend : ∀ values gs, P gs → P (extendLabel hosts label values gs)) (hfs : P fs)
    (h : addSources read hosts fs label sources = .ok fs') : P fs' := by
  unfold addSources at h
  split at h
  · refine Fallible.foldlM_ok (fun gs source gs' hgs hsource => ?_) hfs h
    obtain ⟨values, -, hvalues⟩ := Fallible.bind_ok_iff.1 hsource
    cases hvalues
    exact hextend values gs hgs
  · cases h

theorem families_keep {P : List HeaderFamily → Prop} {read : FileReader} {config : CampaignConfig}
    {fs : List HeaderFamily}
    (hextend : ∀ label values gs, P gs → P (extendLabel config.hosts label values gs))
    (hbuiltin : P (builtinFamilies config.hosts)) (h : families read config = .ok fs) : P fs := by
  refine Fallible.foldlM_ok (P := P) ?_ hbuiltin h
  rintro gs ⟨label, sources⟩ gs' hgs hadd
  exact addSources_keeps (hextend label) hgs hadd

theorem map_label_addSources {read : FileReader} {hosts : HostConfig} {fs fs' : List HeaderFamily}
    {label : String} {sources : List ValueListSource}
    (h : addSources read hosts fs label sources = .ok fs') :
    fs'.map (·.label) = fs.map (·.label) :=
  addSources_keeps (P := fun gs => gs.map (·.label) = fs.map (·.label))
    (fun values gs hgs => (map_label_extendLabel hosts label values gs).trans hgs) rfl h

/-- Value lists add no labels. -/
theorem map_label_families {read : FileReader} {config : CampaignConfig} {fs : List HeaderFamily}
    (h : families read config = .ok fs) :
    fs.map (·.label) = (builtinFamilies config.hosts).map (·.label) :=
  families_keep (P := fun gs => gs.map (·.label) = (builtinFamilies config.hosts).map (·.label))
    (fun label values gs hgs => (map_label_extendLabel _ label values gs).trans hgs) rfl h

/-- Reading lists never fails for an unknown label, as a file that cannot be read has an error of
its own. -/
theorem foldlM_load_ne_unknownFamily {read : FileReader} {hosts : HostConfig}
    {fs : List HeaderFamily} {label label' : String} {sources : List ValueListSource} :
    sources.foldlM (fun fs source => do
      let values ← load read source
      pure (extendLabel hosts label values fs)) fs ≠ .error (.unknownFamily label') := by
  induction sources generalizing fs with
  | nil =>
    intro h
    cases h
  | cons source rest ih =>
    intro h
    rw [List.foldlM_cons] at h
    rcases Fallible.bind_error_iff.1 h with h | ⟨fs', -, h⟩
    · rcases Fallible.bind_error_iff.1 h with h | ⟨values, -, h⟩
      · unfold load at h
        rcases Fallible.bind_error_iff.1 h with h | ⟨content, -, h⟩
        · cases hread : read source.path with
          | error e => rw [hread] at h; cases h
          | ok content => rw [hread] at h; cases h
        · cases h
      · cases h
    · exact ih h

/-- An unknown label among the families is that of a configured value list. -/
theorem unknownFamily_families {read : FileReader} {config : CampaignConfig} {label : String}
    (h : families read config = .error (.unknownFamily label)) :
    label ∈ config.corpus.valueLists.map (·.1) ∧
      label ∉ (builtinFamilies config.hosts).map (·.label) := by
  unfold families at h
  generalize builtinFamilies config.hosts = start at h ⊢
  generalize config.corpus.valueLists = lists at h ⊢
  induction lists generalizing start with
  | nil => cases h
  | cons entry rest ih =>
    rw [List.foldlM_cons] at h
    rcases Fallible.bind_error_iff.1 h with h | ⟨fs, hfirst, hrest⟩
    · dsimp only at h
      unfold addSources at h
      split at h
      · exact absurd h foldlM_load_ne_unknownFamily
      · next hnot =>
        cases h
        refine ⟨List.mem_cons_self, fun hmem => hnot ?_⟩
        obtain ⟨f, hf, hlabel⟩ := List.mem_map.1 hmem
        exact List.any_eq_true.2 ⟨f, hf, decide_eq_true hlabel⟩
    · obtain ⟨hmem, hlabel⟩ := ih fs hrest
      rw [map_label_addSources hfirst] at hlabel
      exact ⟨List.mem_cons_of_mem _ hmem, hlabel⟩

/-- The families of several headers are those on framing, where the policy is known. -/
theorem map_label_multiFamilies (fs : List HeaderFamily) :
    (builtinMultiFamilies fs).map (·.label) =
      if "CSP-FA" ∈ fs.map (·.label) then ["CSPvsXFO"] else [] := by
  unfold builtinMultiFamilies
  split
  · next hnone =>
    rw [List.find?_eq_none] at hnone
    rw [if_neg]
    · rfl
    · intro hmem
      obtain ⟨f, hf, hlabel⟩ := List.mem_map.1 hmem
      exact hnone f hf (beq_iff_eq.2 hlabel)
  · next policy hsome =>
    have hmem := List.mem_map_of_mem (f := (·.label)) (List.mem_of_find?_eq_some hsome)
    have hlabel : policy.label = "CSP-FA" := by simpa using List.find?_some hsome
    rw [hlabel] at hmem
    rw [if_pos hmem]
    rfl

/-- The labels of the parsing corpora are those of the built-in ones. -/
theorem map_label_parsingCorpora {read : FileReader} {config : CampaignConfig}
    {fs : List HeaderFamily} (h : families read config = .ok fs) :
    (parsingCorpora fs).map (·.label) =
      (parsingCorpora (builtinFamilies config.hosts)).map (·.label) := by
  have hlabels := map_label_families h
  have hfamilies : ∀ gs : List HeaderFamily, (parsingCorpora gs).map (·.label) =
      gs.map (·.label) ++ (builtinMultiFamilies gs).map (·.label) := by
    intro gs
    rw [parsingCorpora, List.map_append, List.map_map, List.map_map]
    rfl
  rw [hfamilies, hfamilies, map_label_multiFamilies, map_label_multiFamilies, hlabels]

/-! ## Both halves -/

/-- A result that a build of all kinds goes on after. -/
def Passes (result : Except Failure (List CorpusReport)) : Prop :=
  (∃ reports, result = .ok reports) ∨ ∃ label, result = .error (.unknownFamily label)

/-- What passes under all kinds is what ends with reports. -/
theorem passes_iff {result : Except Failure (List CorpusReport)} :
    Passes result ↔ ∃ reports, skipUnknown .all result = .ok reports := by
  unfold Passes
  cases result with
  | ok reports => simp [skipUnknown]
  | error e => cases e <;> simp [skipUnknown]

theorem skipUnknown_of_ne {e : Failure} (h : ∀ label, e ≠ .unknownFamily label) :
    skipUnknown .all (.error e) = .error e := by
  cases e with
  | unknownFamily label => exact absurd rfl (h label)
  | _ => rfl

theorem buildKind_all_eq (read : FileReader) (config : CampaignConfig) (only : Option String)
    (c : Connection) :
    buildKind read config .all only c =
      match skipUnknown .all (buildBasic config only c).1 with
      | .error e => (.error e, (buildBasic config only c).2)
      | .ok basic =>
        match skipUnknown .all (buildParsing read config only (buildBasic config only c).2).1 with
        | .error e => (.error e, (buildParsing read config only (buildBasic config only c).2).2)
        | .ok parsing =>
          (.ok (basic ++ parsing),
            (buildParsing read config only (buildBasic config only c).2).2) :=
  rfl

/-- When all kinds are built, each half passes, the second one on what the first one left. -/
theorem passes_of_buildKind_ok {read : FileReader} {config : CampaignConfig} {only : Option String}
    {c c' : Connection} {reports : List CorpusReport}
    (h : buildKind read config .all only c = (.ok reports, c')) :
    Passes (buildBasic config only c).1 ∧
      Passes (buildParsing read config only (buildBasic config only c).2).1 ∧
      (buildParsing read config only (buildBasic config only c).2).2 = c' := by
  rw [buildKind_all_eq] at h
  split at h
  · cases h
  · next basic hbasic =>
    split at h
    · cases h
    · next parsing hparsing =>
      cases h
      exact ⟨passes_iff.2 ⟨_, hbasic⟩, passes_iff.2 ⟨_, hparsing⟩, rfl⟩

theorem Passes.settled {config : CampaignConfig} {only : Option String}
    {corpora : List LabelCorpus} {c : Connection}
    (h : Passes (buildSelected config only corpora c).1) :
    Settled only corpora (buildSelected config only corpora c).1 := by
  rcases h with hok | ⟨label, herror⟩
  · exact Or.inl hok
  · obtain ⟨honly, hlabel, -⟩ := unknownFamily_buildSelected herror
    exact Or.inr ⟨label, honly, hlabel, herror⟩

theorem Passes.receives {config : CampaignConfig} {only : Option String}
    {corpora : List LabelCorpus} {c : Connection}
    (h : Passes (buildSelected config only corpora c).1) (hsound : c.store.Sound)
    (hashes :
      ResponseSpec.HashesApart (responses config (selected only corpora) ++ c.store.specs)) :
    c.store.Receives (responses config (selected only corpora))
      (buildSelected config only corpora c).2.store := by
  rcases h with ⟨reports, hok⟩ | ⟨label, herror⟩
  · exact receives_buildSelected hsound hashes (Prod.ext hok rfl)
  · obtain ⟨rfl, hlabel, hsame⟩ := unknownFamily_buildSelected herror
    rw [hsame, selected_eq_nil_iff.2 hlabel]
    exact .refl hsound

theorem buildParsing_of_error {read : FileReader} {config : CampaignConfig} {e : Failure}
    (h : families read config = .error e) (only : Option String) (c : Connection) :
    buildParsing read config only c = (.error e, c) := by
  rw [buildParsing, h]

theorem buildParsing_of_ok {read : FileReader} {config : CampaignConfig} {fs : List HeaderFamily}
    (h : families read config = .ok fs) (only : Option String) (c : Connection) :
    buildParsing read config only c = buildSelected config only (parsingCorpora fs) c := by
  rw [buildParsing, h]

/-- The corpora of all kinds, as far as the configured value lists let them be made. -/
def allCorpora (read : FileReader) (config : CampaignConfig) : List LabelCorpus :=
  basicCorpora config ++
    match families read config with
    | .ok fs => parsingCorpora fs
    | .error _ => []

theorem responses_selected_append (config : CampaignConfig) (only : Option String)
    (xs ys : List LabelCorpus) : responses config (selected only (xs ++ ys)) =
      responses config (selected only xs) ++ responses config (selected only ys) := by
  rw [selected, List.filter_append, responses, List.flatMap_append]
  rfl

/-- A build of all kinds that ended well has left nothing out: each half succeeded or has no corpus
for the label, and the store has the responses of all selected corpora, as long as SHA-256 has no
collision on them. -/
structure HidesNothing (read : FileReader) (config : CampaignConfig) (only : Option String)
    (c c' : Connection) : Prop where
  basic : Settled only (basicCorpora config) (buildBasic config only c).1
  parsing : Settled only (parsingCorpora (builtinFamilies config.hosts))
    (buildParsing read config only (buildBasic config only c).2).1
  stored : c.store.Sound →
    ResponseSpec.HashesApart
      (responses config (selected only (allCorpora read config)) ++ c.store.specs) →
    ∀ spec ∈ responses config (selected only (allCorpora read config)), spec ∈ c'.store.specs

/-- Halves that pass have stored all that they select. -/
theorem stored_of_passes {read : FileReader} {config : CampaignConfig} {only : Option String}
    {c : Connection} (hbasic : Passes (buildBasic config only c).1)
    (hparsing : Passes (buildParsing read config only (buildBasic config only c).2).1)
    (hsound : c.store.Sound)
    (hashes : ResponseSpec.HashesApart
      (responses config (selected only (allCorpora read config)) ++ c.store.specs)) :
    ∀ spec ∈ responses config (selected only (allCorpora read config)),
      spec ∈ (buildParsing read config only (buildBasic config only c).2).2.store.specs := by
  rw [allCorpora, responses_selected_append] at hashes ⊢
  have hfirst : c.store.Receives (responses config (selected only (basicCorpora config)))
      (buildBasic config only c).2.store := hbasic.receives hsound hashes.first
  generalize (buildBasic config only c).2 = c₁ at hfirst hparsing ⊢
  intro spec hspec
  cases hfamilies : families read config with
  | error e =>
    rw [hfamilies] at hspec
    rw [buildParsing_of_error hfamilies, hfirst.mem]
    exact Or.inr (by simpa [selected, responses] using hspec)
  | ok fs =>
    rw [hfamilies] at hspec hashes
    rw [buildParsing_of_ok hfamilies] at hparsing ⊢
    have hsecond := hparsing.receives hfirst.sound (hfirst.hashesApart hashes)
    rw [hsecond.mem, hfirst.mem, or_assoc]
    exact Or.inr (List.mem_append.1 hspec)

/-- A build of all kinds gives every failure back but unknown labels. When it ends well, it has left
nothing out exactly if no configured value list names a label without a family, other than the one
asked for; with such a list it comes to what the debug and basic corpora alone come to. -/
theorem buildKind_all (read : FileReader) (config : CampaignConfig) (only : Option String)
    (c : Connection) :
    (∀ e c₁, buildBasic config only c = (.error e, c₁) → (∀ label, e ≠ .unknownFamily label) →
      buildKind read config .all only c = (.error e, c₁)) ∧
    (∀ c₁ e c₂, Passes (buildBasic config only c).1 → (buildBasic config only c).2 = c₁ →
      buildParsing read config only c₁ = (.error e, c₂) → (∀ label, e ≠ .unknownFamily label) →
      buildKind read config .all only c = (.error e, c₂)) ∧
    (∀ reports c', buildKind read config .all only c = (.ok reports, c') →
      (HidesNothing read config only c c' ↔
        ∀ label, families read config = .error (.unknownFamily label) → only = some label ∧
          label ∉ (parsingCorpora (builtinFamilies config.hosts)).map (·.label))) ∧
    ∀ label, families read config = .error (.unknownFamily label) →
      label ∈ config.corpus.valueLists.map (·.1) ∧
      (∀ c₁, buildParsing read config only c₁ = (.error (.unknownFamily label), c₁)) ∧
      buildKind read config .all only c =
        (skipUnknown .all (buildBasic config only c).1, (buildBasic config only c).2) := by
  refine ⟨fun e c₁ hbasic hne => ?_, ?_, fun reports c' hok => ?_, fun label hlabel => ?_⟩
  · rw [buildKind_all_eq, hbasic, skipUnknown_of_ne hne]
  · rintro _ e c₂ hpasses rfl hparsing hne
    obtain ⟨basic, hbasic⟩ := passes_iff.1 hpasses
    rw [buildKind_all_eq, hbasic, hparsing, skipUnknown_of_ne hne]
  · obtain ⟨hbasic, hparsing, rfl⟩ := passes_of_buildKind_ok hok
    constructor
    · intro hhides label hlabel
      have hsettled := hhides.parsing
      rw [buildParsing_of_error hlabel] at hsettled
      rcases hsettled with ⟨_, heq⟩ | ⟨label', honly, hlabel', heq⟩
      · cases heq
      · cases heq
        exact ⟨honly, hlabel'⟩
    · intro hlists
      refine ⟨hbasic.settled, ?_, stored_of_passes hbasic hparsing⟩
      cases hfamilies : families read config with
      | error e =>
        rw [buildParsing_of_error hfamilies] at hparsing ⊢
        rcases hparsing with ⟨_, heq⟩ | ⟨label, heq⟩
        · cases heq
        · cases heq
          obtain ⟨honly, hlabel⟩ := hlists label hfamilies
          exact Or.inr ⟨label, honly, hlabel, rfl⟩
      | ok fs =>
        rw [buildParsing_of_ok hfamilies] at hparsing ⊢
        have hsettled := hparsing.settled
        unfold Settled at hsettled ⊢
        rw [map_label_parsingCorpora hfamilies] at hsettled
        exact hsettled
  · refine ⟨(unknownFamily_families hlabel).1, buildParsing_of_error hlabel only, ?_⟩
    rw [buildKind_all_eq, buildParsing_of_error hlabel]
    split
    · next e hbasic => rw [hbasic]
    · next basic hbasic =>
      rw [hbasic]
      show (Except.ok (basic ++ []), _) = _
      rw [List.append_nil]

/-! ## Builds without failing calls -/

/-- A connection that never fails stores everything. -/
theorem storeAll_of_never {c : Connection} (h : ∀ k, c.upsertFails k = false) (further : Nat)
    (specs : List ResponseSpec) :
    ∃ created c', storeAll further specs c = (.ok created, c') ∧ ∀ k, c'.upsertFails k = false := by
  induction specs generalizing c with
  | nil => exact ⟨0, c, rfl, h⟩
  | cons spec rest ih =>
    have hrecovers : Recovers c.upsertFails c.upserts 0 :=
      ⟨fun k hk => absurd hk (Nat.not_lt_zero k), h _⟩
    obtain ⟨created, c', hrest, hnever⟩ := @ih
      { c with store := (c.store.upsert c.now spec).2, upserts := c.upserts + 0 + 1 } h
    refine ⟨if (c.store.upsert c.now spec).1.2 then created + 1 else created, c', ?_, hnever⟩
    rw [storeAll, attempt_of_recovers hrecovers (Nat.zero_le further)]
    dsimp only
    rw [hrest]

/-- A connection that never fails stores all corpora. -/
theorem persistAll_of_never {c : Connection} (h : ∀ k, c.upsertFails k = false)
    (config : CampaignConfig) (corpora : List LabelCorpus) :
    ∃ reports c', persistAll config corpora c = (.ok reports, c') := by
  induction corpora generalizing c with
  | nil => exact ⟨[], c, rfl⟩
  | cons corpus rest ih =>
    let specs := corpus.specs config.hosts.redirectEmpty
    obtain ⟨created, c₁, hfirst, hnever⟩ :=
      storeAll_of_never h (attempts config - 1) (distinct specs)
    obtain ⟨reports, c₂, hrest⟩ := ih hnever
    refine ⟨⟨corpus.label, specs.length, (distinct specs).length, created⟩ :: reports, c₂, ?_⟩
    rw [persistAll, build, persist, hfirst]
    dsimp only
    rw [hrest]

/-- With a value list for a label without a family, a build of all kinds ends well although the
parsing half fails. -/
theorem buildKind_all_of_unknownFamily {read : FileReader} {config : CampaignConfig}
    {label : String} {c : Connection}
    (hlabel : families read config = .error (.unknownFamily label))
    (h : ∀ k, c.upsertFails k = false) :
    ∃ reports, (buildKind read config .all none c).1 = .ok reports := by
  obtain ⟨reports, c₁, hbasic⟩ := persistAll_of_never h config (selected none (basicCorpora config))
  have hall : buildBasic config none c = (.ok reports, c₁) := hbasic
  refine ⟨reports ++ [], ?_⟩
  rw [buildKind_all_eq, hall, buildParsing_of_error hlabel]
  rfl

end Corpus

end ProbeCampaign
