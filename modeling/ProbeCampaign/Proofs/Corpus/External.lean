import Mathlib.Tactic
import ProbeCampaign.Proofs.Corpus.Kinds
import ProbeCampaign.Proofs.Datum.Entries

/-!
# Values from outside

The configured value lists put further values behind the other values of the built-in families
(`foldlM_addSources`). In what is generated of a family, this adds a plain response for each of them
and changes nothing else (`HeaderFamily.addsProbes`). A value list for a label without a family is
refused, unless a file of an earlier list cannot be read (`families_valueLists`).
-/

namespace ProbeCampaign

/-! ## Families with further values -/

namespace HeaderFamily

/-- The family with further values behind its other ones. -/
def withOther (f : HeaderFamily) (values : List String) : HeaderFamily :=
  { f with otherValues := f.otherValues ++ values }

theorem withOther_nil (f : HeaderFamily) : f.withOther [] = f := by
  rw [withOther, List.append_nil]

theorem withOther_append (f : HeaderFamily) (xs ys : List String) :
    (f.withOther xs).withOther ys = f.withOther (xs ++ ys) := by
  rw [withOther, withOther, withOther, List.append_assoc]

/-- What further values change in what is generated of a family. -/
structure AddsProbes (f : HeaderFamily) (values : List String) : Prop where
  /-- Valid values are mixed with the same two invalid ones. -/
  swept : f.otherValues.take invalidSweep = ["", "INVALID"] ∧
    (f.withOther values).otherValues.take invalidSweep = ["", "INVALID"]
  /-- Valid values are probed under the same names. -/
  names : (f.withOther values).nameTests = f.nameTests
  /-- The same values are put into one response. -/
  several : (f.withOther values).multipleTests = f.multipleTests
  /-- Each further value has one plain response, right after those for legacy and other values. -/
  probed : ∀ redirect, ∃ back,
    f.valueTests redirect = (f.legacyValues ++ f.otherValues).map f.single ++ back ∧
    (f.withOther values).valueTests redirect =
      (f.legacyValues ++ f.otherValues).map f.single ++
        values.map (fun v => ⟨(f.headerName, v) :: f.baseResp, 200, f.label, .parsing⟩) ++ back

/-- Values are added behind those that are swept with each status code. -/
theorem take_otherValues_withOther {f : HeaderFamily}
    (h : f.otherValues.take invalidSweep = ["", "INVALID"]) (values : List String) :
    (f.withOther values).otherValues.take invalidSweep = ["", "INVALID"] := by
  have hlength : invalidSweep ≤ f.otherValues.length := by
    have hshort := congrArg List.length h
    rw [List.length_take] at hshort
    exact inf_eq_left.1 hshort
  rw [withOther, List.take_append_of_le_length hlength, h]

/-- Added values make further probes and leave the others as they are. Of the other values only
those that are mixed with valid ones occur elsewhere. -/
theorem addsProbes {f : HeaderFamily} (h : f.otherValues.take invalidSweep = ["", "INVALID"])
    (values : List String) : f.AddsProbes values where
  swept := ⟨h, take_otherValues_withOther h values⟩
  names := rfl
  several := by
    rw [multipleTests, take_otherValues_withOther h, ← h]
    rfl
  probed redirect := by
    refine ⟨_, rfl, ?_⟩
    have hvalues : f.legacyValues ++ (f.withOther values).otherValues =
        f.legacyValues ++ f.otherValues ++ values := (List.append_assoc _ _ _).symm
    show (f.legacyValues ++ (f.withOther values).otherValues).map f.single ++ _ = _
    rw [hvalues, List.map_append]
    rfl

/-- The other values of every built-in family begin with the empty one and an invalid word. -/
theorem take_otherValues_of_mem {hosts : HostConfig} {f : HeaderFamily}
    (h : f ∈ builtinFamilies hosts) : f.otherValues.take invalidSweep = ["", "INVALID"] := by
  have hall : (builtinFamilies hosts).map (fun f => f.otherValues.take invalidSweep) =
      List.replicate 17 ["", "INVALID"] := rfl
  have hmem := List.mem_map_of_mem (f := fun f => f.otherValues.take invalidSweep) h
  rw [hall] at hmem
  exact List.eq_of_mem_replicate hmem

end HeaderFamily

namespace Corpus

/-! ## Sources -/

/-- All files of value lists can be read. -/
def Readable (read : FileReader) (lists : List (String × List ValueListSource)) : Prop :=
  ∀ entry ∈ lists, ∀ source ∈ entry.2, ∃ bytes, read source.path = .ok bytes

/-- The values that a source adds, placeholders in them expanded. -/
def sourceValues (read : FileReader) (hosts : HostConfig) (source : ValueListSource) :
    List String :=
  match read source.path with
  | .ok bytes => UrlForms.expand hosts (ValueList.parseBytes bytes source.minCount)
  | .error _ => []

/-- The values that value lists add to a label: those of its sources in order. -/
def addedTo (read : FileReader) (hosts : HostConfig) (lists : List (String × List ValueListSource))
    (label : String) : List String :=
  (lists.filter fun entry => entry.1 = label).flatMap fun entry =>
    entry.2.flatMap (sourceValues read hosts)

/-- The values for a label are those of the first list, if it is for the label, and of the
others. -/
theorem addedTo_cons (read : FileReader) (hosts : HostConfig) (label label' : String)
    (sources : List ValueListSource) (rest : List (String × List ValueListSource)) :
    addedTo read hosts ((label, sources) :: rest) label' =
      (if label' = label then sources.flatMap (sourceValues read hosts) else []) ++
        addedTo read hosts rest label' := by
  unfold addedTo
  by_cases hlabel : label' = label
  · rw [if_pos hlabel, List.filter_cons_of_pos (by simp [hlabel]), List.flatMap_cons]
  · rw [if_neg hlabel, List.filter_cons_of_neg (by simp [Ne.symm hlabel]), List.nil_append]

/-- Families with the values that are added to their labels. -/
def extended (added : String → List String) (fs : List HeaderFamily) : List HeaderFamily :=
  fs.map fun f => f.withOther (added f.label)

theorem map_label_extended (added : String → List String) (fs : List HeaderFamily) :
    (extended added fs).map (·.label) = fs.map (·.label) := by
  rw [extended, List.map_map]
  rfl

theorem extended_nil (fs : List HeaderFamily) : extended (fun _ => []) fs = fs := by
  rw [extended, List.map_congr_left fun f _ => f.withOther_nil, List.map_id']

theorem extended_extended (added added' : String → List String) (fs : List HeaderFamily) :
    extended added' (extended added fs) =
      extended (fun label => added label ++ added' label) fs := by
  rw [extended, extended, List.map_map]
  exact List.map_congr_left fun f _ => f.withOther_append _ _

/-- A list for one label extends the families with this label. -/
theorem extendLabel_eq (hosts : HostConfig) (label : String) (values : List String)
    (fs : List HeaderFamily) :
    extendLabel hosts label values fs =
      extended (fun label' => if label' = label then UrlForms.expand hosts values else []) fs := by
  refine List.map_congr_left fun f _ => ?_
  show (if f.label = label then f.extendOther hosts values else f) =
    f.withOther (if f.label = label then UrlForms.expand hosts values else [])
  by_cases hlabel : f.label = label
  · rw [if_pos hlabel, if_pos hlabel]
    rfl
  · rw [if_neg hlabel, if_neg hlabel, f.withOther_nil]

section Sources

variable {read : FileReader} {hosts : HostConfig} {label : String} {sources : List ValueListSource}
  {fs : List HeaderFamily}

/-- The sources of a label that can all be read add their values in order. -/
theorem addSources_ok (hlabel : label ∈ fs.map (·.label))
    (hread : ∀ source ∈ sources, ∃ bytes, read source.path = .ok bytes) :
    addSources read hosts fs label sources = .ok (extended (fun label' =>
      if label' = label then sources.flatMap (sourceValues read hosts) else []) fs) := by
  have hknown : fs.any (·.label = label) = true := by simpa using hlabel
  rw [addSources, if_pos hknown]
  clear hlabel hknown
  induction sources generalizing fs with
  | nil =>
    simp only [List.flatMap_nil, ite_self, extended_nil]
    rfl
  | cons source rest ih =>
    obtain ⟨⟨bytes, hbytes⟩, hrest⟩ := List.forall_mem_cons.1 hread
    have hload : load read source = .ok (ValueList.parseBytes bytes source.minCount) := by
      rw [load, hbytes]
      rfl
    have hvalues : sourceValues read hosts source =
        UrlForms.expand hosts (ValueList.parseBytes bytes source.minCount) := by
      rw [sourceValues, hbytes]
    rw [List.foldlM_cons, hload]
    refine (ih hrest).trans ?_
    rw [extendLabel_eq, extended_extended, List.flatMap_cons, hvalues]
    congr 2
    funext label'
    by_cases hlabel' : label' = label
    · simp only [if_pos hlabel']
    · simp only [if_neg hlabel', List.append_nil]

variable (hosts) in
/-- A file that cannot be read ends the reading of sources. -/
theorem addSources_error (hlabel : label ∈ fs.map (·.label))
    (hread : ¬ ∀ source ∈ sources, ∃ bytes, read source.path = .ok bytes) :
    ∃ source ∈ sources, ∃ e, read source.path = .error e ∧
      addSources read hosts fs label sources = .error (.io e) := by
  have hknown : fs.any (·.label = label) = true := by simpa using hlabel
  rw [addSources, if_pos hknown]
  clear hlabel hknown
  induction sources generalizing fs with
  | nil => exact absurd (fun _ h => absurd h List.not_mem_nil) hread
  | cons source rest ih =>
    rw [List.foldlM_cons, load]
    cases hfile : read source.path with
    | error e => exact ⟨source, List.mem_cons_self, e, hfile, rfl⟩
    | ok bytes =>
      have hrest : ¬ ∀ source ∈ rest, ∃ bytes, read source.path = .ok bytes :=
        fun hall => hread (List.forall_mem_cons.2 ⟨⟨bytes, hfile⟩, hall⟩)
      obtain ⟨bad, hbad, e, he, heq⟩ :=
        @ih (extendLabel hosts label (ValueList.parseBytes bytes source.minCount) fs) hrest
      exact ⟨bad, List.mem_cons_of_mem _ hbad, e, he, heq⟩

theorem addSources_of_not_mem (hlabel : label ∉ fs.map (·.label)) :
    addSources read hosts fs label sources = .error (.unknownFamily label) := by
  have hunknown : ¬ fs.any (·.label = label) = true := by simpa using hlabel
  rw [addSources, if_neg hunknown]

end Sources

/-! ## Value lists -/

section Lists

variable {read : FileReader} {hosts : HostConfig} {lists : List (String × List ValueListSource)}
  {fs : List HeaderFamily}

/-- Lists that can all be read extend the families one after the other. The labels stay what they
are, so that the later lists find theirs. -/
theorem foldlM_addSources (hknown : ∀ entry ∈ lists, entry.1 ∈ fs.map (·.label))
    (hread : Readable read lists) :
    lists.foldlM (fun fs entry => addSources read hosts fs entry.1 entry.2) fs =
      .ok (extended (addedTo read hosts lists) fs) := by
  induction lists generalizing fs with
  | nil => exact congrArg Except.ok (extended_nil fs).symm
  | cons entry rest ih =>
    obtain ⟨label, sources⟩ := entry
    obtain ⟨hlabel, hrest⟩ := List.forall_mem_cons.1 hknown
    obtain ⟨hsources, hreadable⟩ := List.forall_mem_cons.1 hread
    rw [List.foldlM_cons, addSources_ok hlabel hsources]
    refine (ih (by rwa [map_label_extended]) hreadable).trans ?_
    rw [extended_extended]
    congr 2
    funext label'
    exact (addedTo_cons read hosts label label' sources rest).symm

variable (hosts) in
/-- A file that cannot be read ends it all, with the error of that file. -/
theorem foldlM_addSources_error (hknown : ∀ entry ∈ lists, entry.1 ∈ fs.map (·.label))
    (hread : ¬ Readable read lists) :
    ∃ entry ∈ lists, ∃ source ∈ entry.2, ∃ e, read source.path = .error e ∧
      lists.foldlM (fun fs entry => addSources read hosts fs entry.1 entry.2) fs =
        .error (.io e) := by
  induction lists generalizing fs with
  | nil => exact absurd (fun _ h => absurd h List.not_mem_nil) hread
  | cons entry rest ih =>
    obtain ⟨hlabel, hrest⟩ := List.forall_mem_cons.1 hknown
    rw [List.foldlM_cons]
    by_cases hsources : ∀ source ∈ entry.2, ∃ bytes, read source.path = .ok bytes
    · have hlater : ¬ Readable read rest :=
        fun hall => hread (List.forall_mem_cons.2 ⟨hsources, hall⟩)
      rw [addSources_ok hlabel hsources]
      obtain ⟨bad, hbad, source, hsource, e, he, heq⟩ :=
        @ih (extended (fun label' => if label' = entry.1 then
          entry.2.flatMap (sourceValues read hosts) else []) fs)
        (by rwa [map_label_extended]) hlater
      exact ⟨bad, List.mem_cons_of_mem _ hbad, source, hsource, e, he, heq⟩
    · obtain ⟨source, hsource, e, he, heq⟩ := addSources_error hosts hlabel hsources
      exact ⟨entry, List.mem_cons_self, source, hsource, e, he, by rw [heq]; rfl⟩

end Lists

/-- In an ascending table, the entries before one are those with a smaller key. -/
theorem filter_lt_of_ascends {α : Type} {before after : List (String × α)} {entry : String × α}
    (h : Datum.Ascends (before ++ entry :: after)) :
    (before ++ entry :: after).filter (fun e => e.1 < entry.1) = before := by
  obtain ⟨-, htail, hcross⟩ := List.pairwise_append.1 h
  have hafter := (List.pairwise_cons.1 htail).1
  rw [List.filter_append, List.filter_eq_self.2, List.filter_cons_of_neg, List.filter_eq_nil_iff.2,
    List.append_nil]
  · exact fun e he hlt => lt_asymm (hafter e he) (of_decide_eq_true hlt)
  · simp
  · exact fun e he => decide_eq_true (hcross e he entry List.mem_cons_self)

/-! ## Configurations -/

theorem ascends_of_map? {α : Type} {value? : Datum → Option α} {d : Datum}
    {entries : List (String × α)} (h : d.map? value? = some entries) : Datum.Ascends entries := by
  obtain ⟨given, -, rfl⟩ := Option.map_eq_some_iff.1 h
  exact Datum.ascends_ofKeyed id given

/-- The lists of a configuration are in the order of their labels. -/
theorem ascends_valueLists_of_ofDatum? {d : Datum} {p : CorpusPolicy}
    (h : CorpusPolicy.ofDatum? d = some p) : Datum.Ascends p.valueLists := by
  simp only [CorpusPolicy.ofDatum?, Option.bind_eq_bind, Option.bind_eq_some_iff] at h
  obtain ⟨r, -, retries, -, lists, hlists, heq⟩ := h
  obtain rfl := Option.some.inj heq
  unfold Record.defaulted at hlists
  split at hlists
  · exact ascends_of_map? hlists
  · cases hlists
    exact .nil

/-- The value lists of a configuration that was read are in the order of their labels. -/
theorem ascends_valueLists_of_parse {home : String} {content : List Char} {config : CampaignConfig}
    (h : CampaignConfig.parse home content = .ok config) :
    Datum.Ascends config.corpus.valueLists := by
  unfold CampaignConfig.parse at h
  obtain ⟨c, hc, h⟩ : ∃ c, (Toml.parseChars? content >>= CampaignConfig.ofDatum? home) = some c ∧
      (c.validate >>= fun _ => pure c) = .ok config := by
    cases hread : Toml.parseChars? content >>= CampaignConfig.ofDatum? home with
    | none =>
      rw [hread] at h
      cases h
    | some c =>
      rw [hread] at h
      exact ⟨c, rfl, h⟩
  obtain ⟨-, -, heq⟩ := Fallible.bind_ok_iff.1 h
  obtain rfl := Except.ok.inj heq
  obtain ⟨d, -, hd⟩ := Option.bind_eq_some_iff.1 hc
  simp only [CampaignConfig.ofDatum?, Option.bind_eq_bind, Option.bind_eq_some_iff] at hd
  obtain ⟨r, -, dbPath, -, hosts, -, plan, -, policy, -, corpus, hcorpus, templates, -, browsers, -,
    heq⟩ := hd
  obtain rfl := Option.some.inj heq
  unfold Record.defaulted at hcorpus
  split at hcorpus
  · exact ascends_valueLists_of_ofDatum? hcorpus
  · cases hcorpus
    exact .nil

/-- Value lists for built-in families add plain responses for their values and change nothing else.
The first list for a label without a family is refused, unless a file of an earlier list cannot be
read; the lists of a configuration that was read are in the order of their labels. -/
theorem families_valueLists (read : FileReader) (config : CampaignConfig) :
    ((∀ entry ∈ config.corpus.valueLists,
        entry.1 ∈ (builtinFamilies config.hosts).map (·.label)) →
      Readable read config.corpus.valueLists →
      families read config = .ok ((builtinFamilies config.hosts).map fun f =>
        f.withOther (addedTo read config.hosts config.corpus.valueLists f.label)) ∧
      ∀ f ∈ builtinFamilies config.hosts,
        f.AddsProbes (addedTo read config.hosts config.corpus.valueLists f.label)) ∧
    (Datum.Ascends config.corpus.valueLists → ∀ entry ∈ config.corpus.valueLists,
      entry.1 ∉ (builtinFamilies config.hosts).map (·.label) →
      (∀ earlier ∈ config.corpus.valueLists, earlier.1 < entry.1 →
        earlier.1 ∈ (builtinFamilies config.hosts).map (·.label)) →
      (Readable read (config.corpus.valueLists.filter fun earlier => earlier.1 < entry.1) →
        families read config = .error (.unknownFamily entry.1)) ∧
      (¬ Readable read (config.corpus.valueLists.filter fun earlier => earlier.1 < entry.1) →
        ∃ earlier ∈ config.corpus.valueLists, earlier.1 < entry.1 ∧ ∃ source ∈ earlier.2, ∃ e,
          read source.path = .error e ∧ families read config = .error (.io e))) ∧
    ∀ home content, CampaignConfig.parse home content = .ok config →
      Datum.Ascends config.corpus.valueLists := by
  have hfamilies : families read config = config.corpus.valueLists.foldlM
      (fun fs entry => addSources read config.hosts fs entry.1 entry.2)
      (builtinFamilies config.hosts) := rfl
  refine ⟨fun hknown hread => ⟨hfamilies.trans (foldlM_addSources hknown hread), fun f hf => ?_⟩,
    fun hascends entry hentry hunknown hearlier => ?_,
    fun home content => ascends_valueLists_of_parse⟩
  · exact HeaderFamily.addsProbes (HeaderFamily.take_otherValues_of_mem hf) _
  · obtain ⟨before, after, hsplit⟩ := List.append_of_mem hentry
    have hbefore : config.corpus.valueLists.filter (fun e => e.1 < entry.1) = before := by
      rw [hsplit] at hascends ⊢
      exact filter_lt_of_ascends hascends
    have hknown : ∀ e ∈ before, e.1 ∈ (builtinFamilies config.hosts).map (·.label) := by
      intro e he
      rw [← hbefore, List.mem_filter] at he
      exact hearlier e he.1 (of_decide_eq_true he.2)
    rw [hbefore, hfamilies, hsplit, List.foldlM_append]
    refine ⟨fun hread => ?_, fun hread => ?_⟩
    · refine Fallible.bind_error_iff.2 (.inr ⟨_, foldlM_addSources hknown hread, ?_⟩)
      rw [List.foldlM_cons, addSources_of_not_mem (by rwa [map_label_extended])]
      rfl
    · obtain ⟨bad, hbad, source, hsource, e, he, heq⟩ :=
        foldlM_addSources_error config.hosts hknown hread
      have hlt := hbad
      rw [← hbefore, List.mem_filter] at hlt
      exact ⟨bad, List.mem_append_left _ hbad, of_decide_eq_true hlt.2, source, hsource, e, he,
        Fallible.bind_error_iff.2 (.inl heq)⟩

/-- One file, with a frequent value and a rare one. -/
def oneFile : FileReader := fun path =>
  if path = "observed.txt" then
    .ok "value count\nsame-origin, origin 40\nrare 1\n".toUTF8
  else .error .notFound

/-- The default configuration with some value lists. -/
def listing (lists : List (String × List ValueListSource)) : CampaignConfig :=
  { CampaignConfig.default "" with corpus := ⟨3, lists⟩ }

/-- A value list for referrers. -/
def referrerList (path : String) : List (String × List ValueListSource) :=
  [("RP", [⟨path, 2⟩])]

/-- The family gains the frequent value. A list for a label that no family has is refused, unless
the file of the list before it is missing. -/
theorem families_valueLists_referrers :
    ((∀ entry ∈ referrerList "observed.txt",
        entry.1 ∈ (builtinFamilies .default).map (·.label)) ∧
      Readable oneFile (referrerList "observed.txt") ∧
      ∃ fs, families oneFile (listing (referrerList "observed.txt")) = .ok fs ∧
        (referrerFamily .default).withOther ["same-origin, origin"] ∈ fs) ∧
    ∀ path, Datum.Ascends (referrerList path ++ [("XXX", [])]) ∧
      "XXX" ∉ (builtinFamilies .default).map (·.label) ∧
      families oneFile (listing (referrerList path ++ [("XXX", [])])) =
        .error (if path = "observed.txt" then .unknownFamily "XXX" else .io .notFound) := by
  have hlabels : (builtinFamilies .default).map (·.label) =
      ["XFO", "CSP-FA", "CORS-ACAO", "CORS-ACAC", "CORS-ACAM", "CORS-ACAH", "CORS-ACEH", "CORP",
        "COEP", "COOP", "CSP-SCRIPT", "CSP-IMG", "HSTS", "PP", "RP", "TAO", "XCTO"] := rfl
  have hrp : "RP" ∈ (builtinFamilies .default).map (·.label) := by
    rw [hlabels]
    decide
  have hunknown : "XXX" ∉ (builtinFamilies .default).map (·.label) := by
    rw [hlabels]
    decide
  have hknown : ∀ path, ∀ entry ∈ referrerList path,
      entry.1 ∈ (builtinFamilies .default).map (·.label) := by
    intro path entry hentry
    rwa [List.mem_singleton.1 hentry]
  have hread : Readable oneFile (referrerList "observed.txt") := by
    intro entry hentry source hsource
    rw [List.mem_singleton.1 hentry] at hsource
    rw [List.mem_singleton.1 hsource]
    exact ⟨_, if_pos rfl⟩
  have hadded : addedTo oneFile .default (referrerList "observed.txt") "RP" =
      ["same-origin, origin"] := by
    decide +kernel
  refine ⟨⟨hknown _, hread, _, ((families_valueLists oneFile
    (listing (referrerList "observed.txt"))).1 (hknown _) hread).1, ?_⟩, fun path => ?_⟩
  · have hmem : referrerFamily .default ∈ builtinFamilies .default := by simp [builtinFamilies]
    exact List.mem_map.2 ⟨_, hmem, congrArg _ hadded⟩
  · have hlt : "RP" < "XXX" := by decide +kernel
    have hascends : Datum.Ascends (referrerList path ++ [("XXX", [])]) :=
      .cons (fun entry hentry => by rwa [List.mem_singleton.1 hentry])
        (List.pairwise_singleton _ _)
    have hbefore : (listing (referrerList path ++ [("XXX", [])])).corpus.valueLists.filter
        (fun earlier => earlier.1 < ("XXX", ([] : List ValueListSource)).1) = referrerList path :=
      filter_lt_of_ascends hascends
    obtain ⟨hrefused, hmissing⟩ := (families_valueLists oneFile
      (listing (referrerList path ++ [("XXX", [])]))).2.1 hascends ("XXX", [])
      (List.mem_append_right _ List.mem_cons_self) hunknown fun earlier hmem hlt =>
        hknown path earlier (hbefore ▸ List.mem_filter.2 ⟨hmem, decide_eq_true hlt⟩)
    rw [hbefore] at hrefused hmissing
    refine ⟨hascends, hunknown, ?_⟩
    by_cases hpath : path = "observed.txt"
    · subst hpath
      rw [if_pos rfl, hrefused hread]
    · have hunread : oneFile path = .error .notFound := if_neg hpath
      obtain ⟨-, -, -, source, -, e, he, heq⟩ := hmissing fun hall => by
        obtain ⟨bytes, hbytes⟩ := hall _ List.mem_cons_self _ List.mem_cons_self
        rw [hunread] at hbytes
        cases hbytes
      have hmissing : e = .notFound := by
        unfold oneFile at he
        split at he
        · cases he
        · exact (Except.error.inj he).symm
      rw [if_neg hpath, heq, hmissing]

end Corpus

end ProbeCampaign
