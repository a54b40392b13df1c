import ProbeCampaign.Config
import ProbeCampaign.Proofs.CommandLine.Exec
import ProbeCampaign.Proofs.Datum.Record
import ProbeCampaign.Proofs.Toml.Tree

/-!
# Configurations that are saved and loaded

Every section of a configuration is read back from its record (`HostConfig.ofDatum?_toDatum` and so
on), and the order that a document gives its entries makes no difference (`ofDatum?_arrange`). So a
configuration is loaded as it was saved, or refused for the flaw that it has (`load_saved`): no
default takes the place of what was saved, be it an empty list.
-/

namespace ProbeCampaign

open Toml (Flat Plain Writable arrange hasHeader)

/-! ## Sections -/

theorem plain_nat {n : Nat} (h : n < capacity 63) : Plain (Toml.depthLimit - 1) (.int n) := by
  refine .int (Decimal.fitsInt64_iff.2 ⟨?_, Int.ofNat_lt.2 h⟩)
  omega

theorem plain_nat32 {n : Nat} (h : n < capacity 32) : Plain (Toml.depthLimit - 1) (.int n) := by
  have hsmall : capacity 32 < capacity 63 := by decide
  exact plain_nat (h.trans hsmall)

namespace HostConfig

/-- The record of the limits has no table inside. -/
theorem flat_toDatum (h : HostConfig) : Flat h.toDatum := by
  refine .table (by simp) ?_
  simp [Plain.text]

/-- The hosts are read from their own record. -/
theorem ofDatum?_toDatum (h : HostConfig) : ofDatum? h.toDatum = some h := by
  rw [ofDatum?, toDatum, Record.of?_table _ (by simp)]
  rfl

end HostConfig

namespace PlanLimits

/-- The numbers have at most 32 bits, and the last at most 63. -/
structure IsSavable (p : PlanLimits) : Prop where
  maxRespsPerUrl : p.maxRespsPerUrl < capacity 32
  maxPopupsPerUrl : p.maxPopupsPerUrl < capacity 32
  timeoutSecs : p.timeoutSecs < capacity 32
  maxUrlsUntilRestart : p.maxUrlsUntilRestart < capacity 63

theorem flat_toDatum {p : PlanLimits} (h : p.IsSavable) : Flat p.toDatum := by
  refine .table (by simp) ?_
  have hschemes : Plain (Toml.depthLimit - 1) (.texts (p.schemes.map Scheme.name)) := by
    show Plain (Toml.depthLimit - 2 + 1) _
    refine .list fun d hd => ?_
    obtain ⟨s, -, rfl⟩ := List.mem_map.1 hd
    exact .text s
  simp [hschemes, plain_nat32 h.maxRespsPerUrl, plain_nat32 h.maxPopupsPerUrl,
    plain_nat32 h.timeoutSecs, plain_nat h.maxUrlsUntilRestart]

theorem ofDatum?_name (s : Scheme) : Scheme.ofDatum? (.text s.name) = some s := by
  cases s <;> rfl

/-- The limits are read from their own record. -/
theorem ofDatum?_toDatum {p : PlanLimits} (h : p.IsSavable) : ofDatum? p.toDatum = some p := by
  have hschemes : Datum.list? Scheme.ofDatum? (.texts (p.schemes.map Scheme.name)) =
      some p.schemes := by
    rw [Datum.texts, List.map_map]
    exact Datum.list?_map fun s _ => ofDatum?_name s
  have hlarge : capacity 63 < capacity 64 := by decide
  simp only [ofDatum?, Option.bind_eq_bind, Option.bind_eq_some_iff]
  exact ⟨_, Record.of?_table _ (by simp),
    _, Record.defaulted_eq_some rfl (Datum.natOfBits?_int h.maxRespsPerUrl) _,
    _, Record.defaulted_eq_some rfl (Datum.natOfBits?_int h.maxPopupsPerUrl) _,
    _, Record.defaulted_eq_some rfl (Datum.natOfBits?_int h.timeoutSecs) _,
    _, Record.defaulted_eq_some rfl hschemes _,
    _, Record.defaulted_eq_some rfl
      (Datum.natOfBits?_int (h.maxUrlsUntilRestart.trans hlarge)) _, rfl⟩

end PlanLimits

namespace RepeatPolicy

/-- The numbers have at most 32 bits. -/
structure IsSavable (p : RepeatPolicy) : Prop where
  requiredRuns : p.requiredRuns < capacity 32
  timeoutMultiplier : p.timeoutMultiplier < capacity 32

theorem flat_toDatum {p : RepeatPolicy} (h : p.IsSavable) : Flat p.toDatum := by
  refine .table (by simp) ?_
  simp [Plain.bool, plain_nat32 h.requiredRuns, plain_nat32 h.timeoutMultiplier]

/-- The policy for repetitions is read from its own record. -/
theorem ofDatum?_toDatum {p : RepeatPolicy} (h : p.IsSavable) : ofDatum? p.toDatum = some p := by
  simp only [ofDatum?, Option.bind_eq_bind, Option.bind_eq_some_iff]
  exact ⟨_, Record.of?_table _ (by simp),
    _, Record.defaulted_eq_some rfl (Datum.natOfBits?_int h.requiredRuns) _,
    _, Record.defaulted_eq_some rfl (Datum.natOfBits?_int h.timeoutMultiplier) _,
    _, Record.defaulted_eq_some rfl (Datum.bool?_bool _) _, rfl⟩

end RepeatPolicy

namespace TestTemplate

/-- The numbers have at most 32 bits. -/
structure IsSavable (t : TestTemplate) : Prop where
  numRespIds : t.numRespIds < capacity 32
  popupsParsing : t.popupsParsing < capacity 32
  popupsBasic : t.popupsBasic < capacity 32

theorem flat_toDatum {t : TestTemplate} (h : t.IsSavable) : Flat t.toDatum := by
  refine .table (by simp) ?_
  simp [Plain.bool, Plain.text, plain_nat32 h.numRespIds, plain_nat32 h.popupsParsing,
    plain_nat32 h.popupsBasic]

/-- A page is read from its own record. -/
theorem ofDatum?_toDatum {t : TestTemplate} (h : t.IsSavable) : ofDatum? t.toDatum = some t := by
  have hmodes : ModeFilter.ofName? t.modes.name = some t.modes := by
    cases t.modes <;> rfl
  simp only [ofDatum?, Option.bind_eq_bind, Option.bind_eq_some_iff]
  exact ⟨_, Record.of?_table _ (by simp), _, Record.required_eq_some rfl rfl,
    _, Record.required_eq_some rfl rfl,
    _, Record.required_eq_some rfl (Datum.natOfBits?_int h.numRespIds),
    _, Record.defaulted_eq_some rfl (Datum.natOfBits?_int h.popupsParsing) _,
    _, Record.defaulted_eq_some rfl (Datum.natOfBits?_int h.popupsBasic) _,
    _, Record.defaulted_eq_some rfl (Datum.bool?_bool _) _,
    _, Record.defaulted_eq_some rfl hmodes _, rfl⟩

end TestTemplate

namespace BrowserEntry

theorem flat_toDatum (e : BrowserEntry) : Flat e.toDatum := by
  refine .table (by simp [entries]) ?_
  simp [entries, Plain.text]

/-- A browser is read from its own record. -/
theorem ofDatum?_toDatum (e : BrowserEntry) : ofDatum? e.toDatum = some e := by
  have hheadless : HeadlessMode.ofName? e.headlessMode.name = some e.headlessMode := by
    cases e.headlessMode <;> rfl
  have hautomation : AutomationMode.ofName? e.automationMode.name = some e.automationMode := by
    cases e.automationMode <;> rfl
  simp only [ofDatum?, Option.bind_eq_bind, Option.bind_eq_some_iff]
  exact ⟨_, Record.of?_table _ (by simp [entries]), _, Record.required_eq_some rfl rfl,
    _, Record.required_eq_some rfl rfl, _, Record.required_eq_some rfl rfl,
    _, Record.required_eq_some rfl hheadless, _, Record.required_eq_some rfl hautomation,
    _, Record.defaulted_eq_some rfl (Datum.text?_text _) _, rfl⟩

end BrowserEntry

namespace ValueListSource

theorem flat_toDatum {s : ValueListSource} (h : s.minCount < capacity 63) : Flat s.toDatum := by
  refine .table (by simp) ?_
  simp [Plain.text, plain_nat h]

/-- A source of values is read from its own record, as its count fits an integer. -/
theorem ofDatum?_toDatum {s : ValueListSource} (h : s.minCount < capacity 63) :
    ofDatum? s.toDatum = some s := by
  have hlarge : capacity 63 < capacity 64 := by decide
  simp only [ofDatum?, Option.bind_eq_bind, Option.bind_eq_some_iff]
  exact ⟨_, Record.of?_table _ (by simp), _, Record.required_eq_some rfl rfl,
    _, Record.defaulted_eq_some rfl (Datum.natOfBits?_int (h.trans hlarge)) _, rfl⟩

end ValueListSource

namespace CorpusPolicy

/-- The value lists are a map in the order of its labels, with counts of at most 63 bits. -/
structure IsSavable (p : CorpusPolicy) : Prop where
  upsertRetries : p.upsertRetries < capacity 32
  labels : Datum.Ascends p.valueLists
  minCounts : ∀ e ∈ p.valueLists, ∀ s ∈ e.2, s.minCount < capacity 63

/-- The sources of a family. -/
def sourcesDatum (sources : List ValueListSource) : Datum :=
  .list (sources.map ValueListSource.toDatum)

theorem toDatum_eq (p : CorpusPolicy) :
    p.toDatum = .table [("upsert_retries", .int p.upsertRetries),
      ("value_lists", .table (p.valueLists.map fun e => (e.1, sourcesDatum e.2)))] :=
  rfl

section Savable

variable {p : CorpusPolicy} (h : p.IsSavable)

include h

theorem flats_sourcesDatum {e : String × List ValueListSource} (he : e ∈ p.valueLists) :
    ∀ d ∈ e.2.map ValueListSource.toDatum, Flat d := by
  intro d hd
  obtain ⟨s, hs, rfl⟩ := List.mem_map.1 hd
  exact ValueListSource.flat_toDatum (h.minCounts e he s hs)

theorem writable_toDatum (depth : Nat) : Writable (depth + 3) p.toDatum := by
  have hlists : Writable (depth + 2)
      (.table (p.valueLists.map fun e => (e.1, sourcesDatum e.2))) := by
    refine .table ?_ ?_
    · rw [List.map_map]
      exact h.labels.nodup
    · intro e he
      obtain ⟨e', he', rfl⟩ := List.mem_map.1 he
      exact Toml.writable_flats (flats_sourcesDatum h he') depth
  rw [toDatum_eq]
  refine .table (by simp) ?_
  simp [hlists, Writable.plain (plain_nat32 h.upsertRetries)]

/-- In a document the empty lists come first. -/
theorem arrange_toDatum : ∃ entries : List (String × List ValueListSource),
    entries.Perm p.valueLists ∧
      arrange p.toDatum = .table [("upsert_retries", .int p.upsertRetries),
        ("value_lists", .table (entries.map fun e => (e.1, sourcesDatum e.2)))] := by
  obtain ⟨entries, hperm, harrange⟩ := Toml.exists_perm_arrange (f := sourcesDatum)
    fun e he => Toml.arrange_flats (flats_sourcesDatum h he)
  refine ⟨entries, hperm, ?_⟩
  rw [← harrange]
  rfl

/-- The value lists are read back from a document. -/
theorem ofDatum?_arrange : ofDatum? (arrange p.toDatum) = some p := by
  obtain ⟨entries, hperm, harrange⟩ := arrange_toDatum h
  have hlists : Datum.map? (Datum.list? ValueListSource.ofDatum?)
      (.table (entries.map fun e => (e.1, sourcesDatum e.2))) = some p.valueLists := by
    refine Datum.map?_of_perm h.labels hperm fun e he => ?_
    exact Datum.list?_map fun s hs => ValueListSource.ofDatum?_toDatum (h.minCounts e he s hs)
  rw [harrange]
  simp only [ofDatum?, Option.bind_eq_bind, Option.bind_eq_some_iff]
  exact ⟨_, Record.of?_table _ (by simp),
    _, Record.defaulted_eq_some rfl (Datum.natOfBits?_int h.upsertRetries) _,
    _, Record.defaulted_eq_some rfl hlists _, rfl⟩

end Savable

end CorpusPolicy

namespace CampaignConfig

/-- Every number fits its field, and those of 64 bits are signed ones as well. -/
structure IsSavable (c : CampaignConfig) : Prop where
  plan : c.plan.IsSavable
  repeatPolicy : c.repeatPolicy.IsSavable
  corpus : c.corpus.IsSavable
  templates : ∀ t ∈ c.templates, t.IsSavable

theorem nodup_toEntries (c : CampaignConfig) : (c.toEntries.map (·.1)).Nodup := by
  simp [toEntries]

theorem flats_browsers (c : CampaignConfig) :
    ∀ d ∈ c.browsers.map BrowserEntry.toDatum, Flat d := by
  intro d hd
  obtain ⟨e, -, rfl⟩ := List.mem_map.1 hd
  exact e.flat_toDatum

/-- In a document each section has what it was given, arranged if it has a header. -/
theorem defaulted_arrange {α : Type} (c : CampaignConfig) {name : String} {d : Datum}
    (hd : c.toEntries.lookup name = some d) {read? : Datum → Option α} {a : α}
    (hread : read? (if hasHeader d then arrange d else d) = some a) (fallback : α) :
    (Record.mk (Toml.own c.toEntries ++ Toml.arrangeHeaded c.toEntries) false).defaulted name read?
      fallback = some a := by
  refine Record.defaulted_eq_some ?_ hread fallback
  rw [Record.get?, Toml.lookup_arrange c.nodup_toEntries, hd, Option.map_some]

theorem read_arrange {α : Type} {d : Datum} (h : arrange d = d) {read? : Datum → Option α} {a : α}
    (hread : read? d = some a) : read? (if hasHeader d then arrange d else d) = some a := by
  rwa [h, ite_self]

section Savable

variable {c : CampaignConfig} (h : c.IsSavable)

include h

theorem flats_templates : ∀ d ∈ c.templates.map TestTemplate.toDatum, Flat d := by
  intro d hd
  obtain ⟨t, ht, rfl⟩ := List.mem_map.1 hd
  exact TestTemplate.flat_toDatum (h.templates t ht)

/-- Every part of a configuration can be written: it is nested no deeper than TOML takes. -/
theorem writable_toEntries : ∀ e ∈ c.toEntries, Writable Toml.depthLimit e.2 := by
  intro e he
  simp only [toEntries, List.mem_cons, List.not_mem_nil, or_false] at he
  rcases he with rfl | rfl | rfl | rfl | rfl | rfl | rfl
  · exact .plain (.text _)
  · exact c.hosts.flat_toDatum.writable _
  · exact (PlanLimits.flat_toDatum h.plan).writable _
  · exact (RepeatPolicy.flat_toDatum h.repeatPolicy).writable _
  · exact CorpusPolicy.writable_toDatum h.corpus _
  · exact Toml.writable_flats (flats_templates h) _
  · exact Toml.writable_flats c.flats_browsers _

/-- Whatever the home directory, no default takes the place of what a document holds. -/
theorem ofDatum?_arrange (home : String) : ofDatum? home (arrange c.toDatum) = some c := by
  have htemplates : Datum.list? TestTemplate.ofDatum?
      (.list (c.templates.map TestTemplate.toDatum)) = some c.templates :=
    Datum.list?_map fun t ht => TestTemplate.ofDatum?_toDatum (h.templates t ht)
  have hbrowsers : Datum.list? BrowserEntry.ofDatum?
      (.list (c.browsers.map BrowserEntry.toDatum)) = some c.browsers :=
    Datum.list?_map fun e _ => e.ofDatum?_toDatum
  have hcorpus : CorpusPolicy.ofDatum? (if hasHeader c.corpus.toDatum then arrange c.corpus.toDatum
      else c.corpus.toDatum) = some c.corpus := by
    have hheader : hasHeader c.corpus.toDatum = true := rfl
    rw [hheader, if_pos rfl]
    exact CorpusPolicy.ofDatum?_arrange h.corpus
  rw [toDatum, arrange]
  simp only [ofDatum?, Option.bind_eq_bind, Option.bind_eq_some_iff]
  exact ⟨_, Record.of?_table _ (Toml.nodup_arrange c.nodup_toEntries),
    _, c.defaulted_arrange rfl (read_arrange rfl (Datum.text?_text c.dbPath)) _,
    _, c.defaulted_arrange rfl
      (read_arrange c.hosts.flat_toDatum.arrange c.hosts.ofDatum?_toDatum) _,
    _, c.defaulted_arrange rfl (read_arrange (PlanLimits.flat_toDatum h.plan).arrange
      (PlanLimits.ofDatum?_toDatum h.plan)) _,
    _, c.defaulted_arrange rfl (read_arrange (RepeatPolicy.flat_toDatum h.repeatPolicy).arrange
      (RepeatPolicy.ofDatum?_toDatum h.repeatPolicy)) _,
    _, c.defaulted_arrange rfl hcorpus _,
    _, c.defaulted_arrange rfl (read_arrange (Toml.arrange_flats (flats_templates h)) htemplates) _,
    _, c.defaulted_arrange rfl (read_arrange (Toml.arrange_flats c.flats_browsers) hbrowsers) _,
    rfl⟩

/-- A configuration has a text, and is read back from it or refused for its flaw. -/
theorem exists_text :
    ∃ text, c.render? = some text ∧
      ∀ home, parse home text.toList = c.validate.map fun _ => c := by
  obtain ⟨text, hrender, hparse⟩ :=
    Toml.parseChars?_render? c.nodup_toEntries (writable_toEntries h)
  refine ⟨text, hrender, fun home => ?_⟩
  have hread : (Toml.parseChars? text.toList >>= ofDatum? home) = some c := by
    rw [hparse]
    exact ofDatum?_arrange h home
  unfold parse
  rw [hread]
  show (c.validate >>= fun _ => pure c) = _
  cases c.validate with
  | ok _ => rfl
  | error e => rfl

end Savable

/-! ## Files -/

/-- What is wrong with a configuration is said by its first flaw. -/
theorem exists_reason {c : CampaignConfig} {e : Failure} (h : c.validate = .error e) :
    ∃ reason, c.flaw? = some reason ∧ e = .invalidConfig reason := by
  unfold validate at h
  cases hflaw : c.flaw? with
  | none =>
    rw [hflaw] at h
    cases h
  | some reason =>
    rw [hflaw] at h
    cases h
    exact ⟨reason, rfl, rfl⟩

section Files

open CommandLine CommandLine.Setup

/-- A text that was saved is what is loaded from its path. -/
theorem exec_loadConfig {path text : String} {t t' : Transcript} {tree tree' : FileTree}
    (hsave : exec (saveText path text) t tree = ((.ok (.ok ()), t'), tree')) (home : String)
    (t₁ : Transcript) :
    exec (loadConfig home path) t₁ tree' =
      (((parse home text.toList).mapError fun f =>
        (Complaint.ofFailure f).during ("loading config " ++ path), t₁), tree') := by
  unfold loadConfig
  rw [exec_bind_ok (exec_readText_of_saveText hsave t₁)]
  show exec (Run.orComplain _ (parse home text.toList)) t₁ tree' = _
  cases parse home text.toList with
  | ok c => rfl
  | error e => rfl

/-- A configuration has a text. Wherever it could be saved it is loaded again, equal in every field,
if it is valid. If it is not, loading fails for the flaw that validation finds. -/
theorem load_saved {c : CampaignConfig} (h : c.IsSavable) :
    ∃ text, c.render? = some text ∧
      (∀ home, parse home text.toList = c.validate.map fun _ => c) ∧
      ∀ path t t' tree tree', exec (saveText path text) t tree = ((.ok (.ok ()), t'), tree') →
        ∀ home t₁,
          (c.validate = .ok () → exec (loadConfig home path) t₁ tree' = ((.ok c, t₁), tree')) ∧
          ∀ e, c.validate = .error e →
            (∃ reason, c.flaw? = some reason ∧ e = .invalidConfig reason) ∧
            exec (loadConfig home path) t₁ tree' =
              ((.error ((Complaint.ofFailure e).during ("loading config " ++ path)), t₁),
                tree') := by
  obtain ⟨text, hrender, hparse⟩ := exists_text h
  refine ⟨text, hrender, hparse, fun path t t' tree tree' hsave home t₁ => ⟨?_, ?_⟩⟩
  · intro hvalid
    rw [exec_loadConfig hsave, hparse, hvalid]
    rfl
  · intro e hflaw
    refine ⟨exists_reason hflaw, ?_⟩
    rw [exec_loadConfig hsave, hparse, hflaw]
    rfl

/-- A configuration with every kind of text in its names, an empty list of sources between others,
and neither pages nor browsers. -/
def sampleSaved : CampaignConfig where
  dbPath := "C:\\corpus\n\"x\".db"
  hosts := ⟨"", "it's \"\"\" so'''", "\t_hp\x01"⟩
  plan :=
    { PlanLimits.default with schemes := [.https], maxUrlsUntilRestart := 9223372036854775807 }
  repeatPolicy := .default
  corpus := ⟨3, [("", [⟨"a b", 0⟩, ⟨"\\", 7⟩]), ("X", []), ("Y.\n", [⟨"", 1⟩])]⟩
  templates := []
  browsers := []

/-- A configuration with quotation marks, line breaks and empty lists is loaded as it was saved. -/
theorem load_saved_sample :
    ∃ text tree, sampleSaved.render? = some text ∧ sampleSaved.templates = [] ∧
      exec (saveText "c.toml" text) .empty .empty = ((.ok (.ok ()), .empty), tree) ∧
      exec (loadConfig "home" "c.toml") .empty tree = ((.ok sampleSaved, .empty), tree) := by
  have hsavable : sampleSaved.IsSavable := by
    refine ⟨⟨by decide, by decide, by decide, by decide⟩, ⟨by decide, by decide⟩,
      ⟨by decide, ?_, by decide⟩, fun t ht => absurd ht List.not_mem_nil⟩
    show List.Pairwise _ _
    decide +kernel
  obtain ⟨text, hrender, -, hloaded⟩ := load_saved hsavable
  have hbare : FileTree.IsBare "c.toml" :=
    ⟨by decide +kernel, by decide, by decide, by simp, by decide +kernel, by decide +kernel⟩
  have hwrite := hbare.write (t := .empty)
    (by simp [FileTree.node?, FileTree.empty, List.lookup_cons]) (.file text.toUTF8)
  have hsave := exec_saveText (by decide +kernel) hwrite .empty
  exact ⟨text, _, hrender, rfl, hsave, (hloaded _ _ _ _ _ hsave "home" .empty).1 rfl⟩

end Files

end CampaignConfig

end ProbeCampaign
