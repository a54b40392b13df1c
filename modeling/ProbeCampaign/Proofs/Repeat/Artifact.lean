import Mathlib.Tactic
import ProbeCampaign.CommandLine.Commands
import ProbeCampaign.Proofs.CommandLine.Exec
import ProbeCampaign.Proofs.Datum.Entries
import ProbeCampaign.Proofs.Json.ReadBack
import ProbeCampaign.Proofs.Repeat.Rounds
import ProbeCampaign.Proofs.Text.Decimal

/-!
# The retry artifact keeps every URL

The artifact of a reconciliation lists the same URLs as the outcome. The ids of browsers are told
apart by their decimal forms (`key_injective`), so each browser finds its own list
(`lookup_ofOutcome`); every URL in it goes over one of the two schemes and not over the other
(`exists_isOver`, `IsOver.scheme_eq`). The file of an artifact is read back as that artifact
(`parse?_render`). Batches cut a list into pieces of one length, but for the last (`areBatches`).
-/

namespace ProbeCampaign

/-! ## Schemes of URLs -/

/-- A URL that names a scheme in front. -/
def IsOver (scheme : Scheme) (url : String) : Prop :=
  (scheme.name ++ "://").toList.isPrefixOf url.toList = true

/-- A URL names one scheme at most: where `http` is followed by a colon, `https` goes on. -/
theorem IsOver.scheme_eq {s t : Scheme} {url : String} (hs : IsOver s url) (ht : IsOver t url) :
    s = t := by
  have hs := List.isPrefixOf_iff_prefix.1 hs
  have ht := List.isPrefixOf_iff_prefix.1 ht
  have hor := List.prefix_or_prefix_of_prefix hs ht
  revert hor
  cases s <;> cases t <;> decide

theorem isOver_url (e : TestPlanEntry) : IsOver e.scheme e.url := by
  apply List.isPrefixOf_iff_prefix.2
  simp [TestPlanEntry.url, TestPlanEntry.render]

namespace Repeat

/-! ## The URLs of an outcome -/

theorem exists_isOver {options : RepeatOptions} {records : List ResultRecord} {b : Int}
    {url : String} (h : url ∈ (reconcile options records).urlsOf b) : ∃ s, IsOver s url := by
  obtain ⟨i, hrepeats⟩ := mem_urlsOf.1 h
  obtain ⟨row, first, -, -, rfl⟩ := hrepeats.retry
  exact ⟨_, isOver_url _⟩

/-- The URLs of a browser are listed in order, each once. -/
theorem pairwise_urlsOf (options : RepeatOptions) (records : List ResultRecord) (b : Int) :
    ((reconcile options records).urlsOf b).Pairwise (· < ·) := by
  unfold RepeatOutcome.urlsOf
  cases hlookup : (reconcile options records).urls.lookup b with
  | none => exact .nil
  | some urls =>
    have hmem : (b, urls) ∈ (reconcile options records).urls := by
      obtain ⟨front, back, heq, -⟩ := List.lookup_eq_some_iff.1 hlookup
      simp [heq]
    have hurls : urls = Text.ascending (retries options records b) := (mem_urls hmem).1
    rw [Option.getD_some, hurls]
    exact Text.pairwise_ascending _

end Repeat

namespace RetryArtifact

/-! ## Keys -/

theorem key_injective : key.Injective := by
  intro b c h
  exact Decimal.ofInt_inj.1 (String.ofList_inj.1 h)

section Outcome

variable {o : RepeatOutcome} (h : (o.urls.map (·.1)).Nodup)

theorem ofOutcome_urls (o : RepeatOutcome) : (ofOutcome o).urls = Datum.ofKeyed key o.urls :=
  rfl

include h in
theorem lookup_ofOutcome (b : Int) :
    ((ofOutcome o).urls.lookup (key b)).getD [] = o.urlsOf b := by
  rw [ofOutcome_urls, Datum.lookup_ofKeyed key_injective h, RepeatOutcome.urlsOf]

include h in
theorem total_ofOutcome : (ofOutcome o).total = o.urlCount := by
  have hperm := (Datum.perm_ofKeyed key_injective h).flatMap_right (·.2)
  rw [total, RepeatOutcome.urlCount, ofOutcome_urls, hperm.length_eq, List.flatMap_map]

include h in
theorem mem_urlsFor {b : Int} {scheme : Scheme} {url : String} :
    url ∈ (ofOutcome o).urlsFor b scheme ↔ url ∈ o.urlsOf b ∧ IsOver scheme url := by
  rw [urlsFor, lookup_ofOutcome h, List.mem_filter]
  exact Iff.rfl

end Outcome

/-! ## The file of an artifact -/

theorem mapM_text? (ss : List String) : (ss.map Datum.text).mapM Datum.text? = some ss := by
  induction ss with
  | nil => rfl
  | cons s ss ih =>
    rw [List.map_cons, List.mapM_cons, ih]
    rfl

/-- The table that is written for an artifact. -/
def toDatum (a : RetryArtifact) : Datum :=
  .table (a.urls.map fun e => (e.1, .texts e.2))

/-- The lists of an artifact are read from its own record. -/
theorem entries?_toDatum (a : RetryArtifact) :
    a.toDatum.entries? (Datum.list? Datum.text?) = some a.urls := by
  obtain ⟨urls⟩ := a
  show (urls.map _).mapM _ = some urls
  induction urls with
  | nil => rfl
  | cons e urls ih =>
    rw [List.map_cons, List.mapM_cons, ih]
    show (((e.2.map Datum.text).mapM Datum.text?).map (e.1, ·) >>= _) = _
    rw [mapM_text?]
    rfl

/-- The record of an artifact is nested less deep than JSON may be. -/
theorem readable_toDatum (a : RetryArtifact) : Json.Readable Json.maxDepth a.toDatum := by
  refine .table fun e he => ?_
  obtain ⟨e', -, rfl⟩ := List.mem_map.1 he
  refine .list fun d hd => ?_
  obtain ⟨s, -, rfl⟩ := List.mem_map.1 hd
  exact .text s

/-- An ascending artifact is read back from its file, whatever its URLs hold. -/
theorem parse?_render {a : RetryArtifact} (h : Datum.Ascends a.urls) :
    parse? a.render.toList = some a := by
  have hrender : a.render.toList = Json.pretty a.toDatum := String.toList_ofList
  rw [hrender, parse?, Json.parseChars?_pretty a.readable_toDatum, Option.bind_eq_bind,
    Option.bind_some, Datum.map?, entries?_toDatum]
  show some (RetryArtifact.mk (a.urls.foldl (fun acc e => Datum.insertEntry e.1 e.2 acc) [])) = _
  rw [Datum.foldl_insertEntry h]

theorem ascends_ofOutcome (o : RepeatOutcome) : Datum.Ascends (ofOutcome o).urls :=
  Datum.ascends_ofKeyed key o.urls

open CommandLine CommandLine.Setup in
/-- What could be saved is loaded from the file. -/
theorem exec_loadArtifact {a : RetryArtifact} (h : Datum.Ascends a.urls) {path : String}
    {t t' : Transcript} {tree tree' : FileTree}
    (hsave : exec (saveArtifact path a) t tree = ((.ok (.ok ()), t'), tree')) (t₁ : Transcript) :
    exec (loadArtifact path) t₁ tree' = ((.ok (.ok a), t₁), tree') := by
  unfold loadArtifact
  rw [exec_bind_ok (exec_readText_of_saveText hsave t₁), exec_pure]
  simp only [Except.mapError, bind, Except.bind, parse?_render h]

end RetryArtifact

/-! ## Batches -/

theorem flatten_cut {α : Type} (size : Nat) (l : List α) : (cut size l).flatten = l := by
  induction l using cut.induct size with
  | case1 => rw [cut, List.flatten_nil]
  | case2 a rest ih => rw [cut, List.flatten_cons, ih, List.cons_append, List.take_append_drop]

/-- No piece is empty or too long. -/
theorem length_of_mem_cut {α : Type} {size : Nat} {l piece : List α} (h : piece ∈ cut size l) :
    piece ≠ [] ∧ piece.length ≤ size + 1 := by
  induction l using cut.induct size with
  | case1 => simp [cut] at h
  | case2 a rest ih =>
    rw [cut] at h
    rcases List.mem_cons.1 h with rfl | h
    · refine ⟨List.cons_ne_nil _ _, ?_⟩
      rw [List.length_cons, List.length_take]
      omega
    · exact ih h

/-- A piece is full unless nothing comes after it. -/
theorem length_of_mem_dropLast_cut {α : Type} {size : Nat} {l piece : List α}
    (h : piece ∈ (cut size l).dropLast) : piece.length = size + 1 := by
  induction l using cut.induct size with
  | case1 => simp [cut] at h
  | case2 a rest ih =>
    rw [cut] at h
    cases hnext : cut size (rest.drop size) with
    | nil => simp [hnext] at h
    | cons next pieces =>
      rw [hnext, List.dropLast_cons_cons, ← hnext] at h
      rcases List.mem_cons.1 h with rfl | h
      · have hmore : rest.drop size ≠ [] := by
          intro hnil
          simp [hnil, cut] at hnext
        have hlong : size < rest.length := by
          by_contra hshort
          exact hmore (List.drop_eq_nil_of_le (by omega))
        rw [List.length_cons, List.length_take]
        omega
      · exact ih h

/-- Pieces of a list of URLs: all of them in order, each of at most `limit` URLs and at least one,
and full but for the last. A limit of zero counts as one. -/
structure AreBatches (urls : List String) (limit : Nat) (pieces : List (List String)) : Prop where
  flatten : pieces.flatten = urls
  bounded : ∀ piece ∈ pieces, piece ≠ [] ∧ piece.length ≤ max limit 1
  full : ∀ piece ∈ pieces.dropLast, piece.length = max limit 1

/-- The batches are the list, cut into pieces of the given size. -/
theorem areBatches (urls : List String) (limit : Nat) :
    AreBatches urls limit (batches urls limit) := by
  have hsize : limit - 1 + 1 = max limit 1 := by omega
  refine ⟨flatten_cut _ _, fun piece hpiece => ?_, fun piece hpiece => ?_⟩
  · rw [← hsize]
    exact length_of_mem_cut hpiece
  · rw [← hsize]
    exact length_of_mem_dropLast_cut hpiece

/-! ## The whole artifact -/

namespace RetryArtifact

/-- An artifact lists the URLs of an outcome, by browser and scheme. -/
structure Lists (a : RetryArtifact) (o : RepeatOutcome) : Prop where
  total : a.total = o.urlCount
  mem : ∀ b url, url ∈ o.urlsOf b ↔ url ∈ a.urlsFor b .http ∨ url ∈ a.urlsFor b .https
  disjoint : ∀ b, (a.urlsFor b .http).Disjoint (a.urlsFor b .https)
  ascending : ∀ b scheme, (a.urlsFor b scheme).Pairwise (· < ·)
  absent : ∀ b, b ∉ o.urls.map (·.1) → ∀ scheme, a.urlsFor b scheme = []

/-- An artifact lists what is repeated over each of the two schemes. -/
theorem lists_reconcile (options : RepeatOptions) (records : List ResultRecord) :
    (ofOutcome (Repeat.reconcile options records)).Lists (Repeat.reconcile options records) := by
  have hkeys := (Repeat.isListed_reconcile options records).browsers
  refine ⟨total_ofOutcome hkeys, fun b url => ?_, fun b url hhttp hhttps => ?_, fun b scheme => ?_,
    fun b hb scheme => ?_⟩
  · rw [mem_urlsFor hkeys, mem_urlsFor hkeys]
    constructor
    · intro hurl
      obtain ⟨s, hs⟩ := Repeat.exists_isOver hurl
      cases s with
      | http => exact .inl ⟨hurl, hs⟩
      | https => exact .inr ⟨hurl, hs⟩
    · rintro (h | h)
      · exact h.1
      · exact h.1
  · have heq := ((mem_urlsFor hkeys).1 hhttp).2.scheme_eq ((mem_urlsFor hkeys).1 hhttps).2
    cases heq
  · rw [urlsFor, lookup_ofOutcome hkeys]
    exact (Repeat.pairwise_urlsOf options records b).filter _
  · have hnone : (Repeat.reconcile options records).urlsOf b = [] := by
      have hlookup : (Repeat.reconcile options records).urls.lookup b = none := by
        rw [List.lookup_eq_none_iff]
        intro p hp
        have hne : b ≠ p.1 := by
          rintro rfl
          exact hb (List.mem_map_of_mem hp)
        simpa using hne
      rw [RepeatOutcome.urlsOf, hlookup, Option.getD_none]
    rw [urlsFor, lookup_ofOutcome hkeys, hnone, List.filter_nil]

section Files

open CommandLine CommandLine.Setup

/-- From a reconciliation to the batches no URL is lost and none comes in: the artifact lists those
of the outcome, the file of any artifact is read back as that artifact, whatever its URLs hold, and
batches are pieces of what is listed. -/
theorem artifact_keeps (options : RepeatOptions) (records : List ResultRecord) :
    (ofOutcome (Repeat.reconcile options records)).Lists (Repeat.reconcile options records) ∧
      (∀ o path t t' tree tree',
        exec (saveArtifact path (ofOutcome o)) t tree = ((.ok (.ok ()), t'), tree') →
        exec (loadArtifact path) t' tree' = ((.ok (.ok (ofOutcome o)), t'), tree')) ∧
      ∀ urls limit, AreBatches urls limit (batches urls limit) :=
  ⟨lists_reconcile options records,
    fun _ _ _ t' _ _ hsave => exec_loadArtifact (ascends_ofOutcome _) hsave t', areBatches⟩

end Files

/-! ## Two browsers and both schemes -/

/-- What a browser reports of the sample page over a scheme. -/
def reportOver (scheme : Scheme) (b : Int) : ResultRecord :=
  { Repeat.sampleRecord with
    orgScheme := scheme.name
    browserId := b
    fullUrl := TestPlanEntry.url { Repeat.sampleVisit with scheme, browserId := b } }

/-- One browser reports over one scheme, another one over the other. -/
def crossed : List ResultRecord :=
  [reportOver .http 2, reportOver .https 3]

/-- The visit that repeats the test over a scheme by a browser. -/
def again (scheme : Scheme) (b : Int) : TestPlanEntry :=
  { Repeat.sampleVisit with scheme, browserId := b, ids := ⟨7, 7⟩, timeout := 10 }

theorem rows_crossed {row : ResultRecord} (hrow : row ∈ crossed) :
    Repeat.rows crossed row.identity = [row] := by
  have hne : (reportOver .http 2).identity ≠ (reportOver .https 3).identity := by decide
  rcases List.mem_cons.1 hrow with rfl | hrow
  · simp [Repeat.rows, crossed, hne.symm]
  · rw [List.mem_singleton.1 hrow]
    simp [Repeat.rows, crossed, hne]

/-- A test over either scheme is repeated by both browsers. -/
theorem again_mem_urlsOf {scheme : Scheme} {b : Int} (hb : b ∈ [(2 : Int), 3]) :
    (again scheme b).url ∈ (Repeat.reconcile Repeat.sampleOptions crossed).urlsOf b := by
  have hexpected : Repeat.IsExpected Repeat.sampleOptions crossed b := by
    rcases List.mem_cons.1 hb with rfl | hb
    · exact ⟨by decide, _, List.mem_cons_self, rfl⟩
    · rw [List.mem_singleton.1 hb]
      exact ⟨by decide, _, List.mem_cons_of_mem _ List.mem_cons_self, rfl⟩
  have hrepeats : ∀ home, reportOver scheme home ∈ crossed → fitsInt64 home = true →
      Repeat.Repeats Repeat.sampleOptions crossed (reportOver scheme home).identity b
        (again scheme b).url := by
    intro home hmem hhome
    have hrows := rows_crossed hmem
    have hshort : Repeat.runs crossed (reportOver scheme home).identity b < 2 := by
      rw [← Repeat.countP_rows, hrows]
      exact Nat.lt_succ_of_le List.countP_le_length
    have hread : TestPlanEntry.parse (reportOver scheme home).fullUrl =
        .ok { Repeat.sampleVisit with scheme, browserId := home } :=
      TestPlanEntry.parse_url { Repeat.canonical_sampleVisit with
        host := Repeat.isHostText_sample scheme
        browserId := hhome }
    exact (Repeat.repeats_iff_of_rows_eq hrows hread rfl
      ⟨⟨_, hmem, rfl⟩, hexpected, hshort⟩ _).2 rfl
  cases scheme with
  | http => exact Repeat.mem_urlsOf.2 ⟨_, hrepeats 2 List.mem_cons_self rfl⟩
  | https =>
    exact Repeat.mem_urlsOf.2 ⟨_, hrepeats 3 (List.mem_cons_of_mem _ List.mem_cons_self) rfl⟩

open CommandLine CommandLine.Setup in
/-- The artifact of two browsers lists the URL of each scheme for each of them. It is saved in an
empty tree and loaded from there. -/
theorem artifact_keeps_sample :
    let artifact := ofOutcome (Repeat.reconcile Repeat.sampleOptions crossed)
    (∀ scheme, ∀ b ∈ [(2 : Int), 3], (again scheme b).url ∈ artifact.urlsFor b scheme) ∧
      ∃ tree, exec (saveArtifact "repeat.json" artifact) .empty .empty =
          ((.ok (.ok ()), .empty), tree) ∧
        exec (loadArtifact "repeat.json") .empty tree = ((.ok (.ok artifact), .empty), tree) := by
  intro artifact
  obtain ⟨hlists, hloaded, -⟩ := artifact_keeps Repeat.sampleOptions crossed
  have hbare : FileTree.IsBare "repeat.json" :=
    ⟨by decide +kernel, by decide, by decide, by simp, by decide +kernel, by decide +kernel⟩
  have hfree : FileTree.empty.node? ["repeat.json"] ≠ some .directory := by
    simp [FileTree.node?, FileTree.empty, List.lookup_cons]
  have hsave : exec (saveArtifact "repeat.json" artifact) .empty .empty =
      ((.ok (.ok ()), .empty), _) := exec_saveText rfl (hbare.write hfree _) .empty
  refine ⟨fun scheme b hb => ?_, _, hsave, hloaded _ _ _ _ _ _ hsave⟩
  have hover : ∀ s, (again scheme b).url ∈ artifact.urlsFor b s → s = scheme := fun s hs =>
    IsOver.scheme_eq (List.mem_filter.1 hs).2 (isOver_url (again scheme b))
  rcases (hlists.mem b (again scheme b).url).1 (again_mem_urlsOf hb) with h | h
  · rwa [hover .http h] at h
  · rwa [hover .https h] at h

end RetryArtifact

end ProbeCampaign
