import Mathlib.Algebra.Order.Floor.Div
import Mathlib.Tactic
import ProbeCampaign.Proofs.Corpus.Persist
import ProbeCampaign.Proofs.Plan.Cuts

/-!
# Responses that are all new

A response that is stored costs one upsert that reaches the store, however many calls failed before
it (`storeAll_ok`). So a corpus of which nothing is stored yet gets consecutive ids from the first
unused one on (`upsertAll_of_fresh`), and if nothing else has its label and type, its ids are cut
into as few runs as their number allows (`persist_fresh`).
-/

namespace ProbeCampaign

/-- The rows of distinct responses that are stored one after the other when so many ids are used
up. -/
def Store.rowsAfter (used now : Nat) (specs : List ResponseSpec) : List StoredResponse :=
  specs.mapIdx fun k spec => ⟨used + 1 + k, spec, spec.digest, now⟩

namespace Store

theorem rowsAfter_cons (used now : Nat) (spec : ResponseSpec) (rest : List ResponseSpec) :
    rowsAfter used now (spec :: rest) =
      ⟨used + 1, spec, spec.digest, now⟩ :: rowsAfter (used + 1) now rest := by
  rw [rowsAfter, List.mapIdx_cons, rowsAfter]
  congr 1
  refine List.mapIdx_eq_mapIdx_iff.2 fun k _ => ?_
  simp only [StoredResponse.mk.injEq, and_self, and_true]
  omega

theorem map_id_rowsAfter (used now : Nat) (specs : List ResponseSpec) :
    (rowsAfter used now specs).map (·.id) =
      (List.range specs.length).map fun (k : Nat) => (used : Int) + 1 + k := by
  refine List.ext_getElem ?_ fun k _ _ => ?_
  · simp [rowsAfter]
  · simp [rowsAfter]

theorem spec_of_mem_rowsAfter {used now : Nat} {specs : List ResponseSpec} {r : StoredResponse}
    (h : r ∈ rowsAfter used now specs) : r.spec ∈ specs := by
  obtain ⟨k, hk, rfl⟩ := List.mem_mapIdx.1 h
  exact List.getElem_mem hk

/-- The store after upserts of several responses, all at one time. -/
def upsertAll (s : Store) (now : Nat) (specs : List ResponseSpec) : Store :=
  specs.foldl (fun s spec => (s.upsert now spec).2) s

/-- Distinct responses that are not stored use up one id each, and get it. -/
theorem upsertAll_of_fresh {s : Store} (h : s.Sound) (now : Nat) {specs : List ResponseSpec}
    (hashes : ResponseSpec.HashesApart (specs ++ s.specs)) (hnodup : specs.Nodup)
    (hfresh : ∀ spec ∈ specs, spec ∉ s.specs) :
    (s.upsertAll now specs).responses.toList =
        s.responses.toList ++ rowsAfter s.responseIds now specs ∧
      (s.upsertAll now specs).responseIds = s.responseIds + specs.length := by
  induction specs generalizing s with
  | nil => exact ⟨(List.append_nil _).symm, rfl⟩
  | cons spec rest ih =>
    obtain ⟨hspec, hrest⟩ := List.forall_mem_cons.1 hfresh
    obtain ⟨hnot, hnodup⟩ := List.nodup_cons.1 hnodup
    have hrows := (upsert_of_not_mem h
      (hashes.subset (List.cons_subset_cons spec (List.subset_append_right rest _))) hspec now).2
    have hspecs : (s.upsert now spec).2.specs = s.specs ++ [spec] := by
      rw [specs, hrows, List.map_append]
      rfl
    have hused := responseIds_upsert s now spec
    -- The first response is stored now, and the others are still new.
    have hapart : ResponseSpec.HashesApart (rest ++ (s.upsert now spec).2.specs) := by
      refine hashes.subset fun other hother => ?_
      simp only [hspecs, List.mem_append, List.mem_singleton] at hother
      simp only [List.mem_append, List.mem_cons]
      tauto
    have hstill : ∀ other ∈ rest, other ∉ (s.upsert now spec).2.specs := by
      intro other hother hmem
      rw [hspecs, List.mem_append, List.mem_singleton] at hmem
      rcases hmem with hmem | rfl
      · exact hrest other hother hmem
      · exact hnot hother
    obtain ⟨hresponses, hids⟩ := ih (sound_upsert h now spec) hapart hnodup hstill
    refine ⟨?_, ?_⟩
    · rw [upsertAll, List.foldl_cons, ← upsertAll, hresponses, hrows, hused, rowsAfter_cons,
        List.append_assoc]
      rfl
    · rw [upsertAll, List.foldl_cons, ← upsertAll, hids, hused, List.length_cons]
      omega

/-- Where the rows before have another label or type, a lookup finds the ids of the new ones. -/
theorem lookup_eq_of_rows {s t : Store} {used now : Nat} {specs : List ResponseSpec}
    {label : String} {respType : RespType}
    (hrows : t.responses.toList = s.responses.toList ++ rowsAfter used now specs)
    (hall : ∀ spec ∈ specs, spec.label = label ∧ spec.respType = respType)
    (hnone : ∀ spec ∈ s.specs, ¬ (spec.label = label ∧ spec.respType = respType)) :
    t.lookup label respType =
      (List.range specs.length).map fun (k : Nat) => (used : Int) + 1 + k := by
  rw [lookup, hrows, List.filter_append, List.filter_eq_nil_iff.2, List.nil_append,
    List.filter_eq_self.2, map_id_rowsAfter]
  · intro r hr
    exact decide_eq_true (hall r.spec (spec_of_mem_rowsAfter hr))
  · intro r hr hboth
    exact hnone r.spec (mem_specs.2 ⟨r, hr, rfl⟩) (of_decide_eq_true hboth)

end Store

/-- The ids after those used up are cut into full runs and at most one more. -/
theorem IdRange.length_chunk_range {used number : Nat} (h : used + number < capacity 63)
    (maxRun : Nat) :
    (chunk ((List.range number).map fun (k : Nat) => (used : Int) + 1 + k) maxRun).length =
      number ⌈/⌉ max maxRun 1 := by
  have hgapFree : ((List.range number).map fun (k : Nat) => (used : Int) + 1 + k).IsChain
      fun i j => j = i + 1 := by
    rw [List.isChain_map, List.isChain_range]
    intro k _
    omega
  have hsorted : ((List.range number).map fun (k : Nat) => (used : Int) + 1 + k).Pairwise
      (· < ·) := by
    rw [List.pairwise_map]
    exact List.pairwise_lt_range.imp fun hlt => by omega
  have hfits : ∀ i ∈ (List.range number).map fun (k : Nat) => (used : Int) + 1 + k,
      fitsInt64 i = true := by
    intro i hi
    obtain ⟨k, hk, rfl⟩ := List.mem_map.1 hi
    have hlt := List.mem_range.1 hk
    rw [Decimal.fitsInt64_iff]
    omega
  rw [length_chunk_of_gapFree (hasSuccessors_of_ascending hfits hsorted) hgapFree, List.length_map,
    List.length_range]

namespace Corpus

open Connection

/-- A response that gets through reaches the store once, whatever failed before. -/
theorem attempt_ok {c c' : Connection} {spec : ResponseSpec} {further : Nat}
    {result : Int × Bool} (h : attempt c spec further = (.ok result, c')) :
    c'.store = (c.store.upsert c.now spec).2 ∧ c'.now = c.now := by
  induction further generalizing c with
  | zero =>
    by_cases hfails : c.upsertFails c.upserts = true
    · rw [attempt, upsert_of_fails hfails] at h
      cases h
    · rw [attempt, upsert_of_succeeds (eq_false_of_ne_true hfails)] at h
      cases h
      exact ⟨rfl, rfl⟩
  | succ further ih =>
    by_cases hfails : c.upsertFails c.upserts = true
    · rw [attempt_succ_of_fails hfails] at h
      exact ih (c := { c with upserts := c.upserts + 1 }) h
    · rw [attempt, upsert_of_succeeds (eq_false_of_ne_true hfails)] at h
      cases h
      exact ⟨rfl, rfl⟩

/-- Responses that are all stored are upserted one on top of the other, at the same time. -/
theorem storeAll_ok {c c' : Connection} {specs : List ResponseSpec} {further created : Nat}
    (h : storeAll further specs c = (.ok created, c')) :
    c'.store = c.store.upsertAll c.now specs := by
  induction specs generalizing c created with
  | nil =>
    cases h
    rfl
  | cons spec rest ih =>
    rw [storeAll] at h
    rcases hattempt : attempt c spec further with ⟨_ | result, c₁⟩
    · rw [hattempt] at h
      cases h
    · rw [hattempt] at h
      dsimp only at h
      rcases hstore : storeAll further rest c₁ with ⟨_ | others, c₂⟩
      · rw [hstore] at h
        cases h
      · rw [hstore] at h
        cases h
        obtain ⟨hfirst, hnow⟩ := attempt_ok hattempt
        rw [ih hstore, hfirst, hnow]
        rfl

/-- Where all goes well, each of the distinct responses is upserted once. -/
theorem store_eq_of_persist_ok {config : CampaignConfig} {label : String}
    {specs : List ResponseSpec} {c c' : Connection} {report : CorpusReport}
    (h : persist config label specs c = (.ok report, c')) :
    c'.store = c.store.upsertAll c.now specs.eraseDups := by
  rw [persist, distinct_eq] at h
  rcases hstore : storeAll (attempts config - 1) specs.eraseDups c with ⟨_ | created, c₁⟩
  · rw [hstore] at h
    cases h
  · rw [hstore] at h
    cases h
    exact storeAll_ok hstore

/-- Responses that are not stored yet, however often they are listed and whatever calls fail, get
rows in the order of their first occurrences, with the ids right after the last one used up, as long
as SHA-256 has no collision on what is stored. If all have one label and type, and nothing else has,
their ids are cut into as many runs as it takes to hold their number. -/
theorem persist_fresh {config : CampaignConfig} {label : String} {specs : List ResponseSpec}
    {c c' : Connection} {report : CorpusReport} (h : c.store.Sound)
    (hashes : ResponseSpec.HashesApart (specs ++ c.store.specs))
    (hfresh : ∀ spec ∈ specs, spec ∉ c.store.specs)
    (hok : persist config label specs c = (.ok report, c')) :
    c'.store.responses.toList = c.store.responses.toList ++
        specs.eraseDups.mapIdx (fun k spec =>
          ⟨c.store.responseIds + 1 + k, spec, spec.digest, c.now⟩) ∧
      c'.store.responseIds = c.store.responseIds + specs.eraseDups.length ∧
      report = ⟨label, specs.length, specs.eraseDups.length, specs.eraseDups.length⟩ ∧
      ∀ l t, (∀ spec ∈ specs, spec.label = l ∧ spec.respType = t) →
        (∀ spec ∈ c.store.specs, ¬ (spec.label = l ∧ spec.respType = t)) →
        c'.store.responseIds < capacity 63 → ∀ maxRun,
        (IdRange.chunk (c'.store.lookup l t) maxRun).length = report.unique ⌈/⌉ max maxRun 1 := by
  obtain ⟨hreport, -, -⟩ := persist_ok config label h hashes hok
  have hnews : ∀ spec ∈ specs.eraseDups, spec ∉ c.store.specs :=
    fun spec hspec => hfresh spec (List.mem_eraseDups.1 hspec)
  have hsub : specs.eraseDups ++ c.store.specs ⊆ specs ++ c.store.specs :=
    List.append_subset.2 ⟨fun s hs => List.mem_append_left _ (List.mem_eraseDups.1 hs),
      List.subset_append_right _ _⟩
  obtain ⟨hrows, hused⟩ := Store.upsertAll_of_fresh h c.now (hashes.subset hsub)
    (Distinct.nodup_eraseDups specs) hnews
  rw [← store_eq_of_persist_ok hok] at hrows hused
  have hunstored : c.store.unstored specs.eraseDups = specs.eraseDups :=
    List.filter_eq_self.2 fun spec hspec => decide_eq_true (hnews spec hspec)
  rw [hunstored] at hreport
  refine ⟨hrows, hused, hreport, fun l t hall hnone hcapacity maxRun => ?_⟩
  rw [Store.lookup_eq_of_rows hrows
    (fun spec hspec => hall spec (List.mem_eraseDups.1 hspec)) hnone, hreport]
  exact IdRange.length_chunk_range (hused ▸ hcapacity) maxRun

/-- A response that has nothing to do with framing. -/
def unrelated : ResponseSpec :=
  ⟨[], 200, "RP", .parsing⟩

/-- A store that has used up two ids for one response, on which the first call fails. -/
def recovering : Connection :=
  { healthy (Store.empty.upsertAll 0 [unrelated, unrelated]) 0 with upsertFails := fun k => k = 0 }

/-- One response was stored before, and one id was used up in vain. -/
theorem specs_recovering :
    recovering.store.Sound ∧ recovering.store.specs = [unrelated] ∧
      recovering.store.responseIds = 2 := by
  have hashes : ResponseSpec.HashesApart [unrelated] :=
    ResponseSpec.hashesApart_of_pairwise (List.pairwise_singleton _ _)
  have hfirst := Store.sound_upsert Store.sound_empty 0 unrelated
  have hrows := (Store.upsert_of_not_mem Store.sound_empty hashes List.not_mem_nil 0).2
  have hspecs : (Store.empty.upsert 0 unrelated).2.specs = [unrelated] := by
    rw [Store.specs, hrows]
    rfl
  have hagain : ResponseSpec.HashesApart
      (unrelated :: (Store.empty.upsert 0 unrelated).2.specs) := by
    rw [hspecs]
    exact hashes.subset (by simp)
  obtain ⟨r, -, -, heq⟩ := Store.upsert_of_mem hfirst hagain (by simp [hspecs]) 0
  have hstore : recovering.store = ((Store.empty.upsert 0 unrelated).2.upsert 0 unrelated).2 := rfl
  refine ⟨hstore ▸ Store.sound_upsert hfirst 0 unrelated, ?_, ?_⟩
  · rw [hstore, heq]
    exact hspecs
  · rw [hstore, Store.responseIds_upsert, Store.responseIds_upsert]
    rfl

/-- Two responses on framing, one of them listed twice, get the ids 3 and 4. -/
theorem persist_fresh_recovering :
    recovering.store.Sound ∧
      ResponseSpec.HashesApart
        ([framing "SAMEORIGIN", framing "SAMEORIGIN", framing "DENY"] ++ recovering.store.specs) ∧
      (∀ spec ∈ [framing "SAMEORIGIN", framing "SAMEORIGIN", framing "DENY"],
        spec ∉ recovering.store.specs) ∧
      ∃ c', persist flakyConfig "XFO"
            [framing "SAMEORIGIN", framing "SAMEORIGIN", framing "DENY"] recovering =
          (.ok ⟨"XFO", 3, 2, 2⟩, c') ∧
        c'.store.responses.toList = recovering.store.responses.toList ++
          [⟨3, framing "SAMEORIGIN", (framing "SAMEORIGIN").digest, 0⟩,
            ⟨4, framing "DENY", (framing "DENY").digest, 0⟩] ∧
        (IdRange.chunk (c'.store.lookup "XFO" .basic) 1).length = 2 ∧
        (IdRange.chunk (c'.store.lookup "XFO" .basic) 5).length = 1 := by
  obtain ⟨hsound, hspecs, hids⟩ := specs_recovering
  have hdistinct : ResponseSpec.HashesApart [framing "SAMEORIGIN", framing "DENY", unrelated] :=
    ResponseSpec.hashesApart_of_pairwise (by decide +kernel)
  have hashes : ResponseSpec.HashesApart
      ([framing "SAMEORIGIN", framing "SAMEORIGIN", framing "DENY"] ++ recovering.store.specs) := by
    rw [hspecs]
    exact hdistinct.subset (by simp)
  have hfresh : ∀ spec ∈ [framing "SAMEORIGIN", framing "SAMEORIGIN", framing "DENY"],
      spec ∉ recovering.store.specs := by
    rw [hspecs]
    decide
  have hfirst : Recovers recovering.upsertFails 0 1 := ⟨by decide, by decide⟩
  have hsecond : Recovers recovering.upsertFails 2 0 := ⟨by decide, by decide⟩
  have hthrough : Through recovering.upsertFails 2 0
      [framing "SAMEORIGIN", framing "SAMEORIGIN", framing "DENY"].eraseDups 3 :=
    .cons hfirst (by decide) (.cons hsecond (by decide) (.nil 3))
  obtain ⟨t, hok, -⟩ := persist_of_through flakyConfig "XFO" hsound hashes hthrough
  obtain ⟨hrows, hused, hreport, hruns⟩ := persist_fresh hsound hashes hfresh hok
  rw [hreport] at hok
  have hlabel : ∀ spec ∈ [framing "SAMEORIGIN", framing "SAMEORIGIN", framing "DENY"],
      spec.label = "XFO" ∧ spec.respType = .basic := by decide
  have hnone :
      ∀ spec ∈ recovering.store.specs, ¬ (spec.label = "XFO" ∧ spec.respType = .basic) := by
    rw [hspecs]
    decide
  have hcapacity : t.responseIds < capacity 63 := by
    rw [hids] at hused
    exact hused ▸ (by decide)
  refine ⟨hsound, hashes, hfresh, _, hok, ?_, ?_, ?_⟩
  · rw [hrows, hids]
    rfl
  · rw [hruns "XFO" .basic hlabel hnone hcapacity 1, hreport]
    rfl
  · rw [hruns "XFO" .basic hlabel hnone hcapacity 5, hreport]
    rfl

end Corpus

end ProbeCampaign
