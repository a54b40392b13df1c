import Mathlib.Tactic
import ProbeCampaign.Proofs.Plan.Failures
import ProbeCampaign.Proofs.TestUrl.Written

/-!
# The URLs of a plan

Visits of one page by one browser differ in their ids or their popups, and all others in scheme,
page, label or browser, so no visit is planned twice (`nodup_entries`). All of these are read off
the URL, so no URL is planned twice either (`nodup_urls`).
-/

namespace ProbeCampaign.PlanRequest

open ResponseIndex

/-! ## Visits -/

/-- The visits of one range differ in their buckets. -/
theorem nodup_bucketVisits (r : PlanRequest) (scheme : Scheme) (t : TestTemplate) (b : Int)
    (x : IdRange) : (r.bucketVisits scheme t b x).Nodup := by
  unfold bucketVisits TestPlanEntry.perBucket
  split
  · exact List.nodup_singleton _
  · refine (PopupBucket.nodup_split _ _).map fun bucket bucket' h => ?_
    exact Option.some.inj (congrArg TestPlanEntry.popups h)

/-- Visits of different ranges differ in their ids, those of different browsers in the browser. -/
theorem nodup_visits {r : PlanRequest} (hbrowsers : r.browserIds.Nodup) (scheme : Scheme)
    (t : TestTemplate) {ids : List Int} (hids : ids.Nodup) : (r.visits scheme t ids).Nodup := by
  unfold visits
  dsimp only
  refine List.nodup_flatMap.2 ⟨fun b _ => List.nodup_flatMap.2 ⟨fun x _ => ?_, ?_⟩, ?_⟩
  · exact r.nodup_bucketVisits scheme t b x
  · refine (IdRange.nodup_chunk hids _).imp fun {x x'} hne e he he' => hne ?_
    obtain ⟨popups, rfl⟩ := exists_popups_of_mem_bucketVisits he
    obtain ⟨popups', heq⟩ := exists_popups_of_mem_bucketVisits he'
    exact congrArg TestPlanEntry.ids heq
  · refine hbrowsers.imp fun {b b'} hne e he he' => hne ?_
    obtain ⟨x, -, he⟩ := List.mem_flatMap.1 he
    obtain ⟨x', -, he'⟩ := List.mem_flatMap.1 he'
    obtain ⟨popups, rfl⟩ := exists_popups_of_mem_bucketVisits he
    obtain ⟨popups', heq⟩ := exists_popups_of_mem_bucketVisits he'
    exact congrArg TestPlanEntry.browserId heq

/-! ## Steps -/

/-- The steps of a plan differ in scheme, file or label. -/
theorem nodup_steps {r : PlanRequest} (hschemes : r.limits.schemes.Nodup)
    (hpages : (r.templates.map fun t => (t.file, t.label)).Nodup) :
    (r.steps.map fun step => (step.1, step.2.file, step.2.label)).Nodup := by
  unfold steps
  rw [List.map_flatMap]
  -- Over one scheme the pages of the table are filtered; over different ones the scheme differs.
  refine List.nodup_flatMap.2 ⟨fun scheme _ => ?_, ?_⟩
  · have hsublist : (r.valid.filter (·.runsOver scheme)).Sublist r.templates :=
      List.filter_sublist.trans (List.filter_sublist.trans List.filter_sublist)
    have hkeys := (hpages.sublist (hsublist.map _)).map (Prod.mk_right_injective scheme)
    rw [List.map_map] at hkeys ⊢
    exact hkeys
  · refine hschemes.imp fun {scheme scheme'} hne key hkey hkey' => hne ?_
    simp only [List.map_map, List.mem_map] at hkey hkey'
    obtain ⟨t, -, rfl⟩ := hkey
    obtain ⟨t', -, heq⟩ := hkey'
    exact (congrArg Prod.fst heq).symm

/-! ## The plan -/

section Distinct

variable {r : PlanRequest} (hpages : (r.templates.map fun t => (t.file, t.label)).Nodup)
  (hschemes : r.limits.schemes.Nodup) (hbrowsers : r.browserIds.Nodup)
include hpages hschemes hbrowsers

/-- No visit is planned twice. -/
theorem nodup_entries (c : Connection) : (r.plan c).1.entries.Nodup := by
  rw [entries_eq]
  refine List.nodup_flatMap.2 ⟨fun step _ => ?_, ?_⟩
  · exact nodup_visits hbrowsers step.1 step.2
      ((pairwise_stored c.store step.2.label r.mode).imp fun hlt => hlt.ne)
  · have hsteps := List.pairwise_map.1 (nodup_steps hschemes hpages)
    refine (hsteps.sublist List.filter_sublist).imp fun {step step'} hne e he he' => hne ?_
    obtain ⟨b, x, popups, rfl⟩ := exists_visit_of_mem_visits he
    obtain ⟨b', x', popups', heq⟩ := exists_visit_of_mem_visits he'
    have hpath : r.hosts.testDir ++ "/" ++ step.2.file = r.hosts.testDir ++ "/" ++ step'.2.file :=
      congrArg TestPlanEntry.path heq
    have hscheme : step.1 = step'.1 := congrArg TestPlanEntry.scheme heq
    have hlabel : step.2.label = step'.2.label := congrArg TestPlanEntry.label heq
    rw [hscheme, (String.append_right_inj _).1 hpath, hlabel]

end Distinct

theorem mem_templates_of_mem_steps {r : PlanRequest} {step : Scheme × TestTemplate}
    (h : step ∈ r.steps) : step.2 ∈ r.templates := by
  obtain ⟨scheme, -, h⟩ := List.mem_flatMap.1 h
  obtain ⟨t, ht, rfl⟩ := List.mem_map.1 h
  exact List.mem_of_mem_filter (List.mem_of_mem_filter (List.mem_of_mem_filter ht))

/-- A planned visit is one of a page in the table. -/
theorem exists_visit_of_mem_entries {r : PlanRequest} {c : Connection} {e : TestPlanEntry}
    (he : e ∈ (r.plan c).1.entries) :
    ∃ scheme, ∃ t ∈ r.templates, ∃ b x popups,
      e = { r.visit scheme t b x with popups := popups } := by
  rw [entries_eq] at he
  obtain ⟨step, hstep, he⟩ := List.mem_flatMap.1 he
  exact ⟨step.1, step.2, mem_templates_of_mem_steps (List.mem_of_mem_filter hstep),
    exists_visit_of_mem_visits he⟩

/-- No URL is planned twice, whichever lookups fail, if pages, schemes and browsers are given once
and neither host nor paths have a question mark. -/
theorem nodup_urls {r : PlanRequest} (hpages : (r.templates.map fun t => (t.file, t.label)).Nodup)
    (hschemes : r.limits.schemes.Nodup) (hbrowsers : r.browserIds.Nodup)
    (hhost : '?' ∉ r.hosts.baseHost.toList) (hdir : '?' ∉ r.hosts.testDir.toList)
    (hfiles : ∀ t ∈ r.templates, '?' ∉ t.file.toList) (c : Connection) :
    (r.plan c).1.urls.Nodup := by
  have hvisit : ∀ e ∈ (r.plan c).1.entries, e.Unqueried ∧ e.host = r.hosts.testHost := by
    intro e he
    obtain ⟨scheme, t, ht, b, x, popups, rfl⟩ := exists_visit_of_mem_entries he
    have hfile := hfiles t ht
    refine ⟨⟨?_, ?_⟩, rfl⟩
    · show '?' ∉ ("sub." ++ r.hosts.baseHost).toList
      simp [hhost]
    · show '?' ∉ (r.hosts.testDir ++ "/" ++ t.file).toList
      simp [hdir, hfile]
  refine List.Nodup.map_on (fun e he f hf h => ?_) (nodup_entries hpages hschemes hbrowsers c)
  obtain ⟨hunqueried, hhost⟩ := hvisit e he
  obtain ⟨hunqueried', hhost'⟩ := hvisit f hf
  exact TestPlanEntry.eq_of_url_eq hunqueried hunqueried' (hhost.trans hhost'.symm) h

/-- Two browsers visit three pages over two schemes. Two of the pages share a label, and two share a
file. -/
def sharingRequest : PlanRequest where
  templates := [.plain "framing.html" "XFO", .plain "embed.html" "XFO", .plain "framing.html" "CSP"]
  hosts := .default
  limits := .default
  mode := .parsing
  browserIds := [2, 3]

/-- The pages of one label have two URLs in each scheme and browser, as its ids have a gap, the page
of the other has one, and all of these differ. -/
theorem nodup_urls_sharing :
    (sharingRequest.templates.map fun t => (t.file, t.label)).Nodup ∧
    sharingRequest.limits.schemes.Nodup ∧ sharingRequest.browserIds.Nodup ∧
    '?' ∉ sharingRequest.hosts.baseHost.toList ∧ '?' ∉ sharingRequest.hosts.testDir.toList ∧
    (∀ t ∈ sharingRequest.templates, '?' ∉ t.file.toList) ∧
    (sharingRequest.plan (Connection.healthy sampleStore 0)).1.urls.length = 20 ∧
    (sharingRequest.plan (Connection.healthy sampleStore 0)).1.urls.Nodup := by
  have hpages : (sharingRequest.templates.map fun t => (t.file, t.label)).Nodup := by decide
  have hschemes : sharingRequest.limits.schemes.Nodup := by decide
  have hbrowsers : sharingRequest.browserIds.Nodup := by decide
  have hhost : '?' ∉ sharingRequest.hosts.baseHost.toList := by decide
  have hdir : '?' ∉ sharingRequest.hosts.testDir.toList := by decide
  have hfiles : ∀ t ∈ sharingRequest.templates, '?' ∉ t.file.toList := by decide
  refine ⟨hpages, hschemes, hbrowsers, hhost, hdir, hfiles, ?_,
    nodup_urls hpages hschemes hbrowsers hhost hdir hfiles _⟩
  have hplanned : ∀ scheme, (sharingRequest.templates.filter fun t =>
      t.runsIn sharingRequest.mode ∧ t.flaw? sharingRequest.mode sharingRequest.limits = none ∧
        t.runsOver scheme) = sharingRequest.templates := by
    intro scheme
    cases scheme with
    | http => rfl
    | https => rfl
  have hpage : ∀ scheme, (sharingRequest.templates.flatMap fun t => sharingRequest.browserIds.flatMap
      (sharingRequest.block (stored sampleStore t.label sharingRequest.mode) scheme t)).length = 10 := by
    intro scheme
    show ([2, 3].flatMap (sharingRequest.block (stored sampleStore "XFO" .parsing) scheme _) ++
      ([2, 3].flatMap (sharingRequest.block (stored sampleStore "XFO" .parsing) scheme _) ++
      ([2, 3].flatMap (sharingRequest.block (stored sampleStore "CSP" .parsing) scheme _) ++
        []))).length = 10
    rw [stored_xfo, stored_csp]
    rfl
  have hboth : sharingRequest.limits.schemes = [.http, .https] := rfl
  rw [PlanOutcome.urls, List.length_map, plan_eq_flatMap serves_sampleStore]
  simp only [hplanned, hboth, List.flatMap_cons, List.flatMap_nil, List.append_nil,
    List.length_append, hpage]

end ProbeCampaign.PlanRequest
