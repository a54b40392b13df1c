import Mathlib.Tactic
import ProbeCampaign.Proofs.TestUrl.Written

/-!
# Clean URLs as keys of tests

Where the host of an entry has no slash and the page no question mark, the page falls into host and
path again (`page_inj`). So the clean URL stands for the test of the entry, and for nothing that
differs between the visits of one test (`cleanUrl_faithful`).
-/

namespace ProbeCampaign.TestPlanEntry

/-- Host and path of an entry end where its URL says so: the host at the first slash after the
scheme, the path at the first question mark. -/
structure Delimited (e : TestPlanEntry) : Prop extends e.Unqueried where
  slash : '/' ∉ e.host.toList

/-- Two visits are of the same page for the same responses, whoever makes them and with whichever
timeout and popups. -/
structure SameTest (e f : TestPlanEntry) : Prop where
  scheme : e.scheme = f.scheme
  host : e.host = f.host
  path : e.path = f.path
  respType : e.respType = f.respType
  label : e.label = f.label
  first : e.ids.first = f.ids.first
  last : e.ids.last = f.ids.last

theorem delimited_of_parse {raw : String} {e : TestPlanEntry} (h : parse raw = .ok e) :
    e.Delimited where
  toUnqueried := unqueried_of_parse h
  slash := fun hmem => (isAuthorityChar_of_parse h _ hmem).plain (by decide)

section Delimited

variable {e f : TestPlanEntry} (he : e.Delimited) (hf : f.Delimited)
include he hf

/-- Over one scheme, pages are the same exactly for the same host and path. -/
theorem page_inj (hscheme : e.scheme = f.scheme) :
    e.page = f.page ↔ e.host = f.host ∧ e.path = f.path := by
  rw [← String.toList_inj, toList_page, toList_page, hscheme]
  simp only [List.append_assoc, List.append_right_inj]
  -- Behind the scheme, the first slash ends the host.
  rw [Text.append_cons_inj_of_first he.slash hf.slash, String.toList_inj, String.toList_inj]

/-- Clean URLs are equal exactly for the same test. -/
theorem cleanUrl_eq_iff : e.cleanUrl = f.cleanUrl ↔ e.SameTest f := by
  rw [cleanUrl_inj he.toUnqueried hf.toUnqueried]
  constructor
  · rintro ⟨hpage, htype, hlabel, hids, hscheme⟩
    obtain ⟨hhost, hpath⟩ := (page_inj he hf hscheme).1 hpage
    exact ⟨hscheme, hhost, hpath, htype, hlabel, congrArg IdRange.first hids,
      congrArg IdRange.last hids⟩
  · intro h
    have hpage := (page_inj he hf h.scheme).2 ⟨h.host, h.path⟩
    exact ⟨hpage, h.respType, h.label, ids_eq_of_bounds h.first h.last, h.scheme⟩

end Delimited

/-- The clean URL is the same for two entries exactly if they visit the same test, given that hosts
and paths end where the URLs say so; and so they do in every entry that is read from a URL. -/
theorem cleanUrl_faithful :
    (∀ e f : TestPlanEntry, e.Delimited → f.Delimited →
      (e.cleanUrl = f.cleanUrl ↔ e.SameTest f)) ∧
    ∀ (raw : String) (e : TestPlanEntry), parse raw = .ok e → e.Delimited :=
  ⟨fun _ _ he hf => cleanUrl_eq_iff he hf, fun _ _ h => delimited_of_parse h⟩

/-- A visit whose label looks like the parameters behind it. -/
def injecting : TestPlanEntry where
  scheme := .https
  host := "wpt.test:8443"
  path := "a/coop.html"
  respType := .parsing
  browserId := 7
  label := "COOP&first_id=1&last_id=9#\x00"
  ids := ⟨40, 44⟩
  timeout := 5
  popups := some ⟨1, 8, true⟩

/-- The URL of a visit, with another parameter. -/
def injectingRaw : String :=
  "https://wpt.test:8443/a/coop.html?resp_type=parsing&browser_id=7&label=COOP%26first_id%3D1" ++
    "%26last_id%3D9%23%00&first_id=40&last_id=44&scheme=https&timeout=5&run_id=3" ++
    "&first_popup=1&last_popup=8&run_no_popup=yes"

/-- Another browser, timeout or bucket leaves the clean URL as it is, and another label changes it,
even if the parameters look alike. -/
theorem cleanUrl_faithful_injecting :
    parse injectingRaw = .ok injecting ∧
    injecting.Delimited ∧
    injecting.cleanUrl =
      { injecting with browserId := -1, timeout := 10, popups := none }.cleanUrl ∧
    injecting.cleanUrl ≠ { injecting with label := "COOP", ids := ⟨1, 9⟩ }.cleanUrl := by
  have hread : parse injectingRaw = .ok injecting := by
    have hoption : (parse injectingRaw).toOption = some injecting := by decide +kernel
    cases hparse : parse injectingRaw with
    | error e => rw [hparse] at hoption; cases hoption
    | ok e => rw [hparse] at hoption; exact congrArg _ (Option.some.inj hoption)
  have hdelimited : injecting.Delimited := cleanUrl_faithful.2 injectingRaw injecting hread
  have hvisit : { injecting with browserId := -1, timeout := 10, popups := none }.Delimited :=
    ⟨⟨hdelimited.host, hdelimited.path⟩, hdelimited.slash⟩
  have hlabel : { injecting with label := "COOP", ids := ⟨1, 9⟩ }.Delimited :=
    ⟨⟨hdelimited.host, hdelimited.path⟩, hdelimited.slash⟩
  refine ⟨hread, hdelimited, ?_, fun heq => ?_⟩
  · exact (cleanUrl_faithful.1 _ _ hdelimited hvisit).2 ⟨rfl, rfl, rfl, rfl, rfl, rfl, rfl⟩
  · have hsame := (cleanUrl_faithful.1 _ _ hdelimited hlabel).1 heq
    exact absurd hsame.first (by decide)

end ProbeCampaign.TestPlanEntry
