import Mathlib.Tactic
import ProbeCampaign.Proofs.TestUrl.RoundTrip

/-!
# Test URLs as they are written

The URL of an entry is the address of its page, a question mark and the parameters. Where the page
has no question mark, the URL falls into these two again: clean URLs are the same exactly for the
same page and the same test (`cleanUrl_inj`), and URLs exactly for the same clean URL, browser,
timeout and popups (`url_inj`). On one host that is the same entry (`eq_of_url_eq`).
-/

namespace ProbeCampaign.TestPlanEntry

/-- The address of the page of an entry. -/
def page (e : TestPlanEntry) : String :=
  e.scheme.name ++ "://" ++ e.host ++ "/" ++ e.path

/-- The page of an entry has no question mark. -/
structure Unqueried (e : TestPlanEntry) : Prop where
  host : '?' ∉ e.host.toList
  path : '?' ∉ e.path.toList

theorem toList_render (e : TestPlanEntry) (params : List (String × String)) :
    (e.render params).toList = e.page.toList ++ '?' :: Form.encode params := by
  simp [render, page]

theorem toList_page (e : TestPlanEntry) :
    e.page.toList = e.scheme.name.toList ++ "://".toList ++ e.host.toList ++ '/' :: e.path.toList := by
  simp [page]

/-- A page without a question mark in its host and path has none. -/
theorem Unqueried.not_mem_page {e : TestPlanEntry} (h : e.Unqueried) : '?' ∉ e.page.toList := by
  have hscheme : '?' ∉ e.scheme.name.toList ++ "://".toList := by
    cases e.scheme with
    | http => decide
    | https => decide
  rw [toList_page, List.mem_append, List.mem_append, List.mem_cons]
  rintro ((hmem | hmem) | hmem | hmem)
  · exact hscheme hmem
  · exact h.host hmem
  · exact absurd hmem (by decide)
  · exact h.path hmem

/-- A host, and a path over one scheme on one host, are told by the address of the page. -/
theorem path_eq_of_page_eq {e f : TestPlanEntry} (hscheme : e.scheme = f.scheme)
    (hhost : e.host = f.host) (h : e.page = f.page) : e.path = f.path := by
  unfold page at h
  rw [hscheme, hhost] at h
  exact String.append_right_inj _ |>.1 h

/-! ## Parameters -/

/-- A range is told by its bounds. -/
theorem ids_eq_of_bounds {r s : IdRange} (hfirst : r.first = s.first) (hlast : r.last = s.last) :
    r = s := by
  cases r
  cases s
  exact congrArg₂ IdRange.mk hfirst hlast

/-- The parameters that identify a test tell its fields. -/
theorem identifyingParams_inj {e f : TestPlanEntry} {b c : Int} :
    e.identifyingParams b = f.identifyingParams c ↔
      b = c ∧ e.respType = f.respType ∧ e.label = f.label ∧ e.ids = f.ids ∧ e.scheme = f.scheme := by
  constructor
  · intro h
    simp only [identifyingParams, List.cons.injEq, Prod.mk.injEq, true_and, and_true,
      String.ofList_inj, Decimal.ofInt_inj] at h
    obtain ⟨htype, hbrowser, hlabel, hfirst, hlast, hscheme⟩ := h
    refine ⟨hbrowser, ?_, hlabel, ids_eq_of_bounds hfirst hlast, ?_⟩
    · exact Option.some.inj (by rw [← RespType.ofName?_name, htype, RespType.ofName?_name])
    · exact Option.some.inj (by rw [← Scheme.ofName?_name, hscheme, Scheme.ofName?_name])
  · rintro ⟨rfl, htype, hlabel, hids, hscheme⟩
    rw [identifyingParams, identifyingParams, htype, hlabel, hids, hscheme]

/-- A bucket is told by its bounds and by how a URL says whether the part without popups runs. -/
theorem eq_of_flag_eq {a b : PopupBucket} (hfirst : a.first = b.first) (hlast : a.last = b.last)
    (hflag : a.flag = b.flag) : a = b := by
  obtain ⟨first, last, run⟩ := a
  obtain ⟨first', last', run'⟩ := b
  obtain rfl : first = first' := hfirst
  obtain rfl : last = last' := hlast
  obtain rfl : run = run' := by
    cases run <;> cases run' <;> simp_all [PopupBucket.flag]
  rfl

/-- Those of a visit tell its timeout and popups. -/
theorem visitParams_inj {e f : TestPlanEntry} :
    e.visitParams = f.visitParams ↔ e.timeout = f.timeout ∧ e.popups = f.popups := by
  constructor
  · intro h
    obtain ⟨htimeout, hpopups⟩ := List.cons.inj h
    refine ⟨Decimal.ofNat_inj.1 (String.ofList_inj.1 (congrArg Prod.snd htimeout)), ?_⟩
    cases he : e.popups with
    | none =>
      cases hf : f.popups with
      | none => rfl
      | some b => simp [he, hf] at hpopups
    | some a =>
      cases hf : f.popups with
      | none => simp [he, hf] at hpopups
      | some b =>
        simp only [he, hf, List.cons.injEq, Prod.mk.injEq, true_and, and_true, String.ofList_inj,
          Decimal.ofNat_inj] at hpopups
        obtain ⟨hfirst, hlast, hflag⟩ := hpopups
        rw [eq_of_flag_eq hfirst hlast hflag]
  · rintro ⟨htimeout, hpopups⟩
    rw [visitParams, visitParams, htimeout, hpopups]

/-! ## URLs -/

section Unqueried

variable {e f : TestPlanEntry} (he : e.Unqueried) (hf : f.Unqueried)
include he hf

/-- Pages and parameters can be told from a written URL: the first question mark ends the page. -/
theorem render_inj {params params' : List (String × String)} :
    e.render params = f.render params' ↔ e.page = f.page ∧ params = params' := by
  rw [← String.toList_inj, toList_render, toList_render,
    Text.append_cons_inj_of_first he.not_mem_page hf.not_mem_page, String.toList_inj]
  refine and_congr_right fun _ => ⟨fun h => ?_, congrArg Form.encode⟩
  rw [← Form.decode_encode params, h, Form.decode_encode]

theorem cleanUrl_inj :
    e.cleanUrl = f.cleanUrl ↔ e.page = f.page ∧ e.respType = f.respType ∧ e.label = f.label ∧
      e.ids = f.ids ∧ e.scheme = f.scheme := by
  rw [cleanUrl, cleanUrl, render_inj he hf, identifyingParams_inj, and_iff_right rfl]

/-- URLs tell all fields of their entries. -/
theorem url_inj :
    e.url = f.url ↔ e.cleanUrl = f.cleanUrl ∧ e.browserId = f.browserId ∧ e.timeout = f.timeout ∧
      e.popups = f.popups := by
  rw [cleanUrl_inj he hf, url, url, render_inj he hf]
  constructor
  · rintro ⟨hpage, hparams⟩
    obtain ⟨hidentifying, hvisit⟩ := List.append_inj hparams rfl
    obtain ⟨hbrowser, htest⟩ := identifyingParams_inj.1 hidentifying
    exact ⟨⟨hpage, htest⟩, hbrowser, visitParams_inj.1 hvisit⟩
  · rintro ⟨⟨hpage, htest⟩, hbrowser, hvisit⟩
    rw [identifyingParams_inj.2 ⟨hbrowser, htest⟩, visitParams_inj.2 hvisit]
    exact ⟨hpage, rfl⟩

/-- Entries of one host are told apart by their URLs. -/
theorem eq_of_url_eq (hhost : e.host = f.host) (h : e.url = f.url) : e = f := by
  obtain ⟨hclean, hbrowser, htimeout, hpopups⟩ := (url_inj he hf).1 h
  obtain ⟨hpage, htype, hlabel, hids, hscheme⟩ := (cleanUrl_inj he hf).1 hclean
  have hpath := path_eq_of_page_eq hscheme hhost hpage
  cases e
  cases f
  simp_all

end Unqueried

/-- A host that was read from a URL is written in characters of an authority. -/
theorem isAuthorityChar_of_parse {raw : String} {e : TestPlanEntry} (h : parse raw = .ok e) :
    ∀ c ∈ e.host.toList, Url.IsAuthorityChar c := by
  obtain ⟨u, hu, hread⟩ := parse_ok h
  obtain ⟨⟨host, text, hhost, hparse⟩, -⟩ := Url.parse_ok_web hu hread.webPort
  obtain ⟨host', hhost', heq⟩ := hread.host
  obtain rfl : host' = host := Option.some.inj (hhost'.symm.trans hhost)
  intro c hc
  rw [heq, hostText_eq, String.toList_ofList, List.mem_append] at hc
  rcases hc with hc | hc
  · exact Url.isAuthorityChar_of_written (Host.written_render hparse) c hc
  · exact Url.isAuthorityChar_of_portText c hc

/-- Neither the host nor the path of an entry read from a URL has a question mark. -/
theorem unqueried_of_parse {raw : String} {e : TestPlanEntry} (h : parse raw = .ok e) :
    e.Unqueried := by
  refine ⟨fun hmem => (isAuthorityChar_of_parse h _ hmem).plain (by decide), ?_⟩
  obtain ⟨u, hu, hread⟩ := parse_ok h
  obtain ⟨-, -, path, hpath⟩ := Url.parse_ok_web hu hread.webPort
  rw [hread.path, String.toList_ofList, hpath]
  -- A path is normal once it is read, so a question mark in it is escaped.
  intro hmem
  rcases UrlPath.mem_normal (UrlPath.normal_trimmed_normalize path) hmem with hmem | hmem
  · exact absurd hmem (by decide)
  · exact absurd hmem (by decide)

end ProbeCampaign.TestPlanEntry
