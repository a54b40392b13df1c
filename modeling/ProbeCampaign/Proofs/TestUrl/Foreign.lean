import Mathlib.Tactic
import ProbeCampaign.Proofs.TestUrl.RoundTrip

/-!
# Test URLs with other parameters

The parameters of a test URL may come in any order, and parameters with other names may stand
between them (`carries_of_perm`). An entry whose host is a plain domain and whose path needs no
escapes is read back from its URL whatever its label holds, and from every such variant of the URL
(`parse_foreign`).
-/

namespace ProbeCampaign.TestPlanEntry

/-- An entry on a plain domain, with a port unless the scheme implies it, whose path needs no
escapes. Its numbers are of 64 bits, the timeout of 32. -/
structure Plain (e : TestPlanEntry) : Prop where
  host : ∃ name port, Host.PlainDomain name ∧ Url.PortFits e.scheme.port port ∧
    e.host = String.ofList (name ++ Url.portText port)
  path : UrlPath.Unreserved e.path.toList
  browserId : fitsInt64 e.browserId = true
  first : fitsInt64 e.ids.first = true
  last : fitsInt64 e.ids.last = true
  ordered : e.ids.first ≤ e.ids.last
  timeout : e.timeout < capacity 32
  popups : ∀ b ∈ e.popups, b.first < capacity 63 ∧ b.last < capacity 63

/-- An entry of plain parts is written in its canonical form. -/
theorem Plain.canonical {e : TestPlanEntry} (h : e.Plain) : e.Canonical where
  host := by
    obtain ⟨name, port, hname, hport, heq⟩ := h.host
    rw [heq]
    exact isHostText_domain hname hport
  path := UrlPath.normal_of_unreserved h.path
  browserId := h.browserId
  first := h.first
  last := h.last
  ordered := h.ordered
  timeout := h.timeout
  popups := h.popups

/-- Neither the order of the parameters nor parameters with other names change what is read. -/
theorem carries_of_perm {e : TestPlanEntry} {pairs foreign : List (String × String)}
    (hforeign : ∀ p ∈ foreign, p.1 ∉ parameterNames)
    (hperm : pairs.Perm (e.allParams ++ foreign)) : Carries pairs e := by
  intro key hkey
  have hmem : ∀ value, (key, value) ∈ pairs ↔ (key, value) ∈ e.allParams := by
    intro value
    rw [hperm.mem_iff, List.mem_append, or_iff_left]
    exact fun hin => hforeign _ hin hkey
  by_cases hgiven : key ∈ e.allParams.map (·.1)
  · obtain ⟨value, hvalue⟩ : ∃ value, (key, value) ∈ e.allParams := by simpa using hgiven
    -- The value of the entry is the only one of its key, wherever it stands.
    have hunique : ∀ v, (key, v) ∈ pairs → v = value := by
      intro v hv
      have hboth := List.inj_on_of_nodup_map e.nodup_keys_allParams ((hmem v).1 hv) hvalue rfl
      exact congrArg Prod.snd hboth
    rw [Form.last?_of_unique ((hmem value).2 hvalue) hunique,
      Form.last?_of_mem e.nodup_keys_allParams hvalue]
  · have hnot : key ∉ pairs.map (·.1) := by
      intro hin
      obtain ⟨value, hvalue⟩ : ∃ value, (key, value) ∈ pairs := by simpa using hin
      exact hgiven (List.mem_map.2 ⟨_, (hmem value).1 hvalue, rfl⟩)
    rw [Form.last?_of_not_mem hnot, Form.last?_of_not_mem hgiven]

/-- An entry is read back from its URL, and also when other parameters are put anywhere into the
query and the parameters are reordered, however the query is written. -/
theorem parse_foreign {e : TestPlanEntry} (h : e.Plain) :
    parse e.url = .ok e ∧
    ∀ foreign : List (String × String), (∀ p ∈ foreign, p.1 ∉ parameterNames) →
      (∀ pairs : List (String × String), pairs.Perm (e.allParams ++ foreign) →
        parse (e.render pairs) = .ok e) ∧
      ∀ query : List Char, (∀ c ∈ query, Form.isQueryChar c = true) →
        (Form.decode query).Perm (e.allParams ++ foreign) → parse (e.urlWith query) = .ok e := by
  refine ⟨parse_url h.canonical, fun foreign hforeign => ⟨fun pairs hperm => ?_, ?_⟩⟩
  · refine parse_urlWith h.canonical (fun c hc => Form.mem_encode hc) ?_
    rw [Form.decode_encode]
    exact carries_of_perm hforeign hperm
  · exact fun query hquery hperm => parse_urlWith h.canonical hquery (carries_of_perm hforeign hperm)

/-- An entry whose label looks like further parameters. -/
def sampleLabelled : TestPlanEntry where
  scheme := .http
  host := "sub.web-platform.test:8080"
  path := "_hp/tests/coop.sub.html"
  respType := .parsing
  browserId := 7
  label := "a b+c&first_id=9#%41?\x00"
  ids := ⟨40, 44⟩
  timeout := 5
  popups := some ⟨1, 8, true⟩

/-- The entry is read with its parameters in reverse and another parameter in front. -/
theorem parse_foreign_sample :
    sampleLabelled.Plain ∧ (∀ p ∈ [("run_id", "&label=x")], p.1 ∉ parameterNames) ∧
      (sampleLabelled.allParams ++ [("run_id", "&label=x")]).reverse.Perm
        (sampleLabelled.allParams ++ [("run_id", "&label=x")]) ∧
      parse (sampleLabelled.render
        (sampleLabelled.allParams ++ [("run_id", "&label=x")]).reverse) = .ok sampleLabelled := by
  have hplain : sampleLabelled.Plain :=
    { host := by
        have hname : Host.PlainDomain "sub.web-platform.test".toList :=
          ⟨by simp [Host.isSmall], by decide, 't', ['e', 's', 't'], by decide, by decide⟩
        have heq : sampleLabelled.host =
            String.ofList ("sub.web-platform.test".toList ++ Url.portText (some 8080)) := by
          decide +kernel
        exact ⟨"sub.web-platform.test".toList, some 8080, hname, ⟨by decide, by decide⟩, heq⟩
      path := ⟨by simp [sampleLabelled, UrlPath.isUnreserved], by decide, by decide, by decide⟩
      browserId := rfl
      first := rfl
      last := rfl
      ordered := by decide
      timeout := by decide
      popups := by decide }
  have hforeign : ∀ p ∈ [("run_id", "&label=x")], p.1 ∉ parameterNames := by decide
  have hperm := List.reverse_perm (sampleLabelled.allParams ++ [("run_id", "&label=x")])
  exact ⟨hplain, hforeign, hperm, ((parse_foreign hplain).2 _ hforeign).1 _ hperm⟩

end ProbeCampaign.TestPlanEntry
