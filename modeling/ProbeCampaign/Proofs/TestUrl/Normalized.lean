import Mathlib.Tactic
import ProbeCampaign.Proofs.TestUrl.RoundTrip

/-!
# Test URLs brought into normal form

Any text that is read as an entry, with a user name, a fragment, dots in its path, a port that the
scheme implies or parameters given twice, is brought into a form of its own: the URL of the entry is
read as the same entry again (`parse_normalized`).
-/

namespace ProbeCampaign.TestPlanEntry

/-- Whatever is read from a text has its ids in order, and no popups or popups given in full. If
its host is read back, all of it is read from its own URL too, so that writing the URL of what was
read changes nothing the second time. -/
theorem parse_normalized {raw : String} {e : TestPlanEntry} (h : parse raw = .ok e) :
    e.ids.first ≤ e.ids.last ∧
      (∃ u, Url.parse raw.toList = .ok u ∧
        PopupsGiven ⟨raw, Form.decode (u.query.getD [])⟩ e.popups) ∧
      (HostReadsBack raw → parse e.url = .ok e ∧ (parse e.url).map url = .ok e.url) := by
  obtain ⟨u, hu, hread⟩ := parse_ok h
  refine ⟨ordered_of_parse h, ⟨u, hu, popupsGiven_of_ok hread.popups⟩, fun hback => ?_⟩
  have hagain : parse e.url = .ok e := parse_url (canonical_of_parse h hback)
  refine ⟨hagain, ?_⟩
  rw [hagain]
  rfl

/-- A URL with a user name, capital letters, dots, a blank, two labels of which the last is no
text, and a fragment. -/
def sampleRaw : String :=
  "HTTP://me@WPT.test:80//a/../%61 b.html?label=x&scheme=http&first_id=1&last_id=2&label=%FF" ++
    "&timeout=5&resp_type=basic&browser_id=-3&last_popup=8&run_no_popup=no&first_popup=1#top"

/-- The entry that it is read as. -/
def sampleRead : TestPlanEntry where
  scheme := .http
  host := "wpt.test"
  path := "%61%20b.html"
  respType := .basic
  browserId := -3
  label := "\ufffd"
  ids := ⟨1, 2⟩
  timeout := 5
  popups := some ⟨1, 8, false⟩

theorem hostReadsBack_of_parse {raw : String} {host : Host}
    (h : (Url.parse raw.toList).toOption.bind (·.host) = some host)
    (hback : Host.parse host.render = .ok host) : HostReadsBack raw := by
  intro u host' hu hhost'
  rw [hu] at h
  obtain rfl : host' = host := Option.some.inj (hhost'.symm.trans h)
  exact hback

/-- The entry is read from its own URL. -/
theorem parse_normalized_sample :
    parse sampleRaw = .ok sampleRead ∧ HostReadsBack sampleRaw ∧
      parse sampleRead.url = .ok sampleRead := by
  have hread : parse sampleRaw = .ok sampleRead := by
    have hoption : (parse sampleRaw).toOption = some sampleRead := by decide +kernel
    cases hparse : parse sampleRaw with
    | error e => rw [hparse] at hoption; cases hoption
    | ok e => rw [hparse] at hoption; exact congrArg _ (Option.some.inj hoption)
  have hname : Host.PlainDomain "wpt.test".toList :=
    ⟨by simp [Host.isSmall], by decide, 't', ['e', 's', 't'], by decide, by decide⟩
  have hhost : (Url.parse sampleRaw.toList).toOption.bind (·.host) =
      some (.domain "wpt.test".toList) := by decide +kernel
  have hback : HostReadsBack sampleRaw :=
    hostReadsBack_of_parse hhost (Host.parse_of_plainDomain hname)
  exact ⟨hread, hback, ((parse_normalized hread).2.2 hback).1⟩

end ProbeCampaign.TestPlanEntry
