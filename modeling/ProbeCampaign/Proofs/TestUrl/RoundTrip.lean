import Mathlib.Tactic
import ProbeCampaign.Proofs.Fallible
import ProbeCampaign.Proofs.Url.Web
import ProbeCampaign.TestUrl

/-!
# Test URLs read back

An entry is canonical when its host, its path and its numbers are as a URL carries them. The URL of
a canonical entry is read back as that entry (`parse_url`), and what is read from any URL is a
canonical entry (`canonical_of_parse`), given that hosts are read back from their written form.
-/

namespace ProbeCampaign.Scheme

/-- The port that a scheme implies. -/
def port : Scheme → Nat
  | .http => 80
  | .https => 443

theorem webPort?_name (s : Scheme) : Url.webPort? s.name.toList = some s.port := by
  cases s with
  | http => rfl
  | https => rfl

theorem ofName?_name (s : Scheme) : ofName? s.name = some s := by
  cases s with
  | http => rfl
  | https => rfl

theorem name_of_ofName? {name : String} {s : Scheme} (h : ofName? name = some s) :
    s.name = name := by
  simpa using List.find?_some h

end ProbeCampaign.Scheme

namespace ProbeCampaign.TestPlanEntry

/-- A host with a port as they are written in a URL of a scheme and read back. -/
def IsHostText (scheme : Scheme) (text : String) : Prop :=
  ∃ host port, text = hostText host port ∧ Host.parse host.render = .ok host ∧
    Url.PortFits scheme.port port

/-- An entry whose host, path and numbers are as a URL carries them. -/
structure Canonical (e : TestPlanEntry) : Prop where
  host : IsHostText e.scheme e.host
  path : UrlPath.Normal e.path.toList
  browserId : fitsInt64 e.browserId = true
  first : fitsInt64 e.ids.first = true
  last : fitsInt64 e.ids.last = true
  ordered : e.ids.first ≤ e.ids.last
  timeout : e.timeout < capacity 32
  popups : ∀ b ∈ e.popups, b.first < capacity 63 ∧ b.last < capacity 63

theorem hostText_eq (host : Host) (port : Option Nat) :
    hostText host port = String.ofList (host.render ++ Url.portText port) := by
  cases port with
  | none => rfl
  | some n => rfl

theorem isHostText_domain {scheme : Scheme} {name : List Char} {port : Option Nat}
    (h : Host.PlainDomain name) (hport : Url.PortFits scheme.port port) :
    IsHostText scheme (String.ofList (name ++ Url.portText port)) := by
  refine ⟨.domain name, port, ?_, Host.parse_of_plainDomain h, hport⟩
  rw [hostText_eq]
  rfl

/-! ## From entry to URL and back -/

/-- All parameters of the URL of an entry. -/
def allParams (e : TestPlanEntry) : List (String × String) :=
  e.identifyingParams e.browserId ++ e.visitParams

/-- The names of all parameters. -/
def parameterNames : List String :=
  ["resp_type", "browser_id", "label", "first_id", "last_id", "scheme", "timeout", "first_popup",
    "last_popup", "run_no_popup"]

/-- Pairs that give each parameter the value that it has for an entry, or none if it has none. -/
def Carries (pairs : List (String × String)) (e : TestPlanEntry) : Prop :=
  ∀ key ∈ parameterNames, Form.last? pairs key = Form.last? e.allParams key

/-- The URL of the page of an entry with any query. -/
def urlWith (e : TestPlanEntry) (query : List Char) : String :=
  e.scheme.name ++ "://" ++ e.host ++ "/" ++ e.path ++ "?" ++ String.ofList query

theorem toList_urlWith {e : TestPlanEntry} {host : Host} {port : Option Nat}
    (h : e.host = hostText host port) (query : List Char) :
    (e.urlWith query).toList =
      Url.written e.scheme.name.toList host port e.path.toList query := by
  unfold urlWith Url.written
  rw [h, hostText_eq]
  simp

theorem get_of_get? {p : Params} {key value : String} (h : p.get? key = some value) :
    p.get key = .ok value := by
  unfold Params.get
  rw [h]

theorem number_of_get {p : Params} {key : String} {n : Int}
    (h : p.get? key = some (String.ofList (Decimal.ofInt n))) (hn : fitsInt64 n = true) :
    p.number key = .ok n := by
  unfold Params.number
  rw [get_of_get? h]
  simp only [bind, Except.bind, String.toList_ofList, Decimal.int64?_ofInt hn]

/-- A count that was written is read back, as long as it fits. -/
theorem count_of_get {p : Params} {key : String} {n bound : Nat}
    (h : p.get? key = some (String.ofList (Decimal.ofNat n))) (hn : n < capacity 63)
    (hbound : n < bound) : p.count key bound = .ok n := by
  have hfits : fitsInt64 (n : Int) = true := by
    rw [Decimal.fitsInt64_iff]
    omega
  unfold Params.count
  rw [number_of_get (n := (n : Int)) h hfits]
  exact if_pos ⟨by omega, by omega⟩

/-- No parameter is written twice. -/
theorem nodup_keys_allParams (e : TestPlanEntry) : (e.allParams.map (·.1)).Nodup := by
  unfold allParams visitParams
  cases e.popups with
  | none => simp [identifyingParams]
  | some b => simp [identifyingParams]

theorem mem_parameterNames {e : TestPlanEntry} {key : String} (h : key ∈ e.allParams.map (·.1)) :
    key ∈ parameterNames := by
  have hsub : e.allParams.map (·.1) ⊆ parameterNames := by
    unfold allParams visitParams
    cases e.popups with
    | none => simp [identifyingParams, parameterNames]
    | some b => simp [identifyingParams, parameterNames]
  exact hsub h

section Carries

variable {e : TestPlanEntry} {pairs : List (String × String)} (hcarries : Carries pairs e)
  (raw : String)

include hcarries

theorem get?_of_mem {key value : String} (h : (key, value) ∈ e.allParams) :
    Params.get? ⟨raw, pairs⟩ key = some value :=
  (hcarries key (mem_parameterNames (List.mem_map.2 ⟨_, h, rfl⟩))).trans
    (Form.last?_of_mem e.nodup_keys_allParams h)

/-- Popups are given by all three parameters or by none. -/
theorem popups_of_carries (h : ∀ b ∈ e.popups, b.first < capacity 63 ∧ b.last < capacity 63) :
    Params.popups ⟨raw, pairs⟩ = .ok e.popups := by
  cases hp : e.popups with
  | none =>
    have hnone : ∀ key ∈ ["first_popup", "last_popup", "run_no_popup"],
        Params.get? ⟨raw, pairs⟩ key = none := by
      intro key hkey
      simp only [List.mem_cons, List.not_mem_nil, or_false] at hkey
      refine (hcarries key ?_).trans (Form.last?_of_not_mem ?_)
      · rcases hkey with rfl | rfl | rfl <;> decide
      · rcases hkey with rfl | rfl | rfl <;> simp [allParams, visitParams, identifyingParams, hp]
    unfold Params.popups
    rw [hnone "first_popup" (by simp), hnone "last_popup" (by simp), hnone "run_no_popup" (by simp)]
  | some b =>
    obtain ⟨hfirst, hlast⟩ := h b hp
    have hmem : ∀ pair ∈ [("first_popup", String.ofList (Decimal.ofNat b.first)),
        ("last_popup", String.ofList (Decimal.ofNat b.last)), ("run_no_popup", b.flag)],
        Params.get? ⟨raw, pairs⟩ pair.1 = some pair.2 := by
      intro pair hpair
      refine get?_of_mem hcarries raw (List.mem_append_right _ ?_)
      unfold visitParams
      rw [hp]
      exact List.mem_cons_of_mem _ hpair
    have hget1 := hmem _ List.mem_cons_self
    have hget2 := hmem _ (List.mem_cons_of_mem _ List.mem_cons_self)
    have hget3 := hmem _ (List.mem_cons_of_mem _ (List.mem_cons_of_mem _ List.mem_cons_self))
    have hcapacity : capacity 63 ≤ capacity 64 := by decide
    unfold Params.popups
    rw [hget1, hget2, hget3]
    dsimp only
    rw [count_of_get hget1 hfirst (by omega), count_of_get hget2 hlast (by omega)]
    obtain ⟨first, last, runNoPopup⟩ := b
    cases runNoPopup with
    | false => rfl
    | true => rfl

end Carries

/-- The URL of a canonical entry is taken apart into what it was written from. -/
theorem urlParse_urlWith {e : TestPlanEntry} (h : Canonical e) {query : List Char}
    (hquery : ∀ c ∈ query, Form.isQueryChar c = true) :
    ∃ host port, Url.parse (e.urlWith query).toList =
      .ok ⟨e.scheme.name.toList, some host, port, '/' :: e.path.toList, some query⟩ ∧
      e.host = hostText host port ∧ Host.parse host.render = .ok host := by
  obtain ⟨host, port, hhost, hparse, hport⟩ := h.host
  refine ⟨host, port, ?_, hhost, hparse⟩
  rw [toList_urlWith hhost]
  exact Url.parse_written e.scheme.webPort?_name hparse hport h.path hquery

/-- A canonical entry is read from the URL of its page with any query that carries it. -/
theorem parse_urlWith {e : TestPlanEntry} (h : Canonical e) {query : List Char}
    (hquery : ∀ c ∈ query, Form.isQueryChar c = true) (hcarries : Carries (Form.decode query) e) :
    parse (e.urlWith query) = .ok e := by
  obtain ⟨host, port, hread, hhost, -⟩ := urlParse_urlWith h hquery
  generalize e.urlWith query = raw at hread ⊢
  have hget : ∀ key value, (key, value) ∈ e.identifyingParams e.browserId →
      Params.get? ⟨raw, Form.decode query⟩ key = some value := fun key value hmem =>
    get?_of_mem hcarries raw (List.mem_append_left _ hmem)
  -- Every parameter is read back; then parsing goes through step by step.
  have hscheme := get_of_get? (hget "scheme" e.scheme.name (by simp [identifyingParams]))
  have hfirst := number_of_get (hget "first_id" _ (by simp [identifyingParams])) h.first
  have hlast := number_of_get (hget "last_id" _ (by simp [identifyingParams])) h.last
  have htimeout : Params.count ⟨raw, Form.decode query⟩ "timeout" (capacity 32) = .ok e.timeout :=
    count_of_get (get?_of_mem hcarries raw (List.mem_append_right _ List.mem_cons_self))
      (lt_trans h.timeout (by decide)) h.timeout
  have htype := get_of_get? (hget "resp_type" e.respType.name (by simp [identifyingParams]))
  have hbrowser := number_of_get (hget "browser_id" _ (by simp [identifyingParams])) h.browserId
  have hlabel := get_of_get? (hget "label" e.label (by simp [identifyingParams]))
  have hnonempty : IdRange.isEmpty ⟨e.ids.first, e.ids.last⟩ = false := by
    rw [IdRange.isEmpty, decide_eq_false_iff_not, not_lt]
    exact h.ordered
  unfold parse
  rw [hread]
  simp only [Except.mapError, bind, Except.bind, Option.getD_some, String.ofList_toList,
    e.scheme.ofName?_name, hscheme, hfirst, hlast, htimeout, htype, hbrowser, hlabel]
  rw [if_neg (by simp), hnonempty, if_neg (by simp), popups_of_carries hcarries raw h.popups]
  dsimp only
  rw [e.respType.ofName?_name, UrlPath.trimmed_of_normal h.path, String.ofList_toList, ← hhost]
  rfl

/-- The URL of a canonical entry is read back as that entry. -/
theorem parse_url {e : TestPlanEntry} (h : Canonical e) : parse e.url = .ok e := by
  refine parse_urlWith h (fun c hc => Form.mem_encode hc) ?_
  rw [Form.decode_encode]
  exact fun _ _ => rfl

/-! ## From URL to entry -/

/-- A number that is read has 64 bits. -/
theorem fitsInt64_of_number {p : Params} {key : String} {n : Int} (h : p.number key = .ok n) :
    fitsInt64 n = true := by
  unfold Params.number at h
  obtain ⟨value, -, h⟩ := Fallible.bind_ok_iff.1 h
  split at h
  · next m hm =>
    cases h
    exact Decimal.fitsInt64_of_int64? hm
  · cases h

/-- A count that is read is within its bound. -/
theorem count_ok {p : Params} {key : String} {bound n : Nat} (h : p.count key bound = .ok n) :
    n < capacity 63 ∧ n < bound := by
  unfold Params.count at h
  obtain ⟨m, hm, h⟩ := Fallible.bind_ok_iff.1 h
  have hfits := Decimal.fitsInt64_iff.1 (fitsInt64_of_number hm)
  split at h
  · next hbound =>
    cases h
    exact ⟨by omega, by omega⟩
  · cases h

/-- Popups as parameters give them: none of the three parameters, or all. -/
def PopupsGiven (p : Params) : Option PopupBucket → Prop
  | none => ∀ key ∈ ["first_popup", "last_popup", "run_no_popup"], p.get? key = none
  | some b => p.count "first_popup" (capacity 64) = .ok b.first ∧
      p.count "last_popup" (capacity 64) = .ok b.last ∧ p.get? "run_no_popup" = some b.flag

/-- The parameters of popups are all given or all missing. -/
theorem popupsGiven_of_ok {p : Params} {popups : Option PopupBucket} (h : p.popups = .ok popups) :
    PopupsGiven p popups := by
  unfold Params.popups at h
  split at h
  · next hfirst hlast hflag =>
    cases h
    intro key hkey
    simp only [List.mem_cons, List.not_mem_nil, or_false] at hkey
    rcases hkey with rfl | rfl | rfl
    · exact hfirst
    · exact hlast
    · exact hflag
  · next flag _ _ hflag =>
    obtain ⟨first, hfirst, h⟩ := Fallible.bind_ok_iff.1 h
    obtain ⟨last, hlast, h⟩ := Fallible.bind_ok_iff.1 h
    split at h
    · next hyes =>
      cases h
      exact ⟨hfirst, hlast, hflag.trans (congrArg some hyes)⟩
    · split at h
      · next hno =>
        cases h
        exact ⟨hfirst, hlast, hflag.trans (congrArg some hno)⟩
      · cases h
  · cases h

theorem popups_ok {p : Params} {popups : Option PopupBucket} (h : p.popups = .ok popups) :
    ∀ b ∈ popups, b.first < capacity 63 ∧ b.last < capacity 63 := by
  rintro b rfl
  obtain ⟨hfirst, hlast, -⟩ := popupsGiven_of_ok h
  exact ⟨(count_ok hfirst).1, (count_ok hlast).1⟩

/-- How the parts of a URL and its parameters make up the entry that the URL denotes. -/
structure ReadFrom (u : Url) (p : Params) (e : TestPlanEntry) : Prop where
  scheme : Scheme.ofName? (String.ofList u.scheme) = some e.scheme
  host : ∃ host, u.host = some host ∧ e.host = hostText host u.port
  path : e.path = String.ofList (u.path.dropWhile (· = '/'))
  first : p.number "first_id" = .ok e.ids.first
  last : p.number "last_id" = .ok e.ids.last
  nonempty : e.ids.isEmpty = false
  timeout : p.count "timeout" (capacity 32) = .ok e.timeout
  popups : p.popups = .ok e.popups
  browserId : p.number "browser_id" = .ok e.browserId

/-- What is accepted was read from a URL, field by field. -/
theorem parse_ok {raw : String} {e : TestPlanEntry} (h : parse raw = .ok e) :
    ∃ u, Url.parse raw.toList = .ok u ∧ ReadFrom u ⟨raw, Form.decode (u.query.getD [])⟩ e := by
  unfold parse at h
  obtain ⟨u, hu, h⟩ := Fallible.bind_ok_iff.1 h
  refine ⟨u, Fallible.mapError_ok_iff.1 hu, ?_⟩
  dsimp only at h
  generalize (⟨raw, Form.decode (u.query.getD [])⟩ : Params) = p at h ⊢
  split at h
  · next scheme hscheme =>
    split at h
    · next host hhost =>
      obtain ⟨name, -, h⟩ := Fallible.bind_ok_iff.1 h
      split at h
      · split at h
        · obtain ⟨_, hthrow, _⟩ := Fallible.bind_ok_iff.1 h
          cases hthrow
        · obtain ⟨first, hfirst, h⟩ := Fallible.bind_ok_iff.1 h
          obtain ⟨last, hlast, h⟩ := Fallible.bind_ok_iff.1 h
          split at h
          · obtain ⟨_, hthrow, _⟩ := Fallible.bind_ok_iff.1 h
            cases hthrow
          · next hempty =>
            obtain ⟨timeout, htimeout, h⟩ := Fallible.bind_ok_iff.1 h
            obtain ⟨popups, hpopups, h⟩ := Fallible.bind_ok_iff.1 h
            obtain ⟨typeName, -, h⟩ := Fallible.bind_ok_iff.1 h
            split at h
            · obtain ⟨browserId, hbrowser, h⟩ := Fallible.bind_ok_iff.1 h
              obtain ⟨label, -, h⟩ := Fallible.bind_ok_iff.1 h
              cases h
              exact
                { scheme := hscheme
                  host := ⟨host, hhost, rfl⟩
                  path := rfl
                  first := hfirst
                  last := hlast
                  nonempty := Bool.eq_false_iff.2 hempty
                  timeout := htimeout
                  popups := hpopups
                  browserId := hbrowser }
            · cases h
      · cases h
    · cases h
  · cases h

/-- The scheme of an entry is one of the web. -/
theorem ReadFrom.webPort {u : Url} {p : Params} {e : TestPlanEntry} (h : ReadFrom u p e) :
    Url.webPort? u.scheme = some e.scheme.port := by
  have hname := Scheme.name_of_ofName? h.scheme
  rw [← e.scheme.webPort?_name, hname, String.toList_ofList]

/-- The range that is read from a URL has an id. -/
theorem ordered_of_parse {raw : String} {e : TestPlanEntry} (h : parse raw = .ok e) :
    e.ids.first ≤ e.ids.last := by
  obtain ⟨u, -, hread⟩ := parse_ok h
  have hnonempty := hread.nonempty
  rw [IdRange.isEmpty, decide_eq_false_iff_not, not_lt] at hnonempty
  exact hnonempty

/-- The host of a URL is read back from its written form. -/
def HostReadsBack (raw : String) : Prop :=
  ∀ u host, Url.parse raw.toList = .ok u → u.host = some host → Host.parse host.render = .ok host

/-- The host of a canonical entry is read back from its URL. -/
theorem hostReadsBack_url {e : TestPlanEntry} (h : Canonical e) : HostReadsBack e.url := by
  obtain ⟨host, port, hread, -, hback⟩ := urlParse_urlWith h fun c hc => Form.mem_encode hc
  intro u host' hu hhost'
  obtain rfl := Except.ok.inj (hread.symm.trans hu)
  obtain rfl := Option.some.inj hhost'
  exact hback

/-- What is read from a URL is canonical. -/
theorem canonical_of_parse {raw : String} {e : TestPlanEntry} (h : parse raw = .ok e)
    (hback : HostReadsBack raw) : Canonical e := by
  obtain ⟨u, hu, hread⟩ := parse_ok h
  obtain ⟨host, hhost, htext⟩ := hread.host
  -- The scheme of the entry is one of the web, so host and path are those of a web URL.
  obtain ⟨-, hport, text, hpath⟩ := Url.parse_ok_web hu hread.webPort
  refine
    { host := ⟨host, u.port, htext, hback u host hu hhost, hport⟩
      path := ?_
      browserId := fitsInt64_of_number hread.browserId
      first := fitsInt64_of_number hread.first
      last := fitsInt64_of_number hread.last
      ordered := ordered_of_parse h
      timeout := (count_ok hread.timeout).2
      popups := popups_ok hread.popups }
  rw [hread.path, String.toList_ofList, hpath]
  exact UrlPath.normal_trimmed_normalize text

end ProbeCampaign.TestPlanEntry
