import Mathlib.Data.List.TakeWhile
import Mathlib.Tactic
import ProbeCampaign.Proofs.Fallible
import ProbeCampaign.Proofs.Text.Decimal
import ProbeCampaign.Proofs.Url.Form
import ProbeCampaign.Proofs.Url.Host
import ProbeCampaign.Proofs.Url.Path
import ProbeCampaign.Url

/-!
# Web URLs

A web URL written from its parts is read back as these parts (`parse_written`): the host in the
form in which it was read, the port unless the scheme implies it, a path that normalization leaves
alone, and a query. What `Url.parse` reads has such parts again (`parse_ok_web`).
-/

namespace ProbeCampaign.Url

/-- How the port follows the host. -/
def portText : Option Nat → List Char
  | none => []
  | some n => ':' :: Decimal.ofNat n

/-- A port that a URL is written with: none, or a number of 16 bits that the scheme does not
imply. -/
def PortFits (implied : Nat) : Option Nat → Prop
  | none => True
  | some n => n ≤ 65535 ∧ n ≠ implied

/-- A character of host and port, which ends neither the authority nor a user name. -/
structure IsAuthorityChar (c : Char) : Prop where
  visible : 32 < c.toNat
  plain : c ∉ ['/', '?', '#', '\\', '@']

/-! ## Host and port -/

/-- What is allowed in a host does not end it. -/
theorem isAuthorityChar_of_not_forbidden {c : Char} (h : Domain.isForbidden c = false) :
    IsAuthorityChar c := by
  unfold Domain.isForbidden at h
  rw [Bool.or_eq_false_iff, Bool.or_eq_false_iff, decide_eq_false_iff_not] at h
  obtain ⟨⟨hvisible, -⟩, hmem⟩ := h
  refine ⟨by omega, fun hc => ?_⟩
  simp only [List.mem_cons, List.not_mem_nil, or_false] at hc
  rcases hc with rfl | rfl | rfl | rfl | rfl <;> exact absurd hmem (by decide)

/-- Nor does any character of a written host. -/
theorem isAuthorityChar_of_written {cs : List Char} (h : Host.Written cs) :
    ∀ c ∈ cs, IsAuthorityChar c := by
  have hseparator : ∀ c ∈ ['[', ']', ':'], IsAuthorityChar c := by
    intro c hc
    simp only [List.mem_cons, List.not_mem_nil, or_false] at hc
    rcases hc with rfl | rfl | rfl <;> exact ⟨by decide, by decide⟩
  cases h with
  | name h => exact fun c hc => isAuthorityChar_of_not_forbidden (h c hc)
  | bracketed h =>
    intro c hc
    rcases List.mem_cons.1 hc with rfl | hc
    · exact hseparator _ (by decide)
    · rcases List.mem_append.1 hc with hc | hc
      · rcases h c hc with h | rfl
        · exact isAuthorityChar_of_not_forbidden h
        · exact hseparator _ (by decide)
      · rw [List.mem_singleton.1 hc]
        exact hseparator _ (by decide)

/-- Nor does any of a port. -/
theorem isAuthorityChar_of_portText {port : Option Nat} :
    ∀ c ∈ portText port, IsAuthorityChar c := by
  cases port with
  | none => exact fun c hc => absurd hc List.not_mem_nil
  | some n =>
    intro c hc
    rcases List.mem_cons.1 hc with rfl | hc
    · exact ⟨by decide, by decide⟩
    · exact isAuthorityChar_of_not_forbidden
        (Domain.isForbidden_of_isDigit (Decimal.all_isDigit_ofNat n c hc))

/-- The authority ends at the slash of the path. -/
theorem splitAuthority_append {authority : List Char} (h : ∀ c ∈ authority, IsAuthorityChar c)
    (rest : List Char) :
    splitAuthority true (authority ++ '/' :: rest) = (authority, '/' :: rest) := by
  have hends : ∀ c ∈ authority, (!endsAuthority true c) = true := by
    intro c hc
    have hplain := (h c hc).plain
    simp only [List.mem_cons, List.not_mem_nil, or_false, not_or] at hplain
    simp [endsAuthority, hplain]
  unfold splitAuthority
  rw [List.takeWhile_append_of_pos hends, List.dropWhile_append_of_pos hends]
  simp [endsAuthority]

/-- Without an at sign there is no user. -/
theorem splitUser_of_not_mem {authority : List Char} (h : '@' ∉ authority) :
    splitUser authority = (none, authority) := by
  have htake : authority.reverse.takeWhile (· ≠ '@') = authority.reverse := by
    rw [List.takeWhile_eq_self_iff]
    intro c hc
    rw [decide_eq_true_iff]
    rintro rfl
    exact h (List.mem_reverse.1 hc)
  unfold splitUser
  rw [htake, List.reverse_reverse, if_pos rfl]

theorem splitHost_portText (port : Option Nat) :
    splitHost false (portText port) = ([], portText port) := by
  cases port with
  | none => rfl
  | some n => rfl

/-- What precedes the end of the host belongs to it. -/
theorem splitHost_cons {inside after : Bool} {c : Char} {cs host rest : List Char}
    (hcolon : ¬ (c = ':' ∧ !inside))
    (hafter : (if c = '[' then true else if c = ']' then false else inside) = after)
    (h : splitHost after cs = (host, rest)) : splitHost inside (c :: cs) = (c :: host, rest) := by
  rw [splitHost, if_neg hcolon]
  dsimp only
  rw [hafter, h]

/-- A name ends at the colon of the port. -/
theorem splitHost_name {cs : List Char} (h : ∀ c ∈ cs, Domain.isForbidden c = false)
    (port : Option Nat) : splitHost false (cs ++ portText port) = (cs, portText port) := by
  induction cs with
  | nil => exact splitHost_portText port
  | cons c cs ih =>
    have hc := h c List.mem_cons_self
    refine splitHost_cons ?_ ?_ (ih fun d hd => h d (List.mem_cons_of_mem c hd))
    · rintro ⟨rfl, -⟩
      exact absurd hc (by decide)
    · have hopen : c ≠ '[' := by
        rintro rfl
        exact absurd hc (by decide)
      rw [if_neg hopen, ite_self]

/-- Between brackets colons belong to the host. -/
theorem splitHost_inBrackets {cs : List Char}
    (h : ∀ c ∈ cs, Domain.isForbidden c = false ∨ c = ':') (port : Option Nat) :
    splitHost true (cs ++ ']' :: portText port) = (cs ++ [']'], portText port) := by
  induction cs with
  | nil => exact splitHost_cons (by decide) rfl (splitHost_portText port)
  | cons c cs ih =>
    have hc := h c List.mem_cons_self
    refine splitHost_cons (by simp) ?_ (ih fun d hd => h d (List.mem_cons_of_mem c hd))
    have hclose : c ≠ ']' := by
      rintro rfl
      exact absurd hc (by decide)
    rw [if_neg hclose, ite_self]

/-- The host ends at the colon before the port, not at one between brackets. -/
theorem splitHost_written {cs : List Char} (h : Host.Written cs) (port : Option Nat) :
    splitHost false (cs ++ portText port) = (cs, portText port) := by
  cases h with
  | name h => exact splitHost_name h port
  | @bracketed inner h =>
    have hassoc : '[' :: (inner ++ [']']) ++ portText port =
        '[' :: (inner ++ ']' :: portText port) := by simp
    rw [hassoc]
    exact splitHost_cons (by decide) rfl (splitHost_inBrackets h port)

/-- A port is read back, unless it is the one that the scheme implies. -/
theorem readPort_portText {implied : Nat} {port : Option Nat} (h : PortFits implied port) :
    readPort (some implied) (portText port) = .ok port := by
  cases port with
  | none => rfl
  | some n =>
    obtain ⟨hmax, hne⟩ := h
    have hdigits : (Decimal.ofNat n).all Decimal.isDigit = true :=
      List.all_eq_true.2 (Decimal.all_isDigit_ofNat n)
    rw [portText, readPort, hdigits, Decimal.value_ofNat, if_neg, if_neg]
    · rintro (hnil | himplied)
      · exact Decimal.ofNat_ne_nil n hnil
      · exact hne (Option.some.inj himplied)
    · simpa using hmax

/-- A port that is read is not the implied one, and fits 16 bits. -/
theorem portFits_of_readPort {implied : Nat} {cs : List Char} {port : Option Nat}
    (h : readPort (some implied) cs = .ok port) : PortFits implied port := by
  cases cs with
  | nil =>
    rw [readPort] at h
    cases h
    trivial
  | cons c digits =>
    rw [readPort] at h
    split at h
    · cases h
    · next hvalid =>
      split at h
      · cases h
        trivial
      · next himplied =>
        cases h
        rw [Bool.or_eq_true, not_or, decide_eq_true_iff] at hvalid
        rw [not_or] at himplied
        exact ⟨by omega, fun heq => himplied.2 (congrArg some heq)⟩

/-! ## Scheme, path and query -/

/-- Visible characters stay: there is nothing to trim at either end and nothing to filter in
between. -/
theorem clean_of_visible {cs : List Char} (h : ∀ c ∈ cs, 32 < c.toNat) : clean cs = cs := by
  have hdrop : ∀ ds : List Char, (∀ c ∈ ds, 32 < c.toNat) →
      ds.dropWhile (fun c => decide (c.toNat ≤ 32)) = ds := by
    intro ds hds
    cases ds with
    | nil => rfl
    | cons d ds =>
      rw [List.dropWhile_cons_of_neg]
      have := hds d List.mem_cons_self
      simpa using this
  unfold clean
  dsimp only
  rw [hdrop cs h, hdrop cs.reverse fun c hc => h c (List.mem_reverse.1 hc), List.reverse_reverse,
    List.filter_eq_self]
  intro c hc
  have hvisible := h c hc
  have hne : ∀ d : Char, d.toNat ≤ 32 → (c == d) = false := by
    intro d hd
    rw [beq_eq_false_iff_ne]
    rintro rfl
    omega
  rw [hne '\t' (by decide), hne '\n' (by decide), hne '\r' (by decide)]
  rfl

/-- The schemes of the web are five. -/
theorem scheme_of_webPort? {scheme : List Char} {implied : Nat} (h : webPort? scheme = some implied) :
    scheme ∈ ["http".toList, "https".toList, "ws".toList, "wss".toList, "ftp".toList] := by
  unfold webPort? at h
  simp only [List.lookup_cons, List.lookup_nil] at h
  simp only [List.mem_cons, List.not_mem_nil, or_false]
  by_contra hne
  simp only [not_or, ← beq_eq_false_iff_ne] at hne
  obtain ⟨h1, h2, h3, h4, h5⟩ := hne
  rw [h1, h2, h3, h4, h5] at h
  exact absurd h (by simp)

theorem scheme?_web {scheme : List Char} {implied : Nat} (h : webPort? scheme = some implied)
    (rest : List Char) : scheme? (scheme ++ ':' :: rest) = some (scheme, rest) := by
  have hmem := scheme_of_webPort? h
  simp only [List.mem_cons, List.not_mem_nil, or_false] at hmem
  rcases hmem with rfl | rfl | rfl | rfl | rfl <;> rfl

theorem visible_of_webPort? {scheme : List Char} {implied : Nat}
    (h : webPort? scheme = some implied) : ∀ c ∈ scheme, 32 < c.toNat := by
  have hmem := scheme_of_webPort? h
  simp only [List.mem_cons, List.not_mem_nil, or_false] at hmem
  rcases hmem with rfl | rfl | rfl | rfl | rfl <;> simp

/-- Characters of a query are visible and start no fragment. -/
theorem isQueryChar_visible {c : Char} (h : Form.isQueryChar c = true) : 32 < c.toNat ∧ c ≠ '#' := by
  simp only [Form.isQueryChar, Bool.or_eq_true, beq_iff_eq] at h
  have hplain : UrlPath.isPlain c = true → 32 < c.toNat ∧ c ≠ '#' := by
    intro hc
    refine ⟨?_, ?_⟩
    · simp only [UrlPath.isPlain, Bool.and_eq_true, decide_eq_true_iff] at hc
      exact hc.1.1
    · rintro rfl
      exact absurd hc (by decide)
  rcases h with (((h | rfl) | rfl) | rfl) | rfl
  · exact hplain (UrlPath.isPlain_of_form h)
  · exact ⟨by decide, by decide⟩
  · exact ⟨by decide, by decide⟩
  · exact ⟨by decide, by decide⟩
  · exact ⟨by decide, by decide⟩

/-- Characters of a normal path are visible and end no path. -/
theorem mem_normal_visible {cs : List Char} (h : UrlPath.Normal cs) {c : Char} (hc : c ∈ cs) :
    32 < c.toNat ∧ c ≠ '#' ∧ c ≠ '?' := by
  rcases UrlPath.mem_normal h hc with rfl | hc
  · exact ⟨by decide, by decide, by decide⟩
  · refine ⟨?_, ?_, ?_⟩
    · simp only [UrlPath.isPlain, Bool.and_eq_true, decide_eq_true_iff] at hc
      exact hc.1.1
    · rintro rfl
      exact absurd hc (by decide)
    · rintro rfl
      exact absurd hc (by decide)

theorem query?_append {path : List Char} (h : '?' ∉ path) (query : List Char) :
    query? (path ++ '?' :: query) = some query := by
  unfold query?
  rw [Text.dropWhile_ne_append h]

theorem dropFragment_of_not_mem {cs : List Char} (h : '#' ∉ cs) : dropFragment cs = cs := by
  unfold dropFragment
  rw [List.takeWhile_eq_self_iff]
  intro c hc
  rw [decide_eq_true_iff]
  rintro rfl
  exact h hc

/-! ## Whole URLs -/

/-- The text of a web URL. -/
def written (scheme : List Char) (host : Host) (port : Option Nat) (path query : List Char) :
    List Char :=
  scheme ++ ':' :: '/' :: '/' :: (host.render ++ portText port ++ '/' :: (path ++ '?' :: query))

theorem render_ne_nil {host : Host} (h : Host.parse host.render = .ok host) : host.render ≠ [] := by
  intro hnil
  have hascii : Domain.toAscii? (Percent.decode []) = some [] := by
    unfold Domain.toAscii?
    rw [Percent.decode_of_not_mem List.not_mem_nil, Utf8.lossy_bytes]
    rfl
  rw [hnil, Host.parse, if_neg (by simp), hascii] at h
  cases h

/-- A written URL of the web is read back part by part. Neither host nor path holds what would end
them, and nothing holds a fragment. -/
theorem parseWeb_written {scheme : List Char} {implied : Nat} {host : Host} {port : Option Nat}
    {path query : List Char} (hhost : Host.parse host.render = .ok host)
    (hport : PortFits implied port) (hpath : UrlPath.Normal path)
    (hquery : ∀ c ∈ query, Form.isQueryChar c = true) :
    parseWeb scheme implied (host.render ++ portText port ++ '/' :: (path ++ '?' :: query)) =
      .ok ⟨scheme, some host, port, '/' :: path, some query⟩ := by
  have hwritten := Host.written_render hhost
  have hauthority : ∀ c ∈ host.render ++ portText port, IsAuthorityChar c := by
    intro c hc
    rcases List.mem_append.1 hc with hc | hc
    · exact isAuthorityChar_of_written hwritten c hc
    · exact isAuthorityChar_of_portText c hc
  have hat : '@' ∉ host.render ++ portText port := fun hmem =>
    (hauthority _ hmem).plain (by decide)
  have hmark : '?' ∉ '/' :: path := by
    intro hmem
    rcases List.mem_cons.1 hmem with h | h
    · exact absurd h (by decide)
    · exact (mem_normal_visible hpath h).2.2 rfl
  have htail : dropFragment ('/' :: (path ++ '?' :: query)) = '/' :: path ++ '?' :: query := by
    apply dropFragment_of_not_mem
    intro hmem
    rcases List.mem_cons.1 hmem with h | h
    · exact absurd h (by decide)
    · rcases List.mem_append.1 h with h | h
      · exact (mem_normal_visible hpath h).2.1 rfl
      · rcases List.mem_cons.1 h with h | h
        · exact absurd h (by decide)
        · exact (isQueryChar_visible (hquery _ h)).2 rfl
  unfold parseWeb
  rw [splitAuthority_append hauthority]
  dsimp only
  rw [splitUser_of_not_mem hat]
  dsimp only
  rw [splitHost_written hwritten, htail]
  dsimp only
  rw [if_neg (render_ne_nil hhost), hhost, readPort_portText hport, query?_append hmark,
    Text.takeWhile_ne_append hmark, UrlPath.normalize_of_normal hpath]
  rfl

/-- A web URL written from its parts is read back. -/
theorem parse_written {scheme : List Char} {implied : Nat} {host : Host} {port : Option Nat}
    {path query : List Char} (hscheme : webPort? scheme = some implied)
    (hhost : Host.parse host.render = .ok host) (hport : PortFits implied port)
    (hpath : UrlPath.Normal path) (hquery : ∀ c ∈ query, Form.isQueryChar c = true) :
    parse (written scheme host port path query) =
      .ok ⟨scheme, some host, port, '/' :: path, some query⟩ := by
  have hauthority := isAuthorityChar_of_written (Host.written_render hhost)
  have hvisible : ∀ c ∈ written scheme host port path query, 32 < c.toNat := by
    intro c hc
    simp only [written, List.mem_append, List.mem_cons] at hc
    rcases hc with hc | rfl | rfl | rfl | (hc | hc) | rfl | hc | rfl | hc
    · exact visible_of_webPort? hscheme c hc
    · decide
    · decide
    · decide
    · exact (hauthority c hc).visible
    · exact (isAuthorityChar_of_portText c hc).visible
    · decide
    · exact (mem_normal_visible hpath hc).1
    · decide
    · exact (isQueryChar_visible (hquery c hc)).1
  unfold parse
  rw [clean_of_visible hvisible, written, scheme?_web hscheme]
  dsimp only
  rw [hscheme]
  dsimp only
  rw [List.dropWhile_cons_of_pos (by decide), List.dropWhile_cons_of_pos (by decide)]
  obtain ⟨c, cs, hcs⟩ := List.exists_cons_of_ne_nil (render_ne_nil hhost)
  -- The slashes before the host are dropped; the host itself starts with none.
  have hslash : (c == '/' || c == '\\') = false := by
    have hplain := (hauthority c (by rw [hcs]; exact List.mem_cons_self)).plain
    simp only [List.mem_cons, List.not_mem_nil, or_false, not_or] at hplain
    simp [hplain]
  have hdrop : (host.render ++ portText port ++ '/' :: (path ++ '?' :: query)).dropWhile
      (fun c => c == '/' || c == '\\') =
        host.render ++ portText port ++ '/' :: (path ++ '?' :: query) := by
    rw [hcs]
    exact List.dropWhile_cons_of_neg (by simp [hslash])
  rw [hdrop]
  exact parseWeb_written hhost hport hpath hquery

/-- What `parse` reads from a web URL. -/
theorem parse_ok_web {cs : List Char} {u : Url} {implied : Nat} (h : parse cs = .ok u)
    (hscheme : webPort? u.scheme = some implied) :
    (∃ host text, u.host = some host ∧ Host.parse text = .ok host) ∧ PortFits implied u.port ∧
      ∃ text, u.path = UrlPath.normalize text := by
  unfold parse at h
  split at h
  · cases h
  · next scheme rest hsplit =>
    split at h
    · next port hport =>
      unfold parseWeb at h
      dsimp only at h
      split at h
      · cases h
      · obtain ⟨host, hhost, h⟩ := Fallible.bind_ok_iff.1 h
        obtain ⟨port', hport', h⟩ := Fallible.bind_ok_iff.1 h
        cases h
        rw [hscheme] at hport
        cases hport
        exact ⟨⟨host, _, rfl, hhost⟩, portFits_of_readPort hport', _, rfl⟩
    · next hnone =>
      -- Whatever is checked of another URL, its scheme is the one that was split off.
      have hsame : u.scheme = scheme := by
        dsimp only at h
        split at h
        · obtain ⟨-, -, h⟩ := Fallible.bind_ok_iff.1 h
          cases h
          rfl
        · split at h
          · obtain ⟨-, -, h⟩ := Fallible.bind_ok_iff.1 h
            cases h
            rfl
          · cases h
            rfl
      rw [hsame, hnone] at hscheme
      cases hscheme

end ProbeCampaign.Url
