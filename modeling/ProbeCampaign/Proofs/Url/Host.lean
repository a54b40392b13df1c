import Mathlib.Tactic
import ProbeCampaign.Proofs.Text.Decimal
import ProbeCampaign.Proofs.Url.Form
import ProbeCampaign.Url.Host

/-!
# Hosts in a URL

The written form of a host that was read ends nowhere but at the port, the path or the query
(`written_render`): it is a name without separators, or such a name with colons between brackets.
A name in ASCII without capital letters and without Punycode is read as it stands unless it ends in
a number (`parse_of_unencoded`). A plain domain, of small letters, digits, hyphens and dots, never
does (`parse_of_plainDomain`).
-/

namespace ProbeCampaign.Domain

theorem isForbidden_of_toNat {c : Char}
    (h : (97 ≤ c.toNat ∧ c.toNat ≤ 122) ∨ (48 ≤ c.toNat ∧ c.toNat ≤ 57) ∨ c.toNat = 45 ∨
      c.toNat = 46) : isForbidden c = false := by
  have hmem : c ∉ ['%', '#', '/', ':', '<', '>', '?', '@', '[', '\\', ']', '^', '|'] := by
    intro hmem
    simp only [List.mem_cons, List.not_mem_nil, or_false] at hmem
    rcases hmem with rfl | rfl | rfl | rfl | rfl | rfl | rfl | rfl | rfl | rfl | rfl | rfl | rfl <;>
      exact absurd h (by decide)
  unfold isForbidden
  rw [Bool.or_eq_false_iff, Bool.or_eq_false_iff, decide_eq_false_iff_not, beq_eq_false_iff_ne]
  exact ⟨⟨by omega, by omega⟩, by simpa using hmem⟩

theorem toNat_of_isDigit {c : Char} (h : Decimal.isDigit c = true) :
    48 ≤ c.toNat ∧ c.toNat ≤ 57 := by
  simp only [Decimal.isDigit, Bool.and_eq_true, decide_eq_true_eq, Char.le_def,
    UInt32.le_iff_toNat_le] at h
  exact h

theorem isForbidden_of_isDigit {c : Char} (h : Decimal.isDigit c = true) : isForbidden c = false :=
  isForbidden_of_toNat (Or.inr (Or.inl (toNat_of_isDigit h)))

/-! ## Punycode -/

theorem isForbidden_digit {n : Nat} (h : n < 36) : isForbidden (Punycode.digit n) = false := by
  interval_cases n <;> rfl

/-- Encoded numbers have letters and digits only: a digit is at least the threshold and below the
base. -/
theorem isForbidden_of_mem_number {bias k q : Nat} :
    ∀ c ∈ Punycode.number bias k q, isForbidden c = false := by
  induction k, q using Punycode.number.induct bias with
  | case1 k q t h =>
    intro c hc
    have ht : t ≤ 26 := by
      show min 26 (max 1 (k - bias)) ≤ 26
      omega
    rw [Punycode.number, if_pos h, List.mem_singleton] at hc
    rw [hc]
    exact isForbidden_digit (by omega)
  | case2 k q t h ih =>
    intro c hc
    have ht : 1 ≤ t ∧ t ≤ 26 := by
      show 1 ≤ min 26 (max 1 (k - bias)) ∧ min 26 (max 1 (k - bias)) ≤ 26
      omega
    rw [Punycode.number, if_neg h, List.mem_cons] at hc
    rcases hc with rfl | hc
    · apply isForbidden_digit
      have hmod : (q - t) % (36 - t) < 36 - t := Nat.mod_lt _ (by omega)
      show t + (q - t) % (36 - t) < 36
      omega
    · exact ih c hc

/-- The encoder has written nothing that a domain name may not hold. -/
def Encodes (e : Punycode.Encoder) : Prop :=
  ∀ c ∈ e.output, isForbidden c = false

/-- A pass over a label adds no other characters. -/
theorem encodes_pass {basic n : Nat} {e : Punycode.Encoder} (h : Encodes e) (c : Nat) :
    Encodes (e.pass basic n c) := by
  unfold Punycode.Encoder.pass
  split
  · exact h
  · split
    · intro d hd
      rcases List.mem_append.1 hd with hd | hd
      · exact h d hd
      · exact isForbidden_of_mem_number d hd
    · exact h

theorem encodes_foldl_pass {basic n : Nat} (label : List Nat) {e : Punycode.Encoder}
    (h : Encodes e) : Encodes (label.foldl (Punycode.Encoder.pass basic n) e) := by
  induction label generalizing e with
  | nil => exact h
  | cons c label ih => exact ih (encodes_pass h c)

/-- Nor do all passes. -/
theorem encodes_encodeFrom {label : List Nat} {basic : Nat} (others : List Nat) (n : Nat)
    {e : Punycode.Encoder} (h : Encodes e) :
    Encodes (Punycode.encodeFrom label basic n others e) := by
  induction others generalizing n e with
  | nil => exact h
  | cons m others ih =>
    rw [Punycode.encodeFrom]
    exact ih (m + 1) (encodes_foldl_pass label h)

/-- An encoded label has no forbidden character, if the label has none. -/
theorem isForbidden_of_mem_encode {label : List Char} (h : ∀ c ∈ label, isForbidden c = false) :
    ∀ c ∈ Punycode.encode label, isForbidden c = false := by
  intro c hc
  unfold Punycode.encode at hc
  rcases List.mem_append.1 hc with hc | hc
  · rcases List.mem_append.1 hc with hc | hc
    · exact h c (List.mem_filter.1 hc).1
    · split at hc
      · exact absurd hc List.not_mem_nil
      · rw [List.mem_singleton.1 hc]
        rfl
  · exact encodes_encodeFrom _ _ (by intro d hd; exact absurd hd List.not_mem_nil) c hc

/-- Nor has its form in ASCII. -/
theorem isForbidden_of_mem_asciiLabel {label : List Char} (h : ∀ c ∈ label, isForbidden c = false) :
    ∀ c ∈ asciiLabel label, isForbidden c = false := by
  intro c hc
  unfold asciiLabel at hc
  split at hc
  · exact h c hc
  · rcases List.mem_append.1 hc with hc | hc
    · simp only [List.mem_cons, List.not_mem_nil, or_false] at hc
      rcases hc with rfl | rfl | rfl | rfl <;> rfl
    · exact isForbidden_of_mem_encode h c hc

/-- A domain name in ASCII form has no character that a domain name may not hold. -/
theorem isForbidden_of_mem_toAscii? {bytes : List UInt8} {name : List Char}
    (h : toAscii? bytes = some name) : ∀ c ∈ name, isForbidden c = false := by
  unfold toAscii? at h
  obtain ⟨forms, -, h⟩ := Option.bind_eq_some_iff.1 h
  obtain ⟨labels, -, h⟩ := Option.bind_eq_some_iff.1 h
  split at h
  · exact absurd h (by simp)
  · next hfits =>
    split at h
    · exact absurd h (by simp)
    -- The labels passed the check, and encoding adds letters, digits and hyphens only.
    · have hname : ['.'].intercalate (labels.map asciiLabel) = name := Option.some.inj h
      subst hname
      intro c hc
      rcases Text.mem_intercalate hc with rfl | ⟨part, hpart, hc⟩
      · rfl
      · obtain ⟨label, hlabel, rfl⟩ := List.mem_map.1 hpart
        refine isForbidden_of_mem_asciiLabel ?_ c hc
        have hall : labels.all labelFits = true := by simpa using hfits
        have hfit := List.all_eq_true.1 hall label hlabel
        rw [labelFits, Bool.and_eq_true] at hfit
        intro d hd
        have hany : label.any isForbidden = false := by simpa using hfit.1
        exact Bool.eq_false_iff.2 fun hdf =>
          Bool.eq_false_iff.1 hany (List.any_eq_true.2 ⟨d, hd, hdf⟩)

end ProbeCampaign.Domain

namespace ProbeCampaign.Host

/-- A text that stands for a host in a URL. -/
inductive Written : List Char → Prop
  | name {cs : List Char} : (∀ c ∈ cs, Domain.isForbidden c = false) → Written cs
  | bracketed {cs : List Char} : (∀ c ∈ cs, Domain.isForbidden c = false ∨ c = ':') →
      Written ('[' :: (cs ++ [']']))

/-- An address of four numbers has digits and dots. -/
theorem isForbidden_of_mem_ipv4 {n : Nat} : ∀ c ∈ Ipv4.render n, Domain.isForbidden c = false := by
  intro c hc
  have hdigits : ∀ m, c ∈ Decimal.ofNat m → Domain.isForbidden c = false := fun m hm =>
    Domain.isForbidden_of_isDigit (Decimal.all_isDigit_ofNat m c hm)
  simp only [Ipv4.render, List.mem_append, List.mem_cons] at hc
  rcases hc with hc | rfl | hc | rfl | hc | rfl | hc
  · exact hdigits _ hc
  · rfl
  · exact hdigits _ hc
  · rfl
  · exact hdigits _ hc
  · rfl
  · exact hdigits _ hc

theorem isForbidden_digitChar {n : Nat} (h : n < 16) :
    Domain.isForbidden (Nat.digitChar n) = false := by
  interval_cases n <;> rfl

/-- Hexadecimal digits are allowed in hosts. -/
theorem isForbidden_of_mem_toDigits (n : Nat) :
    ∀ c ∈ Nat.toDigits 16 n, Domain.isForbidden c = false := by
  induction n using Nat.strong_induction_on with
  | _ n ih =>
    intro c hc
    rw [Nat.toDigits_eq_if (by omega)] at hc
    split at hc
    · next hn =>
      rw [List.mem_singleton.1 hc]
      exact isForbidden_digitChar hn
    · rcases List.mem_append.1 hc with hc | hc
      · exact ih (n / 16) (by omega) c hc
      · rw [List.mem_singleton.1 hc]
        exact isForbidden_digitChar (Nat.mod_lt n (by omega))

/-- Joined pieces have such digits and colons. -/
theorem mem_joined {pieces : List Nat} {c : Char} (h : c ∈ Ipv6.joined pieces) :
    Domain.isForbidden c = false ∨ c = ':' := by
  induction pieces with
  | nil => exact absurd h List.not_mem_nil
  | cons p pieces ih =>
    cases pieces with
    | nil => exact Or.inl (isForbidden_of_mem_toDigits p c h)
    | cons q pieces =>
      rcases List.mem_append.1 h with h | h
      · exact Or.inl (isForbidden_of_mem_toDigits p c h)
      · rcases List.mem_cons.1 h with h | h
        · exact Or.inr h
        · exact ih h

/-- An address in brackets has such digits and colons between them. -/
theorem mem_ipv6 {pieces : List Nat} {c : Char} (h : c ∈ Ipv6.render pieces) :
    Domain.isForbidden c = false ∨ c = ':' := by
  unfold Ipv6.render at h
  dsimp only at h
  split at h
  · exact mem_joined h
  · rcases List.mem_append.1 h with h | h
    · exact mem_joined h
    · rcases List.mem_cons.1 h with h | h
      · exact Or.inr h
      · rcases List.mem_cons.1 h with h | h
        · exact Or.inr h
        · exact mem_joined h

/-- What a host that was read is written as stands for a host. -/
theorem written_render {cs : List Char} {host : Host} (h : parse cs = .ok host) :
    Written host.render := by
  cases host with
  | ipv4 address => exact .name isForbidden_of_mem_ipv4
  | ipv6 pieces => exact .bracketed fun c hc => mem_ipv6 hc
  | domain name =>
    apply Written.name
    unfold parse at h
    split at h
    · unfold bracketed at h
      split at h
      · split at h <;> simp at h
      · simp at h
    · split at h
      · simp at h
      · simp at h
      · next ascii _ hascii =>
        split at h
        · split at h <;> simp at h
        · simp only [Except.ok.injEq, domain.injEq] at h
          subst h
          exact Domain.isForbidden_of_mem_toAscii? hascii

/-! ## Names without Punycode -/

/-- A name of characters of ASCII that a domain name may hold, none of them a capital letter,
without a label in Punycode. -/
structure Unencoded (cs : List Char) : Prop where
  ascii : ∀ c ∈ cs, c.toNat < 128
  allowed : ∀ c ∈ cs, Domain.isForbidden c = false
  small : ∀ c ∈ cs, ¬ ('A' ≤ c ∧ c ≤ 'Z')
  labels : ∀ label ∈ cs.splitOn '.', ¬ ['x', 'n', '-', '-'] <+: label

theorem mapM_eq_some_map {α β : Type} {f : α → Option β} {g : α → β} {xs : List α}
    (h : ∀ x ∈ xs, f x = some (g x)) : xs.mapM f = some (xs.map g) := by
  induction xs with
  | nil => rfl
  | cons x xs ih =>
    rw [List.forall_mem_cons] at h
    rw [List.mapM_cons, h.1, ih h.2]
    rfl

theorem mapped?_of_small {c : Char} (h : c.toNat < 128) (hcap : ¬ ('A' ≤ c ∧ c ≤ 'Z')) :
    Domain.mapped? c = some [c] := by
  unfold Domain.mapped?
  dsimp only
  rw [if_pos h, if_neg hcap]

/-- A label without the mark of an encoded one stands for itself. -/
theorem unicodeLabel?_of_not_prefix {label : List Char} (h : ¬ ['x', 'n', '-', '-'] <+: label) :
    Domain.unicodeLabel? label = some label := by
  unfold Domain.unicodeLabel?
  split
  · next rest => exact absurd ⟨rest, rfl⟩ h
  · rfl

section Unencoded

variable {cs : List Char} (h : Unencoded cs)
include h

theorem Unencoded.label_all {label : List Char} (hlabel : label ∈ cs.splitOn '.') :
    label.all (·.toNat < 128) = true := by
  apply List.all_eq_true.2
  intro c hc
  exact decide_eq_true (h.ascii c (Text.mem_of_mem_splitOn hlabel hc))

/-- The mapping of characters keeps the name. -/
theorem Unencoded.mapM_mapped? : cs.mapM Domain.mapped? = some (cs.map fun c => [c]) :=
  mapM_eq_some_map fun c hc => mapped?_of_small (h.ascii c hc) (h.small c hc)

theorem Unencoded.mapM_unicodeLabel? :
    (cs.splitOn '.').mapM Domain.unicodeLabel? = some (cs.splitOn '.') := by
  rw [mapM_eq_some_map (g := id), List.map_id]
  exact fun label hlabel => unicodeLabel?_of_not_prefix (h.labels label hlabel)

/-- The labels of such a name pass the check. -/
theorem Unencoded.all_labelFits : (cs.splitOn '.').all Domain.labelFits = true := by
  apply List.all_eq_true.2
  intro label hlabel
  have hforbidden : label.any Domain.isForbidden = false := by
    rw [List.any_eq_false]
    intro c hc
    exact Bool.eq_false_iff.1 (h.allowed c (Text.mem_of_mem_splitOn hlabel hc))
  rw [Domain.labelFits, hforbidden, h.label_all hlabel]
  rfl

/-- ASCII has no characters that are written from right to left. -/
theorem Unencoded.any_hasRightToLeft : (cs.splitOn '.').any Domain.hasRightToLeft = false := by
  rw [List.any_eq_false]
  intro label hlabel hany
  obtain ⟨c, hc, hright⟩ := List.any_eq_true.1 hany
  rw [Bool.and_eq_true, decide_eq_true_iff] at hright
  have hlow := h.ascii c (Text.mem_of_mem_splitOn hlabel hc)
  omega

theorem Unencoded.map_asciiLabel : (cs.splitOn '.').map Domain.asciiLabel = cs.splitOn '.' := by
  rw [List.map_congr_left (g := id), List.map_id]
  exact fun label hlabel => if_pos (h.label_all hlabel)

/-- The name is its own ASCII form. -/
theorem toAscii?_of_unencoded : Domain.toAscii? (Utf8.bytes cs) = some cs := by
  have hflatten : (cs.map fun c => [c]).flatten = cs := by
    rw [← List.flatMap_def, List.flatMap_singleton']
  have hcompose : Text.Normal.compose cs = cs :=
    if_pos (List.all_eq_true.2 fun c hc => decide_eq_true (h.ascii c hc))
  unfold Domain.toAscii?
  rw [Utf8.lossy_bytes, h.mapM_mapped?, Option.bind_eq_bind, Option.bind_some, hflatten, hcompose,
    h.mapM_unicodeLabel?, Option.bind_some, h.all_labelFits, h.any_hasRightToLeft,
    h.map_asciiLabel, List.intercalate_splitOn]
  rfl

/-- The name is read as an address if it ends in a number, and otherwise as it stands. -/
theorem parse_of_unencoded (hne : cs ≠ []) :
    parse cs =
      if Ipv4.endsInNumber cs then
        match Ipv4.parse? cs with
        | some address => .ok (.ipv4 address)
        | none => .error .ipv4
      else .ok (.domain cs) := by
  have hbracket : cs.head? ≠ some '[' := fun hhead =>
    absurd (h.allowed _ (List.mem_of_head? hhead)) (by decide)
  have hpercent : '%' ∉ cs := fun hmem => absurd (h.allowed _ hmem) (by decide)
  unfold parse
  rw [if_neg hbracket, Percent.decode_of_not_mem hpercent, toAscii?_of_unencoded h]
  cases cs with
  | nil => exact absurd rfl hne
  | cons c cs => rfl

end Unencoded

/-! ## Plain domains -/

/-- A small letter of ASCII. -/
def isSmall (c : Char) : Bool :=
  'a' ≤ c && c ≤ 'z'

/-- A domain name of small letters, digits, hyphens and dots, without a label in Punycode, whose
last label starts with a letter. -/
structure PlainDomain (cs : List Char) : Prop where
  chars : ∀ c ∈ cs, isSmall c = true ∨ Decimal.isDigit c = true ∨ c = '-' ∨ c = '.'
  labels : ∀ label ∈ cs.splitOn '.', ¬ ['x', 'n', '-', '-'] <+: label
  last : ∃ c label, (cs.splitOn '.').getLast? = some (c :: label) ∧ isSmall c = true

theorem toNat_of_isSmall {c : Char} (h : isSmall c = true) : 97 ≤ c.toNat ∧ c.toNat ≤ 122 := by
  simp only [isSmall, Bool.and_eq_true, decide_eq_true_eq, Char.le_def, UInt32.le_iff_toNat_le] at h
  exact h

theorem not_capital {c : Char} (h : c.toNat < 65 ∨ 90 < c.toNat) : ¬ ('A' ≤ c ∧ c ≤ 'Z') := by
  rintro ⟨h1, h2⟩
  have h1 : 65 ≤ c.toNat := UInt32.le_iff_toNat_le.1 (Char.le_def.1 h1)
  have h2 : c.toNat ≤ 90 := UInt32.le_iff_toNat_le.1 (Char.le_def.1 h2)
  omega

/-- It is enough that the code points are those of small letters, digits, hyphens and dots. -/
theorem unencoded_of_toNat {cs : List Char}
    (h : ∀ c ∈ cs, (97 ≤ c.toNat ∧ c.toNat ≤ 122) ∨ (48 ≤ c.toNat ∧ c.toNat ≤ 57) ∨
      c.toNat = 45 ∨ c.toNat = 46)
    (hlabels : ∀ label ∈ cs.splitOn '.', ¬ ['x', 'n', '-', '-'] <+: label) : Unencoded cs where
  ascii c hc := by
    have hrange := h c hc
    omega
  allowed c hc := Domain.isForbidden_of_toNat (h c hc)
  small c hc := by
    apply not_capital
    have hrange := h c hc
    omega
  labels := hlabels

/-- A plain domain name needs no encoding. -/
theorem PlainDomain.unencoded {cs : List Char} (h : PlainDomain cs) : Unencoded cs := by
  refine unencoded_of_toNat (fun c hc => ?_) h.labels
  rcases h.chars c hc with h | h | rfl | rfl
  · exact Or.inl (toNat_of_isSmall h)
  · exact Or.inr (Or.inl (Domain.toNat_of_isDigit h))
  · exact Or.inr (Or.inr (Or.inl rfl))
  · exact Or.inr (Or.inr (Or.inr rfl))

/-- A small letter is no decimal digit, though it may be a hexadecimal one. -/
theorem not_lt_of_value? {c : Char} {v : Nat} (h : isSmall c = true) (hv : Hex.value? c = some v) :
    ¬ v < 10 := by
  have hn := toNat_of_isSmall h
  unfold Hex.value? at hv
  split at hv
  · next hdigit =>
    have hrange := Domain.toNat_of_isDigit (c := c) (by simpa [Decimal.isDigit] using hdigit)
    omega
  · split at hv
    · have hsub : c.toNat - 87 = v := Option.some.inj hv
      omega
    · split at hv
      · next hcap =>
        have hle : c.toNat ≤ 70 := UInt32.le_iff_toNat_le.1 (Char.le_def.1 hcap.2)
        omega
      · exact absurd hv (by simp)

/-- A small letter is no decimal digit, and once a digit has failed no further one helps. -/
theorem ofDigits?_of_isSmall {c : Char} (cs : List Char) (h : isSmall c = true) :
    Ipv4.ofDigits? 10 (c :: cs) = none := by
  have hstep : (do
      let n ← some 0
      let v ← Hex.value? c
      if v < 10 then pure (10 * n + v) else none) = (none : Option Nat) := by
    cases hv : Hex.value? c with
    | none => rfl
    | some v => exact if_neg (not_lt_of_value? h hv)
  rw [Ipv4.ofDigits?, List.foldl_cons, hstep]
  induction cs with
  | nil => rfl
  | cons d cs ih => exact ih

/-- What starts with a small letter is no number. -/
theorem number?_of_isSmall {c : Char} (cs : List Char) (h : isSmall c = true) :
    Ipv4.number? (c :: cs) = none := by
  have hzero : c ≠ '0' := by
    rintro rfl
    exact absurd h (by decide)
  unfold Ipv4.number?
  split
  · next heq => exact absurd heq (by simp)
  · next heq => exact absurd (List.cons.inj heq).1 hzero
  · next heq => exact absurd (List.cons.inj heq).1 hzero
  · next heq => exact absurd (List.cons.inj heq).1 hzero
  · exact ofDigits?_of_isSmall cs h

/-- A plain domain is no address. -/
theorem endsInNumber_of_plainDomain {cs : List Char} (h : PlainDomain cs) :
    Ipv4.endsInNumber cs = false := by
  obtain ⟨c, label, hlast, hc⟩ := h.last
  have hlabels : Ipv4.labels cs = cs.splitOn '.' := by
    unfold Ipv4.labels
    dsimp only
    rw [hlast, if_neg (by simp)]
  have hdigit : Decimal.isDigit c = false := by
    rw [Bool.eq_false_iff]
    intro hd
    have h1 := toNat_of_isSmall hc
    have h2 := Domain.toNat_of_isDigit hd
    omega
  unfold Ipv4.endsInNumber
  rw [hlabels, hlast]
  simp only [List.isEmpty_cons, List.all_cons, hdigit, Bool.false_and, Bool.and_false,
    number?_of_isSmall label hc, Option.isSome_none, Bool.or_false]

/-- A plain domain is read as it stands. -/
theorem parse_of_plainDomain {cs : List Char} (h : PlainDomain cs) :
    parse cs = .ok (.domain cs) := by
  have hne : cs ≠ [] := by
    rintro rfl
    obtain ⟨c, label, hlast, -⟩ := h.last
    simp at hlast
  rw [parse_of_unencoded h.unencoded hne, endsInNumber_of_plainDomain h, if_neg (by simp)]

end ProbeCampaign.Host
