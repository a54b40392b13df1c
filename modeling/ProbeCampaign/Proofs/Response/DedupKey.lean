import Mathlib.Tactic
import ProbeCampaign.Proofs.Response.Headers
import ProbeCampaign.Proofs.Text.Split

/-!
# Dedup keys

The JSON text of a header list holds no zero byte. So the dedup key of a response can be taken apart
from both ends, and different responses have different dedup keys (`dedupKey_inj`). As far as SHA-256
keeps dedup keys apart, they also have different digests (`digest_inj`).
-/

namespace ProbeCampaign.Hex

/-- Bytes are read from their hexadecimal digits. -/
theorem toBytes?_ofBytes (bs : List UInt8) : toBytes? (ofBytes bs) = some bs := by
  induction bs with
  | nil => rfl
  | cons b bs ih =>
    have hb : b.toNat < 256 := b.toNat_lt
    rw [ofBytes, List.flatMap_cons, ← ofBytes]
    show toBytes? (digit (b.toNat / 16) :: digit (b.toNat % 16) :: ofBytes bs) = _
    rw [toBytes?, value?_digit (by omega), value?_digit (by omega), ih]
    show some (UInt8.ofNat (16 * (b.toNat / 16) + b.toNat % 16) :: bs) = _
    rw [show 16 * (b.toNat / 16) + b.toNat % 16 = b.toNat by omega, UInt8.ofNat_toNat]

theorem ofBytes_inj {as bs : List UInt8} : ofBytes as = ofBytes bs ↔ as = bs := by
  constructor
  · intro h
    have hread := congrArg toBytes? h
    rw [toBytes?_ofBytes, toBytes?_ofBytes] at hread
    exact Option.some.inj hread
  · rintro rfl
    rfl

end ProbeCampaign.Hex

namespace ProbeCampaign.RespType

theorem zero_not_mem_bytes_name (t : RespType) : 0 ∉ Utf8.bytes t.name.toList := by
  cases t with
  | debug => decide
  | basic => decide
  | parsing => decide

theorem name_inj {t u : RespType} : t.name = u.name ↔ t = u := by
  constructor
  · intro h
    have hread := congrArg ofName? h
    rw [ofName?_name, ofName?_name] at hread
    exact Option.some.inj hread
  · rintro rfl
    rfl

end ProbeCampaign.RespType

namespace ProbeCampaign.ResponseSpec

theorem zero_not_mem_bytes_renderList (headers : List Header) :
    0 ∉ Utf8.bytes (Header.renderList headers) := by
  intro hzero
  have hprintable := Header.le_of_mem_bytes_renderList hzero
  exact absurd hprintable (by decide)

/-- Two bytes stand for one number of 16 bits. -/
theorem statusBytes_inj {m n : UInt16}
    (hhigh : UInt8.ofNat (m.toNat / 256) = UInt8.ofNat (n.toNat / 256))
    (hlow : UInt8.ofNat (m.toNat % 256) = UInt8.ofNat (n.toNat % 256)) : m = n := by
  have hm : m.toNat < 65536 := m.toNat_lt
  have hn : n.toNat < 65536 := n.toNat_lt
  rw [Utf8.ofNat_eq_iff (by omega) (by omega)] at hhigh hlow
  rw [← UInt16.toNat_inj]
  omega

/-- Different responses have different dedup keys. -/
theorem dedupKey_inj {a b : ResponseSpec} : a.dedupKey = b.dedupKey ↔ a = b := by
  constructor
  · intro h
    -- The first zero byte ends the headers, and the status code has two bytes whatever they are.
    obtain ⟨hheaders, hrest⟩ := (Text.append_cons_inj_of_first
      (zero_not_mem_bytes_renderList a.headers) (zero_not_mem_bytes_renderList b.headers)).1 h
    obtain ⟨hhigh, hrest⟩ := List.cons.inj hrest
    obtain ⟨hlow, hrest⟩ := List.cons.inj hrest
    -- The last zero byte starts the type, so the label may hold zero bytes of its own.
    obtain ⟨hlabel, htype⟩ := (Text.append_cons_inj_of_last a.respType.zero_not_mem_bytes_name
      b.respType.zero_not_mem_bytes_name).1 (List.cons.inj hrest).2
    rw [Utf8.bytes_inj, Header.renderList_inj] at hheaders
    rw [Utf8.bytes_inj, String.toList_inj] at hlabel htype
    rw [RespType.name_inj] at htype
    cases a
    cases b
    simp only [mk.injEq]
    exact ⟨hheaders, statusBytes_inj hhigh hlow, hlabel, htype⟩
  · rintro rfl
    rfl

/-! ## Digests -/

/-- SHA-256 has no collision on the dedup keys of some responses. -/
def HashesApart (specs : List ResponseSpec) : Prop :=
  ∀ a ∈ specs, ∀ b ∈ specs,
    Sha256.hash a.dedupKey = Sha256.hash b.dedupKey → a.dedupKey = b.dedupKey

theorem HashesApart.subset {specs specs' : List ResponseSpec} (h : HashesApart specs)
    (hsub : specs' ⊆ specs) : HashesApart specs' :=
  fun a ha b hb => h a (hsub ha) b (hsub hb)

/-- It is enough to compare each response with the later ones. -/
theorem hashesApart_of_pairwise {specs : List ResponseSpec}
    (h : specs.Pairwise fun a b => Sha256.hash a.dedupKey ≠ Sha256.hash b.dedupKey) :
    HashesApart specs := by
  have hsymm : Std.Symm fun a b : ResponseSpec =>
      Sha256.hash a.dedupKey ≠ Sha256.hash b.dedupKey := ⟨fun _ _ hne => hne.symm⟩
  intro a ha b hb hhash
  by_contra hkey
  exact h.forall ha hb (fun hab => hkey (congrArg dedupKey hab)) hhash

/-- It is enough that a part of each hash differs. -/
theorem hashesApart_of_nodup_map {β : Type} (part : List UInt8 → β) {specs : List ResponseSpec}
    (h : (specs.map fun spec => part (Sha256.hash spec.dedupKey)).Nodup) : HashesApart specs :=
  hashesApart_of_pairwise ((List.pairwise_map.1 h).imp fun hne hhash => hne (congrArg part hhash))

/-- Where SHA-256 has no collision, digests tell responses apart. -/
theorem HashesApart.digest_inj {specs : List ResponseSpec} (h : HashesApart specs)
    {a b : ResponseSpec} (ha : a ∈ specs) (hb : b ∈ specs) : a.digest = b.digest ↔ a = b := by
  constructor
  · intro hdigest
    have hhash := Hex.ofBytes_inj.1 (String.ofList_inj.1 hdigest)
    exact dedupKey_inj.1 (h a ha b hb hhash)
  · rintro rfl
    rfl

/-- The dedup key stands for the whole response, and so does the digest unless SHA-256 maps the two
dedup keys to the same hash. -/
theorem key_faithful (a b : ResponseSpec) :
    (a.dedupKey = b.dedupKey ↔ a = b) ∧
      (HashesApart [a, b] → (a.digest = b.digest ↔ a = b)) :=
  ⟨dedupKey_inj, fun h => h.digest_inj (by simp) (by simp)⟩

/-- A label that ends in a zero byte and the name of a type is not mistaken for that type. -/
theorem key_faithful_nul :
    HashesApart [⟨[], 0, "A\x00debug", .basic⟩, ⟨[], 0, "A", .debug⟩] ∧
      (⟨[], 0, "A\x00debug", .basic⟩ : ResponseSpec).digest ≠
        (⟨[], 0, "A", .debug⟩ : ResponseSpec).digest := by
  have hapart : HashesApart [⟨[], 0, "A\x00debug", .basic⟩, ⟨[], 0, "A", .debug⟩] :=
    hashesApart_of_pairwise (by decide +kernel)
  refine ⟨hapart, fun hdigest => ?_⟩
  have heq := ((key_faithful _ _).2 hapart).1 hdigest
  exact absurd heq (by decide)

end ProbeCampaign.ResponseSpec
