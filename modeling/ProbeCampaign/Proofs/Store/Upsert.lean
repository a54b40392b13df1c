import Mathlib.Tactic
import ProbeCampaign.Proofs.Response.DedupKey
import ProbeCampaign.Proofs.Store.Numbering

/-!
# Storing responses

An upsert finds a response by its digest or adds it under the next id (`upsert_cases`), so no
response is stored twice (`Reachable.sound`). As long as SHA-256 keeps the dedup keys apart, what it
finds is the response that was asked for (`upsert_of_mem`), and it finds every response that is
stored (`upsert_of_not_mem`).
-/

namespace ProbeCampaign.Store

/-- The stored responses in the order of their ids. -/
def specs (s : Store) : List ResponseSpec :=
  s.responses.toList.map (·.spec)

theorem mem_specs {s : Store} {spec : ResponseSpec} :
    spec ∈ s.specs ↔ ∃ r ∈ s.responses.toList, r.spec = spec :=
  List.mem_map

/-! ## One upsert -/

theorem toList_responses_add (s : Store) (now : Nat) (spec : ResponseSpec) (digest : String)
    (fresh : s.byDigest[digest]? = none) :
    (s.add now spec digest fresh).responses.toList =
      s.responses.toList ++ [⟨s.responseIds + 1, spec, digest, now⟩] :=
  Array.toList_push

/-- An upsert finds a response of the digest, or there is none and it adds the response. -/
theorem upsert_cases (s : Store) (now : Nat) (spec : ResponseSpec) :
    (∃ r ∈ s.responses.toList, r.digest = spec.digest ∧
        s.upsert now spec = ((r.id, false), { s with responseIds := s.responseIds + 1 })) ∨
      (∀ r ∈ s.responses.toList, r.digest ≠ spec.digest) ∧
        ∃ fresh, s.upsert now spec =
          (((s.responseIds : Int) + 1, true), s.add now spec spec.digest fresh) := by
  have hindex := s.byDigest_eq spec.digest
  unfold upsert
  dsimp only
  split
  · next id hid =>
    left
    rw [hid] at hindex
    obtain ⟨r, hfind, rfl⟩ := Option.map_eq_some_iff.1 hindex.symm
    have hdigest := List.find?_some hfind
    exact ⟨r, List.mem_of_find?_eq_some hfind, by simpa using hdigest, rfl⟩
  · next hfresh =>
    right
    rw [hfresh, eq_comm, Option.map_eq_none_iff, List.find?_eq_none] at hindex
    exact ⟨fun r hr hdigest => hindex r hr (beq_iff_eq.2 hdigest), hfresh, rfl⟩

@[simp] theorem responseIds_upsert (s : Store) (now : Nat) (spec : ResponseSpec) :
    (s.upsert now spec).2.responseIds = s.responseIds + 1 := by
  rcases upsert_cases s now spec with ⟨r, -, -, heq⟩ | ⟨-, fresh, heq⟩
  · rw [heq]
  · rw [heq]
    rfl

/-- An upsert leaves browsers and results as they are. -/
theorem upsert_frame (s : Store) (now : Nat) (spec : ResponseSpec) :
    (s.upsert now spec).2.browsers = s.browsers ∧
      (s.upsert now spec).2.browserIds = s.browserIds ∧
      (s.upsert now spec).2.results = s.results := by
  rcases upsert_cases s now spec with ⟨r, -, -, heq⟩ | ⟨-, fresh, heq⟩
  · rw [heq]
    exact ⟨rfl, rfl, rfl⟩
  · rw [heq]
    exact ⟨rfl, rfl, rfl⟩

/-! ## Stores that operations make -/

/-- Ids are ascending, digests are those of the responses, and no response is stored twice. -/
structure Sound (s : Store) : Prop where
  numbered : s.Numbered
  digest : ∀ r ∈ s.responses.toList, r.digest = r.spec.digest
  once : s.specs.Nodup

theorem sound_empty : empty.Sound where
  numbered := numbered_empty
  digest _ hr := absurd hr List.not_mem_nil
  once := .nil

/-- A store with the responses of a sound store is sound if it has used up as many ids. -/
theorem Sound.of_le {s t : Store} (h : s.Sound) (hresponses : t.responses = s.responses)
    (hle : s.responseIds ≤ t.responseIds) : t.Sound where
  numbered := h.numbered.of_le hresponses hle
  digest := by
    rw [hresponses]
    exact h.digest
  once := by
    rw [specs, hresponses]
    exact h.once

/-- An upsert keeps the rows apart: a response that is stored would have been found by its
digest. -/
theorem sound_upsert {s : Store} (h : s.Sound) (now : Nat) (spec : ResponseSpec) :
    (s.upsert now spec).2.Sound := by
  have hnumbered := numbered_upsert h.numbered now spec
  rcases upsert_cases s now spec with ⟨r, -, -, heq⟩ | ⟨hnone, fresh, heq⟩
  · rw [heq]
    exact h.of_le rfl (Nat.le_succ _)
  · rw [heq] at hnumbered ⊢
    refine ⟨hnumbered, fun r hr => ?_, ?_⟩
    · rw [toList_responses_add, List.mem_append, List.mem_singleton] at hr
      rcases hr with hr | rfl
      · exact h.digest r hr
      · rfl
    · have hnew : spec ∉ s.specs := by
        intro hmem
        obtain ⟨r, hr, rfl⟩ := mem_specs.1 hmem
        exact hnone r hr (h.digest r hr)
      rw [specs, toList_responses_add, List.map_append, List.map_singleton,
        List.nodup_append_comm, List.singleton_append, List.nodup_cons]
      exact ⟨hnew, h.once⟩

theorem sound_register {s : Store} (h : s.Sound) (entry : BrowserEntry) :
    (s.register entry).2.Sound := by
  obtain ⟨hresponses, hused⟩ := responses_register s entry
  exact h.of_le hresponses hused.ge

theorem sound_insertResult {s t : Store} (h : s.Sound) {record : ResultRecord} {id : Int}
    (hinsert : s.insertResult record = .ok (id, t)) : t.Sound := by
  obtain ⟨hresponses, hused⟩ := responses_insertResult hinsert
  exact h.of_le hresponses hused.ge

theorem Reachable.sound {s : Store} (h : Reachable s) : s.Sound := by
  induction h with
  | empty => exact sound_empty
  | upsert now spec _ ih => exact sound_upsert ih now spec
  | register entry _ ih => exact sound_register ih entry
  | insertResult _ hinsert ih => exact sound_insertResult ih hinsert

/-- A response has one row. -/
theorem Sound.eq_of_spec_eq {s : Store} (h : s.Sound) {r r' : StoredResponse}
    (hr : r ∈ s.responses.toList) (hr' : r' ∈ s.responses.toList) (hspec : r.spec = r'.spec) :
    r = r' :=
  List.inj_on_of_nodup_map h.once hr hr' hspec

/-! ## Digests without collisions -/

section HashesApart

variable {s : Store} {spec : ResponseSpec}

/-- A response that is stored is found. -/
theorem upsert_of_mem (h : s.Sound) (hashes : ResponseSpec.HashesApart (spec :: s.specs))
    (hspec : spec ∈ s.specs) (now : Nat) :
    ∃ r ∈ s.responses.toList, r.spec = spec ∧
      s.upsert now spec = ((r.id, false), { s with responseIds := s.responseIds + 1 }) := by
  rcases upsert_cases s now spec with ⟨r, hr, hdigest, heq⟩ | ⟨hnone, -⟩
  · rw [h.digest r hr] at hdigest
    have hmem : r.spec ∈ s.specs := mem_specs.2 ⟨r, hr, rfl⟩
    exact ⟨r, hr, (hashes.digest_inj (by simp [hmem]) (by simp)).1 hdigest, heq⟩
  · obtain ⟨r, hr, rfl⟩ := mem_specs.1 hspec
    exact absurd (h.digest r hr) (hnone r hr)

/-- A response that is not stored is added under the next id. -/
theorem upsert_of_not_mem (h : s.Sound) (hashes : ResponseSpec.HashesApart (spec :: s.specs))
    (hspec : spec ∉ s.specs) (now : Nat) :
    (s.upsert now spec).1 = ((s.responseIds : Int) + 1, true) ∧
      (s.upsert now spec).2.responses.toList =
        s.responses.toList ++ [⟨s.responseIds + 1, spec, spec.digest, now⟩] := by
  rcases upsert_cases s now spec with ⟨r, hr, hdigest, -⟩ | ⟨-, fresh, heq⟩
  · rw [h.digest r hr] at hdigest
    have hmem : r.spec ∈ s.specs := mem_specs.2 ⟨r, hr, rfl⟩
    rw [(hashes.digest_inj (by simp [hmem]) (by simp)).1 hdigest] at hmem
    exact absurd hmem hspec
  · rw [heq]
    exact ⟨rfl, toList_responses_add s now spec _ fresh⟩

end HashesApart

end ProbeCampaign.Store
