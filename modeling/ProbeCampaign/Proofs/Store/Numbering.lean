import Mathlib.Tactic
import ProbeCampaign.Proofs.Store.Snapshot
import ProbeCampaign.Proofs.Text.Decimal

/-!
# The ids of a store

A store gives out ascending ids for its responses, and no operation on it changes that
(`Reachable.numbered`). So an id names one response (`Keyed`), as long as ids fit into 64 bits.
-/

namespace ProbeCampaign.Store

/-- The ids of the responses are distinct and fit into 64 bits. -/
structure Keyed (s : Store) : Prop where
  distinct : (s.responses.toList.map (·.id)).Nodup
  fits : ∀ x ∈ s.responses.toList, fitsInt64 x.id = true

theorem Holds.fits {s : Store} (h : s.Keyed) {label : String} {respType : RespType} {id : Int}
    (hid : s.Holds label respType id) : fitsInt64 id = true := by
  obtain ⟨x, hx, -, -, rfl⟩ := hid
  exact h.fits x hx

/-- An id is stored under one label. -/
theorem Holds.label_eq {s : Store} (h : s.Keyed) {l l' : String} {t t' : RespType} {id : Int}
    (hid : s.Holds l t id) (hid' : s.Holds l' t' id) : l = l' := by
  obtain ⟨x, hx, rfl, -, hxid⟩ := hid
  obtain ⟨y, hy, rfl, -, hyid⟩ := hid'
  have hxy : x = y := List.inj_on_of_nodup_map h.distinct hx hy (hxid.trans hyid.symm)
  rw [hxy]

/-- The ids of the responses are ascending, from one up to the number of ids used up. -/
structure Numbered (s : Store) : Prop where
  ascending : s.responses.toList.Pairwise (·.id < ·.id)
  positive : ∀ x ∈ s.responses.toList, 1 ≤ x.id
  used : ∀ x ∈ s.responses.toList, x.id ≤ s.responseIds

theorem Numbered.nodup_ids {s : Store} (h : s.Numbered) :
    (s.responses.toList.map (·.id)).Nodup := by
  rw [List.Nodup, List.pairwise_map]
  exact h.ascending.imp fun hlt => hlt.ne

/-- An id stands for one row. -/
theorem Numbered.eq_of_id_eq {s : Store} (h : s.Numbered) {r r' : StoredResponse}
    (hr : r ∈ s.responses.toList) (hr' : r' ∈ s.responses.toList) (hid : r.id = r'.id) : r = r' :=
  List.inj_on_of_nodup_map h.nodup_ids hr hr' hid

/-- As long as the ids fit, each row is found under its own. -/
theorem Numbered.keyed {s : Store} (h : s.Numbered) (hcount : s.responseIds < capacity 63) :
    s.Keyed where
  distinct := h.nodup_ids
  fits x hx := by
    have hpos := h.positive x hx
    have hused := h.used x hx
    rw [Decimal.fitsInt64_iff]
    omega

theorem numbered_empty : empty.Numbered where
  ascending := .nil
  positive _ hx := absurd hx List.not_mem_nil
  used _ hx := absurd hx List.not_mem_nil

/-- A store with the responses of a numbered store is numbered if it has used up as many ids. -/
theorem Numbered.of_le {s t : Store} (h : s.Numbered) (hresponses : t.responses = s.responses)
    (hle : s.responseIds ≤ t.responseIds) : t.Numbered where
  ascending := by
    rw [hresponses]
    exact h.ascending
  positive x hx := by
    rw [hresponses] at hx
    exact h.positive x hx
  used x hx := by
    rw [hresponses] at hx
    have hused := h.used x hx
    omega

/-- The new row has the first id that was not used up before. -/
theorem numbered_add {s : Store} (h : s.Numbered) (now : Nat) (spec : ResponseSpec)
    (digest : String) (fresh : s.byDigest[digest]? = none) :
    (s.add now spec digest fresh).Numbered := by
  have hmem : ∀ x, x ∈ (s.add now spec digest fresh).responses.toList ↔
      x ∈ s.responses.toList ∨ x = ⟨s.responseIds + 1, spec, digest, now⟩ := by
    intro x
    simp [add]
  have hused : ((s.add now spec digest fresh).responseIds : Int) = s.responseIds + 1 := rfl
  refine ⟨?_, fun x hx => ?_, fun x hx => ?_⟩
  · show (s.responses.push _).toList.Pairwise _
    rw [Array.toList_push, List.pairwise_append]
    refine ⟨h.ascending, List.pairwise_singleton _ _, fun x hx y hy => ?_⟩
    rw [List.mem_singleton.1 hy]
    exact Int.lt_add_one_iff.2 (h.used x hx)
  · rcases (hmem x).1 hx with hx | rfl
    · exact h.positive x hx
    · dsimp only
      omega
  · rw [hused]
    rcases (hmem x).1 hx with hx | rfl
    · have := h.used x hx
      omega
    · exact le_refl _

theorem numbered_upsert {s : Store} (h : s.Numbered) (now : Nat) (spec : ResponseSpec) :
    (s.upsert now spec).2.Numbered := by
  unfold upsert
  dsimp only
  split
  · exact h.of_le rfl (Nat.le_succ _)
  · next hfresh => exact numbered_add h now spec _ hfresh

/-- Registering a browser leaves the responses as they are. -/
theorem responses_register (s : Store) (entry : BrowserEntry) :
    (s.register entry).2.responses = s.responses ∧
      (s.register entry).2.responseIds = s.responseIds := by
  unfold register
  split
  · exact ⟨rfl, rfl⟩
  · exact ⟨rfl, rfl⟩

/-- Adding a result leaves the responses as they are. -/
theorem responses_insertResult {s t : Store} {record : ResultRecord} {id : Int}
    (h : s.insertResult record = .ok (id, t)) :
    t.responses = s.responses ∧ t.responseIds = s.responseIds := by
  unfold insertResult at h
  split at h
  · cases h
    exact ⟨rfl, rfl⟩
  · cases h

theorem numbered_register {s : Store} (h : s.Numbered) (entry : BrowserEntry) :
    (s.register entry).2.Numbered := by
  obtain ⟨hresponses, hused⟩ := responses_register s entry
  exact h.of_le hresponses hused.ge

theorem numbered_insertResult {s t : Store} (h : s.Numbered) {record : ResultRecord} {id : Int}
    (hinsert : s.insertResult record = .ok (id, t)) : t.Numbered := by
  obtain ⟨hresponses, hused⟩ := responses_insertResult hinsert
  exact h.of_le hresponses hused.ge

/-- The stores that operations make of the empty store. -/
inductive Reachable : Store → Prop
  | empty : Reachable empty
  | upsert {s : Store} (now : Nat) (spec : ResponseSpec) : Reachable s →
      Reachable (s.upsert now spec).2
  | register {s : Store} (entry : BrowserEntry) : Reachable s → Reachable (s.register entry).2
  | insertResult {s t : Store} {record : ResultRecord} {id : Int} : Reachable s →
      s.insertResult record = .ok (id, t) → Reachable t

theorem Reachable.numbered {s : Store} (h : Reachable s) : s.Numbered := by
  induction h with
  | empty => exact numbered_empty
  | upsert now spec _ ih => exact numbered_upsert ih now spec
  | register entry _ ih => exact numbered_register ih entry
  | insertResult _ hinsert ih => exact numbered_insertResult ih hinsert

end ProbeCampaign.Store
