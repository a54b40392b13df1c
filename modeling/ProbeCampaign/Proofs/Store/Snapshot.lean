import Mathlib.Tactic
import ProbeCampaign.Proofs.Distinct
import ProbeCampaign.Store.Index

/-!
# Snapshots of a store

Planning looks response ids up and remembers the answers. Whatever holds of every answer that a
connection gives holds of the remembered ones (`ids_spec`): they are ids that the store holds
(`answers_held`), and all of them when no lookup fails (`answers_serves`).
-/

namespace ProbeCampaign

/-- A response of a label and type is stored under an id. -/
def Store.Holds (s : Store) (label : String) (respType : RespType) (id : Int) : Prop :=
  ∃ r ∈ s.responses.toList, r.spec.label = label ∧ r.spec.respType = respType ∧ r.id = id

/-- A lookup finds the ids of the rows it is about. -/
theorem Store.mem_lookup {s : Store} {label : String} {respType : RespType} {id : Int} :
    id ∈ s.lookup label respType ↔ s.Holds label respType id := by
  rw [Store.lookup, List.mem_map]
  constructor
  · rintro ⟨r, hr, rfl⟩
    obtain ⟨hmem, hboth⟩ := List.mem_filter.1 hr
    obtain ⟨hlabel, htype⟩ := of_decide_eq_true hboth
    exact ⟨r, hmem, hlabel, htype, rfl⟩
  · rintro ⟨r, hmem, hlabel, htype, rfl⟩
    exact ⟨r, List.mem_filter.2 ⟨hmem, decide_eq_true ⟨hlabel, htype⟩⟩, rfl⟩

namespace ResponseIndex

/-- The ids of the stored responses of a label and type, ascending. -/
def stored (s : Store) (label : String) (respType : RespType) : List Int :=
  settle (.ok (s.lookup label respType))

theorem stored_eq (s : Store) (label : String) (respType : RespType) :
    stored s label respType =
      Distinct.distinct (fun a b => decide (a ≤ b)) (s.lookup label respType) := by
  unfold stored settle Distinct.distinct
  congr

theorem mem_stored {s : Store} {label : String} {respType : RespType} {id : Int} :
    id ∈ stored s label respType ↔ s.Holds label respType id := by
  rw [stored_eq, Distinct.mem_distinct, Store.mem_lookup]

/-- The ids that are stored ascend, each once. -/
theorem pairwise_stored (s : Store) (label : String) (respType : RespType) :
    (stored s label respType).Pairwise (· < ·) := by
  rw [stored_eq]
  apply (Distinct.pairwise_distinct Distinct.isOrder_int _).imp
  intro a b hab
  exact lt_of_le_of_ne (of_decide_eq_true hab.1) hab.2

/-- What lookups answer on the connections that satisfy `Q`, which each lookup leaves in `Q`. -/
structure Answers (Q : Connection → Prop) (P : String × RespType → List Int → Prop) : Prop where
  found : ∀ c label respType, Q c → P (label, respType) (settle (c.lookup label respType).1)
  next : ∀ c label respType, Q c → Q (c.lookup label respType).2

/-- Remembered answers are answers that lookups gave. -/
theorem ids_spec {Q : Connection → Prop} {P : String × RespType → List Int → Prop}
    (h : Answers Q P) {index : ResponseIndex} {c : Connection} (hc : Q c)
    (hindex : ∀ a ∈ index.answers, P a.1 a.2) (label : String) (respType : RespType) :
    P (label, respType) (index.ids c label respType).1 ∧
      (∀ a ∈ (index.ids c label respType).2.1.answers, P a.1 a.2) ∧
      Q (index.ids c label respType).2.2 := by
  unfold ids
  -- A known answer was found before; a new one joins the remembered ones.
  cases hknown : index.answers.lookup (label, respType) with
  | some known =>
    obtain ⟨before, after, heq, -⟩ := List.lookup_eq_some_iff.1 hknown
    have hmem : ((label, respType), known) ∈ index.answers := by
      rw [heq]
      exact List.mem_append_right _ List.mem_cons_self
    exact ⟨hindex _ hmem, hindex, hc⟩
  | none =>
    have hfound := h.found c label respType hc
    exact ⟨hfound, List.forall_mem_cons.2 ⟨hfound, hindex⟩, h.next c label respType hc⟩

end ResponseIndex

namespace Connection

theorem store_lookup (c : Connection) (label : String) (respType : RespType) :
    (c.lookup label respType).2.store = c.store := by
  unfold Connection.lookup
  dsimp only
  split
  · rfl
  · rfl

/-- Whether lookups fail or not, they answer stored ids, ascending. -/
theorem answers_held (s : Store) :
    ResponseIndex.Answers (fun c => c.store = s) fun key ids =>
      ids.Pairwise (· < ·) ∧ ∀ i ∈ ids, s.Holds key.1 key.2 i where
  found c label respType hc := by
    unfold Connection.lookup
    dsimp only
    split
    · exact ⟨.nil, fun i hi => absurd hi List.not_mem_nil⟩
    · rw [hc]
      exact ⟨ResponseIndex.pairwise_stored s label respType,
        fun i hi => ResponseIndex.mem_stored.1 hi⟩
  next c label respType hc := (store_lookup c label respType).trans hc

/-- A connection to a store on which no further lookup fails. -/
structure Serves (s : Store) (c : Connection) : Prop where
  store : c.store = s
  succeeds : ∀ k, c.lookups ≤ k → c.lookupFails k = false

/-- A connection that serves a store answers what the store holds, and goes on to. -/
theorem Serves.lookup {s : Store} {c : Connection} (h : Serves s c) (label : String)
    (respType : RespType) :
    (c.lookup label respType).1 = .ok (s.lookup label respType) ∧
      Serves s (c.lookup label respType).2 := by
  have hnow : c.lookupFails c.lookups = false := h.succeeds _ (le_refl _)
  unfold Connection.lookup
  rw [hnow, if_neg (by simp), h.store]
  refine ⟨rfl, rfl, fun k hk => h.succeeds k ?_⟩
  exact le_trans (Nat.le_succ _) hk

theorem answers_serves (s : Store) :
    ResponseIndex.Answers (Serves s) fun key ids => ids = ResponseIndex.stored s key.1 key.2 where
  found c label respType hc := by
    rw [(hc.lookup label respType).1]
    rfl
  next c label respType hc := (hc.lookup label respType).2

end Connection

end ProbeCampaign
