import Mathlib.Tactic
import ProbeCampaign.IdRange
import ProbeCampaign.Proofs.Text.Decimal

/-!
# Ids in runs

Cutting a list of ids of 64 bits into runs loses, repeats and reorders none of them: the ids of the
runs, one run after the other, are the list (`flatMap_ids_chunk`). Every run has an id and is within
its bound (`mem_chunk`). The list may be in any order, but every id with another one after it must
have a successor of 64 bits (`HasSuccessors`).
-/

namespace ProbeCampaign.IdRange

/-! ## The ids of a range -/

/-- A range has the ids from its first to its last. -/
theorem mem_ids {r : IdRange} {i : Int} : i ∈ r.ids ↔ r.first ≤ i ∧ i ≤ r.last := by
  unfold ids
  rw [List.mem_map]
  constructor
  · rintro ⟨k, hk, rfl⟩
    have hlt := List.mem_range.1 hk
    omega
  · rintro ⟨hfirst, hlast⟩
    refine ⟨(i - r.first).toNat, List.mem_range.2 ?_, ?_⟩
    · omega
    · omega

theorem length_ids (r : IdRange) : r.ids.length = (r.last - r.first + 1).toNat := by
  unfold ids
  rw [List.length_map, List.length_range]

theorem one_le_length_ids {r : IdRange} (h : r.first ≤ r.last) : 1 ≤ r.ids.length := by
  rw [length_ids]
  omega

theorem ids_singleton (i : Int) : (⟨i, i⟩ : IdRange).ids = [i] := by
  have hone : (i - i + 1).toNat = 1 := by omega
  unfold ids
  rw [hone]
  simp

/-- One more id at the end of a range. -/
theorem ids_succ {first last : Int} (h : first ≤ last + 1) :
    (⟨first, last + 1⟩ : IdRange).ids = (⟨first, last⟩ : IdRange).ids ++ [last + 1] := by
  have hlength : (last + 1 - first + 1).toNat = (last - first + 1).toNat + 1 := by omega
  have hlast : first + ((last - first + 1).toNat : Int) = last + 1 := by omega
  unfold ids
  dsimp only
  rw [hlength, List.range_succ, List.map_append, List.map_singleton, hlast]

/-- A range of ids of 64 bits that is not all of them has as many ids as its size says. -/
theorem size_eq {r : IdRange} (h : r.ids.length < capacity 64) (horder : r.first ≤ r.last) :
    r.size = r.ids.length := by
  rw [length_ids] at h ⊢
  unfold size
  rw [Int.emod_eq_of_lt]
  · omega
  · omega

/-! ## Runs -/

/-- An integer of 64 bits is its own representative modulo their number. -/
theorem wrapInt64_of_fits {n : Int} (h : fitsInt64 n = true) : wrapInt64 n = n := by
  obtain ⟨hlo, hhi⟩ := Decimal.fitsInt64_iff.1 h
  have hcapacity : (capacity 64 : Int) = 2 * (capacity 63 : Int) := by decide
  unfold wrapInt64
  rw [Int.bmod_eq_of_le]
  · omega
  · omega

/-- Ids of 64 bits, of which none but the last is the largest one. -/
structure HasSuccessors (ids : List Int) : Prop where
  fits : ∀ i ∈ ids, fitsInt64 i = true
  below : (capacity 63 : Int) - 1 ∉ ids.dropLast

theorem HasSuccessors.tail {first : Int} {rest : List Int} (h : HasSuccessors (first :: rest)) :
    HasSuccessors rest where
  fits := fun i hi => h.fits i (List.mem_cons_of_mem first hi)
  below := by
    intro hmem
    apply h.below
    cases rest with
    | nil => exact absurd hmem List.not_mem_nil
    | cons second rest => exact List.mem_cons_of_mem first hmem

/-- Before another id there is room for a successor. -/
theorem HasSuccessors.succ_fits {previous id : Int} {rest : List Int}
    (h : HasSuccessors (previous :: id :: rest)) : fitsInt64 (previous + 1) = true := by
  have hprevious := Decimal.fitsInt64_iff.1 (h.fits previous List.mem_cons_self)
  have hne : previous ≠ (capacity 63 : Int) - 1 := by
    rintro rfl
    exact h.below List.mem_cons_self
  rw [Decimal.fitsInt64_iff]
  omega

/-- In an ascending list, nothing comes after the largest id. -/
theorem hasSuccessors_of_ascending {ids : List Int} (hfits : ∀ i ∈ ids, fitsInt64 i = true)
    (hsorted : ids.Pairwise (· < ·)) : HasSuccessors ids where
  fits := hfits
  below := by
    intro hmem
    have hne : ids ≠ [] := by
      rintro rfl
      exact absurd hmem List.not_mem_nil
    have hlast := Decimal.fitsInt64_iff.1 (hfits _ (List.getLast_mem hne))
    rw [← List.dropLast_concat_getLast hne, List.pairwise_append] at hsorted
    have hlt := hsorted.2.2 _ hmem _ (List.mem_singleton_self _)
    omega

/-- The loop where ids have successors: the next id extends the run in the making, or closes it and
begins another. -/
theorem extendRun_cons {maxRun count : Nat} {start previous id : Int} {rest : List Int}
    (h : HasSuccessors (previous :: id :: rest)) :
    extendRun maxRun start previous count (id :: rest) =
      if id = previous + 1 ∧ count < maxRun then extendRun maxRun start id (count + 1) rest
      else ⟨start, previous⟩ :: extendRun maxRun id id 1 rest := by
  rw [extendRun, wrapInt64_of_fits h.succ_fits]

/-- A run in the making: it has as many ids as were counted, and not more than its bound. -/
structure IsRun (maxRun : Nat) (start previous : Int) (count : Nat) : Prop where
  ordered : start ≤ previous
  counted : (count : Int) = previous - start + 1
  bounded : count ≤ maxRun

theorem IsRun.single {maxRun : Nat} (hmax : 1 ≤ maxRun) (id : Int) : IsRun maxRun id id 1 where
  ordered := le_refl id
  counted := by omega
  bounded := hmax

/-- The next id may join a run that is not full. -/
theorem IsRun.extend {maxRun count : Nat} {start previous : Int}
    (h : IsRun maxRun start previous count) (hcount : count < maxRun) :
    IsRun maxRun start (previous + 1) (count + 1) where
  ordered := by
    have hordered := h.ordered
    omega
  counted := by
    have hcounted := h.counted
    omega
  bounded := hcount

theorem IsRun.length_ids {maxRun count : Nat} {start previous : Int}
    (h : IsRun maxRun start previous count) :
    (⟨start, previous⟩ : IdRange).ids.length = count := by
  have hcounted := h.counted
  rw [IdRange.length_ids]
  dsimp only
  omega

theorem IsRun.ids_extend {maxRun count : Nat} {start previous : Int}
    (h : IsRun maxRun start previous count) :
    (⟨start, previous + 1⟩ : IdRange).ids = (⟨start, previous⟩ : IdRange).ids ++ [previous + 1] := by
  have hordered := h.ordered
  exact ids_succ (by omega)

/-- What the loop over ids makes of a run in the making and the ids that follow it. -/
theorem extendRun_spec {maxRun : Nat} (hmax : 1 ≤ maxRun) (rest : List Int) {start previous : Int}
    {count : Nat} (hrun : IsRun maxRun start previous count)
    (hids : HasSuccessors (previous :: rest)) :
    (extendRun maxRun start previous count rest).flatMap ids =
        (⟨start, previous⟩ : IdRange).ids ++ rest ∧
      ∀ r ∈ extendRun maxRun start previous count rest,
        r.first ≤ r.last ∧ r.ids.length ≤ maxRun := by
  have hlast : ∀ {start previous count}, IsRun maxRun start previous count →
      (⟨start, previous⟩ : IdRange).first ≤ previous ∧
        (⟨start, previous⟩ : IdRange).ids.length ≤ maxRun :=
    fun h => ⟨h.ordered, h.length_ids.trans_le h.bounded⟩
  -- The run in the making is the invariant: each id extends it, or closes it and begins another.
  induction rest generalizing start previous count with
  | nil =>
    rw [extendRun, List.append_nil]
    refine ⟨List.flatMap_singleton _ _, fun r hr => ?_⟩
    rw [List.mem_singleton.1 hr]
    exact hlast hrun
  | cons id rest ih =>
    rw [extendRun_cons hids]
    by_cases hnext : id = previous + 1 ∧ count < maxRun
    · rw [if_pos hnext]
      obtain ⟨rfl, hcount⟩ := hnext
      obtain ⟨hflat, hall⟩ := ih (hrun.extend hcount) hids.tail
      refine ⟨?_, hall⟩
      rw [hflat, hrun.ids_extend, List.append_assoc]
      rfl
    · rw [if_neg hnext]
      obtain ⟨hflat, hall⟩ := ih (IsRun.single hmax id) hids.tail
      refine ⟨?_, List.forall_mem_cons.2 ⟨hlast hrun, hall⟩⟩
      rw [List.flatMap_cons, hflat, ids_singleton]
      rfl

/-- Whatever the ids are, each run starts with another one of them. -/
theorem firsts_extendRun (maxRun : Nat) (rest : List Int) (start previous : Int) (count : Nat) :
    ((extendRun maxRun start previous count rest).map (·.first)).Sublist (start :: rest) := by
  induction rest generalizing start previous count with
  | nil => exact List.Sublist.refl _
  | cons id rest ih =>
    rw [extendRun]
    split
    · exact (ih start id (count + 1)).trans ((List.sublist_cons_self id rest).cons_cons start)
    · exact (ih id id 1).cons_cons start

theorem nodup_chunk {ids : List Int} (h : ids.Nodup) (maxRun : Nat) : (chunk ids maxRun).Nodup := by
  cases ids with
  | nil => exact List.nodup_nil
  | cons first rest => exact (h.sublist (firsts_extendRun _ rest first first 1)).of_map

section Chunk

variable {ids : List Int} (hids : HasSuccessors ids) (maxRun : Nat)
include hids

/-- The ranges have the ids in order, and none has more than it may. -/
theorem chunk_spec :
    (chunk ids maxRun).flatMap IdRange.ids = ids ∧
      ∀ r ∈ chunk ids maxRun, r.first ≤ r.last ∧ r.ids.length ≤ max maxRun 1 := by
  cases ids with
  | nil => exact ⟨rfl, fun r hr => absurd hr List.not_mem_nil⟩
  | cons first rest =>
    have hmax : 1 ≤ max maxRun 1 := le_max_right maxRun 1
    obtain ⟨hflat, hall⟩ := extendRun_spec hmax rest (IsRun.single hmax first) hids
    rw [ids_singleton] at hflat
    exact ⟨hflat, hall⟩

/-- The ids of the runs, one run after the other, are the ids that were cut. -/
theorem flatMap_ids_chunk : (chunk ids maxRun).flatMap IdRange.ids = ids :=
  (chunk_spec hids maxRun).1

/-- A run has an id, and at most as many as its bound. -/
theorem mem_chunk {r : IdRange} (h : r ∈ chunk ids maxRun) :
    r.first ≤ r.last ∧ r.ids.length ≤ max maxRun 1 :=
  (chunk_spec hids maxRun).2 r h

end Chunk

end ProbeCampaign.IdRange
