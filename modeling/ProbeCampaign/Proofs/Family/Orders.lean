import Mathlib.Tactic
import ProbeCampaign.Family.Probes

/-!
# The orders of a list

Taking out one element after another goes through the rearrangements of a list (`mem_permutations`),
without repetition if the list has none (`nodup_permutations`). It looks at positions alone
(`permutations_map`), so that also a list with repetitions is put in each order of its positions
exactly once (`coe_permutations`).
-/

namespace ProbeCampaign

open scoped List Nat

variable {α β : Type}

/-! ## One element and the rest -/

/-- Each element is selected once, in order. -/
theorem map_fst_selections (l : List α) : (selections l).map Prod.fst = l := by
  induction l with
  | nil => rfl
  | cons a l ih =>
    rw [selections, List.map_cons, List.map_map]
    exact congrArg (a :: ·) ih

/-- What is selected and what is left are the list in another order. -/
theorem perm_of_mem_selections {l rest : List α} {a : α} (h : (a, rest) ∈ selections l) :
    a :: rest ~ l := by
  induction l generalizing rest with
  | nil => exact absurd h List.not_mem_nil
  | cons b l ih =>
    rcases List.mem_cons.1 h with heq | hmem
    · obtain ⟨rfl, rfl⟩ := Prod.mk.inj heq
      exact .refl _
    · obtain ⟨⟨c, others⟩, hc, heq⟩ := List.mem_map.1 hmem
      obtain ⟨rfl, rfl⟩ := Prod.mk.inj heq
      exact (List.Perm.swap b c others).trans ((ih hc).cons b)

theorem exists_mem_selections {l : List α} {a : α} (h : a ∈ l) :
    ∃ rest, (a, rest) ∈ selections l := by
  rw [← map_fst_selections l] at h
  obtain ⟨⟨b, rest⟩, hmem, rfl⟩ := List.mem_map.1 h
  exact ⟨rest, hmem⟩

/-- Selecting commutes with a change of all elements. -/
theorem selections_map (g : α → β) (l : List α) :
    selections (l.map g) = (selections l).map (Prod.map g (List.map g)) := by
  induction l with
  | nil => rfl
  | cons a l ih =>
    rw [List.map_cons, selections, selections, ih, List.map_cons, List.map_map, List.map_map]
    rfl

/-! ## Orders -/

/-- The arrangements of a list are its permutations. What is taken out first leaves an arrangement
of the others. -/
theorem mem_arrangements {n : Nat} {l r : List α} (hl : l.length = n) :
    r ∈ arrangements n l ↔ r ~ l := by
  induction n generalizing l r with
  | zero =>
    rw [List.length_eq_zero_iff.1 hl, List.perm_nil]
    exact List.mem_singleton
  | succ n ih =>
    have hrest : ∀ {a rest}, (a, rest) ∈ selections l → rest.length = n := by
      intro a rest hsel
      have hlength := (perm_of_mem_selections hsel).length_eq
      rw [hl, List.length_cons] at hlength
      omega
    rw [arrangements, List.mem_flatMap]
    constructor
    · rintro ⟨⟨a, rest⟩, hsel, hr⟩
      obtain ⟨order, horder, rfl⟩ := List.mem_map.1 hr
      exact (((ih (hrest hsel)).1 horder).cons a).trans (perm_of_mem_selections hsel)
    · intro hperm
      cases r with
      | nil =>
        rw [← hperm.length_eq] at hl
        cases hl
      | cons a order =>
        obtain ⟨rest, hsel⟩ := exists_mem_selections (hperm.subset List.mem_cons_self)
        have horder : order ~ rest := (hperm.trans (perm_of_mem_selections hsel).symm).cons_inv
        exact ⟨_, hsel, List.mem_map_of_mem ((ih (hrest hsel)).2 horder)⟩

/-- A list without repetitions has no arrangement twice, as arrangements are told apart by their
first elements or by the others. -/
theorem nodup_arrangements {n : Nat} {l : List α} (h : l.Nodup) : (arrangements n l).Nodup := by
  induction n generalizing l with
  | zero => exact List.nodup_singleton _
  | succ n ih =>
    rw [arrangements, List.nodup_flatMap]
    constructor
    · rintro ⟨a, rest⟩ hsel
      have hrest : (a :: rest).Nodup := (perm_of_mem_selections hsel).nodup_iff.2 h
      exact (ih hrest.of_cons).map List.cons_injective
    · rw [← map_fst_selections l] at h
      refine (List.pairwise_map.1 h).imp fun {p q} hne => ?_
      rw [Function.onFun, List.disjoint_left]
      intro order hp hq
      obtain ⟨tail, -, rfl⟩ := List.mem_map.1 hp
      obtain ⟨tail', -, heq⟩ := List.mem_map.1 hq
      exact hne (List.cons.inj heq).1.symm

/-- Arranging commutes with a change of all elements. -/
theorem arrangements_map (g : α → β) (n : Nat) (l : List α) :
    arrangements n (l.map g) = (arrangements n l).map (List.map g) := by
  induction n generalizing l with
  | zero => rfl
  | succ n ih =>
    rw [arrangements, arrangements, selections_map, List.flatMap_map, List.map_flatMap]
    refine List.flatMap_congr fun p _ => ?_
    show (arrangements n (p.2.map g)).map (g p.1 :: ·) = _
    rw [ih, List.map_map, List.map_map]
    rfl

theorem mem_permutations {l r : List α} : r ∈ permutations l ↔ r ~ l :=
  mem_arrangements rfl

theorem nodup_permutations {l : List α} (h : l.Nodup) : (permutations l).Nodup :=
  nodup_arrangements h

theorem permutations_map (g : α → β) (l : List α) :
    permutations (l.map g) = (permutations l).map (List.map g) := by
  rw [permutations, permutations, List.length_map]
  exact arrangements_map g l.length l

/-! ## Orders of positions -/

/-- The list whose elements come from the positions that a permutation gives. -/
def arranged (l : List α) (σ : Equiv.Perm (Fin l.length)) : List α :=
  List.ofFn fun i => l[σ i]

/-- A rearrangement of the numbers below `n` is a permutation of them, written as a list. -/
theorem perm_finRange_iff {n : Nat} {r : List (Fin n)} :
    r ~ List.finRange n ↔ ∃ σ : Equiv.Perm (Fin n), List.ofFn σ = r := by
  constructor
  · intro h
    have hlength : r.length = n := h.length_eq.trans (List.length_finRange)
    have hinj : Function.Injective fun i : Fin n => r[i] :=
      fun i j hij => Fin.ext ((h.nodup_iff.2 (List.nodup_finRange n)).getElem_inj_iff.1 hij)
    refine ⟨Equiv.ofBijective _ (Finite.injective_iff_bijective.1 hinj), ?_⟩
    exact List.ext_getElem (by rw [List.length_ofFn, hlength]) fun i _ _ => List.getElem_ofFn _
  · rintro ⟨σ, rfl⟩
    rw [← List.ofFn_id]
    exact σ.ofFn_comp_perm id

/-- Each order of the positions of a list gives rise to one order of it. -/
theorem coe_permutations (l : List α) :
    (permutations l : Multiset (List α)) =
      (Finset.univ : Finset (Equiv.Perm (Fin l.length))).val.map (arranged l) := by
  have hpositions : (permutations (List.finRange l.length) : Multiset (List (Fin l.length))) =
      Finset.univ.val.map fun σ : Equiv.Perm (Fin l.length) => List.ofFn σ := by
    refine (Multiset.Nodup.ext ?_ ?_).2 fun r => ?_
    · exact Multiset.coe_nodup.2 (nodup_permutations (List.nodup_finRange _))
    · exact Finset.univ.nodup.map (List.ofFn_injective.comp DFunLike.coe_injective)
    · rw [Multiset.mem_coe, mem_permutations, perm_finRange_iff, Multiset.mem_map]
      simp
  have hget : permutations l = (permutations (List.finRange l.length)).map (List.map l.get) := by
    rw [← permutations_map, List.map_get_finRange]
  rw [hget, ← Multiset.map_coe, hpositions, Multiset.map_map]
  refine Multiset.map_congr rfl fun σ _ => ?_
  show (List.ofFn σ).map l.get = List.ofFn fun i => l[σ i]
  rw [List.map_ofFn]
  rfl

example : permutations [1, 2, 3] =
    [[1, 2, 3], [1, 3, 2], [2, 1, 3], [2, 3, 1], [3, 1, 2], [3, 2, 1]] := by
  decide

theorem length_permutations (l : List α) : (permutations l).length = l.length ! := by
  have hcard := congrArg Multiset.card (coe_permutations l)
  rwa [Multiset.coe_card, Multiset.card_map, Finset.card_val, Finset.card_univ, Fintype.card_perm,
    Fintype.card_fin] at hcard

end ProbeCampaign
