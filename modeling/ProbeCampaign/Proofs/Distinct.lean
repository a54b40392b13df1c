import Mathlib.Data.List.Nodup
import Mathlib.Tactic
import ProbeCampaign.Text.Ascending

/-!
# Lists without repetitions

Sorting a list and dropping what equals its neighbour leaves the members of the list, each once, in
order (`mem_distinct`, `pairwise_distinct`). The outcome depends on nothing but the members
(`distinct_congr`). Dropping what came before leaves them in the order of their first occurrences
(`eraseDups_concat_of_not_mem`).
-/

namespace ProbeCampaign.Distinct

variable {α : Type} [DecidableEq α]

/-- An order that puts lists in a form of their own. -/
structure IsOrder (le : α → α → Bool) : Prop where
  trans : ∀ a b c, le a b → le b c → le a c
  total : ∀ a b, le a b || le b a
  antisymm : ∀ a b, le a b → le b a → a = b

theorem isOrder_int : IsOrder fun a b : Int => decide (a ≤ b) where
  trans a b c hab hbc := decide_eq_true (le_trans (of_decide_eq_true hab) (of_decide_eq_true hbc))
  total a b := by simpa using Int.le_total a b
  antisymm a b hab hba := le_antisymm (of_decide_eq_true hab) (of_decide_eq_true hba)

theorem isOrder_string : IsOrder fun a b : String => decide (a ≤ b) where
  trans a b c hab hbc :=
    decide_eq_true (String.le_trans (of_decide_eq_true hab) (of_decide_eq_true hbc))
  total a b := by simpa using String.le_total a b
  antisymm a b hab hba := String.le_antisymm (of_decide_eq_true hab) (of_decide_eq_true hba)

/-! ## Neighbours that are equal -/

/-- The loop collects what it has passed in reverse and hands over at the last element. -/
theorem loop_eq (a : α) (xs acc : List α) :
    List.eraseRepsBy.loop (fun a b => a == b) a xs acc = acc.reverse ++ (a :: xs).eraseReps := by
  induction xs generalizing a acc with
  | nil =>
    rw [List.eraseRepsBy.loop, List.reverse_cons]
    rfl
  | cons b xs ih =>
    have hunfold : (a :: b :: xs).eraseReps =
        List.eraseRepsBy.loop (fun a b => a == b) a (b :: xs) [] := rfl
    rw [hunfold, List.eraseRepsBy.loop, List.eraseRepsBy.loop]
    cases hab : a == b with
    | true =>
      dsimp only
      rw [ih, ih]
      simp
    | false =>
      dsimp only
      rw [ih, ih]
      simp

/-- An element goes if the next one is the same. -/
theorem eraseReps_cons_cons (a b : α) (xs : List α) :
    (a :: b :: xs).eraseReps =
      if a = b then (a :: xs).eraseReps else a :: (b :: xs).eraseReps := by
  have hunfold : (a :: b :: xs).eraseReps =
      List.eraseRepsBy.loop (fun a b => a == b) a (b :: xs) [] := rfl
  rw [hunfold, List.eraseRepsBy.loop]
  by_cases hab : a = b
  · rw [if_pos hab, beq_iff_eq.2 hab]
    dsimp only
    rw [loop_eq]
    rfl
  · rw [if_neg hab, beq_eq_false_iff_ne.2 hab]
    dsimp only
    rw [loop_eq]
    rfl

/-- Every element is left, as one that equals its neighbour is dropped but the neighbour is not. -/
theorem mem_eraseReps {a : α} {xs : List α} : a ∈ xs.eraseReps ↔ a ∈ xs := by
  induction xs with
  | nil => exact Iff.rfl
  | cons x xs ih =>
    cases xs with
    | nil => exact Iff.rfl
    | cons y xs =>
      rw [eraseReps_cons_cons]
      by_cases hxy : x = y
      · subst hxy
        rw [if_pos rfl, ih]
        simp
      · rw [if_neg hxy, List.mem_cons, ih, ← List.mem_cons]

/-- What is in order and has no equal neighbours is in strict order. -/
theorem pairwise_eraseReps {le : α → α → Bool} (h : IsOrder le) {xs : List α}
    (hxs : xs.Pairwise fun a b => le a b) :
    xs.eraseReps.Pairwise fun a b => le a b ∧ a ≠ b := by
  induction xs with
  | nil => exact List.Pairwise.nil
  | cons x xs ih =>
    cases xs with
    | nil => exact List.pairwise_singleton _ _
    | cons y xs =>
      rw [eraseReps_cons_cons]
      have htail := ih hxs.of_cons
      obtain ⟨hx, hrest⟩ := List.pairwise_cons.1 hxs
      by_cases hxy : x = y
      · subst hxy
        rw [if_pos rfl]
        exact htail
      · rw [if_neg hxy]
        refine List.pairwise_cons.2 ⟨fun z hz => ?_, htail⟩
        have hmem := mem_eraseReps.1 hz
        refine ⟨hx z hmem, ?_⟩
        rintro rfl
        -- The first element would come before and after its neighbour.
        rcases List.mem_cons.1 hmem with heq | hmem
        · exact hxy heq
        · have hyx := (List.pairwise_cons.1 hrest).1 x hmem
          exact hxy (h.antisymm x y (hx y List.mem_cons_self) hyx)

/-! ## Sorted lists -/

/-- The members of a list, each once, in order. -/
def distinct (le : α → α → Bool) (xs : List α) : List α :=
  (xs.mergeSort le).eraseReps

theorem mem_distinct {le : α → α → Bool} {a : α} {xs : List α} : a ∈ distinct le xs ↔ a ∈ xs := by
  unfold distinct
  rw [mem_eraseReps, List.mem_mergeSort]

theorem pairwise_distinct {le : α → α → Bool} (h : IsOrder le) (xs : List α) :
    (distinct le xs).Pairwise fun a b => le a b ∧ a ≠ b :=
  pairwise_eraseReps h (List.pairwise_mergeSort h.trans h.total xs)

theorem nodup_distinct {le : α → α → Bool} (h : IsOrder le) (xs : List α) :
    (distinct le xs).Nodup :=
  (pairwise_distinct h xs).imp fun hab => hab.2

/-- Lists with the same members are put in the same form. -/
theorem distinct_congr {le : α → α → Bool} (h : IsOrder le) {xs ys : List α}
    (hmem : ∀ a, a ∈ xs ↔ a ∈ ys) : distinct le xs = distinct le ys := by
  refine List.Perm.eq_of_pairwise ?_ (pairwise_distinct h xs) (pairwise_distinct h ys) ?_
  · intro a b _ _ hab hba
    exact h.antisymm a b hab.1 hba.1
  · rw [List.perm_ext_iff_of_nodup (nodup_distinct h xs) (nodup_distinct h ys)]
    intro a
    rw [mem_distinct, mem_distinct]
    exact hmem a

/-- A list that is in strict order already stays as it is. -/
theorem distinct_of_pairwise {le : α → α → Bool} (h : IsOrder le) {xs : List α}
    (hxs : xs.Pairwise fun a b => le a b ∧ a ≠ b) : distinct le xs = xs := by
  refine List.Perm.eq_of_pairwise ?_ (pairwise_distinct h xs) hxs ?_
  · intro a b _ _ hab hba
    exact h.antisymm a b hab.1 hba.1
  · rw [List.perm_ext_iff_of_nodup (nodup_distinct h xs) (hxs.imp fun hab => hab.2)]
    exact fun a => mem_distinct

/-- One member is left exactly when all are the same. -/
theorem distinct_eq_singleton_iff {le : α → α → Bool} (h : IsOrder le) {a : α} {xs : List α} :
    distinct le (a :: xs) = [a] ↔ ∀ x ∈ xs, x = a := by
  constructor
  · intro heq x hx
    have hmem : x ∈ distinct le (a :: xs) := mem_distinct.2 (List.mem_cons_of_mem a hx)
    rw [heq] at hmem
    exact List.mem_singleton.1 hmem
  · intro hall
    have hcongr : distinct le (a :: xs) = distinct le [a] := by
      apply distinct_congr h
      intro x
      rw [List.mem_cons, List.mem_singleton]
      constructor
      · rintro (hx | hx)
        · exact hx
        · exact hall x hx
      · exact fun hx => Or.inl hx
    rw [hcongr]
    exact distinct_of_pairwise h (List.pairwise_singleton _ a)

/-! ## First occurrences -/

theorem eraseDups_concat_of_mem {a : α} {xs : List α} (h : a ∈ xs) :
    (xs ++ [a]).eraseDups = xs.eraseDups := by
  rw [List.eraseDups_append, List.removeAll, List.filter_cons_of_neg (by simpa using h)]
  exact List.append_nil _

theorem eraseDups_concat_of_not_mem {a : α} {xs : List α} (h : a ∉ xs) :
    (xs ++ [a]).eraseDups = xs.eraseDups ++ [a] := by
  rw [List.eraseDups_append, List.removeAll, List.filter_cons_of_pos (by simpa using h)]
  rfl

/-- Nothing is left twice. -/
theorem nodup_eraseDups (xs : List α) : xs.eraseDups.Nodup := by
  induction xs using List.reverseRecOn with
  | nil => exact List.nodup_nil
  | append_singleton xs a ih =>
    by_cases ha : a ∈ xs
    · rw [eraseDups_concat_of_mem ha]
      exact ih
    · rw [eraseDups_concat_of_not_mem ha, List.nodup_append_comm, List.singleton_append,
        List.nodup_cons, List.mem_eraseDups]
      exact ⟨ha, ih⟩

end ProbeCampaign.Distinct

namespace ProbeCampaign.Text

theorem ascending_eq (ss : List String) :
    ascending ss = Distinct.distinct (fun a b => decide (a ≤ b)) ss := by
  unfold ascending Distinct.distinct
  congr

theorem mem_ascending {s : String} {ss : List String} : s ∈ ascending ss ↔ s ∈ ss := by
  rw [ascending_eq, Distinct.mem_distinct]

theorem pairwise_ascending (ss : List String) : (ascending ss).Pairwise (· < ·) := by
  rw [ascending_eq]
  exact (Distinct.pairwise_distinct Distinct.isOrder_string ss).imp fun h =>
    Std.lt_of_le_of_ne (of_decide_eq_true h.1) h.2

/-- Two different texts make a list of more than one. -/
theorem one_lt_length_ascending {ss : List String} {s t : String} (hs : s ∈ ss) (ht : t ∈ ss)
    (hne : s ≠ t) : 1 < (ascending ss).length := by
  obtain ⟨i, hi, rfl⟩ := List.getElem_of_mem (mem_ascending.2 hs)
  obtain ⟨j, hj, rfl⟩ := List.getElem_of_mem (mem_ascending.2 ht)
  have hij : i ≠ j := by
    rintro rfl
    exact hne rfl
  omega

theorem ascending_congr {ss ts : List String} (h : ∀ s, s ∈ ss ↔ s ∈ ts) :
    ascending ss = ascending ts := by
  rw [ascending_eq, ascending_eq]
  exact Distinct.distinct_congr Distinct.isOrder_string h

theorem ascending_singleton (s : String) : ascending [s] = [s] := by
  rw [ascending_eq]
  exact Distinct.distinct_of_pairwise Distinct.isOrder_string (List.pairwise_singleton _ s)

theorem ascending_nil : ascending [] = [] := by
  rw [ascending_eq]
  exact Distinct.distinct_of_pairwise Distinct.isOrder_string List.Pairwise.nil

end ProbeCampaign.Text
