import Mathlib.Data.List.TakeWhile
import Mathlib.Tactic

/-!
# Texts joined by a separator

Which characters a joined text and the parts of a text have, where a run of elements ends, and how a
list is cut at its first or last separator.
-/

namespace ProbeCampaign.Text

variable {a c : Char} {cs part : List Char} {parts : List (List Char)}

/-- A character of joined parts is the separator or in one of them. -/
theorem mem_intercalate (h : c ∈ [a].intercalate parts) : c = a ∨ ∃ part ∈ parts, c ∈ part := by
  induction parts with
  | nil => exact absurd h List.not_mem_nil
  | cons p parts ih =>
    cases parts with
    | nil =>
      rw [List.intercalate_singleton] at h
      exact Or.inr ⟨p, List.mem_cons_self, h⟩
    | cons q parts =>
      rw [List.intercalate_cons_cons, List.mem_append, List.mem_append, List.mem_singleton] at h
      rcases h with (h | h) | h
      · exact Or.inr ⟨p, List.mem_cons_self, h⟩
      · exact Or.inl h
      · rcases ih h with h | ⟨part, hpart, hc⟩
        · exact Or.inl h
        · exact Or.inr ⟨part, List.mem_cons_of_mem _ hpart, hc⟩

/-- Joined parts have the characters of each of them. -/
theorem mem_intercalate_of_mem (hpart : part ∈ parts) (hc : c ∈ part) :
    c ∈ [a].intercalate parts := by
  induction parts with
  | nil => exact absurd hpart List.not_mem_nil
  | cons p parts ih =>
    cases parts with
    | nil =>
      rw [List.mem_singleton.1 hpart] at hc
      rwa [List.intercalate_singleton]
    | cons q parts =>
      rw [List.intercalate_cons_cons, List.mem_append, List.mem_append]
      rcases List.mem_cons.1 hpart with rfl | hpart
      · exact Or.inl (Or.inl hc)
      · exact Or.inr (ih hpart)

theorem mem_of_mem_splitOn (hpart : part ∈ cs.splitOn a) (hc : c ∈ part) : c ∈ cs := by
  have hjoined : c ∈ [a].intercalate (cs.splitOn a) := mem_intercalate_of_mem hpart hc
  rwa [List.intercalate_splitOn] at hjoined

theorem mem_splitOn_of_mem (hc : c ∈ cs) (hne : c ≠ a) : ∃ part ∈ cs.splitOn a, c ∈ part := by
  have hjoined : c ∈ [a].intercalate (cs.splitOn a) := by rwa [List.intercalate_splitOn]
  exact (mem_intercalate hjoined).resolve_left hne

/-- No part has the separator: a character either ends the part before it or becomes the first of
the part after it. -/
theorem not_mem_of_mem_splitOn (hpart : part ∈ cs.splitOn a) : a ∉ part := by
  induction cs generalizing part with
  | nil =>
    rw [List.splitOn_nil, List.mem_singleton] at hpart
    rw [hpart]
    exact List.not_mem_nil
  | cons c cs ih =>
    rw [List.splitOn_cons_eq_if_modifyHead] at hpart
    split at hpart
    · rcases List.mem_cons.1 hpart with rfl | hpart
      · exact List.not_mem_nil
      · exact ih hpart
    · next hc =>
      cases hsplit : cs.splitOn a with
      | nil => exact absurd hsplit (List.splitOn_ne_nil a cs)
      | cons first rest =>
        rw [hsplit] at ih hpart
        rw [List.modifyHead_cons, List.mem_cons] at hpart
        rcases hpart with rfl | hpart
        · rw [List.mem_cons, not_or]
          refine ⟨?_, ih List.mem_cons_self⟩
          rintro rfl
          exact hc (beq_self_eq_true _)
        · exact ih (List.mem_cons_of_mem _ hpart)

/-! ## Runs of elements -/

section Run

variable {α : Type} {p : α → Bool} {xs rest : List α} (hstop : ∀ a ∈ rest.head?, p a = false)

include hstop

/-- A run does not go on into what begins with another element. -/
theorem takeWhile_append_stop (xs : List α) : (xs ++ rest).takeWhile p = xs.takeWhile p := by
  induction xs with
  | nil =>
    cases rest with
    | nil => rfl
    | cons a rest => simp [hstop a rfl]
  | cons x xs ih => rw [List.cons_append, List.takeWhile_cons, List.takeWhile_cons, ih]

theorem dropWhile_append_stop (xs : List α) :
    (xs ++ rest).dropWhile p = xs.dropWhile p ++ rest := by
  induction xs with
  | nil =>
    cases rest with
    | nil => rfl
    | cons a rest => simp [hstop a rfl]
  | cons x xs ih =>
    rw [List.cons_append, List.dropWhile_cons, List.dropWhile_cons, ih]
    split
    · rfl
    · rfl

theorem takeWhile_run (hrun : ∀ a ∈ xs, p a = true) : (xs ++ rest).takeWhile p = xs := by
  rw [takeWhile_append_stop hstop, List.takeWhile_eq_self_iff.2 hrun]

theorem dropWhile_run (hrun : ∀ a ∈ xs, p a = true) : (xs ++ rest).dropWhile p = rest := by
  rw [dropWhile_append_stop hstop, List.dropWhile_eq_nil_iff.2 hrun, List.nil_append]

end Run

/-! ## Cuts at the first and at the last separator -/

section Cut

variable {α : Type} {a : α} {xs ys us vs : List α}

/-- What begins with an element that the first list does not have begins in the second one. -/
theorem suffix_of_not_mem (h : a :: us <:+ xs ++ ys) (ha : a ∉ xs) : a :: us <:+ ys := by
  induction xs with
  | nil => exact h
  | cons x xs ih =>
    rw [List.mem_cons, not_or] at ha
    rcases List.suffix_cons_iff.1 h with heq | hsuffix
    · exact absurd (List.cons.inj heq).1 ha.1
    · exact ih hsuffix ha.2

variable [DecidableEq α]

theorem takeWhile_ne_append (h : a ∉ xs) (rest : List α) :
    (xs ++ a :: rest).takeWhile (· ≠ a) = xs :=
  takeWhile_run (by simp) fun _ hx => decide_eq_true (ne_of_mem_of_not_mem hx h)

theorem dropWhile_ne_append (h : a ∉ xs) (rest : List α) :
    (xs ++ a :: rest).dropWhile (· ≠ a) = a :: rest :=
  dropWhile_run (by simp) fun _ hx => decide_eq_true (ne_of_mem_of_not_mem hx h)

/-- Two lists that are cut at their first separator are equal part by part. -/
theorem append_cons_inj_of_first (hxs : a ∉ xs) (hys : a ∉ ys) :
    xs ++ a :: us = ys ++ a :: vs ↔ xs = ys ∧ us = vs := by
  constructor
  · intro h
    have htake := congrArg (List.takeWhile (· ≠ a)) h
    have hdrop := congrArg (List.dropWhile (· ≠ a)) h
    rw [takeWhile_ne_append hxs, takeWhile_ne_append hys] at htake
    rw [dropWhile_ne_append hxs, dropWhile_ne_append hys] at hdrop
    exact ⟨htake, (List.cons.inj hdrop).2⟩
  · rintro ⟨rfl, rfl⟩
    rfl

/-- Two lists that are cut at their last separator are equal part by part. -/
theorem append_cons_inj_of_last (hus : a ∉ us) (hvs : a ∉ vs) :
    xs ++ a :: us = ys ++ a :: vs ↔ xs = ys ∧ us = vs := by
  -- From the other end the last separator is the first.
  have hreverse : ∀ zs ws : List α, (zs ++ a :: ws).reverse = ws.reverse ++ a :: zs.reverse := by
    intro zs ws
    rw [List.reverse_append, List.reverse_cons, List.append_assoc, List.singleton_append]
  rw [← List.reverse_inj, hreverse, hreverse,
    append_cons_inj_of_first (mt List.mem_reverse.1 hus) (mt List.mem_reverse.1 hvs),
    List.reverse_inj, List.reverse_inj]
  exact and_comm

end Cut

end ProbeCampaign.Text
