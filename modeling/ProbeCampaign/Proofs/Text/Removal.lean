import Mathlib.Tactic
import ProbeCampaign.Proofs.Text.Pattern

/-!
# Taking out matches

Taking out the first matches of a text leaves the parts between them (`removeFirst_eq_flatten`) and
joins these. Where no word begins in one part and ends in what is left of the others (`Seamless`),
the joined text has no occurrence of a word that was not in a part.
-/

namespace ProbeCampaign.Pattern

variable {p : Pattern} {c : Char} {cs l l' r word : List Char}

/-! ## Parts -/

/-- The text before the first match. -/
def before (p : Pattern) : List Char → List Char
  | [] => []
  | c :: cs => if p (c :: cs) = 0 then c :: before p cs else []

/-- The text after the first match. -/
def after (p : Pattern) : List Char → List Char
  | [] => []
  | c :: cs => if p (c :: cs) = 0 then after p cs else (c :: cs).drop (p (c :: cs))

/-- What is left of a text without its first `k` matches, cut where they were. -/
def kept (p : Pattern) : Nat → List Char → List (List Char)
  | 0, cs => [cs]
  | k + 1, cs => before p cs :: kept p k (after p cs)

theorem flatten_kept_nil (p : Pattern) (k : Nat) : (kept p k []).flatten = [] := by
  induction k with
  | zero => rfl
  | succ k ih => exact ih

/-- What is left of a text is the pieces between the matches that go. -/
theorem removeFirst_eq_flatten (p : Pattern) (k : Nat) (cs : List Char) :
    p.removeFirst k cs = (kept p k cs).flatten := by
  induction k generalizing cs with
  | zero => rw [removeFirst, kept, List.flatten_singleton]
  | succ k ihk =>
    induction cs with
    | nil => rw [removeFirst, flatten_kept_nil]
    | cons c cs ih =>
      rw [removeFirst, kept, before, after, List.flatten_cons]
      split
      · next hzero =>
        rw [if_pos hzero, if_pos hzero, ih, kept, List.flatten_cons]
        rfl
      · next n hn =>
        have hne : p (c :: cs) ≠ 0 := hn ▸ Nat.succ_ne_zero n
        rw [if_neg hne, if_neg hne, ihk, hn]
        rfl

/-- A text with matches is what stands before the first of them and the text from there on. -/
theorem exists_first_match (hcount : p.count cs ≠ 0) : ∃ tail, cs = p.before cs ++ tail ∧
    tail ≠ [] ∧ p tail ≠ 0 ∧ p.after cs = tail.drop (p tail) ∧
      p.Passes (p.before cs) tail := by
  induction cs with
  | nil => exact absurd (by rw [count]) hcount
  | cons c cs ih =>
    by_cases hzero : p (c :: cs) = 0
    · rw [count, hzero] at hcount
      obtain ⟨tail, hcs, hne, hmatch, hafter, hnone⟩ := ih hcount
      rw [before, if_pos hzero, after, if_pos hzero]
      refine ⟨tail, congrArg (c :: ·) hcs, hne, hmatch, hafter, fun u hu hsuffix => ?_⟩
      rcases List.suffix_cons_iff.1 hsuffix with rfl | hsuffix
      · rwa [List.cons_append, ← hcs]
      · exact hnone u hu hsuffix
    · rw [before, if_neg hzero, after, if_neg hzero]
      exact ⟨c :: cs, rfl, List.cons_ne_nil c cs, hzero, rfl, fun u hu hsuffix =>
        absurd (List.suffix_nil.1 hsuffix) hu⟩

/-! ## Counting -/

theorem count_cons_of_zero (h : p (c :: cs) = 0) : p.count (c :: cs) = p.count cs := by
  rw [count, h]

/-- A match at the head counts, and so do those behind it. -/
theorem count_of_match (hcs : cs ≠ []) (h : p cs ≠ 0) :
    p.count cs = p.count (cs.drop (p cs)) + 1 := by
  obtain ⟨c, cs, rfl⟩ := List.exists_cons_of_ne_nil hcs
  obtain ⟨n, hn⟩ := Nat.exists_eq_succ_of_ne_zero h
  rw [count, hn]
  rfl

theorem Passes.count_append (h : p.Passes l r) : p.count (l ++ r) = p.count r := by
  induction l with
  | nil => rfl
  | cons c l ih => rw [List.cons_append, count_cons_of_zero h.head, ih h.tail]

theorem count_eq_succ (hcount : p.count cs ≠ 0) : p.count cs = p.count (p.after cs) + 1 := by
  obtain ⟨tail, hcs, hne, hmatch, hafter, hnone⟩ := exists_first_match hcount
  rw [hafter, ← count_of_match hne hmatch]
  conv_lhs => rw [hcs, hnone.count_append]

/-! ## Words across the places where parts are joined -/

/-- The word begins in the first text and ends in the second one. -/
def Straddles (word l r : List Char) : Prop :=
  ∃ i < word.length, 0 < i ∧ word.take i <:+ l ∧ word.drop i <+: r

instance (word l r : List Char) : Decidable (Straddles word l r) :=
  inferInstanceAs (Decidable (∃ i < word.length, 0 < i ∧ word.take i <:+ l ∧ word.drop i <+: r))

/-- A word lies across the seam if both its parts are there. -/
theorem straddles_append {a b : List Char} (ha : a ≠ []) (hb : b ≠ []) (hl : a <:+ l)
    (hr : b <+: r) : Straddles (a ++ b) l r := by
  have halength := List.length_pos_iff.2 ha
  have hblength := List.length_pos_iff.2 hb
  refine ⟨a.length, by rw [List.length_append]; omega, halength, ?_, ?_⟩
  · rwa [List.take_left]
  · rwa [List.drop_left]

theorem Straddles.of_suffix (h : Straddles word l' r) (hsuffix : l' <:+ l) :
    Straddles word l r := by
  obtain ⟨i, hi, hpos, hl, hr⟩ := h
  exact ⟨i, hi, hpos, hl.trans hsuffix, hr⟩

theorem not_straddles_nil : ¬ Straddles word l [] := by
  rintro ⟨i, hi, -, -, hinit⟩
  have hlength := hinit.length_le
  rw [List.length_drop, List.length_nil] at hlength
  omega

/-- A word at the head of a joined text ends in its first part, unless that part is empty. -/
theorem prefix_of_not_straddles (h : word <+: l ++ r) (hl : l ≠ []) (hseam : ¬ Straddles word l r) :
    word <+: l := by
  refine (prefix_append_cases h).resolve_right ?_
  rintro ⟨more, hmore, rfl, hinit⟩
  exact hseam (straddles_append hl hmore List.suffix_rfl hinit)

/-- None of the words goes from one part into the others. -/
def Seamless (words : List (List Char)) : List (List Char) → Prop
  | [] => True
  | part :: parts => (∀ word ∈ words, ¬ Straddles word part parts.flatten) ∧ Seamless words parts

theorem Seamless.of_subset {words words' parts : List (List Char)} (h : words' ⊆ words)
    (hparts : Seamless words parts) : Seamless words' parts := by
  induction parts with
  | nil => trivial
  | cons part parts ih =>
    exact ⟨fun word hmem => hparts.1 word (h hmem), ih hparts.2⟩

instance decidableSeamless (words : List (List Char)) :
    (parts : List (List Char)) → Decidable (Seamless words parts)
  | [] => inferInstanceAs (Decidable True)
  | part :: parts =>
    have := decidableSeamless words parts
    inferInstanceAs (Decidable ((∀ word ∈ words, ¬ Straddles word part parts.flatten) ∧
      Seamless words parts))

end ProbeCampaign.Pattern
