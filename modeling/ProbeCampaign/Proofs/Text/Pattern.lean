import Mathlib.Tactic
import ProbeCampaign.Proofs.Text.Split
import ProbeCampaign.Text.Pattern

/-!
# Matches in a text

A text is scanned from its head: where nothing matches one character is passed, and a match is taken
as a whole (`scan`). Replacing a fixed text cuts at its occurrences (`exists_pieces`); it does not
occur in the outcome if the replacement cannot take part in it (`not_infix_intercalate`). A word in
the outcome in which the replacement has no part was in the text
(`exists_of_append_suffix_replaceAll`). A pattern that never looks past a character is replaced part
by part between such characters (`splitOn_replaceAll`).
-/

namespace ProbeCampaign.Pattern

variable {p : Pattern} {c : Char} {cs text form replacement : List Char}

/-! ## Scanning -/

theorem replaceAll_cons_of_zero (h : p (c :: cs) = 0) :
    p.replaceAll replacement (c :: cs) = c :: p.replaceAll replacement cs := by
  rw [replaceAll, h]

/-- A match at the head is replaced, and the rest goes on behind it. -/
theorem replaceAll_of_match (hcs : cs ≠ []) (h : p cs ≠ 0) :
    p.replaceAll replacement cs = replacement ++ p.replaceAll replacement (cs.drop (p cs)) := by
  obtain ⟨c, cs, rfl⟩ := List.exists_cons_of_ne_nil hcs
  obtain ⟨n, hn⟩ := Nat.exists_eq_succ_of_ne_zero h
  rw [replaceAll, hn]
  rfl

/-- What holds of the empty text, and is kept by passing a character where nothing matches and by
taking a match, holds of every text. -/
@[elab_as_elim]
theorem scan {motive : List Char → Prop} (p : Pattern) (cs : List Char) (nil : motive [])
    (pass : ∀ c cs, p (c :: cs) = 0 → motive cs → motive (c :: cs))
    (take : ∀ cs, cs ≠ [] → p cs ≠ 0 → motive (cs.drop (p cs)) → motive cs) : motive cs := by
  induction hlength : cs.length using Nat.strong_induction_on generalizing cs with
  | _ n ih =>
    subst hlength
    cases cs with
    | nil => exact nil
    | cons c cs =>
      by_cases h : p (c :: cs) = 0
      · exact pass c cs h (ih _ (Nat.lt_succ_self _) cs rfl)
      · refine take _ (List.cons_ne_nil _ _) h (ih _ ?_ _ rfl)
        rw [List.length_drop, List.length_cons]
        omega

/-- No match begins in the first text if the second one follows it. -/
def Passes (p : Pattern) (l r : List Char) : Prop :=
  ∀ u, u ≠ [] → u <:+ l → p (u ++ r) = 0

section Passes

variable {l r : List Char}

theorem Passes.head (h : p.Passes (c :: l) r) : p (c :: (l ++ r)) = 0 :=
  h (c :: l) (List.cons_ne_nil c l) List.suffix_rfl

theorem Passes.tail (h : p.Passes (c :: l) r) : p.Passes l r :=
  fun u hu hsuffix => h u hu (hsuffix.trans (List.suffix_cons c l))

theorem passes_nil : p.Passes [] r :=
  fun _ hu hsuffix => absurd (List.suffix_nil.1 hsuffix) hu

/-- A text is passed if nothing matches at its first character nor later on. -/
theorem passes_cons : p.Passes (c :: l) r ↔ p (c :: (l ++ r)) = 0 ∧ p.Passes l r := by
  refine ⟨fun h => ⟨h.head, h.tail⟩, fun ⟨hhead, htail⟩ u hu hsuffix => ?_⟩
  rcases List.suffix_cons_iff.1 hsuffix with rfl | hsuffix
  · exact hhead
  · exact htail u hu hsuffix

theorem passes_of_forall_mem (h : ∀ c ∈ l, ∀ cs, p (c :: cs) = 0) : p.Passes l r := by
  intro u hu hsuffix
  obtain ⟨c, u, rfl⟩ := List.exists_cons_of_ne_nil hu
  exact h c (hsuffix.subset List.mem_cons_self) (u ++ r)

/-- What is passed stays as it is. -/
theorem Passes.replaceAll_append (h : p.Passes l r) :
    p.replaceAll replacement (l ++ r) = l ++ p.replaceAll replacement r := by
  induction l with
  | nil => rfl
  | cons c l ih =>
    rw [List.cons_append, replaceAll_cons_of_zero h.head, ih h.tail, List.cons_append]

end Passes

/-! ## A fixed text -/

theorem literal_eq_length (h : text <+: cs) : literal text cs = text.length :=
  if_pos (List.isPrefixOf_iff_prefix.2 h)

theorem literal_eq_zero (h : ¬ text <+: cs) : literal text cs = 0 :=
  if_neg (mt List.isPrefixOf_iff_prefix.1 h)

/-- A literal matches where it stands. -/
theorem literal_ne_zero_iff (htext : text ≠ []) : literal text cs ≠ 0 ↔ text <+: cs := by
  constructor
  · exact fun h => by_contra fun hcs => h (literal_eq_zero hcs)
  · intro h
    rw [literal_eq_length h]
    exact mt List.length_eq_zero_iff.1 htext

/-- A literal occurs where it is part of the text. -/
theorem occurs_literal_iff (htext : text ≠ []) :
    (literal text).occurs cs = true ↔ text <:+: cs := by
  induction cs with
  | nil =>
    rw [List.infix_nil]
    exact iff_of_false Bool.false_ne_true htext
  | cons c cs ih =>
    rw [List.infix_cons_iff, ← ih, ← literal_ne_zero_iff htext, occurs, Bool.or_eq_true, bne_iff_ne]

theorem intercalate_cons (sep first : List Char) (others : List (List Char)) :
    sep.intercalate (first :: others) = first ++ others.flatMap (sep ++ ·) := by
  induction others generalizing first with
  | nil => rw [List.intercalate_singleton, List.flatMap_nil, List.append_nil]
  | cons other others ih =>
    rw [List.intercalate_cons_cons, ih, List.flatMap_cons, List.append_assoc, List.append_assoc]

/-- A text is cut at the occurrences of a fixed one, and these are what a replacement stands for. -/
theorem exists_pieces (htext : text ≠ []) (cs : List Char) : ∃ first others,
    (∀ piece ∈ first :: others, ¬ text <:+: piece) ∧ cs = text.intercalate (first :: others) ∧
      ∀ form, (literal text).replaceAll form cs = form.intercalate (first :: others) := by
  simp only [intercalate_cons]
  induction cs using scan (literal text) with
  | nil =>
    refine ⟨[], [], fun piece hpiece => ?_, rfl, fun form => by rw [replaceAll]; rfl⟩
    rw [List.mem_singleton.1 hpiece, List.infix_nil]
    exact htext
  | pass c cs hzero ih =>
    obtain ⟨first, others, hfree, hcs, hreplace⟩ := ih
    refine ⟨c :: first, others, List.forall_mem_cons.2 ⟨?_, (List.forall_mem_cons.1 hfree).2⟩,
      congrArg (c :: ·) hcs, fun form => ?_⟩
    · -- At the head of the first piece there would have been a match.
      rw [List.infix_cons_iff, not_or]
      refine ⟨fun h => (literal_ne_zero_iff htext).2 ?_ hzero, hfree first List.mem_cons_self⟩
      rw [hcs]
      exact List.prefix_append_of_prefix h
    · rw [replaceAll_cons_of_zero hzero, hreplace]
      rfl
  | take cs hcs hne ih =>
    obtain ⟨first, others, hfree, hrest, hreplace⟩ := ih
    obtain ⟨rest, rfl⟩ := (literal_ne_zero_iff htext).1 hne
    have hlength := literal_eq_length (List.prefix_append text rest)
    rw [hlength, List.drop_left] at hrest hreplace
    refine ⟨[], first :: others, List.forall_mem_cons.2 ⟨?_, hfree⟩, ?_, fun form => ?_⟩
    · rw [List.infix_nil]
      exact htext
    · rw [List.flatMap_cons, List.nil_append, List.append_assoc, ← hrest]
    · rw [replaceAll_of_match hcs hne, hlength, List.drop_left, hreplace, List.flatMap_cons,
        List.nil_append, List.append_assoc]

/-- A separator that begins with a character outside a text, and does not have the first character
of that text, puts no occurrence of it together. -/
theorem not_infix_intercalate {a b : Char} {pieces : List (List Char)} (ha : a ∉ b :: form)
    (hb : b ∉ a :: text) (hpieces : ∀ piece ∈ pieces, ¬ a :: text <:+: piece) :
    ¬ a :: text <:+: (b :: form).intercalate pieces := by
  induction pieces with
  | nil =>
    rw [List.intercalate_nil, List.infix_nil]
    exact List.cons_ne_nil _ _
  | cons piece pieces ih =>
    have hpiece := hpieces piece List.mem_cons_self
    have hothers := ih fun piece h => hpieces piece (List.mem_cons_of_mem _ h)
    cases pieces with
    | nil => rwa [List.intercalate_singleton]
    | cons next pieces =>
      rw [List.intercalate_cons_cons, List.append_assoc, List.infix_append_iff,
        List.infix_append_iff]
      rintro (h | (h | h | ⟨front, back, heq, hfront, hback⟩) | ⟨front, back, heq, hfront, hback⟩)
      · exact hpiece h
      · exact ha (h.subset List.mem_cons_self)
      · exact hothers h
      -- An occurrence that begins in the separator would have its first character there.
      · cases front with
        | nil =>
          rw [List.nil_append] at heq
          exact hothers (heq ▸ hback.isInfix)
        | cons d front =>
          obtain ⟨rfl, -⟩ := List.cons.inj heq
          exact ha (hfront.subset List.mem_cons_self)
      · cases back with
        | nil =>
          rw [List.append_nil] at heq
          exact hpiece (heq ▸ hfront.isInfix)
        | cons d back =>
          obtain ⟨rfl, -⟩ := List.cons_prefix_cons.1 hback
          exact hb (heq ▸ List.mem_append_right _ List.mem_cons_self)

/-! ## What stands in the outcome -/

section Outcome

variable {w rest : List Char}

/-- What stands at the head of the outcome stood at the head of the text, unless the replacement
begins in it. -/
theorem exists_of_replaceAll_eq_append (hreplacement : replacement ≠ [])
    (hnone : (literal replacement).Passes w rest) (h : p.replaceAll replacement cs = w ++ rest) :
    ∃ others, cs = w ++ others ∧ p.replaceAll replacement others = rest := by
  induction w generalizing cs with
  | nil => exact ⟨cs, rfl, h⟩
  | cons c w ih =>
    cases cs with
    | nil =>
      rw [replaceAll] at h
      exact absurd h.symm (List.cons_ne_nil c _)
    | cons d cs =>
      by_cases hzero : p (d :: cs) = 0
      · rw [replaceAll_cons_of_zero hzero, List.cons_append] at h
        obtain ⟨rfl, htail⟩ := List.cons.inj h
        obtain ⟨others, rfl, hothers⟩ := ih hnone.tail htail
        exact ⟨others, rfl, hothers⟩
      · rw [replaceAll_of_match (List.cons_ne_nil d cs) hzero, List.cons_append] at h
        have hinit : replacement <+: c :: (w ++ rest) := h ▸ List.prefix_append _ _
        exact absurd hnone.head ((literal_ne_zero_iff hreplacement).2 hinit)

/-- A text without the first character of the replacement is passed. -/
theorem passes_literal_of_not_mem {a : Char} (ha : a ∉ w) : (literal (a :: form)).Passes w rest :=
  passes_of_forall_mem fun _ hc _ => literal_eq_zero fun h =>
    ha ((List.cons_prefix_cons.1 h).1 ▸ hc)

/-- A word in the outcome was in the text, unless the replacement has its first character or begins
in it. -/
theorem exists_of_append_suffix_replaceAll {a : Char} (ha : a ∉ replacement)
    (hreplacement : replacement ≠ []) (hnone : (literal replacement).Passes (a :: w) rest)
    (h : a :: w ++ rest <:+ p.replaceAll replacement cs) :
    ∃ others, a :: w ++ others <:+ cs ∧ p.replaceAll replacement others = rest := by
  induction cs using scan p with
  | nil =>
    rw [replaceAll, List.suffix_nil] at h
    exact absurd h (List.cons_ne_nil a _)
  | pass c cs hzero ih =>
    rw [replaceAll_cons_of_zero hzero] at h
    rcases List.suffix_cons_iff.1 h with heq | hsuffix
    · rw [← replaceAll_cons_of_zero hzero] at heq
      obtain ⟨others, hothers, hrest⟩ :=
        exists_of_replaceAll_eq_append hreplacement hnone heq.symm
      exact ⟨others, hothers ▸ List.suffix_rfl, hrest⟩
    · obtain ⟨others, hothers, hrest⟩ := ih hsuffix
      exact ⟨others, hothers.trans (List.suffix_cons c cs), hrest⟩
  | take cs hcs hne ih =>
    rw [replaceAll_of_match hcs hne] at h
    obtain ⟨others, hothers, hrest⟩ := ih (Text.suffix_of_not_mem h ha)
    exact ⟨others, hothers.trans (List.drop_suffix _ _), hrest⟩

end Outcome

/-! ## A character that ends every match -/

/-- Matches end before a character, and what follows it does not matter for them. -/
def StopsAt (p : Pattern) (a : Char) : Prop :=
  ∀ l rest, a ∉ l → p (l ++ a :: rest) = p l ∧ p l ≤ l.length

variable {a : Char} {l rest w : List Char}

theorem takeWhile_append_cons {q : Char → Bool} (h : q a = false) (l rest : List Char) :
    (l ++ a :: rest).takeWhile q = l.takeWhile q :=
  Text.takeWhile_append_stop (by simpa using h) l

/-- What stands at the head of a joined text stands in its first part or goes beyond it. -/
theorem prefix_append_cases {front back : List Char} (h : w <+: front ++ back) :
    w <+: front ∨ ∃ more, more ≠ [] ∧ w = front ++ more ∧ more <+: back := by
  rcases List.prefix_or_prefix_of_prefix h (List.prefix_append front back) with h' | ⟨more, rfl⟩
  · exact .inl h'
  · cases more with
    | nil =>
      rw [List.append_nil]
      exact .inl List.prefix_rfl
    | cons c more =>
      exact .inr ⟨_, List.cons_ne_nil c more, rfl, (List.prefix_append_right_inj front).1 h⟩

/-- A word without a character ends before it. -/
theorem prefix_append_cons_iff (hw : a ∉ w) : w <+: l ++ a :: rest ↔ w <+: l := by
  refine ⟨fun h => (prefix_append_cases h).resolve_right ?_, List.prefix_append_of_prefix⟩
  rintro ⟨more, hmore, rfl, hinit⟩
  obtain ⟨b, more, rfl⟩ := List.exists_cons_of_ne_nil hmore
  obtain ⟨rfl, -⟩ := List.cons_prefix_cons.1 hinit
  exact hw (List.mem_append_right _ List.mem_cons_self)

/-- A character that ends every match divides the work. -/
theorem replaceAll_append_cons (h : p.StopsAt a) (hl : a ∉ l) :
    p.replaceAll replacement (l ++ a :: rest) =
      p.replaceAll replacement l ++ a :: p.replaceAll replacement rest := by
  induction l using scan p with
  | nil =>
    obtain ⟨heq, hle⟩ := h [] rest hl
    rw [List.nil_append, replaceAll_cons_of_zero (heq.trans (Nat.le_zero.1 hle)), replaceAll]
    rfl
  | pass c cs hzero ih =>
    have hjoined : p (c :: (cs ++ a :: rest)) = 0 := (h (c :: cs) rest hl).1.trans hzero
    rw [List.cons_append, replaceAll_cons_of_zero hjoined, ih (List.not_mem_of_not_mem_cons hl),
      replaceAll_cons_of_zero hzero]
    rfl
  | take cs hcs hne ih =>
    obtain ⟨heq, hle⟩ := h cs rest hl
    rw [replaceAll_of_match (by simp) (heq ▸ hne), heq, List.drop_append_of_le_length hle,
      ih fun hmem => hl (List.mem_of_mem_drop hmem), replaceAll_of_match hcs hne,
      List.append_assoc]

/-- Replacing brings in no other characters than those of the replacement. -/
theorem not_mem_replaceAll (hreplacement : a ∉ replacement) (hcs : a ∉ cs) :
    a ∉ p.replaceAll replacement cs := by
  induction cs using scan p with
  | nil => rwa [replaceAll]
  | pass c cs hzero ih =>
    rw [replaceAll_cons_of_zero hzero, List.mem_cons, not_or]
    exact ⟨List.ne_of_not_mem_cons hcs, ih (List.not_mem_of_not_mem_cons hcs)⟩
  | take cs hne hmatch ih =>
    rw [replaceAll_of_match hne hmatch, List.mem_append, not_or]
    exact ⟨hreplacement, ih fun hmem => hcs (List.mem_of_mem_drop hmem)⟩

/-- Parts between such characters are treated one by one. -/
theorem replaceAll_intercalate (h : p.StopsAt a) {parts : List (List Char)}
    (hparts : ∀ part ∈ parts, a ∉ part) :
    p.replaceAll replacement ([a].intercalate parts) =
      [a].intercalate (parts.map (p.replaceAll replacement)) := by
  induction parts with
  | nil =>
    rw [List.intercalate_nil, replaceAll]
    rfl
  | cons part parts ih =>
    cases parts with
    | nil => rw [List.intercalate_singleton, List.map_singleton, List.intercalate_singleton]
    | cons next parts =>
      obtain ⟨hpart, hothers⟩ := List.forall_mem_cons.1 hparts
      rw [List.map_cons, List.map_cons, List.intercalate_cons_cons, List.intercalate_cons_cons,
        ← List.map_cons, ← ih hothers, List.append_assoc, List.append_assoc, List.singleton_append,
        List.singleton_append, replaceAll_append_cons h hpart]

/-- The parts between the characters that end every match are treated one by one. -/
theorem splitOn_replaceAll (h : p.StopsAt a) (hreplacement : a ∉ replacement) (cs : List Char) :
    (p.replaceAll replacement cs).splitOn a = (cs.splitOn a).map (p.replaceAll replacement) := by
  have hparts : ∀ part ∈ cs.splitOn a, a ∉ part := fun part => Text.not_mem_of_mem_splitOn
  have hcs : [a].intercalate (cs.splitOn a) = cs := List.intercalate_splitOn a
  conv_lhs => rw [← hcs, replaceAll_intercalate h hparts]
  refine List.splitOn_intercalate a ?_ ?_
  · rintro l hl
    obtain ⟨part, hpart, rfl⟩ := List.mem_map.1 hl
    exact not_mem_replaceAll hreplacement (hparts part hpart)
  · rw [Ne, List.map_eq_nil_iff]
    exact List.splitOn_ne_nil a cs

end ProbeCampaign.Pattern
