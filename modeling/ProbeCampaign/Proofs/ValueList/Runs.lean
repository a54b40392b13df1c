import Mathlib.Tactic
import ProbeCampaign.Proofs.ValueList.Groups

/-!
# Runs of URLs

A run is three placeholders with nothing but white space between them. Shortening the runs of a text
leaves none (`not_hasRun_shortened`), and taking out groups makes no new one if no placeholder
comes about where the parts are joined (`HasRun.of_kept`).
-/

namespace ProbeCampaign.ValueList

open Pattern (Straddles Seamless)

variable {cs rest part tail ys blanks : List Char} {k : Nat}

/-! ## Runs -/

/-- Three placeholders with nothing but white space between them. -/
def StartsRun (cs : List Char) : Prop :=
  ∃ blanks₁ blanks₂, (∀ c ∈ blanks₁, Text.isSpace c = true) ∧
    (∀ c ∈ blanks₂, Text.isSpace c = true) ∧
    placeholder ++ (blanks₁ ++ (placeholder ++ (blanks₂ ++ placeholder))) <+: cs

/-- There is a run of at least three placeholders. -/
def HasRun (cs : List Char) : Prop :=
  ∃ s, s <:+ cs ∧ StartsRun s

theorem hasRun_cons {c : Char} : HasRun (c :: cs) ↔ StartsRun (c :: cs) ∨ HasRun cs := by
  simp only [HasRun, List.suffix_cons_iff, or_and_right, exists_or, exists_eq_left]

theorem HasRun.of_suffix (h : HasRun ys) (hsuffix : ys <:+ cs) : HasRun cs := by
  obtain ⟨s, hs, hrun⟩ := h
  exact ⟨s, hs.trans hsuffix, hrun⟩

theorem StartsRun.initial (h : StartsRun cs) : placeholder <+: cs := by
  obtain ⟨_, _, -, -, hinit⟩ := h
  exact List.IsPrefix.trans (List.prefix_append _ _) hinit

/-- A run begins in one part or in the other. -/
theorem HasRun.append_cases {l r : List Char} (h : HasRun (l ++ r)) :
    HasRun r ∨ ∃ u, u ≠ [] ∧ u <:+ l ∧ StartsRun (u ++ r) := by
  induction l with
  | nil => exact .inl h
  | cons c l ih =>
    rcases hasRun_cons.1 h with hstart | hrun
    · exact .inr ⟨c :: l, List.cons_ne_nil c l, List.suffix_rfl, hstart⟩
    · rcases ih hrun with hr | ⟨u, hu, hsuffix, hstart⟩
      · exact .inl hr
      · exact .inr ⟨u, hu, hsuffix.trans (List.suffix_cons c l), hstart⟩

theorem HasRun.of_append_of_not_mem {l r : List Char} (h : HasRun (l ++ r)) (hl : '<' ∉ l) :
    HasRun r := by
  refine h.append_cases.resolve_right ?_
  rintro ⟨u, hu, hsuffix, hstart⟩
  obtain ⟨c, u, rfl⟩ := List.exists_cons_of_ne_nil hu
  obtain ⟨rfl, -⟩ := List.cons_prefix_cons.1 hstart.initial
  exact hl (hsuffix.subset List.mem_cons_self)

/-- Where a group was taken out, a run that begins in the part before was a group there. -/
theorem StartsRun.urlGroup_ne_zero (h : StartsRun (part ++ ys)) (hpart : part ≠ [])
    (htail : placeholder <+: tail) (hseam : ¬ Straddles placeholder part ys) :
    urlGroup (part ++ tail) ≠ 0 := by
  obtain ⟨blanks₁, blanks₂, hblanks₁, -, hinit⟩ := h
  have hseparators : ∀ c ∈ blanks₁, isSeparator c = true := by
    intro c hc
    rw [isSeparator, hblanks₁ c hc, Bool.true_or]
  obtain ⟨others, rfl⟩ := Pattern.prefix_of_not_straddles
    (List.IsPrefix.trans (List.prefix_append _ _) hinit) hpart hseam
  rw [List.append_assoc, List.prefix_append_right_inj] at hinit
  refine urlGroup_ne_zero_iff.2 ⟨others ++ tail, List.append_assoc _ _ _, ?_⟩
  rcases blanks_cases hseparators hinit with ⟨more, rfl, hmore⟩ | hgap
  · have hsuffix : more <:+ placeholder ++ (blanks₁ ++ more) :=
      (List.suffix_append _ _).trans (List.suffix_append _ _)
    exact further_append_append (isGap_of_blanks hseparators)
      (List.IsPrefix.trans (List.prefix_append _ _) hmore)
      (fun hstraddles => hseam (hstraddles.of_suffix hsuffix)) htail
  · exact further_append hgap htail

/-- Taking out groups makes no run, if no placeholder comes about. -/
theorem HasRun.of_kept (h : HasRun (urlGroup.kept k cs).flatten) (hcount : k ≤ urlGroup.count cs)
    (hseamless : Seamless [placeholder] (urlGroup.kept k cs)) : HasRun cs := by
  induction k generalizing cs with
  | zero => rwa [Pattern.kept, List.flatten_singleton] at h
  | succ k ih =>
    obtain ⟨part, rest, rfl, hkept, hcounted, hnone⟩ := exists_first_group hcount
    rw [hkept] at hseamless
    rw [hkept, List.flatten_cons] at h
    rcases h.append_cases with hrun | ⟨u, hu, hsuffix, hstart⟩
    · refine (ih hrun (by omega) hseamless.2).of_suffix ((List.drop_suffix _ _).trans ?_)
      exact (List.suffix_append _ _).trans (List.suffix_append _ _)
    · refine absurd (hnone u hu hsuffix) ?_
      refine hstart.urlGroup_ne_zero hu (List.prefix_append _ _) fun hstraddles => ?_
      exact hseamless.1 placeholder List.mem_cons_self (hstraddles.of_suffix hsuffix)

/-! ## Shortening runs -/

/-- Fuel for every character is enough. -/
theorem spacedPlaceholders_congr {fuel fuel' : Nat} (h : cs.length ≤ fuel)
    (h' : cs.length ≤ fuel') :
    spacedPlaceholders fuel cs = spacedPlaceholders fuel' cs := by
  induction fuel generalizing fuel' cs with
  | zero =>
    obtain rfl := List.length_eq_zero_iff.1 (Nat.le_zero.1 h)
    cases fuel' with
    | zero => rfl
    | succ fuel' => rfl
  | succ fuel ih =>
    cases fuel' with
    | zero =>
      obtain rfl := List.length_eq_zero_iff.1 (Nat.le_zero.1 h')
      rfl
    | succ fuel' =>
      unfold spacedPlaceholders
      split
      · have hplaceholder : 0 < placeholder.length := by decide
        have hdrop : ∀ n, ((cs.drop placeholder.length).drop n).length ≤ cs.length - 1 := by
          intro n
          rw [List.length_drop, List.length_drop]
          omega
        dsimp only
        rw [ih ((hdrop _).trans (by omega)) ((hdrop _).trans (by omega : cs.length - 1 ≤ fuel'))]
      · rfl

/-- The number and the length of the placeholders at the head of a text with white space after
them. -/
def spaced (cs : List Char) : Nat × Nat :=
  spacedPlaceholders cs.length cs

theorem spaced_eq_zero (h : ¬ placeholder <+: cs) : spaced cs = (0, 0) := by
  unfold spaced
  cases cs with
  | nil => rfl
  | cons c cs => exact if_neg (mt List.isPrefixOf_iff_prefix.1 h)

theorem drop_takeWhile (q : Char → Bool) (cs : List Char) :
    cs.drop (cs.takeWhile q).length = cs.dropWhile q := by
  calc cs.drop (cs.takeWhile q).length
      = (cs.takeWhile q ++ cs.dropWhile q).drop (cs.takeWhile q).length := by
        rw [List.takeWhile_append_dropWhile]
    _ = cs.dropWhile q := List.drop_left

/-- A placeholder and the white space behind it are followed by others. -/
theorem spaced_append (rest : List Char) : spaced (placeholder ++ rest) =
    ((spaced (rest.dropWhile Text.isSpace)).1 + 1,
      placeholder.length + (rest.takeWhile Text.isSpace).length +
        (spaced (rest.dropWhile Text.isSpace)).2) := by
  have hplaceholder : placeholder.isPrefixOf (placeholder ++ rest) = true :=
    List.isPrefixOf_iff_prefix.2 (List.prefix_append _ _)
  have hfuel : spacedPlaceholders (placeholderTail ++ rest).length (rest.dropWhile Text.isSpace) =
      spaced (rest.dropWhile Text.isSpace) := by
    refine spacedPlaceholders_congr ?_ le_rfl
    have hle := (List.dropWhile_suffix Text.isSpace (l := rest)).length_le
    rw [List.length_append]
    omega
  rw [spaced, placeholder_append, List.length_cons, spacedPlaceholders, ← placeholder_append,
    if_pos hplaceholder, List.drop_left]
  dsimp only
  rw [drop_takeWhile, hfuel]

/-- A placeholder with white space and a placeholder behind it is one more. -/
theorem spaced_append_append (hblanks : ∀ c ∈ blanks, Text.isSpace c = true)
    (h : placeholder <+: rest) :
    (spaced (placeholder ++ (blanks ++ rest))).1 = (spaced rest).1 + 1 := by
  obtain ⟨others, rfl⟩ := h
  rw [spaced_append, List.dropWhile_append_of_pos hblanks]
  rfl

/-- After the placeholders that are counted there is no other one, nor white space. -/
theorem not_prefix_drop_spaced (cs : List Char) : ¬ placeholder <+: cs.drop (spaced cs).2 ∧
    ((spaced cs).1 ≠ 0 → ∀ c rest, cs.drop (spaced cs).2 = c :: rest → Text.isSpace c = false) := by
  induction hlength : cs.length using Nat.strong_induction_on generalizing cs with
  | _ n ih =>
    subst hlength
    by_cases h : placeholder <+: cs
    · obtain ⟨rest, rfl⟩ := h
      have hdrop : (placeholder ++ rest).drop (spaced (placeholder ++ rest)).2 =
          (rest.dropWhile Text.isSpace).drop (spaced (rest.dropWhile Text.isSpace)).2 := by
        rw [spaced_append, Nat.add_assoc, List.drop_length_add_append, ← List.drop_drop,
          drop_takeWhile]
      have hlength : (rest.dropWhile Text.isSpace).length < (placeholder ++ rest).length := by
        have hle := (List.dropWhile_suffix Text.isSpace (l := rest)).length_le
        have hplaceholder : 0 < placeholder.length := by decide
        rw [List.length_append]
        omega
      obtain ⟨hinit, hspace⟩ := ih _ hlength _ rfl
      rw [hdrop]
      refine ⟨hinit, fun _ c others hothers => ?_⟩
      by_cases hzero : (spaced (rest.dropWhile Text.isSpace)).1 = 0
      · by_cases hnext : placeholder <+: rest.dropWhile Text.isSpace
        · obtain ⟨more, hmore⟩ := hnext
          rw [← hmore, spaced_append] at hzero
          exact absurd hzero (Nat.succ_ne_zero _)
        · rw [spaced_eq_zero hnext, List.drop_zero] at hothers
          have hhead := List.head?_dropWhile_not Text.isSpace rest
          rwa [hothers] at hhead
      · exact hspace hzero c others hothers
    · rw [spaced_eq_zero h]
      exact ⟨h, fun hne => absurd rfl hne⟩

/-- The text with its runs shortened. -/
def shortened (cs : List Char) : List Char :=
  runOfUrls.replaceAll (placeholder ++ [' ']) cs

theorem runOfUrls_eq (cs : List Char) :
    runOfUrls cs = if 3 ≤ (spaced cs).1 then (spaced cs).2 else 0 := rfl

theorem prefix_of_runOfUrls (h : runOfUrls cs ≠ 0) : placeholder <+: cs := by
  by_contra hinit
  rw [runOfUrls_eq, spaced_eq_zero hinit] at h
  exact h rfl

/-- Three placeholders are a run. -/
theorem runOfUrls_ne_zero (h : 3 ≤ (spaced cs).1) : runOfUrls cs ≠ 0 := by
  rw [runOfUrls_eq, if_pos h]
  by_cases hinit : placeholder <+: cs
  · obtain ⟨rest, rfl⟩ := hinit
    rw [spaced_append, Nat.add_assoc]
    exact Nat.ne_of_gt (Nat.add_pos_left (by decide) _)
  · rw [spaced_eq_zero hinit] at h
    exact absurd h (by decide)

/-- Text without a less-than sign is not made by shortening. -/
theorem exists_of_prefix_shortened {w : List Char} (hw : '<' ∉ w) (h : w <+: shortened cs) :
    ∃ rest, cs = w ++ rest ∧ shortened cs = w ++ shortened rest := by
  obtain ⟨rest, heq⟩ := h
  have hnone : (Pattern.literal (placeholder ++ [' '])).Passes w rest :=
    Pattern.passes_literal_of_not_mem hw
  obtain ⟨others, rfl, hothers⟩ :=
    Pattern.exists_of_replaceAll_eq_append (by decide) hnone heq.symm
  exact ⟨others, rfl, by rw [← heq, ← hothers]; rfl⟩

/-- Where there is a placeholder there was one. -/
theorem exists_of_placeholder_prefix_shortened (h : placeholder <+: shortened cs) :
    ∃ rest, cs = placeholder ++ rest ∧
      (runOfUrls cs = 0 → shortened cs = placeholder ++ shortened rest) := by
  by_cases hzero : runOfUrls cs = 0
  · cases cs with
    | nil =>
      rw [shortened, Pattern.replaceAll] at h
      exact absurd (List.prefix_nil.1 h) (by decide)
    | cons c cs =>
      have hpass : shortened (c :: cs) = c :: shortened cs := Pattern.replaceAll_cons_of_zero hzero
      rw [hpass] at h ⊢
      obtain ⟨rfl, hinit⟩ := List.cons_prefix_cons.1 h
      obtain ⟨rest, rfl, hrest⟩ :=
        exists_of_prefix_shortened lessThan_not_mem_placeholderTail hinit
      exact ⟨rest, rfl, fun _ => congrArg ('<' :: ·) hrest⟩
  · obtain ⟨rest, rfl⟩ := prefix_of_runOfUrls hzero
    exact ⟨rest, rfl, fun h => absurd h hzero⟩

theorem lessThan_not_mem_of_isSpace (h : ∀ c ∈ blanks, Text.isSpace c = true) : '<' ∉ blanks :=
  fun hmem => absurd (h _ hmem) (by decide)

/-- Where no run begins none comes about. -/
theorem not_startsRun_shortened (hzero : runOfUrls cs = 0) : ¬ StartsRun (shortened cs) := by
  rintro ⟨blanks₁, blanks₂, hblanks₁, hblanks₂, hinit⟩
  have hshort : (spaced cs).1 < 3 := Nat.lt_of_not_le fun h => runOfUrls_ne_zero h hzero
  obtain ⟨rest, rfl, heq⟩ := exists_of_placeholder_prefix_shortened
    (List.IsPrefix.trans (List.prefix_append _ _) hinit)
  rw [heq hzero, List.prefix_append_right_inj] at hinit
  obtain ⟨rest, rfl, heq₁⟩ := exists_of_prefix_shortened (lessThan_not_mem_of_isSpace hblanks₁)
    (List.IsPrefix.trans (List.prefix_append _ _) hinit)
  rw [heq₁, List.prefix_append_right_inj] at hinit
  obtain ⟨rest, rfl, heq₂⟩ := exists_of_placeholder_prefix_shortened
    (List.IsPrefix.trans (List.prefix_append _ _) hinit)
  rw [spaced_append_append hblanks₁ (List.prefix_append _ _)] at hshort
  -- A run that begins at the second placeholder would begin at the first one.
  have hzero₂ : runOfUrls (placeholder ++ rest) = 0 := by
    rw [runOfUrls_eq, if_neg (by omega)]
  rw [heq₂ hzero₂, List.prefix_append_right_inj] at hinit
  obtain ⟨rest, rfl, heq₃⟩ := exists_of_prefix_shortened (lessThan_not_mem_of_isSpace hblanks₂)
    (List.IsPrefix.trans (List.prefix_append _ _) hinit)
  rw [heq₃, List.prefix_append_right_inj] at hinit
  obtain ⟨rest, rfl, -⟩ := exists_of_placeholder_prefix_shortened hinit
  rw [spaced_append_append hblanks₂ (List.prefix_append _ _), spaced_append] at hshort
  omega

/-- Shortening leaves no run. -/
theorem not_hasRun_shortened (cs : List Char) : ¬ HasRun (shortened cs) := by
  induction cs using Pattern.scan runOfUrls with
  | nil =>
    rintro ⟨s, hs, hrun⟩
    rw [shortened, Pattern.replaceAll, List.suffix_nil] at hs
    rw [hs] at hrun
    exact absurd (List.prefix_nil.1 hrun.initial) (by decide)
  | pass c cs hzero ih =>
    have hpass : shortened (c :: cs) = c :: shortened cs := Pattern.replaceAll_cons_of_zero hzero
    rw [hpass, hasRun_cons, ← hpass, not_or]
    exact ⟨not_startsRun_shortened hzero, ih⟩
  | take cs hne hmatch ih =>
    have htake : shortened cs = placeholder ++ ([' '] ++ shortened (cs.drop (runOfUrls cs))) := by
      rw [← List.append_assoc]
      exact Pattern.replaceAll_of_match hne hmatch
    have hcount : 3 ≤ (spaced cs).1 := by
      by_contra hcount
      exact hmatch (if_neg hcount)
    obtain ⟨hplaceholder, hspace⟩ := not_prefix_drop_spaced cs
    rw [runOfUrls_eq, if_pos hcount] at htake ih
    rw [htake, placeholder_append, hasRun_cons, ← placeholder_append, not_or]
    constructor
    · rintro ⟨blanks₁, blanks₂, hblanks₁, -, hinit⟩
      rw [List.prefix_append_right_inj] at hinit
      cases blanks₁ with
      | nil => exact absurd (List.cons_prefix_cons.1 hinit).1 (by decide)
      | cons c blanks =>
        replace hinit : blanks ++ (placeholder ++ (blanks₂ ++ placeholder)) <+:
            shortened (cs.drop (spaced cs).2) := (List.cons_prefix_cons.1 hinit).2
        have hblanks := (List.forall_mem_cons.1 hblanks₁).2
        have hhead := List.IsPrefix.trans (List.prefix_append _ _) hinit
        obtain ⟨rest, hrest, heq⟩ :=
          exists_of_prefix_shortened (lessThan_not_mem_of_isSpace hblanks) hhead
        rw [heq, List.prefix_append_right_inj] at hinit
        obtain ⟨others, rfl, -⟩ := exists_of_placeholder_prefix_shortened
          (List.IsPrefix.trans (List.prefix_append _ _) hinit)
        -- All white space after the run was taken with it.
        cases blanks with
        | nil => exact hplaceholder (hrest ▸ List.prefix_append _ _)
        | cons d blanks =>
          have hd := (List.forall_mem_cons.1 hblanks).1
          rw [hspace (by omega) d _ hrest] at hd
          exact Bool.false_ne_true hd
    · intro hrun
      have hbehind := hrun.of_append_of_not_mem lessThan_not_mem_placeholderTail
      exact ih (hbehind.of_append_of_not_mem (by decide))

end ProbeCampaign.ValueList
