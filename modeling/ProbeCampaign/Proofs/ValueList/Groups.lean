import Mathlib.Data.List.TakeWhile
import Mathlib.Tactic
import ProbeCampaign.Proofs.Text.Removal
import ProbeCampaign.ValueList

/-!
# URL groups

A group is a placeholder with others behind it, and only gaps between them (`urlGroup_ne_zero_iff`).
A text has no fewer groups than what is left of it without its start (`count_le_of_suffix`). Taking
out whole groups leaves the others as they are if no placeholder and no directive come about where
the parts are joined (`count_flatten_kept`).
-/

namespace ProbeCampaign.ValueList

open Pattern (prefix_append_cases Straddles Seamless)

variable {cs gap rest part tail ys blanks first second : List Char} {p : Pattern} {k : Nat}

/-! ## Gaps -/

/-- White space or a comma. -/
def isSeparator (c : Char) : Bool :=
  Text.isSpace c || c == ','

/-- The directives that may stand before a URL. -/
def capital : List Char := "ALLOW-FROM".toList

@[inherit_doc capital]
def small : List Char := "allow-from".toList

/-- White space and commas, then at most one directive of each case. -/
def IsGap (gap : List Char) : Prop :=
  ∃ blanks first second, gap = blanks ++ (first ++ second) ∧
    (∀ c ∈ blanks, isSeparator c = true) ∧ (first = [] ∨ first = capital ++ [' ']) ∧
    (second = [] ∨ second = small ++ [' '])

/-- After a gap there is a placeholder. -/
def Further (cs : List Char) : Prop :=
  ∃ gap, IsGap gap ∧ gap ++ placeholder <+: cs

theorem isGap_of_blanks (h : ∀ c ∈ blanks, isSeparator c = true) : IsGap blanks :=
  ⟨blanks, [], [], (List.append_nil _).symm, h, .inl rfl, .inl rfl⟩

/-- A text is read as white space and commas, directives and a rest. -/
theorem furtherUrl_eq
    (hblanks : (blanks ++ (first ++ (second ++ rest))).takeWhile isSeparator = blanks)
    (hfirst : skip "ALLOW-FROM " (first ++ (second ++ rest)) = first.length)
    (hsecond : skip "allow-from " (second ++ rest) = second.length) :
    furtherUrl (blanks ++ (first ++ (second ++ rest))) =
      if placeholder <+: rest then
        blanks.length + first.length + second.length + placeholder.length
      else 0 := by
  have hfirstDrop : (blanks ++ (first ++ (second ++ rest))).drop (blanks.length + first.length) =
      second ++ rest := by
    rw [← List.drop_drop, List.drop_left, List.drop_left]
  have hsecondDrop : (blanks ++ (first ++ (second ++ rest))).drop
      (blanks.length + first.length + second.length) = rest := by
    rw [← List.drop_drop, hfirstDrop, List.drop_left]
  unfold isSeparator at hblanks
  unfold furtherUrl
  rw [hblanks]
  dsimp only
  rw [List.drop_left, hfirst, hfirstDrop, hsecond, hsecondDrop]
  exact if_congr List.isPrefixOf_iff_prefix rfl rfl

/-- A placeholder after a gap goes on with the group. No directive begins with a separator, nor one
with what the other or a placeholder begins with. -/
theorem furtherUrl_of_gap (h : IsGap gap) (rest : List Char) :
    furtherUrl (gap ++ (placeholder ++ rest)) = gap.length + placeholder.length := by
  obtain ⟨blanks, first, second, rfl, hblanks, hfirst, hsecond⟩ := h
  rw [List.append_assoc, List.append_assoc, furtherUrl_eq, if_pos (List.prefix_append _ _),
    List.length_append, List.length_append, ← Nat.add_assoc]
  · rw [List.takeWhile_append_of_pos hblanks]
    refine List.append_right_eq_self.2 ?_
    rcases hfirst with rfl | rfl
    · rcases hsecond with rfl | rfl
      · rfl
      · rfl
    · rfl
  · rcases hfirst with rfl | rfl
    · rcases hsecond with rfl | rfl
      · rfl
      · rfl
    · rfl
  · rcases hsecond with rfl | rfl
    · rfl
    · rfl

/-- A word is skipped if it is there. -/
theorem exists_skip (text : String) (cs : List Char) : ∃ found rest, cs = found ++ rest ∧
    skip text cs = found.length ∧ (found = [] ∨ found = text.toList) := by
  by_cases h : text.toList <+: cs
  · obtain ⟨rest, rfl⟩ := h
    exact ⟨_, rest, rfl, Pattern.literal_eq_length (List.prefix_append _ _), .inr rfl⟩
  · exact ⟨[], cs, rfl, Pattern.literal_eq_zero h, .inl rfl⟩

/-- What goes on with a group is a gap and a placeholder. -/
theorem further_of_furtherUrl (h : furtherUrl cs ≠ 0) : Further cs := by
  obtain ⟨first, others, hothers, hfirst, hfirstCases⟩ :=
    exists_skip "ALLOW-FROM " (cs.dropWhile isSeparator)
  obtain ⟨second, rest, rfl, hsecond, hsecondCases⟩ := exists_skip "allow-from " others
  rw [hothers] at hfirst
  have hcs : cs = cs.takeWhile isSeparator ++ (first ++ (second ++ rest)) := by
    rw [← hothers, List.takeWhile_append_dropWhile]
  have hblanks : ∀ c ∈ cs.takeWhile isSeparator, isSeparator c = true :=
    fun c => List.mem_takeWhile_imp
  rw [hcs, furtherUrl_eq (by rw [← hcs]) hfirst hsecond] at h
  obtain ⟨hinit, -⟩ := ite_ne_right_iff.1 h
  refine ⟨_, ⟨cs.takeWhile isSeparator, first, second, rfl, hblanks, hfirstCases, hsecondCases⟩, ?_⟩
  conv_rhs => rw [hcs]
  simpa only [List.append_assoc, List.prefix_append_right_inj] using hinit

/-- A further URL is a gap and a placeholder. -/
theorem further_iff : Further cs ↔ furtherUrl cs ≠ 0 := by
  refine ⟨?_, further_of_furtherUrl⟩
  rintro ⟨gap, hgap, rest, rfl⟩
  rw [List.append_assoc, furtherUrl_of_gap hgap]
  exact Nat.ne_of_gt (Nat.add_pos_right _ (by decide))

instance (cs : List Char) : Decidable (Further cs) :=
  decidable_of_iff _ further_iff.symm

/-! ## Groups -/

/-- Fuel for every character is enough. -/
theorem furtherUrls_congr {fuel fuel' : Nat} (h : cs.length ≤ fuel) (h' : cs.length ≤ fuel') :
    furtherUrls fuel cs = furtherUrls fuel' cs := by
  induction fuel generalizing fuel' cs with
  | zero =>
    obtain rfl := List.length_eq_zero_iff.1 (Nat.le_zero.1 h)
    cases fuel' with
    | zero => rfl
    | succ fuel' => rfl
  | succ fuel ih =>
    cases fuel' with
    | zero =>
      obtain rfl := List.length_eq_zero_iff.1 (Nat.le_zero.1 h')
      rfl
    | succ fuel' =>
      unfold furtherUrls
      split
      · rfl
      · next n _ =>
        have hdrop : (cs.drop (n + 1)).length ≤ cs.length - 1 := by
          rw [List.length_drop]
          omega
        exact congrArg (n + 1 + ·) (ih (by omega) (by omega))

/-- The length of the further URLs at the head of a text. -/
def furtherLength (cs : List Char) : Nat :=
  furtherUrls cs.length cs

/-- The rest of a group is its next part and the rest behind that. -/
theorem furtherLength_eq (cs : List Char) : furtherLength cs =
    if Further cs then furtherUrl cs + furtherLength (cs.drop (furtherUrl cs)) else 0 := by
  split
  · next h =>
    obtain ⟨n, hn⟩ := Nat.exists_eq_succ_of_ne_zero (further_iff.1 h)
    cases cs with
    | nil => exact absurd hn (Nat.succ_ne_zero n).symm
    | cons c cs =>
      have hfuel : furtherUrls cs.length (cs.drop n) = furtherLength (cs.drop n) :=
        furtherUrls_congr (by rw [List.length_drop]; exact Nat.sub_le _ _) le_rfl
      rw [furtherLength, List.length_cons, furtherUrls, hn]
      exact congrArg (n + 1 + ·) hfuel
  · next h =>
    have hzero : furtherUrl cs = 0 := by_contra fun hne => h (further_of_furtherUrl hne)
    unfold furtherLength
    cases cs with
    | nil => rfl
    | cons c cs => rw [List.length_cons, furtherUrls, hzero]

/-- A gap and a placeholder are the next part. -/
theorem furtherLength_of_gap (h : IsGap gap) (rest : List Char) :
    furtherLength (gap ++ (placeholder ++ rest)) =
      (gap ++ placeholder).length + furtherLength rest := by
  have hfurther : Further (gap ++ (placeholder ++ rest)) :=
    ⟨gap, h, rest, List.append_assoc _ _ _⟩
  rw [furtherLength_eq, if_pos hfurther, furtherUrl_of_gap h, ← List.length_append,
    ← List.append_assoc, List.drop_left]

theorem furtherLength_of_not (h : ¬ Further cs) : furtherLength cs = 0 := by
  rw [furtherLength_eq, if_neg h]

/-- A text begins with no further URL, or with a gap, a placeholder and such a text. -/
@[elab_as_elim]
theorem further_induction {motive : List Char → Prop} (cs : List Char)
    (stop : ∀ cs, ¬ Further cs → motive cs)
    (step : ∀ gap rest, IsGap gap → motive rest → motive (gap ++ (placeholder ++ rest))) :
    motive cs := by
  induction hlength : cs.length using Nat.strong_induction_on generalizing cs with
  | _ n ih =>
    subst hlength
    by_cases h : Further cs
    · obtain ⟨gap, hgap, rest, rfl⟩ := h
      rw [List.append_assoc] at ih ⊢
      refine step gap rest hgap (ih _ ?_ rest rfl)
      have hplaceholder : 0 < placeholder.length := by decide
      rw [List.length_append, List.length_append]
      omega
    · exact stop cs h

/-- No further URL follows those that were counted. -/
theorem not_further_drop (cs : List Char) : ¬ Further (cs.drop (furtherLength cs)) := by
  induction cs using further_induction with
  | stop cs h => rwa [furtherLength_of_not h]
  | step gap rest hgap ih =>
    rwa [furtherLength_of_gap hgap, ← List.append_assoc, List.drop_length_add_append]

theorem furtherLength_ne_zero_iff : furtherLength cs ≠ 0 ↔ Further cs := by
  rw [furtherLength_eq]
  split
  · next h =>
    have hpos := Nat.pos_of_ne_zero (further_iff.1 h)
    exact iff_of_true (Nat.ne_of_gt (Nat.add_pos_left hpos _)) h
  · next h => exact iff_of_false (fun hne => hne rfl) h

theorem urlGroup_eq_zero (h : ¬ placeholder <+: cs) : urlGroup cs = 0 :=
  if_neg (mt List.isPrefixOf_iff_prefix.1 h)

/-- A placeholder starts a group if another one follows. -/
theorem urlGroup_append (rest : List Char) : urlGroup (placeholder ++ rest) =
    if Further rest then placeholder.length + furtherLength rest else 0 := by
  have hfuel : furtherUrls (placeholder ++ rest).length rest = furtherLength rest :=
    furtherUrls_congr (by rw [List.length_append]; omega) le_rfl
  rw [urlGroup, if_pos (List.isPrefixOf_iff_prefix.2 (List.prefix_append _ _)), List.drop_left,
    hfuel]
  split
  · next hzero => rw [if_neg fun h => furtherLength_ne_zero_iff.2 h hzero]
  · next n hn => rw [if_pos (furtherLength_ne_zero_iff.1 (hn ▸ Nat.succ_ne_zero n)), hn]

/-- A group is a placeholder with a further URL behind it. -/
theorem urlGroup_ne_zero_iff :
    urlGroup cs ≠ 0 ↔ ∃ rest, cs = placeholder ++ rest ∧ Further rest := by
  constructor
  · intro h
    obtain ⟨rest, rfl⟩ := by_contra fun hinit => h (urlGroup_eq_zero hinit)
    rw [urlGroup_append] at h
    exact ⟨rest, rfl, (ite_ne_right_iff.1 h).1⟩
  · rintro ⟨rest, rfl, h⟩
    rw [urlGroup_append, if_pos h]
    exact Nat.ne_of_gt (Nat.add_pos_left (by decide) _)

/-! ## Counting groups -/

/-- No gap has a less-than sign. -/
theorem lessThan_not_mem_of_isGap (h : IsGap gap) : '<' ∉ gap := by
  obtain ⟨blanks, first, second, rfl, hblanks, hfirst, hsecond⟩ := h
  rw [List.mem_append, List.mem_append, not_or, not_or]
  refine ⟨fun hmem => absurd (hblanks _ hmem) (by decide), ?_, ?_⟩
  · rcases hfirst with rfl | rfl
    · exact List.not_mem_nil
    · decide
  · rcases hsecond with rfl | rfl
    · exact List.not_mem_nil
    · decide

/-- Without a less-than sign there is no group in front. -/
theorem count_append_of_not_mem {l : List Char} (h : '<' ∉ l) (r : List Char) :
    urlGroup.count (l ++ r) = urlGroup.count r := by
  refine Pattern.Passes.count_append (Pattern.passes_of_forall_mem fun c hc others => ?_)
  refine urlGroup_eq_zero fun hinit => ?_
  obtain ⟨rfl, -⟩ := List.cons_prefix_cons.1 hinit
  exact h hc

/-- The placeholder without its less-than sign. -/
def placeholderTail : List Char := "!URL!>".toList

theorem placeholder_append (rest : List Char) :
    placeholder ++ rest = '<' :: (placeholderTail ++ rest) := rfl

theorem lessThan_not_mem_placeholderTail : '<' ∉ placeholderTail := by
  decide

/-- After a placeholder, groups are counted behind the group that it starts. -/
theorem count_placeholder (rest : List Char) : urlGroup.count (placeholder ++ rest) =
    urlGroup.count (rest.drop (furtherLength rest)) + if Further rest then 1 else 0 := by
  have hgroup := urlGroup_append rest
  by_cases h : Further rest
  · rw [if_pos h] at hgroup ⊢
    have hne : urlGroup (placeholder ++ rest) ≠ 0 := urlGroup_ne_zero_iff.2 ⟨rest, rfl, h⟩
    have hcons : placeholder ++ rest ≠ [] := by
      rw [placeholder_append]
      exact List.cons_ne_nil _ _
    rw [Pattern.count_of_match hcons hne, hgroup, List.drop_length_add_append]
  · rw [if_neg h] at hgroup ⊢
    rw [placeholder_append] at hgroup ⊢
    rw [Pattern.count_cons_of_zero hgroup, count_append_of_not_mem lessThan_not_mem_placeholderTail,
      furtherLength_of_not h]
    rfl

/-- A text has no fewer groups than what is left of it without its first character. -/
theorem count_le_count_cons (c : Char) (cs : List Char) :
    urlGroup.count cs ≤ urlGroup.count (c :: cs) := by
  by_cases hzero : urlGroup (c :: cs) = 0
  · exact (Pattern.count_cons_of_zero hzero).ge
  · obtain ⟨rest, heq, hfurther⟩ := urlGroup_ne_zero_iff.1 hzero
    obtain ⟨-, hcs⟩ := List.cons.inj (heq.trans (placeholder_append rest))
    rw [heq, hcs, count_placeholder, if_pos hfurther]
    -- Without its first placeholder the group still ends in the same place.
    obtain ⟨gap, hgap, rest, rfl⟩ := hfurther
    rw [List.append_assoc, count_append_of_not_mem lessThan_not_mem_placeholderTail,
      count_append_of_not_mem (lessThan_not_mem_of_isGap hgap), count_placeholder,
      furtherLength_of_gap hgap, ← List.append_assoc, List.drop_length_add_append]
    split
    · exact le_rfl
    · exact Nat.le_succ _

theorem count_le_of_suffix {l : List Char} (h : l <:+ cs) :
    urlGroup.count l ≤ urlGroup.count cs := by
  obtain ⟨front, rfl⟩ := h
  induction front with
  | nil => exact le_rfl
  | cons c front ih => exact ih.trans (count_le_count_cons c _)

/-! ## Joined parts -/

/-- What could come about where parts are joined: a placeholder, or a directive but for the blank
at its end. -/
def words : List (List Char) :=
  [placeholder, capital, small]

/-- White space and commas at the head of a joined text are in the first part or fill it. -/
theorem blanks_cases (hblanks : ∀ c ∈ blanks, isSeparator c = true)
    (h : blanks ++ rest <+: part ++ ys) :
    (∃ others, part = blanks ++ others ∧ rest <+: others ++ ys) ∨ IsGap part := by
  rcases prefix_append_cases (List.IsPrefix.trans (List.prefix_append blanks rest) h) with
    ⟨others, rfl⟩ | ⟨more, -, rfl, -⟩
  · rw [List.append_assoc, List.prefix_append_right_inj] at h
    exact .inl ⟨others, rfl, h⟩
  · exact .inr (isGap_of_blanks fun c hc => hblanks c (List.mem_append_left _ hc))

/-- A directive at the head of a joined text is in the first part or begins behind it, or only its
blank is behind it. -/
theorem directive_cases {word text : List Char} (htext : text = [] ∨ text = word ++ [' '])
    (h : text ++ rest <+: part ++ ys) (hseam : ¬ Straddles word part ys) :
    (∃ others, part = text ++ others ∧ rest <+: others ++ ys) ∨ part = [] ∨
      [' '] ++ rest <+: ys := by
  by_cases hnil : part = []
  · exact .inr (.inl hnil)
  rcases htext with rfl | rfl
  · exact .inl ⟨part, rfl, h⟩
  rw [List.append_assoc] at h
  have hword : word <+: part :=
    Pattern.prefix_of_not_straddles (List.IsPrefix.trans (List.prefix_append _ _) h) hnil hseam
  obtain ⟨others, rfl⟩ := hword
  rw [List.append_assoc, List.prefix_append_right_inj] at h
  cases others with
  | nil => exact .inr (.inr h)
  | cons c others =>
    obtain ⟨rfl, hrest⟩ := List.cons_prefix_cons.1 h
    exact .inl ⟨others, List.append_cons _ _ _, hrest⟩

theorem further_append (hgap : IsGap gap) (htail : placeholder <+: tail) : Further (gap ++ tail) :=
  ⟨gap, hgap, (List.prefix_append_right_inj gap).2 htail⟩

/-- Behind a gap there is the placeholder that is there now, or that of the group taken out. -/
theorem further_append_append (hgap : IsGap gap) (h : placeholder <+: part ++ ys)
    (hseam : ¬ Straddles placeholder part ys) (htail : placeholder <+: tail) :
    Further ((gap ++ part) ++ tail) := by
  by_cases hnil : part = []
  · rw [hnil, List.append_nil]
    exact further_append hgap htail
  · rw [List.append_assoc]
    refine further_append hgap (List.prefix_append_of_prefix ?_)
    exact Pattern.prefix_of_not_straddles h hnil hseam

/-- Where a group was taken out, a further URL that is there now was there before. -/
theorem Further.of_join (h : Further (part ++ ys)) (htail : placeholder <+: tail)
    (hys : ¬ Further ys) (hseam : ∀ word ∈ words, ¬ Straddles word part ys) :
    Further (part ++ tail) := by
  obtain ⟨-, ⟨blanks, first, second, rfl, hblanks, hfirst, hsecond⟩, hinit⟩ := h
  have hword : ∀ {l}, l <:+ part → ∀ word ∈ words, ¬ Straddles word l ys :=
    fun hl word hmem hstraddles => hseam word hmem (hstraddles.of_suffix hl)
  have hspace : ∀ c ∈ [' '], isSeparator c = true := List.forall_mem_singleton.2 (by decide)
  rw [List.append_assoc, List.append_assoc] at hinit
  -- The first part has all of the gap, or it ends in the white space, right after it or after a
  -- directive; then the placeholder of the group was next.
  rcases blanks_cases hblanks hinit with ⟨others, rfl, hothers⟩ | hgap
  case inr => exact further_append hgap htail
  have hsuffix : others <:+ blanks ++ others := List.suffix_append _ _
  rcases directive_cases hfirst hothers (hword hsuffix capital (by simp [words])) with
    ⟨others, rfl, hrest⟩ | rfl | hbehind
  · replace hsuffix := (List.suffix_append first others).trans hsuffix
    rcases directive_cases hsecond hrest (hword hsuffix small (by simp [words])) with
      ⟨others, rfl, hlast⟩ | rfl | hbehind
    · replace hsuffix := (List.suffix_append second others).trans hsuffix
      have hgap : IsGap (blanks ++ (first ++ second)) :=
        ⟨blanks, first, second, rfl, hblanks, hfirst, hsecond⟩
      simpa only [List.append_assoc] using
        further_append_append hgap hlast (hword hsuffix placeholder (by simp [words])) htail
    · refine further_append ⟨blanks, first, [], ?_, hblanks, hfirst, .inl rfl⟩ htail
      rw [List.append_nil]
    · exact absurd ⟨_, isGap_of_blanks hspace, hbehind⟩ hys
  · rw [List.append_nil]
    exact further_append (isGap_of_blanks hblanks) htail
  · refine absurd ⟨[' '] ++ second, ⟨[' '], [], second, rfl, hspace, .inl rfl, hsecond⟩, ?_⟩ hys
    rwa [List.append_assoc]

/-- Groups are taken out one by one: before the first one there is none. -/
theorem exists_first_group (hcount : k + 1 ≤ urlGroup.count cs) : ∃ part rest,
    cs = part ++ (placeholder ++ rest) ∧
      urlGroup.kept (k + 1) cs = part :: urlGroup.kept k (rest.drop (furtherLength rest)) ∧
      urlGroup.count cs = urlGroup.count (rest.drop (furtherLength rest)) + 1 ∧
      urlGroup.Passes part (placeholder ++ rest) := by
  have hne : urlGroup.count cs ≠ 0 := by omega
  obtain ⟨tail, hparts, -, hmatch, hafter, hnone⟩ := Pattern.exists_first_match hne
  obtain ⟨rest, rfl, hfurther⟩ := urlGroup_ne_zero_iff.1 hmatch
  rw [urlGroup_append, if_pos hfurther, List.drop_length_add_append] at hafter
  refine ⟨urlGroup.before cs, rest, hparts, ?_, ?_, hnone⟩
  · rw [Pattern.kept, hafter]
  · rw [Pattern.count_eq_succ hne, hafter]

/-- No further URL comes about at the head of a text. -/
theorem not_further_flatten_kept (hcount : k ≤ urlGroup.count cs) (hcs : ¬ Further cs)
    (hseamless : Seamless words (urlGroup.kept k cs)) : ¬ Further (urlGroup.kept k cs).flatten := by
  induction k generalizing cs with
  | zero => rwa [Pattern.kept, List.flatten_singleton]
  | succ k ih =>
    obtain ⟨part, rest, rfl, hkept, hcounted, -⟩ := exists_first_group hcount
    rw [hkept] at hseamless
    rw [hkept, List.flatten_cons]
    have hothers := ih (by omega) (not_further_drop rest) hseamless.2
    exact fun h => hcs (h.of_join (List.prefix_append _ _) hothers hseamless.1)

/-- Where a group was taken out, no group begins in the part before. -/
theorem passes_of_join (h : urlGroup.Passes part tail) (htail : placeholder <+: tail)
    (hys : ¬ Further ys) (hseam : ∀ word ∈ words, ¬ Straddles word part ys) :
    urlGroup.Passes part ys := by
  intro u hu hsuffix
  by_contra hgroup
  obtain ⟨rest, heq, hfurther⟩ := urlGroup_ne_zero_iff.1 hgroup
  have hword : ∀ {l}, l <:+ u → ∀ word ∈ words, ¬ Straddles word l ys := fun hl word hmem
    hstraddles => hseam word hmem (hstraddles.of_suffix (hl.trans hsuffix))
  obtain ⟨others, rfl⟩ := Pattern.prefix_of_not_straddles (heq ▸ List.prefix_append _ _) hu
    (hword List.suffix_rfl placeholder (by simp [words]))
  rw [List.append_assoc, List.append_cancel_left_eq] at heq
  -- The group would have been there with the placeholder of the one taken out.
  have hthere : Further (others ++ tail) :=
    Further.of_join (heq ▸ hfurther) htail hys (hword (List.suffix_append _ _))
  exact urlGroup_ne_zero_iff.2 ⟨_, List.append_assoc _ _ _, hthere⟩ (h _ hu hsuffix)

/-- Every group that is taken out is one less. -/
theorem count_flatten_kept (hcount : k ≤ urlGroup.count cs)
    (hseamless : Seamless words (urlGroup.kept k cs)) :
    urlGroup.count (urlGroup.kept k cs).flatten + k = urlGroup.count cs := by
  induction k generalizing cs with
  | zero => rw [Pattern.kept, List.flatten_singleton, Nat.add_zero]
  | succ k ih =>
    obtain ⟨part, rest, -, hkept, hcounted, hnone⟩ := exists_first_group hcount
    rw [hkept] at hseamless
    have hothers := not_further_flatten_kept (by omega) (not_further_drop rest) hseamless.2
    have hpasses := passes_of_join hnone (List.prefix_append _ _) hothers hseamless.1
    rw [hkept, List.flatten_cons, hpasses.count_append, hcounted, ← ih (by omega) hseamless.2,
      Nat.add_assoc]

end ProbeCampaign.ValueList
