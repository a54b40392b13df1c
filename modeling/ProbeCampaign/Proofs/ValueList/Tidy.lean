import Mathlib.Tactic
import ProbeCampaign.Proofs.ValueList.Rows
import ProbeCampaign.Proofs.ValueList.Runs

/-!
# Rows without a less-than sign

In the value of a row without a less-than sign every placeholder stands for what looked like a URL,
and no more of a URL follows it (`tidy_value`). Taking out groups of such a value makes neither a
placeholder nor a directive (`Tidy.seamless`).
-/

namespace ProbeCampaign.ValueList

open Pattern (Straddles Seamless)

variable {cs l r rest row form : List Char} {p : Pattern} {k : Nat}

/-! ## Where URLs end -/

/-- No more of a host name is at the head. -/
def Detached (cs : List Char) : Prop :=
  ∀ c ∈ cs.head?, isTailChar c = false

theorem detached_nil : Detached [] := by
  simp [Detached]

theorem detached_cons {c : Char} : Detached (c :: cs) ↔ isTailChar c = false := by
  simp [Detached]

theorem isPathChar_of_isTailChar {c : Char} (h : isTailChar c = true) : isPathChar c = true := by
  simp only [isTailChar, isLabelChar, Bool.or_eq_true, beq_iff_eq] at h
  simp only [isPathChar, Bool.or_eq_true, List.contains_iff_mem, List.mem_cons]
  tauto

/-- What is left behind all characters of words is detached from the one before. -/
theorem detached_dropWhile {q : Char → Bool} (hq : ∀ c, isTailChar c = true → q c = true)
    (cs : List Char) : Detached (cs.dropWhile q) := by
  have hhead := List.head?_dropWhile_not q cs
  cases hdrop : cs.dropWhile q with
  | nil => exact detached_nil
  | cons c rest =>
    rw [hdrop] at hhead
    rw [detached_cons, ← Bool.not_eq_true]
    intro hc
    rw [List.head?_cons] at hhead
    simp [hq c hc] at hhead

/-- A name goes on at a dot. -/
theorem exists_of_afterLabel_ne_zero {fuel : Nat} (h : afterLabel fuel cs ≠ 0) : ∃ rest,
    cs.drop (labelLength cs) = '.' :: rest ∧ afterLabel fuel cs = afterDot fuel rest := by
  by_cases hdot : ∃ rest, cs.drop (labelLength cs) = '.' :: rest
  · obtain ⟨rest, hrest⟩ := hdot
    rw [afterLabel_of_dot hrest] at h ⊢
    obtain ⟨hlabel, -⟩ := ite_ne_left_iff.1 h
    exact ⟨rest, hrest, if_neg hlabel⟩
  · exact absurd (afterLabel_of_no_dot (fun rest hrest => hdot ⟨rest, hrest⟩) fuel) h

theorem drop_afterLabel {fuel : Nat} (hrest : cs.drop (labelLength cs) = '.' :: rest)
    (h : afterLabel fuel cs = afterDot fuel rest) :
    cs.drop (labelLength cs + 1 + afterLabel fuel cs) = rest.drop (afterDot fuel rest) := by
  rw [h, Nat.add_assoc, ← List.drop_drop, hrest, Nat.add_comm, List.drop_succ_cons]

/-- What is left behind a name is detached. -/
theorem detached_drop_afterDot {fuel : Nat} (h : cs.length ≤ fuel) :
    Detached (cs.drop (afterDot fuel cs)) := by
  induction fuel generalizing cs with
  | zero =>
    obtain rfl := List.length_eq_zero_iff.1 (Nat.le_zero.1 h)
    exact detached_nil
  | succ fuel ih =>
    rw [afterDot_succ]
    split
    · rw [drop_takeWhile]
      exact detached_dropWhile (fun c hc => hc) cs
    · next hne =>
      obtain ⟨rest, hrest, heq⟩ := exists_of_afterLabel_ne_zero hne
      rw [drop_afterLabel hrest heq]
      refine ih ?_
      have hlength := congrArg List.length hrest
      rw [List.length_drop, List.length_cons] at hlength
      omega

/-- All of a URL is taken. -/
theorem detached_drop_urlLike (h : urlLike cs ≠ 0) : Detached (cs.drop (urlLike cs)) := by
  unfold urlLike at h ⊢
  cases hscheme : withScheme cs with
  | zero =>
    rw [hscheme] at h
    dsimp only at h ⊢
    rw [withDots_eq] at h ⊢
    obtain ⟨hne, -⟩ := ite_ne_left_iff.1 h
    obtain ⟨rest, hrest, heq⟩ := exists_of_afterLabel_ne_zero hne
    rw [if_neg hne, drop_afterLabel hrest heq]
    refine detached_drop_afterDot ?_
    have hlength := congrArg List.length hrest
    rw [List.length_drop, List.length_cons] at hlength
    omega
  | succ n =>
    dsimp only
    by_cases hinit : ∃ s ∈ schemes, s <+: cs
    · obtain ⟨s, hs, path, rfl⟩ := hinit
      rw [← hscheme, withScheme_append_of_mem hs, List.drop_length_add_append, drop_takeWhile]
      exact detached_dropWhile (fun c => isPathChar_of_isTailChar) path
    · rw [withScheme_eq_zero fun s hs hcs => hinit ⟨s, hs, hcs⟩] at hscheme
      exact absurd hscheme (Nat.succ_ne_zero n).symm

/-- A replacement that starts with a less-than sign leaves a text detached. -/
theorem Detached.replaceAll (h : Detached cs) : Detached (p.replaceAll ('<' :: form) cs) := by
  cases cs with
  | nil => rwa [Pattern.replaceAll]
  | cons c cs =>
    by_cases hzero : p (c :: cs) = 0
    · rw [Pattern.replaceAll_cons_of_zero hzero]
      exact h
    · rw [Pattern.replaceAll_of_match (List.cons_ne_nil c cs) hzero, List.cons_append,
        detached_cons]
      decide

/-! ## Tidy texts -/

/-- Every less-than sign is that of a placeholder, and no more of a URL follows it. -/
def Tidy (cs : List Char) : Prop :=
  ∀ s, '<' :: s <:+ cs → ∃ rest, s = placeholderTail ++ rest ∧ Detached rest

theorem Tidy.of_suffix (h : Tidy cs) (hsuffix : l <:+ cs) : Tidy l :=
  fun s hs => h s (hs.trans hsuffix)

theorem tidy_of_not_mem (h : '<' ∉ cs) : Tidy cs :=
  fun _ hs => absurd (hs.subset List.mem_cons_self) h

theorem Tidy.append_of_not_mem (h : Tidy r) (hl : '<' ∉ l) : Tidy (l ++ r) :=
  fun s hs => h s (Text.suffix_of_not_mem hs hl)

/-- A placeholder in front of a tidy text is tidy, if the text is detached. -/
theorem Tidy.placeholder_append (h : Tidy rest) (hdetached : Detached rest) :
    Tidy (placeholder ++ rest) := by
  rw [ValueList.placeholder_append]
  intro s hs
  rcases List.suffix_cons_iff.1 hs with heq | hsuffix
  · exact ⟨rest, (List.cons.inj heq).2, hdetached⟩
  · exact h s (Text.suffix_of_not_mem hsuffix lessThan_not_mem_placeholderTail)

theorem Tidy.detached (h : Tidy (placeholder ++ rest)) : Detached rest := by
  obtain ⟨rest', heq, hdetached⟩ := h _ List.suffix_rfl
  rwa [List.append_cancel_left heq]

/-- A text that ends before a blank is tidy if the whole text is. -/
theorem Tidy.of_append (h : Tidy (cs ++ ' ' :: r)) : Tidy cs := by
  rintro s ⟨front, rfl⟩
  obtain ⟨rest, heq, hdetached⟩ := h (s ++ ' ' :: r) ⟨front, by simp⟩
  have hblank : ' ' ∉ placeholderTail := by decide
  obtain ⟨others, rfl⟩ := (Pattern.prefix_append_cons_iff hblank).1 ⟨rest, heq.symm⟩
  refine ⟨others, rfl, ?_⟩
  rw [List.append_assoc, List.append_cancel_left_eq] at heq
  cases others with
  | nil => exact detached_nil
  | cons c others =>
    rw [← heq, List.cons_append, detached_cons] at hdetached
    exact detached_cons.2 hdetached

/-- A row without a less-than sign is tidy once its URLs are replaced. -/
theorem tidy_urlLike (h : '<' ∉ row) : Tidy (urlLike.replaceAll placeholder row) := by
  induction row using Pattern.scan urlLike with
  | nil =>
    rw [Pattern.replaceAll]
    exact tidy_of_not_mem h
  | pass c cs hzero ih =>
    rw [Pattern.replaceAll_cons_of_zero hzero]
    rw [List.mem_cons, not_or] at h
    exact (ih h.2).append_of_not_mem (l := [c]) (by rw [List.mem_singleton]; exact h.1)
  | take cs hcs hne ih =>
    rw [Pattern.replaceAll_of_match hcs hne]
    exact (ih fun hmem => h (List.mem_of_mem_drop hmem)).placeholder_append
      (detached_drop_urlLike hne).replaceAll

theorem shortened_append (hl : '<' ∉ l) (cs : List Char) :
    shortened (l ++ cs) = l ++ shortened cs := by
  refine (Pattern.passes_of_forall_mem fun c hc others => by_contra fun hne => ?_).replaceAll_append
  obtain ⟨rfl, -⟩ := List.cons_prefix_cons.1 (prefix_of_runOfUrls hne)
  exact hl hc

/-- Taking out runs leaves a text tidy. -/
theorem Tidy.shortened (h : Tidy cs) : Tidy (shortened cs) := by
  induction cs using Pattern.scan runOfUrls with
  | nil => rwa [ValueList.shortened, Pattern.replaceAll]
  | pass c cs hzero ih =>
    have hpass : ValueList.shortened (c :: cs) = c :: ValueList.shortened cs :=
      Pattern.replaceAll_cons_of_zero hzero
    replace ih := ih (h.of_suffix (List.suffix_cons c cs))
    rw [hpass]
    by_cases hc : c = '<'
    · subst hc
      obtain ⟨rest, rfl, hdetached⟩ := h _ List.suffix_rfl
      rw [shortened_append lessThan_not_mem_placeholderTail] at ih ⊢
      exact Tidy.placeholder_append (ih.of_suffix (List.suffix_append _ _)) hdetached.replaceAll
    · exact ih.append_of_not_mem (l := [c]) (by rwa [List.mem_singleton, eq_comm])
  | take cs hcs hne ih =>
    have htake : ValueList.shortened cs =
        placeholder ++ ([' '] ++ ValueList.shortened (cs.drop (runOfUrls cs))) := by
      rw [← List.append_assoc]
      exact Pattern.replaceAll_of_match hcs hne
    rw [htake]
    refine Tidy.placeholder_append ?_ (detached_cons.2 (by decide))
    exact (ih (h.of_suffix (List.drop_suffix _ _))).append_of_not_mem (by decide)

/-- A row with a count is its value, a blank and the count. -/
theorem splitCount?_eq {value tail : List Char} (h : splitCount? cs = some (value, tail)) :
    cs = value ++ ' ' :: tail := by
  have hreverse : cs.reverse.takeWhile (fun c => decide (c ≠ ' ')) ++
      cs.reverse.dropWhile (fun c => decide (c ≠ ' ')) = cs.reverse :=
    List.takeWhile_append_dropWhile
  have hhead := List.head?_dropWhile_not (fun c => decide (c ≠ ' ')) cs.reverse
  unfold splitCount? at h
  generalize cs.reverse.takeWhile (fun c => decide (c ≠ ' ')) = back at h hreverse
  generalize cs.reverse.dropWhile (fun c => decide (c ≠ ' ')) = front at hhead hreverse
  obtain rfl : cs = front.reverse ++ back.reverse := by
    rw [← List.reverse_append, hreverse, List.reverse_reverse]
  dsimp only at h
  split at h
  · cases h
  · next hlength =>
    cases h
    cases front with
    | nil => exact absurd rfl hlength
    | cons c front =>
      obtain rfl : c = ' ' := by simpa using hhead
      have hfront : (front.reverse ++ ' ' :: back.reverse).length - back.reverse.length - 1 =
          front.reverse.length := by
        rw [List.length_append, List.length_cons]
        omega
      rw [List.reverse_cons, List.append_assoc, List.singleton_append, hfront, List.take_left]

/-- The value of a row without a less-than sign is tidy. -/
theorem tidy_value {value tail : List Char} (hrow : '<' ∉ row)
    (h : splitCount? (urlLike.replaceAll placeholder row) = some (value, tail)) : Tidy value := by
  refine Tidy.of_append (r := tail) ?_
  rw [← splitCount?_eq h]
  exact tidy_urlLike hrow

/-! ## Taking out groups -/

/-- What is left behind a group is detached. -/
theorem Tidy.detached_drop (h : Tidy (placeholder ++ rest)) :
    Detached (rest.drop (furtherLength rest)) := by
  induction rest using further_induction with
  | stop cs hcs =>
    rw [furtherLength_of_not hcs]
    exact h.detached
  | step gap rest hgap ih =>
    rw [furtherLength_of_gap hgap, ← List.append_assoc, List.drop_length_add_append]
    refine ih (h.of_suffix ?_)
    exact (List.suffix_append _ _).trans (List.suffix_append _ _)

/-- What is kept of a text between groups is detached. -/
theorem Tidy.detached_flatten_kept (h : Tidy cs) (hcs : Detached cs)
    (hcount : k ≤ urlGroup.count cs) : Detached (urlGroup.kept k cs).flatten := by
  induction k generalizing cs with
  | zero => rwa [Pattern.kept, List.flatten_singleton]
  | succ k ih =>
    obtain ⟨part, rest, rfl, hkept, hcounted, -⟩ := exists_first_group hcount
    rw [hkept, List.flatten_cons]
    cases part with
    | nil =>
      refine ih (h.of_suffix ?_) (Tidy.detached_drop h) (by omega)
      exact (List.drop_suffix _ _).trans (List.suffix_append _ _)
    | cons c part => exact hcs

/-- No directive begins before a place where a group was and ends behind it. -/
theorem not_straddles_of_detached {word : List Char} (hword : word.all isTailChar = true)
    (hr : Detached r) : ¬ Straddles word l r := by
  rintro ⟨i, hi, -, -, hinit⟩
  rw [List.drop_eq_getElem_cons hi] at hinit
  obtain ⟨others, rfl⟩ := hinit
  rw [List.cons_append, detached_cons, List.all_eq_true.1 hword _ (List.getElem_mem hi)] at hr
  exact Bool.false_ne_true hr.symm

/-- No placeholder begins before a group. -/
theorem Tidy.not_straddles (h : Tidy (l ++ (placeholder ++ rest))) :
    ¬ Straddles placeholder l r := by
  rintro ⟨i, hi, hpos, ⟨front, rfl⟩, -⟩
  obtain ⟨i, rfl⟩ := Nat.exists_eq_succ_of_ne_zero (Nat.ne_of_gt hpos)
  replace hi : i < placeholderTail.length := Nat.lt_of_succ_lt_succ hi
  have htake : placeholder.take i.succ = '<' :: placeholderTail.take i := rfl
  rw [htake, List.append_assoc, List.cons_append] at h
  obtain ⟨others, heq, -⟩ := h _ (List.suffix_append _ _)
  -- The placeholder would go on with the less-than sign of the next one.
  conv_rhs at heq => rw [← List.take_append_drop i placeholderTail, List.append_assoc]
  rw [List.append_cancel_left_eq, List.drop_eq_getElem_cons hi, ValueList.placeholder_append] at heq
  obtain ⟨hsign, -⟩ := List.cons.inj heq
  exact lessThan_not_mem_placeholderTail (hsign ▸ List.getElem_mem hi)

/-- Taking out groups makes neither a placeholder nor a directive. -/
theorem Tidy.seamless (h : Tidy cs) (hcount : k ≤ urlGroup.count cs) :
    Seamless words (urlGroup.kept k cs) := by
  induction k generalizing cs with
  | zero => exact ⟨fun _ _ => Pattern.not_straddles_nil, trivial⟩
  | succ k ih =>
    obtain ⟨part, rest, rfl, hkept, hcounted, -⟩ := exists_first_group hcount
    have hrest : Tidy (placeholder ++ rest) := h.of_suffix (List.suffix_append _ _)
    have hdropped : Tidy (rest.drop (furtherLength rest)) :=
      hrest.of_suffix ((List.drop_suffix _ _).trans (List.suffix_append _ _))
    have hothers : Detached (urlGroup.kept k (rest.drop (furtherLength rest))).flatten :=
      hdropped.detached_flatten_kept hrest.detached_drop (by omega)
    rw [hkept]
    refine ⟨?_, ih hdropped (by omega)⟩
    simp only [words, List.forall_mem_cons]
    exact ⟨h.not_straddles, not_straddles_of_detached (by decide) hothers,
      not_straddles_of_detached (by decide) hothers, List.forall_mem_nil _⟩

end ProbeCampaign.ValueList
