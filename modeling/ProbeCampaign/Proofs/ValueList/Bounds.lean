import Mathlib.Tactic
import ProbeCampaign.Proofs.ValueList.Tidy

/-!
# Bounds of listed values

Exchanging hashes and long numbers makes no group and no run, because none goes through what is put
in their place (`Inert.count_replaceAll_le`, `Inert.hasRun`). So a value has at most four groups and
no run (`parse_bounded`), unless taking out groups puts a placeholder or a directive together, as it
does in `nested`.
-/

namespace ProbeCampaign.ValueList

open Pattern (Straddles Seamless)

variable {cs gap rest w replacement : List Char} {p : Pattern}

/-! ## Replacements -/

/-- A character of a placeholder, or of what stands between those of a group. -/
def isGroupChar (c : Char) : Bool :=
  isSeparator c || (placeholder ++ (capital ++ small)).contains c

theorem isGroupChar_of_mem_placeholder : ∀ c ∈ placeholder, isGroupChar c = true :=
  List.all_eq_true.1 (by decide)

theorem isGroupChar_of_isSpace {c : Char} (h : Text.isSpace c = true) : isGroupChar c = true := by
  rw [isGroupChar, isSeparator, h, Bool.true_or, Bool.true_or]

/-- Gaps are made of characters of groups. -/
theorem isGroupChar_of_isGap (h : IsGap gap) : ∀ c ∈ gap, isGroupChar c = true := by
  obtain ⟨blanks, first, second, rfl, hblanks, hfirst, hsecond⟩ := h
  refine List.forall_mem_append.2 ⟨fun c hc => ?_, List.forall_mem_append.2 ⟨?_, ?_⟩⟩
  · rw [isGroupChar, hblanks c hc, Bool.true_or]
  · rcases hfirst with rfl | rfl
    · exact List.forall_mem_nil _
    · exact List.all_eq_true.1 (by decide)
  · rcases hsecond with rfl | rfl
    · exact List.forall_mem_nil _
    · exact List.all_eq_true.1 (by decide)

/-- No group or run goes through what is replaced or what is put in its place. -/
structure Inert (p : Pattern) (replacement : List Char) : Prop where
  start : ∀ c cs, p (c :: cs) ≠ 0 → isGroupChar c = false
  head : ∃ c others, replacement = c :: others ∧ isGroupChar c = false
  lessThan : '<' ∉ replacement

/-- A pattern that is inert leaves what groups are made of as it is. -/
theorem Inert.replaceAll_append (h : Inert p replacement) (hw : ∀ c ∈ w, isGroupChar c = true)
    (cs : List Char) :
    p.replaceAll replacement (w ++ cs) = w ++ p.replaceAll replacement cs := by
  refine (Pattern.passes_of_forall_mem fun c hc others => by_contra fun hne => ?_).replaceAll_append
  have hchar := hw c hc
  rw [h.start c others hne] at hchar
  exact Bool.false_ne_true hchar

/-- Nor does it bring any of that to the front of a text. -/
theorem Inert.initial (h : Inert p replacement) (hw : ∀ c ∈ w, isGroupChar c = true)
    (hinit : w <+: p.replaceAll replacement cs) : w <+: cs := by
  obtain ⟨e, form, rfl, he⟩ := h.head
  obtain ⟨rest, heq⟩ := hinit
  have hnot : e ∉ w := fun hmem => Bool.false_ne_true (he.symm.trans (hw e hmem))
  obtain ⟨others, rfl, -⟩ := Pattern.exists_of_replaceAll_eq_append (List.cons_ne_nil e form)
    (Pattern.passes_literal_of_not_mem hnot) heq.symm
  exact List.prefix_append _ _

/-- It neither makes nor breaks the next part of a group. -/
theorem Inert.further_iff (h : Inert p replacement) :
    Further (p.replaceAll replacement cs) ↔ Further cs := by
  have hchars : ∀ {gap}, IsGap gap → ∀ c ∈ gap ++ placeholder, isGroupChar c = true :=
    fun hgap => List.forall_mem_append.2 ⟨isGroupChar_of_isGap hgap, isGroupChar_of_mem_placeholder⟩
  constructor
  · rintro ⟨gap, hgap, hinit⟩
    exact ⟨gap, hgap, h.initial (hchars hgap) hinit⟩
  · rintro ⟨gap, hgap, rest, rfl⟩
    rw [h.replaceAll_append (hchars hgap)]
    exact ⟨gap, hgap, List.prefix_append _ _⟩

/-- The URLs of a group are the same ones. -/
theorem Inert.furtherLength (h : Inert p replacement) (cs : List Char) :
    furtherLength (p.replaceAll replacement cs) = furtherLength cs ∧
      (p.replaceAll replacement cs).drop (furtherLength cs) =
        p.replaceAll replacement (cs.drop (furtherLength cs)) := by
  induction cs using further_induction with
  | stop cs hcs =>
    rw [furtherLength_of_not hcs, furtherLength_of_not (mt h.further_iff.1 hcs)]
    exact ⟨rfl, rfl⟩
  | step gap rest hgap ih =>
    rw [h.replaceAll_append (isGroupChar_of_isGap hgap),
      h.replaceAll_append isGroupChar_of_mem_placeholder, furtherLength_of_gap hgap,
      furtherLength_of_gap hgap, ih.1, ← List.append_assoc, ← List.append_assoc,
      List.drop_length_add_append, List.drop_length_add_append]
    exact ⟨rfl, ih.2⟩

/-- A replacement makes no groups. -/
theorem Inert.count_replaceAll_le (h : Inert p replacement) (cs : List Char) :
    urlGroup.count (p.replaceAll replacement cs) ≤ urlGroup.count cs := by
  induction hlength : cs.length using Nat.strong_induction_on generalizing cs with
  | _ n ih =>
    subst hlength
    by_cases hplaceholder : placeholder <+: cs
    · obtain ⟨rest, rfl⟩ := hplaceholder
      have hshorter : (rest.drop (ValueList.furtherLength rest)).length <
          (placeholder ++ rest).length := by
        have hpos : 0 < placeholder.length := by decide
        rw [List.length_append, List.length_drop]
        omega
      rw [h.replaceAll_append isGroupChar_of_mem_placeholder, count_placeholder, count_placeholder,
        (h.furtherLength rest).1, (h.furtherLength rest).2, if_congr h.further_iff rfl rfl]
      exact Nat.add_le_add_right (ih _ hshorter _ rfl) _
    · cases cs with
      | nil => rw [Pattern.replaceAll]
      | cons c cs =>
        by_cases hzero : p (c :: cs) = 0
        · have hnone := mt (h.initial isGroupChar_of_mem_placeholder) hplaceholder
          rw [Pattern.replaceAll_cons_of_zero hzero] at hnone ⊢
          rw [Pattern.count_cons_of_zero (urlGroup_eq_zero hnone),
            Pattern.count_cons_of_zero (urlGroup_eq_zero hplaceholder)]
          exact ih _ (Nat.lt_succ_self _) cs rfl
        · rw [Pattern.replaceAll_of_match (List.cons_ne_nil c cs) hzero,
            count_append_of_not_mem h.lessThan]
          refine (ih _ ?_ _ rfl).trans (count_le_of_suffix (List.drop_suffix _ _))
          rw [List.length_drop, List.length_cons]
          omega

/-- A replacement makes no runs. -/
theorem Inert.hasRun (h : Inert p replacement) (hrun : HasRun (p.replaceAll replacement cs)) :
    HasRun cs := by
  induction cs using Pattern.scan p with
  | nil => rwa [Pattern.replaceAll] at hrun
  | pass c cs hzero ih =>
    have hpass : p.replaceAll replacement (c :: cs) = c :: p.replaceAll replacement cs :=
      Pattern.replaceAll_cons_of_zero hzero
    rw [hpass, hasRun_cons, ← hpass] at hrun
    refine hasRun_cons.2 (hrun.imp ?_ ih)
    rintro ⟨blanks₁, blanks₂, hblanks₁, hblanks₂, hinit⟩
    refine ⟨blanks₁, blanks₂, hblanks₁, hblanks₂, h.initial ?_ hinit⟩
    simp only [List.forall_mem_append]
    exact ⟨isGroupChar_of_mem_placeholder, fun c hc => isGroupChar_of_isSpace (hblanks₁ c hc),
      isGroupChar_of_mem_placeholder, fun c hc => isGroupChar_of_isSpace (hblanks₂ c hc),
      isGroupChar_of_mem_placeholder⟩
  | take cs hcs hne ih =>
    rw [Pattern.replaceAll_of_match hcs hne] at hrun
    exact (ih (hrun.of_append_of_not_mem h.lessThan)).of_suffix (List.drop_suffix _ _)

/-- Hashes of sources are inert, as their prefix is no word of groups. -/
theorem inert_sourceHash : Inert sourceHash "sha256-default".toList where
  start c cs h := by
    have hstart : hashStart <+: c :: cs := by
      by_contra hinit
      exact h (if_neg (mt List.isPrefixOf_iff_prefix.1 hinit))
    obtain ⟨rfl, -⟩ := List.cons_prefix_cons.1 hstart
    decide
  head := ⟨'s', "ha256-default".toList, by decide, by decide⟩
  lessThan := by decide

/-- A digit lies in one of the intervals. -/
theorem mem_digitIntervals {c : Char} (h : Text.isDigit c = true) :
    ∃ digit ∈ Text.digitIntervals, digit.1 ≤ c.toNat ∧ c.toNat ≤ digit.2 := by
  unfold Text.isDigit at h
  split at h
  · obtain ⟨hlow, hhigh⟩ : '0' ≤ c ∧ c ≤ '9' := by simpa using h
    exact ⟨(0x30, 0x39), by decide, hlow, hhigh⟩
  · simpa [Text.within] using h

/-- No digit is white space, nor in a placeholder or a directive. -/
theorem isGroupChar_of_isDigit {c : Char} (h : Text.isDigit c = true) : isGroupChar c = false := by
  have hdisjoint : ∀ space ∈ Text.spaceIntervals, ∀ digit ∈ Text.digitIntervals,
      space.2 < digit.1 ∨ digit.2 < space.1 := by decide +kernel
  have hothers : (',' :: (placeholder ++ (capital ++ small))).any Text.isDigit = false := by
    decide
  have hspace : Text.isSpace c = false := by
    rw [Text.isSpace, Text.within, List.any_eq_false]
    intro space hmem hin
    obtain ⟨digit, hdigit, hlow, hhigh⟩ := mem_digitIntervals h
    obtain ⟨hge, hle⟩ : space.1 ≤ c.toNat ∧ c.toNat ≤ space.2 := by simpa using hin
    have hapart := hdisjoint space hmem digit hdigit
    omega
  have hc : c ∉ ',' :: (placeholder ++ (capital ++ small)) :=
    fun hmem => List.any_eq_false.1 hothers c hmem h
  rw [List.mem_cons, not_or] at hc
  rw [isGroupChar, isSeparator, hspace, beq_false_of_ne hc.1, Bool.false_or, Bool.false_or]
  simpa using hc.2

/-- Long numbers are inert, as groups have no digits. -/
theorem inert_longNumber : Inert longNumber "60".toList where
  start c cs h := by
    refine isGroupChar_of_isDigit ?_
    by_contra hc
    refine h ?_
    rw [longNumber, List.takeWhile_cons_of_neg hc]
    rfl
  head := ⟨'6', ['0'], by decide, by decide⟩
  lessThan := by decide

/-! ## Values -/

/-- A value without its groups but the last ones, cut where they were. -/
def joined (cs : List Char) : List (List Char) :=
  urlGroup.kept (urlGroup.count (shortened cs) - maxGroups) (shortened cs)

theorem normalize_eq (cs : List Char) : normalize cs =
    longNumber.replaceAll "60".toList
      (sourceHash.replaceAll "sha256-default".toList (joined cs).flatten) := by
  rw [joined, ← Pattern.removeFirst_eq_flatten]
  rfl

/-- A row without seams keeps four groups at most. -/
theorem count_normalize_le (h : Seamless words (joined cs)) :
    urlGroup.count (normalize cs) ≤ maxGroups := by
  have hcount := count_flatten_kept (Nat.sub_le _ maxGroups) h
  rw [normalize_eq]
  refine (inert_longNumber.count_replaceAll_le _).trans
    ((inert_sourceHash.count_replaceAll_le _).trans ?_)
  rw [joined]
  omega

/-- A row without seams keeps no run. -/
theorem not_hasRun_normalize (h : Seamless words (joined cs)) : ¬ HasRun (normalize cs) := by
  have hseamless : Seamless [placeholder] (joined cs) :=
    h.of_subset (List.cons_subset_cons _ (List.nil_subset _))
  rw [normalize_eq]
  intro hrun
  refine not_hasRun_shortened cs (HasRun.of_kept ?_ (Nat.sub_le _ maxGroups) hseamless)
  exact inert_sourceHash.hasRun (inert_longNumber.hasRun hrun)

/-- Taking out groups of the value of a row makes neither a placeholder nor a directive. -/
def Clean (row : List Char) : Prop :=
  ∀ value tail, splitCount? (urlLike.replaceAll placeholder row) = some (value, tail) →
    Seamless words (joined value)

theorem clean_of_not_mem {row : List Char} (h : '<' ∉ row) : Clean row :=
  fun _ _ hvalue => (tidy_value h hvalue).shortened.seamless (Nat.sub_le _ maxGroups)

/-- The values of a list have at most four URL groups and no run of URLs, unless a row with a
less-than sign has parts of a placeholder or of a directive around groups that are taken out. -/
theorem parse_bounded {content : List Char}
    (hrows : ∀ row ∈ (content.splitOn '\n').drop 1, '<' ∉ row ∨ Clean row) (m : Nat) :
    ∀ v ∈ parse content m, urlGroup.count v.toList ≤ 4 ∧ ¬ HasRun v.toList := by
  intro v hv
  obtain ⟨row, hrow, n, hreading, -⟩ := mem_parse.1 hv
  obtain ⟨⟨value, tail⟩, hvalue, hreading⟩ := Option.bind_eq_some_iff.1 hreading
  obtain ⟨n', -, heq⟩ := Option.bind_eq_some_iff.1 hreading
  cases heq
  have hseamless := (hrows row hrow).elim clean_of_not_mem id value tail hvalue
  rw [String.toList_ofList]
  exact ⟨count_normalize_le hseamless, not_hasRun_normalize hseamless⟩

/-- Rows with five groups each. The second one has the placeholder itself and another less-than
sign. -/
def grouped : List (List Char) :=
  [("a.test,b.test; a.test,b.test; a.test,b.test; " ++ "a.test,b.test; a.test,b.test 20").toList,
    ("<b> <!URL!>,a.test; a.test,<!URL!>; a.test,b.test; " ++
      "a.test,b.test; <!URL!>,b.test 3").toList]

/-- Of the first row the last four groups are left. -/
theorem parse_bounded_grouped :
    (∀ row ∈ ((file "value count".toList grouped).splitOn '\n').drop 1, '<' ∉ row ∨ Clean row) ∧
      "; <!URL!>,<!URL!>; <!URL!>,<!URL!>; <!URL!>,<!URL!>; <!URL!>,<!URL!>" ∈
        parse (file "value count".toList grouped) 0 ∧
      ∀ v ∈ parse (file "value count".toList grouped) 0,
        urlGroup.count v.toList ≤ 4 ∧ ¬ HasRun v.toList := by
  have hsplit : ((file "value count".toList grouped).splitOn '\n').drop 1 = grouped := by
    rw [splitOn_file (by decide) (by decide)]
    rfl
  have hrows : ∀ row ∈ ((file "value count".toList grouped).splitOn '\n').drop 1,
      '<' ∉ row ∨ Clean row := by
    rw [hsplit, grouped, List.forall_mem_cons, List.forall_mem_singleton]
    refine ⟨.inl (by decide), .inr fun value tail h => ?_⟩
    have hvalue : splitCount? (urlLike.replaceAll placeholder
        ("<b> <!URL!>,a.test; a.test,<!URL!>; a.test,b.test; " ++
          "a.test,b.test; <!URL!>,b.test 3").toList) =
        some (("<b> <!URL!>,<!URL!>; <!URL!>,<!URL!>; <!URL!>,<!URL!>; " ++
          "<!URL!>,<!URL!>; <!URL!>,<!URL!>").toList, ['3']) := by decide +kernel
    cases hvalue.symm.trans h
    decide +kernel
  refine ⟨hrows, mem_parse.2 ?_, parse_bounded hrows 0⟩
  rw [hsplit]
  exact ⟨_, List.mem_cons_self, 20, by decide +kernel, Nat.zero_le _⟩

/-- A row in which the parts of a placeholder stand around a group that is taken out. -/
def nested : List Char :=
  ("<!URL!> <!U<!URL!>,<!URL!>RL!> <!URL!>; <!URL!>,<!URL!>; <!URL!>,<!URL!>; " ++
    "<!URL!>,<!URL!>; <!URL!>,<!URL!> 1").toList

/-- Its value has five groups, and the first one of them is a run. -/
theorem parse_nested_unbounded : ∃ v ∈ parse ("value count\n".toList ++ nested ++ ['\n']) 0,
    4 < urlGroup.count v.toList ∧ HasRun v.toList := by
  refine ⟨"<!URL!> <!URL!> <!URL!>; <!URL!>,<!URL!>; <!URL!>,<!URL!>; " ++
    "<!URL!>,<!URL!>; <!URL!>,<!URL!>", ?_, by decide +kernel, ?_⟩
  · exact mem_parse.2 ⟨nested, by decide +kernel, 1, by decide +kernel, by decide⟩
  · have hblank : ∀ c ∈ [' '], Text.isSpace c = true := List.forall_mem_singleton.2 (by decide)
    exact ⟨_, List.suffix_rfl, [' '], [' '], hblank, hblank, by decide⟩

end ProbeCampaign.ValueList
