import Mathlib.Tactic
import ProbeCampaign.Proofs.ValueList.Bounds

/-!
# Hashes and long numbers

The last two steps of the normal form take out hashes and then long numbers. Masking hashes leaves
nothing of a hash (`hashesMasked_sourceHash`), and exchanging long numbers neither shows one again
(`HashesMasked.longNumber`) nor leaves a long number (`not_hasLongNumber_longNumber`). So whatever
the steps before have put together, no listed value has a hash or a long number (`parse_masked`).
-/

namespace ProbeCampaign.ValueList

open Pattern (literal)

variable {cs rest replacement : List Char} {p : Pattern}

/-! ## Long numbers -/

/-- There are at least four decimal digits in a row. -/
def HasLongNumber (cs : List Char) : Prop :=
  ∃ digits, digits <:+: cs ∧ 4 ≤ digits.length ∧ ∀ c ∈ digits, Text.isDigit c = true

/-- The number of digits at the head of a text. -/
def leading (cs : List Char) : Nat :=
  (cs.takeWhile Text.isDigit).length

/-- The digits in front are counted one by one. -/
theorem leading_cons (c : Char) (cs : List Char) :
    leading (c :: cs) = if Text.isDigit c then leading cs + 1 else 0 := by
  rw [leading, List.takeWhile_cons]
  split
  · rfl
  · rfl

/-- What stands for a long number. -/
theorem sixty_eq : "60".toList = ['6', '0'] := rfl

theorem longNumber_eq (cs : List Char) : longNumber cs = if 4 ≤ leading cs then leading cs else 0 :=
  rfl

/-- Behind them there is no digit. -/
theorem leading_drop (cs : List Char) : leading (cs.drop (leading cs)) = 0 := by
  induction cs with
  | nil => rfl
  | cons c cs ih =>
    rw [leading_cons]
    split
    · exact ih
    · next hc => rw [List.drop_zero, leading_cons, if_neg hc]

/-- A long number starts somewhere. -/
theorem exists_suffix_of_hasLongNumber (h : HasLongNumber cs) : ∃ s, s <:+ cs ∧ 4 ≤ leading s := by
  obtain ⟨digits, ⟨front, back, rfl⟩, hlength, hdigits⟩ := h
  refine ⟨digits ++ back, ⟨front, List.append_assoc .. ▸ rfl⟩, hlength.trans ?_⟩
  rw [leading, List.takeWhile_append_of_pos hdigits, List.length_append]
  exact Nat.le_add_right _ _

/-- Short numbers stay. -/
theorem leading_replaceAll (h : leading cs < 4) :
    leading (longNumber.replaceAll "60".toList cs) = leading cs := by
  induction cs with
  | nil => rw [Pattern.replaceAll]
  | cons c cs ih =>
    have hzero : longNumber (c :: cs) = 0 := if_neg (Nat.not_le_of_lt h)
    rw [Pattern.replaceAll_cons_of_zero hzero, leading_cons, leading_cons]
    rw [leading_cons] at h
    split
    · next hc =>
      rw [if_pos hc] at h
      rw [ih (by omega)]
    · rfl

/-- A long number ends before a character that is no digit, so what stands for it is no part of
another one. -/
theorem not_hasLongNumber_longNumber (cs : List Char) :
    ¬ HasLongNumber (longNumber.replaceAll "60".toList cs) := by
  suffices hshort : ∀ s, s <:+ longNumber.replaceAll "60".toList cs → leading s < 4 by
    intro h
    obtain ⟨s, hs, hlong⟩ := exists_suffix_of_hasLongNumber h
    exact absurd hlong (Nat.not_le_of_lt (hshort s hs))
  induction cs using Pattern.scan longNumber with
  | nil =>
    intro s hs
    rw [Pattern.replaceAll, List.suffix_nil] at hs
    rw [hs]
    decide
  | pass c cs hzero ih =>
    intro s hs
    have hlead : leading (c :: cs) < 4 := by
      by_contra hlong
      rw [longNumber_eq, if_pos (Nat.le_of_not_lt hlong)] at hzero
      omega
    rw [Pattern.replaceAll_cons_of_zero hzero] at hs
    rcases List.suffix_cons_iff.1 hs with rfl | hsuffix
    · rwa [← Pattern.replaceAll_cons_of_zero hzero, leading_replaceAll hlead]
    · exact ih s hsuffix
  | take cs hcs hne ih =>
    intro s hs
    have hmatch : longNumber cs = leading cs := by
      rw [longNumber_eq] at hne ⊢
      exact if_pos (by_contra fun hlead => hne (if_neg hlead))
    have hend : leading (longNumber.replaceAll "60".toList (cs.drop (longNumber cs))) = 0 := by
      have hdrop := leading_drop cs
      rw [← hmatch] at hdrop
      rw [leading_replaceAll (by omega), hdrop]
    rw [Pattern.replaceAll_of_match hcs hne, sixty_eq, List.cons_append, List.singleton_append,
      ← sixty_eq, List.suffix_cons_iff, List.suffix_cons_iff] at hs
    rcases hs with rfl | rfl | hsuffix
    · rw [leading_cons, leading_cons, hend]
      decide
    · rw [leading_cons, hend]
      decide
    · exact ih s hsuffix

/-! ## Hashes -/

/-- Nothing or white space follows. -/
def EndsWord (cs : List Char) : Prop :=
  ∀ c ∈ cs.head?, Text.isSpace c = true

/-- What stands for the characters of a hash. -/
def mask : List Char := "default".toList

/-- After the start of a hash there is nothing of it, or what stands for it. -/
def Masked (rest : List Char) : Prop :=
  EndsWord rest ∨ ∃ more, rest = mask ++ more ∧ EndsWord more

/-- After every start of a hash there is nothing of it. -/
def HashesMasked (cs : List Char) : Prop :=
  ∀ rest, hashStart ++ rest <:+ cs → Masked rest

theorem endsWord_nil : EndsWord [] := by
  simp [EndsWord]

theorem endsWord_cons {c : Char} : EndsWord (c :: cs) ↔ Text.isSpace c = true := by
  simp [EndsWord]

/-- White space that is not replaced still ends the word. -/
theorem EndsWord.replaceAll (h : EndsWord cs)
    (hpass : ∀ c cs, Text.isSpace c = true → p (c :: cs) = 0) :
    EndsWord (p.replaceAll replacement cs) := by
  cases cs with
  | nil => rwa [Pattern.replaceAll]
  | cons c cs =>
    rw [endsWord_cons] at h
    rw [Pattern.replaceAll_cons_of_zero (hpass c cs h), endsWord_cons]
    exact h

/-- A hash goes up to the next white space. -/
theorem sourceHash_append (rest : List Char) : sourceHash (hashStart ++ rest) =
    let n := (rest.takeWhile fun c => !Text.isSpace c).length
    if n = 0 then 0 else hashStart.length + n := by
  rw [sourceHash, if_pos (List.isPrefixOf_iff_prefix.2 (List.prefix_append _ _)), List.drop_left]
  cases (rest.takeWhile fun c => !Text.isSpace c).length with
  | zero => rfl
  | succ n => rfl

/-- A hash begins with its start and ends where the word does. -/
theorem exists_of_sourceHash_ne_zero (h : sourceHash cs ≠ 0) :
    ∃ rest, cs = hashStart ++ rest ∧ EndsWord (cs.drop (sourceHash cs)) := by
  have hinit : hashStart <+: cs := by
    by_contra hinit
    exact h (if_neg (mt List.isPrefixOf_iff_prefix.1 hinit))
  obtain ⟨rest, rfl⟩ := hinit
  refine ⟨rest, rfl, ?_⟩
  have hlength : sourceHash (hashStart ++ rest) =
      hashStart.length + (rest.takeWhile fun c => !Text.isSpace c).length := by
    rw [sourceHash_append] at h ⊢
    exact if_neg fun hnone => h (if_pos hnone)
  rw [hlength, List.drop_length_add_append, drop_takeWhile]
  intro c hc
  have hhead := List.head?_dropWhile_not (fun c => !Text.isSpace c) rest
  rw [hc] at hhead
  simpa using hhead

/-- Where nothing of a hash follows its start, the word ends. -/
theorem endsWord_of_sourceHash_eq_zero (h : sourceHash (hashStart ++ rest) = 0) :
    EndsWord rest := by
  cases rest with
  | nil => exact endsWord_nil
  | cons c rest =>
    rw [endsWord_cons]
    by_contra hc
    rw [sourceHash_append, List.takeWhile_cons_of_pos (by simpa using hc)] at h
    exact absurd h (Nat.succ_ne_zero _)

theorem sourceHash_of_ne {c : Char} (hc : c ≠ 's') (cs : List Char) : sourceHash (c :: cs) = 0 :=
  if_neg fun h => hc (List.cons_prefix_cons.1 (List.isPrefixOf_iff_prefix.1 h)).1.symm

theorem hashStart_eq : hashStart = 's' :: "ha256-".toList := rfl

/-- Masking leaves no hash: what it puts in the place of one ends before white space, and no start
of a hash comes about, as one has a single `s`. -/
theorem hashesMasked_sourceHash (cs : List Char) :
    HashesMasked (sourceHash.replaceAll "sha256-default".toList cs) := by
  have hspace : ∀ c cs, Text.isSpace c = true → sourceHash (c :: cs) = 0 := by
    intro c cs hc
    refine sourceHash_of_ne ?_ cs
    rintro rfl
    exact absurd hc (by decide)
  induction cs using Pattern.scan sourceHash with
  | nil =>
    intro rest hrest
    rw [Pattern.replaceAll, List.suffix_nil] at hrest
    exact absurd hrest (List.cons_ne_nil 's' _)
  | pass c cs hzero ih =>
    intro rest hrest
    rw [Pattern.replaceAll_cons_of_zero hzero] at hrest
    rcases List.suffix_cons_iff.1 hrest with heq | hsuffix
    · rw [hashStart_eq, List.cons_append] at heq
      obtain ⟨rfl, htail⟩ := List.cons.inj heq
      have hnone : (literal "sha256-default".toList).Passes "ha256-".toList rest :=
        Pattern.passes_literal_of_not_mem (by decide)
      obtain ⟨others, rfl, rfl⟩ :=
        Pattern.exists_of_replaceAll_eq_append (by decide) hnone htail.symm
      exact .inl ((endsWord_of_sourceHash_eq_zero hzero).replaceAll hspace)
    · exact ih rest hsuffix
  | take cs hcs hne ih =>
    intro rest hrest
    obtain ⟨-, -, hend⟩ := exists_of_sourceHash_ne_zero hne
    rw [Pattern.replaceAll_of_match hcs hne] at hrest
    generalize hmore :
      sourceHash.replaceAll "sha256-default".toList (cs.drop (sourceHash cs)) = more at ih hrest
    have hmask : "sha256-default".toList ++ more = 's' :: ("ha256-default".toList ++ more) := rfl
    rw [hashStart_eq, List.cons_append, hmask, List.suffix_cons_iff] at hrest
    rcases hrest with heq | hsuffix
    · refine .inr ⟨more, ?_, hmore ▸ hend.replaceAll hspace⟩
      exact List.append_cancel_left (List.cons.inj heq).2
    · refine ih rest ?_
      rw [hashStart_eq, List.cons_append]
      exact Text.suffix_of_not_mem hsuffix (by decide)

theorem longNumber_of_not_isDigit {c : Char} (hc : ¬ Text.isDigit c = true) (cs : List Char) :
    longNumber (c :: cs) = 0 := by
  rw [longNumber_eq, leading_cons, if_neg hc]
  rfl

/-- The number in the start of a hash is too short to be exchanged, and what stands for a long
number is another one. -/
theorem HashesMasked.longNumber (h : HashesMasked cs) :
    HashesMasked (longNumber.replaceAll "60".toList cs) := by
  have hspace : ∀ c cs, Text.isSpace c = true → ValueList.longNumber (c :: cs) = 0 := by
    intro c cs hc
    refine longNumber_of_not_isDigit (fun hdigit => ?_) cs
    have hchar := isGroupChar_of_isDigit hdigit
    rw [isGroupChar_of_isSpace hc] at hchar
    exact Bool.false_ne_true hchar.symm
  intro rest hrest
  have hnone : (literal "60".toList).Passes hashStart rest := by
    have hstart : hashStart = ['s', 'h', 'a', '2', '5', '6', '-'] := rfl
    simp only [hstart, Pattern.passes_cons, Pattern.passes_nil, and_true]
    exact ⟨rfl, rfl, rfl, rfl, rfl, rfl, rfl⟩
  rw [hashStart_eq] at hnone hrest
  obtain ⟨others, hothers, rfl⟩ :=
    Pattern.exists_of_append_suffix_replaceAll (by decide) (by decide) hnone hrest
  rw [← hashStart_eq] at hothers
  rcases h others hothers with hend | ⟨more, rfl, hend⟩
  · exact .inl (hend.replaceAll hspace)
  · have hletters : mask.any Text.isDigit = false := by decide
    have hmask : ValueList.longNumber.Passes mask more :=
      Pattern.passes_of_forall_mem fun c hc cs =>
        longNumber_of_not_isDigit (List.any_eq_false.1 hletters c hc) cs
    exact .inr ⟨_, hmask.replaceAll_append, hend.replaceAll hspace⟩

/-! ## Values -/

theorem not_hasLongNumber_normalize (cs : List Char) : ¬ HasLongNumber (normalize cs) := by
  rw [normalize_eq]
  exact not_hasLongNumber_longNumber _

theorem hashesMasked_normalize (cs : List Char) : HashesMasked (normalize cs) := by
  rw [normalize_eq]
  exact (hashesMasked_sourceHash _).longNumber

/-- The values of a list have no long number, and nothing of a hash after its start. -/
theorem parse_masked (content : List Char) (m : Nat) :
    ∀ v ∈ parse content m, ¬ HasLongNumber v.toList ∧ HashesMasked v.toList := by
  intro v hv
  obtain ⟨row, -, n, hreading, -⟩ := mem_parse.1 hv
  obtain ⟨⟨value, tail⟩, -, hreading⟩ := Option.bind_eq_some_iff.1 hreading
  obtain ⟨n', -, heq⟩ := Option.bind_eq_some_iff.1 hreading
  cases heq
  rw [String.toList_ofList]
  exact ⟨not_hasLongNumber_normalize value, hashesMasked_normalize value⟩

/-- A row in which groups that are taken out stand within the start of a hash and within a long
number. -/
def parted : List Char :=
  ("sha2<!URL!>,<!URL!>56-abc 12<!URL!>,<!URL!>345; <!URL!>,<!URL!>; <!URL!>,<!URL!>; " ++
    "<!URL!>,<!URL!>; <!URL!>,<!URL!> 7").toList

/-- Both are put together and then taken out. -/
theorem parse_masked_parted :
    let v := "sha256-default 60; <!URL!>,<!URL!>; <!URL!>,<!URL!>; <!URL!>,<!URL!>; <!URL!>,<!URL!>"
    v ∈ parse (file "value count".toList [parted]) 5 ∧
      ¬ HasLongNumber v.toList ∧ HashesMasked v.toList := by
  intro v
  have hreading : reading? parted = some (v, 7) := by decide +kernel
  have hmem : v ∈ parse (file "value count".toList [parted]) 5 := by
    rw [mem_parse_file (by decide) (by decide +kernel)]
    exact ⟨parted, List.mem_cons_self, 7, hreading, by decide⟩
  exact ⟨hmem, parse_masked _ _ v hmem⟩

end ProbeCampaign.ValueList
