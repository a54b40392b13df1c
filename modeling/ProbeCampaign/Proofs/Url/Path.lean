import Mathlib.Tactic
import ProbeCampaign.Proofs.Url.Form
import ProbeCampaign.Url.Path

/-!
# Paths that are normal already

A path is normal when its segments hold what a segment holds as it is and none of them is a dot
segment. Normalizing keeps a normal path (`normalize_of_normal`), and what it makes of any text is
normal once the slashes in front are gone (`normal_trimmed_normalize`).
-/

namespace ProbeCampaign.UrlPath

/-- A segment that normalizing keeps. -/
structure KeptSegment (s : List Char) : Prop where
  plain : ∀ c ∈ s, isPlain c = true
  slash : '/' ∉ s
  backslash : '\\' ∉ s
  singleDot : isSingleDot s = false
  doubleDot : isDoubleDot s = false

/-- A path without the slash in front of it that normalizing keeps. -/
structure Normal (cs : List Char) : Prop where
  head : cs.head? ≠ some '/'
  segments : ∀ s ∈ cs.splitOn '/', KeptSegment s

theorem keptSegment_nil : KeptSegment [] where
  plain := by simp
  slash := by simp
  backslash := by simp
  singleDot := rfl
  doubleDot := rfl

/-- A segment of plain characters needs no encoding. -/
theorem encode_of_plain {s : List Char} (h : ∀ c ∈ s, isPlain c = true) :
    Percent.encode isPlain s = s := by
  induction s with
  | nil => rfl
  | cons c s ih =>
    rw [List.forall_mem_cons] at h
    rw [Percent.encode, List.flatMap_cons, if_pos h.1]
    exact congrArg (c :: ·) (ih h.2)

/-- A segment keeps its characters or has them escaped. -/
theorem mem_encode {s : List Char} {d : Char} (h : d ∈ Percent.encode isPlain s) :
    (d ∈ s ∧ isPlain d = true) ∨ Form.isPlain d = true ∨ d = '%' := by
  obtain ⟨c, hc, hd⟩ := List.mem_flatMap.1 h
  by_cases hp : isPlain c = true
  · rw [if_pos hp, List.mem_singleton] at hd
    rw [hd]
    exact Or.inl ⟨hc, hp⟩
  · rw [if_neg hp] at hd
    obtain ⟨b, -, hb⟩ := List.mem_flatMap.1 hd
    exact Or.inr (Form.mem_escape hb)

/-- What is plain in a form is plain in a path. -/
theorem isPlain_of_form {c : Char} (h : Form.isPlain c = true) : isPlain c = true := by
  simp only [Form.isPlain, Bool.or_eq_true, Bool.and_eq_true, decide_eq_true_eq, beq_iff_eq,
    Char.le_def, UInt32.le_iff_toNat_le] at h
  have hc : c.val.toNat = c.toNat := rfl
  have hmem : c ∉ ['"', '#', '<', '>', '?', '\x60', '\x7b', '\x7d'] := by
    intro hmem
    simp only [List.mem_cons, List.not_mem_nil, or_false] at hmem
    rcases hmem with rfl | rfl | rfl | rfl | rfl | rfl | rfl | rfl <;> revert h <;> decide
  have hlo : 32 < c.toNat ∧ c.toNat < 127 := by
    rcases h with ((((((h | h) | h) | rfl) | rfl) | rfl) | rfl)
    · simp at h
      omega
    · simp at h
      omega
    · simp at h
      omega
    all_goals decide
  unfold isPlain
  rw [Bool.and_eq_true, Bool.and_eq_true, decide_eq_true_iff, decide_eq_true_iff]
  exact ⟨hlo, by simpa using hmem⟩

/-- Letters, digits and the characters `-._~`. -/
def isUnreserved (c : Char) : Bool :=
  ('0' ≤ c && c ≤ '9') || ('A' ≤ c && c ≤ 'Z') || ('a' ≤ c && c ≤ 'z') ||
    c == '-' || c == '.' || c == '_' || c == '~'

/-- Unreserved characters are plain. -/
theorem isPlain_of_isUnreserved {c : Char} (h : isUnreserved c = true) : isPlain c = true := by
  simp only [isUnreserved, Bool.or_eq_true] at h
  rcases h with h | h
  · apply isPlain_of_form
    simp only [Form.isPlain, Bool.or_eq_true]
    tauto
  · rw [beq_iff_eq.1 h]
    rfl

/-- A path of unreserved characters and slashes, without a slash in front and without dot
segments. -/
structure Unreserved (cs : List Char) : Prop where
  chars : ∀ c ∈ cs, c = '/' ∨ isUnreserved c = true
  head : cs.head? ≠ some '/'
  singleDot : ['.'] ∉ cs.splitOn '/'
  doubleDot : ['.', '.'] ∉ cs.splitOn '/'

theorem not_isSingleDot {s : List Char} (h : s ≠ ['.']) (hpercent : '%' ∉ s) :
    isSingleDot s = false := by
  rw [Bool.eq_false_iff]
  intro hdot
  simp only [isSingleDot, List.contains_iff_mem, List.mem_cons, List.not_mem_nil, or_false] at hdot
  rcases hdot with rfl | rfl | rfl
  · exact h rfl
  all_goals simp at hpercent

theorem not_isDoubleDot {s : List Char} (h : s ≠ ['.', '.']) (hpercent : '%' ∉ s) :
    isDoubleDot s = false := by
  rw [Bool.eq_false_iff]
  intro hdot
  simp only [isDoubleDot, List.contains_iff_mem, List.mem_cons, List.not_mem_nil, or_false] at hdot
  rcases hdot with rfl | rfl | rfl | rfl | rfl | rfl | rfl | rfl | rfl
  · exact h rfl
  all_goals simp at hpercent

/-- A path of unreserved characters without dot segments is normal. -/
theorem normal_of_unreserved {cs : List Char} (h : Unreserved cs) : Normal cs := by
  refine ⟨h.head, fun s hs => ?_⟩
  have hslash : '/' ∉ s := Text.not_mem_of_mem_splitOn hs
  have hchars : ∀ c ∈ s, isUnreserved c = true := by
    intro c hc
    rcases h.chars c (Text.mem_of_mem_splitOn hs hc) with rfl | hplain
    · exact absurd hc hslash
    · exact hplain
  have hpercent : '%' ∉ s := fun hmem => absurd (hchars _ hmem) (by decide)
  have hback : '\\' ∉ s := fun hmem => absurd (hchars _ hmem) (by decide)
  refine
    { plain := fun c hc => isPlain_of_isUnreserved (hchars c hc)
      slash := hslash
      backslash := hback
      singleDot := not_isSingleDot ?_ hpercent
      doubleDot := not_isDoubleDot ?_ hpercent }
  · rintro rfl
    exact h.singleDot hs
  · rintro rfl
    exact h.doubleDot hs

/-- What an encoded segment may hold: plain characters and no slashes. -/
structure EncodedSegment (s : List Char) : Prop where
  plain : ∀ c ∈ s, isPlain c = true
  slash : '/' ∉ s
  backslash : '\\' ∉ s

/-- A segment without slashes of either kind is encoded into plain characters, none of them a
slash. -/
theorem encodedSegment_encode {s : List Char} (hslash : '/' ∉ s) (hback : '\\' ∉ s) :
    EncodedSegment (Percent.encode isPlain s) where
  plain := by
    intro c hc
    rcases mem_encode hc with ⟨-, h⟩ | h | rfl
    · exact h
    · exact isPlain_of_form h
    · rfl
  slash := by
    intro h
    rcases mem_encode h with ⟨h, -⟩ | h | h
    · exact hslash h
    · exact absurd h (by decide)
    · exact absurd h (by decide)
  backslash := by
    intro h
    rcases mem_encode h with ⟨h, -⟩ | h | h
    · exact hback h
    · exact absurd h (by decide)
    · exact absurd h (by decide)

theorem EncodedSegment.kept {s : List Char} (h : EncodedSegment s) (h1 : isSingleDot s = false)
    (h2 : isDoubleDot s = false) : KeptSegment s :=
  ⟨h.plain, h.slash, h.backslash, h1, h2⟩

/-! ## Dot segments -/

/-- Going up brings in no segments. -/
theorem mem_shorten {segments : List (List Char)} {s : List Char} (h : s ∈ shorten segments) :
    s ∈ segments := by
  unfold shorten at h
  split at h
  · split at h
    · exact h
    · exact List.mem_of_mem_dropLast h
  · exact h

/-- Segments that are kept are appended as they are. -/
theorem resolve_of_kept (before : List (List Char)) {segments : List (List Char)}
    (h : ∀ s ∈ segments, KeptSegment s) : resolve before segments = before ++ segments := by
  induction segments generalizing before with
  | nil => rw [resolve, List.append_nil]
  | cons s rest ih =>
    rw [List.forall_mem_cons] at h
    obtain ⟨hs, hrest⟩ := h
    have h1 : ¬ isSingleDot s = true := by simp [hs.singleDot]
    have h2 : ¬ isDoubleDot s = true := by simp [hs.doubleDot]
    -- The last segment ends the path by a rule of its own.
    cases rest with
    | nil => rw [resolve, if_neg h2, if_neg h1]
    | cons t rest =>
      rw [resolve, if_neg h2, if_neg h1, ih _ hrest, List.append_assoc, List.singleton_append]
      exact fun h => List.cons_ne_nil t rest h

/-- No dot segment is left. -/
theorem kept_of_mem_resolve {before segments : List (List Char)}
    (hb : ∀ s ∈ before, KeptSegment s) (hs : ∀ s ∈ segments, EncodedSegment s) :
    ∀ s ∈ resolve before segments, KeptSegment s := by
  have hshort : ∀ before : List (List Char), (∀ s ∈ before, KeptSegment s) →
      ∀ s ∈ shorten before, KeptSegment s :=
    fun before hb s hs => hb s (mem_shorten hs)
  have happend : ∀ (before : List (List Char)) (s : List Char), (∀ s ∈ before, KeptSegment s) →
      KeptSegment s → ∀ t ∈ before ++ [s], KeptSegment t := by
    intro before s hb hs t ht
    rcases List.mem_append.1 ht with ht | ht
    · exact hb t ht
    · rw [List.mem_singleton.1 ht]
      exact hs
  -- The segments before are the invariant: all of them are kept.
  induction before, segments using resolve.induct with
  | case1 before => simpa [resolve] using hb
  | case2 before s h =>
    rw [resolve, if_pos h]
    exact happend _ _ (hshort _ hb) keptSegment_nil
  | case3 before s h h' =>
    rw [resolve, if_neg h, if_pos h']
    exact happend _ _ hb keptSegment_nil
  | case4 before s h h' =>
    rw [resolve, if_neg h, if_neg h']
    exact happend _ _ hb ((hs s List.mem_cons_self).kept (by simpa using h') (by simpa using h))
  | case5 before s rest hne h ih =>
    rw [resolve, if_pos h]
    · exact ih (hshort _ hb) fun t ht => hs t (List.mem_cons_of_mem _ ht)
    · exact hne
  | case6 before s rest hne h h' ih =>
    rw [resolve, if_neg h, if_pos h']
    · exact ih hb fun t ht => hs t (List.mem_cons_of_mem _ ht)
    · exact hne
  | case7 before s rest hne h h' ih =>
    rw [resolve, if_neg h, if_neg h']
    · refine ih (happend _ _ hb ?_) fun t ht => hs t (List.mem_cons_of_mem _ ht)
      exact (hs s List.mem_cons_self).kept (by simpa using h') (by simpa using h)
    · exact hne

/-! ## The written path -/

/-- The text of segments, a slash in front of each. -/
def slashed (segments : List (List Char)) : List Char :=
  segments.flatMap fun s => '/' :: s

theorem slashed_cons (s : List Char) (segments : List (List Char)) :
    slashed (s :: segments) = '/' :: ['/'].intercalate (s :: segments) := by
  induction segments generalizing s with
  | nil => simp [slashed]
  | cons t rest ih =>
    rw [slashed, List.flatMap_cons, ← slashed, ih t, List.intercalate_cons_cons]
    simp

/-- The slash in front of the first segment is trimmed. -/
theorem trimmed_slashed_cons {s : List Char} (segments : List (List Char)) (hs : s ≠ [])
    (hslash : '/' ∉ s) :
    (slashed (s :: segments)).dropWhile (· = '/') = ['/'].intercalate (s :: segments) := by
  rw [slashed_cons, List.dropWhile_cons_of_pos (by simp)]
  cases s with
  | nil => exact absurd rfl hs
  | cons c s =>
    have hc : ¬ (decide (c = '/') = true) := by
      rw [decide_eq_true_iff]
      rintro rfl
      exact hslash List.mem_cons_self
    rw [List.intercalate_cons_cons_left, List.dropWhile_cons, if_neg hc]

/-- What is left of kept segments without the slashes in front is normal. -/
theorem normal_trimmed_slashed {segments : List (List Char)} (h : ∀ s ∈ segments, KeptSegment s) :
    Normal ((slashed segments).dropWhile (· = '/')) := by
  have hnil : Normal [] := by
    refine ⟨by simp, ?_⟩
    intro s hs
    rw [List.splitOn_nil, List.mem_singleton] at hs
    rw [hs]
    exact keptSegment_nil
  induction segments with
  | nil => exact hnil
  | cons s rest ih =>
    rw [List.forall_mem_cons] at h
    by_cases hs : s = []
    · subst hs
      have : slashed ([] :: rest) = '/' :: slashed rest := by simp [slashed]
      rw [this, List.dropWhile_cons_of_pos (by simp)]
      exact ih h.2
    · have hall : ∀ t ∈ s :: rest, KeptSegment t := List.forall_mem_cons.2 h
      rw [trimmed_slashed_cons rest hs h.1.slash]
      refine ⟨?_, ?_⟩
      · cases s with
        | nil => exact absurd rfl hs
        | cons c s =>
          rw [List.intercalate_cons_cons_left, List.head?_cons, ne_eq, Option.some.injEq]
          rintro rfl
          exact h.1.slash List.mem_cons_self
      · rw [List.splitOn_intercalate]
        · exact hall
        · exact fun t ht => (hall t ht).slash
        · simp

theorem slashed_splitOn (cs : List Char) : slashed (cs.splitOn '/') = '/' :: cs := by
  cases h : cs.splitOn '/' with
  | nil => exact absurd h (List.splitOn_ne_nil '/' cs)
  | cons s rest => rw [slashed_cons, ← h, List.intercalate_splitOn]

/-! ## Normalizing -/

/-- The character that separates segments wherever `c` does. -/
def slashOf (c : Char) : Char :=
  if c = '\\' then '/' else c

theorem normalize_eq (cs : List Char) :
    normalize cs =
      slashed (resolve [] (((if (cs.map slashOf).head? = some '/' then (cs.map slashOf).drop 1
        else cs.map slashOf).splitOn '/').map (Percent.encode isPlain))) := rfl

theorem backslash_not_mem_map_slashOf (cs : List Char) : '\\' ∉ cs.map slashOf := by
  intro h
  obtain ⟨c, -, hc⟩ := List.mem_map.1 h
  unfold slashOf at hc
  split at hc
  · exact absurd hc (by decide)
  · next hne => exact hne hc

theorem map_slashOf_of_not_mem {cs : List Char} (h : '\\' ∉ cs) : cs.map slashOf = cs := by
  rw [List.map_congr_left (g := id), List.map_id]
  intro c hc
  apply if_neg
  rintro rfl
  exact h hc

/-- Normalizing keeps a normal path. -/
theorem normalize_of_normal {cs : List Char} (h : Normal cs) : normalize ('/' :: cs) = '/' :: cs := by
  have hback : '\\' ∉ '/' :: cs := by
    intro hmem
    rcases List.mem_cons.1 hmem with heq | hmem
    · exact absurd heq (by decide)
    · obtain ⟨s, hs, hc⟩ := Text.mem_splitOn_of_mem (a := '/') hmem (by decide)
      exact (h.segments s hs).backslash hc
  have hencode : (cs.splitOn '/').map (Percent.encode isPlain) = cs.splitOn '/' := by
    rw [List.map_congr_left (g := id), List.map_id]
    exact fun s hs => encode_of_plain (h.segments s hs).plain
  rw [normalize_eq, map_slashOf_of_not_mem hback, List.head?_cons, if_pos rfl, List.drop_one,
    List.tail_cons, hencode, resolve_of_kept [] h.segments, List.nil_append, slashed_splitOn]

/-- What normalizing makes of a text is normal without the slashes in front. -/
theorem normal_trimmed_normalize (cs : List Char) :
    Normal ((normalize cs).dropWhile (· = '/')) := by
  rw [normalize_eq]
  generalize hrel : (if (cs.map slashOf).head? = some '/' then (cs.map slashOf).drop 1
    else cs.map slashOf) = relative
  have hback : '\\' ∉ relative := by
    intro h
    apply backslash_not_mem_map_slashOf cs
    rw [← hrel] at h
    split at h
    · exact List.mem_of_mem_drop h
    · exact h
  refine normal_trimmed_slashed (kept_of_mem_resolve (by simp) ?_)
  intro s hs
  obtain ⟨t, ht, rfl⟩ := List.mem_map.1 hs
  exact encodedSegment_encode (Text.not_mem_of_mem_splitOn ht)
    fun h => hback (Text.mem_of_mem_splitOn ht h)

/-- A normal path is trimmed already. -/
theorem trimmed_of_normal {cs : List Char} (h : Normal cs) :
    ('/' :: cs).dropWhile (· = '/') = cs := by
  rw [List.dropWhile_cons_of_pos (by simp)]
  cases cs with
  | nil => rfl
  | cons c cs =>
    have hc : ¬ (decide (c = '/') = true) := by
      rw [decide_eq_true_iff]
      rintro rfl
      exact h.head rfl
    rw [List.dropWhile_cons, if_neg hc]

/-- A normal path has plain characters and slashes only. -/
theorem mem_normal {cs : List Char} {c : Char} (h : Normal cs) (hc : c ∈ cs) :
    c = '/' ∨ isPlain c = true := by
  by_cases hne : c = '/'
  · exact Or.inl hne
  · obtain ⟨s, hs, hcs⟩ := Text.mem_splitOn_of_mem hc hne
    exact Or.inr ((h.segments s hs).plain c hcs)

end ProbeCampaign.UrlPath
