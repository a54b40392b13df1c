import Mathlib.Tactic
import ProbeCampaign.Popup

/-!
# Popups in buckets

The buckets into which the popups of a visit are cut follow one another without gaps, each within
its bound, from the first popup to the last (`covers_split`). Only the first bucket runs the part of
the page without popups.
-/

namespace ProbeCampaign.PopupBucket

theorem splitFrom_of_le {size total first : Nat} {runNoPopup : Bool} (h : first ≤ total) :
    splitFrom size total first runNoPopup =
      ⟨first, min (first + size) total, runNoPopup⟩ ::
        splitFrom size total (min (first + size) total + 1) false := by
  rw [splitFrom, if_pos h]

theorem splitFrom_of_lt {size total first : Nat} {runNoPopup : Bool} (h : total < first) :
    splitFrom size total first runNoPopup = [] := by
  rw [splitFrom, if_neg (not_le.2 h)]

/-- Buckets of at most `limit` popups that hold the popups from `first` to `total`, each once. The
part without popups runs with the bucket of the first popup if `runNoPopup` says so, and with no
other. -/
structure Covers (limit total first : Nat) (runNoPopup : Bool) (bs : List PopupBucket) : Prop where
  start : ∀ b ∈ bs.head?, b.first = first
  sized : ∀ b ∈ bs, b.first ≤ b.last ∧ b.last - b.first + 1 ≤ limit
  consecutive : bs.IsChain fun b c => c.first = b.last + 1
  disjoint : bs.Pairwise fun b c => b.last < c.first
  union : ∀ k, (∃ b ∈ bs, b.first ≤ k ∧ k ≤ b.last) ↔ first ≤ k ∧ k ≤ total
  noPopup : ∀ b ∈ bs, b.runNoPopup = (runNoPopup && decide (b.first = first))

/-- No bucket covers nothing. -/
theorem covers_nil {limit total first : Nat} {runNoPopup : Bool} (h : total < first) :
    Covers limit total first runNoPopup [] where
  start := fun b hb => absurd hb (by simp)
  sized := fun b hb => absurd hb List.not_mem_nil
  consecutive := List.IsChain.nil
  disjoint := List.Pairwise.nil
  union := by
    intro k
    constructor
    · rintro ⟨b, hb, -⟩
      exact absurd hb List.not_mem_nil
    · omega
  noPopup := fun b hb => absurd hb List.not_mem_nil

/-- A bucket in front of those that follow it. -/
theorem Covers.cons {limit total first last : Nat} {runNoPopup : Bool} {bs : List PopupBucket}
    (hle : first ≤ last) (hsize : last - first + 1 ≤ limit) (htotal : last ≤ total)
    (h : Covers limit total (last + 1) false bs) :
    Covers limit total first runNoPopup (⟨first, last, runNoPopup⟩ :: bs) := by
  -- The buckets that follow start after this one, as every popup of theirs comes after it.
  have hafter : ∀ b ∈ bs, last < b.first := by
    intro b hb
    have hb' := (h.union b.first).1 ⟨b, hb, le_refl _, (h.sized b hb).1⟩
    omega
  refine ⟨?_, ?_, ?_, ?_, ?_, ?_⟩
  · intro b hb
    cases hb
    rfl
  · exact List.forall_mem_cons.2 ⟨⟨hle, hsize⟩, h.sized⟩
  · cases bs with
    | nil => exact List.IsChain.singleton _
    | cons b bs =>
      exact List.IsChain.cons_cons (h.start b rfl) h.consecutive
  · exact List.pairwise_cons.2 ⟨hafter, h.disjoint⟩
  · intro k
    rw [List.exists_mem_cons_iff, h.union]
    dsimp only
    omega
  · refine List.forall_mem_cons.2 ⟨by simp, fun b hb => ?_⟩
    have hne : b.first ≠ first := by
      have hlt := hafter b hb
      omega
    rw [h.noPopup b hb, decide_eq_false hne, Bool.false_and, Bool.and_false]

/-- The loop covers what it starts from. Only its first bucket can be asked to run without
popups. -/
theorem covers_splitFrom (size total first : Nat) (runNoPopup : Bool) :
    Covers (size + 1) total first runNoPopup (splitFrom size total first runNoPopup) := by
  induction first, runNoPopup using splitFrom.induct size total with
  | case1 first runNoPopup h last ih =>
    rw [splitFrom_of_le h]
    exact Covers.cons (by omega) (by omega) (by omega) ih
  | case2 first runNoPopup h =>
    rw [splitFrom_of_lt (not_le.1 h)]
    exact covers_nil (not_le.1 h)

/-- Popups that do not fit one visit are cut into buckets that hold each of them once. -/
theorem covers_split {total limit : Nat} (h : limit < total) :
    Covers (max limit 1) total 1 true (split total limit) := by
  have hsize : limit - 1 + 1 = max limit 1 := by omega
  rw [split, if_neg (not_le.2 h), ← hsize]
  exact covers_splitFrom (limit - 1) total 1 true

/-- No bucket is made twice: each ends before the next ones start, and no earlier than it starts. -/
theorem nodup_split (total limit : Nat) : (split total limit).Nodup := by
  unfold split
  split
  · exact List.nodup_nil
  · have hcovers := covers_splitFrom (limit - 1) total 1 true
    refine hcovers.disjoint.imp_of_mem fun {b c} hb _ hlt => ?_
    rintro rfl
    have hordered := (hcovers.sized b hb).1
    omega

theorem split_eq_nil {total limit : Nat} (h : total ≤ limit) : split total limit = [] :=
  if_pos h

theorem split_ne_nil {total limit : Nat} (h : limit < total) : split total limit ≠ [] := by
  rw [split, if_neg (not_le.2 h), splitFrom_of_le (Nat.one_le_of_lt h)]
  exact List.cons_ne_nil _ _

theorem split_eq_nil_iff {total limit : Nat} : split total limit = [] ↔ total ≤ limit := by
  refine ⟨fun hnil => ?_, split_eq_nil⟩
  by_contra hlt
  exact split_ne_nil (not_le.1 hlt) hnil

/-! ## Bounds of buckets -/

/-- The buckets start at every multiple of their size. Each bucket but the last is full, so the next
one starts where a full one ends. -/
theorem exists_mem_splitFrom_iff {size total first lo hi : Nat} {runNoPopup : Bool} :
    (∃ b ∈ splitFrom size total first runNoPopup, b.first = lo ∧ b.last = hi) ↔
      ∃ k, lo = first + k * (size + 1) ∧ lo ≤ total ∧ hi = min (lo + size) total := by
  induction first, runNoPopup using splitFrom.induct size total with
  | case1 first runNoPopup h last ih =>
    have hlast : last = min (first + size) total := rfl
    rw [splitFrom_of_le h, ← hlast, List.exists_mem_cons_iff, ih]
    clear_value last
    dsimp only
    constructor
    · rintro (⟨rfl, rfl⟩ | ⟨k, hlo, htotal, hhi⟩)
      · exact ⟨0, by omega, h, hlast⟩
      · refine ⟨k + 1, ?_, htotal, hhi⟩
        rw [Nat.succ_mul]
        omega
    · rintro ⟨k, hlo, htotal, hhi⟩
      cases k with
      | zero =>
        rw [Nat.zero_mul, Nat.add_zero] at hlo
        exact Or.inl ⟨hlo.symm, by omega⟩
      | succ k =>
        rw [Nat.succ_mul] at hlo
        exact Or.inr ⟨k, by omega, htotal, hhi⟩
  | case2 first runNoPopup h =>
    rw [splitFrom_of_lt (not_le.1 h)]
    constructor
    · rintro ⟨b, hb, -⟩
      exact absurd hb List.not_mem_nil
    · rintro ⟨k, rfl, htotal, -⟩
      omega

/-- Popups that do not fit one visit are cut after every multiple of the bound. -/
theorem exists_mem_split_iff {total limit first last : Nat} (hlimit : 1 ≤ limit)
    (h : limit < total) :
    (∃ b ∈ split total limit, b.first = first ∧ b.last = last) ↔
      ∃ k, first = k * limit + 1 ∧ first ≤ total ∧ last = min ((k + 1) * limit) total := by
  rw [split, if_neg (not_le.2 h), exists_mem_splitFrom_iff, Nat.sub_add_cancel hlimit]
  refine exists_congr fun k => ?_
  rw [Nat.succ_mul]
  constructor
  · rintro ⟨rfl, htotal, rfl⟩
    exact ⟨by omega, htotal, by omega⟩
  · rintro ⟨rfl, htotal, rfl⟩
    exact ⟨by omega, htotal, by omega⟩

end ProbeCampaign.PopupBucket
