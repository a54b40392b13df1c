import Mathlib.Tactic
import ProbeCampaign.Proofs.Plan.Buckets
import ProbeCampaign.Template

/-!
# Buckets and the popups of one response

A page opens the same number of popups for each response of a visit, one response after the other.
A bucket is aligned when it is made of all popups of some responses, or when all its popups are of
one response. The check of a page passes exactly when the buckets of all its visits are aligned
(`buckets_aligned`).
-/

namespace ProbeCampaign

/-- The popups of the response at position `j`, counted from one, when each response opens `p`. -/
def OwnedBy (p j k : Nat) : Prop :=
  (j - 1) * p + 1 ≤ k ∧ k ≤ j * p

/-- The popups of a response are those that come to its number when they are divided among all. -/
theorem ownedBy_iff {p j k : Nat} (hp : 0 < p) (hj : 1 ≤ j) :
    OwnedBy p j k ↔ 1 ≤ k ∧ (k - 1) / p + 1 = j := by
  obtain ⟨i, rfl⟩ := Nat.exists_eq_add_of_le' hj
  unfold OwnedBy
  rw [Nat.add_sub_cancel, Nat.add_right_cancel_iff, Nat.div_eq_iff hp, Nat.succ_mul]
  omega

/-- A popup is of one response only. -/
theorem eq_of_ownedBy {p i j k : Nat} (hp : 0 < p) (hi : 1 ≤ i) (hj : 1 ≤ j) (h : OwnedBy p i k)
    (h' : OwnedBy p j k) : i = j := by
  rw [ownedBy_iff hp hi] at h
  rw [ownedBy_iff hp hj] at h'
  exact h.2.symm.trans h'.2

namespace PopupBucket

/-- A bucket has a popup. -/
def Holds (b : PopupBucket) (k : Nat) : Prop :=
  b.first ≤ k ∧ k ≤ b.last

/-- A bucket is made of all popups of some of `n` responses. -/
def IsUnion (p n : Nat) (b : PopupBucket) : Prop :=
  ∃ owners : Finset Nat, (∀ j ∈ owners, 1 ≤ j ∧ j ≤ n) ∧
    ∀ k, b.Holds k ↔ ∃ j ∈ owners, OwnedBy p j k

/-- All popups of a bucket are of one of `n` responses. -/
def IsInside (p n : Nat) (b : PopupBucket) : Prop :=
  ∃ j, 1 ≤ j ∧ j ≤ n ∧ ∀ k, b.Holds k → OwnedBy p j k

/-- A bucket has popups of two of `n` responses, and of one of the two it lacks some. -/
def Cuts (p n : Nat) (b : PopupBucket) : Prop :=
  ∃ i j, 1 ≤ i ∧ i ≤ n ∧ 1 ≤ j ∧ j ≤ n ∧ i ≠ j ∧ (∃ k, b.Holds k ∧ OwnedBy p i k) ∧
    (∃ k, b.Holds k ∧ OwnedBy p j k) ∧ ∃ k, OwnedBy p i k ∧ ¬ b.Holds k

section Aligned

variable {p n : Nat} (hp : 0 < p)
include hp

/-- A bucket of whole responses cuts none, as a response that is cut would be one of those whose
popups make it up. -/
theorem not_cuts_of_isUnion {b : PopupBucket} (h : b.IsUnion p n) : ¬ b.Cuts p n := by
  rintro ⟨i, -, hi, -, -, -, -, ⟨k, hk, howned⟩, -, lacking, hlacking, hnot⟩
  obtain ⟨owners, hrange, hunion⟩ := h
  obtain ⟨i', hmem, howned'⟩ := (hunion k).1 hk
  obtain rfl := eq_of_ownedBy hp hi (hrange i' hmem).1 howned howned'
  exact hnot ((hunion lacking).2 ⟨i, hmem, hlacking⟩)

/-- A bucket inside of one response cuts none either. -/
theorem not_cuts_of_isInside {b : PopupBucket} (h : b.IsInside p n) : ¬ b.Cuts p n := by
  rintro ⟨i, j, hi, -, hj, -, hne, ⟨k, hk, howned⟩, ⟨k', hk', howned'⟩, -⟩
  obtain ⟨o, ho, -, hinside⟩ := h
  have h1 := eq_of_ownedBy hp hi ho howned (hinside k hk)
  have h2 := eq_of_ownedBy hp hj ho howned' (hinside k' hk')
  exact hne (h1.trans h2.symm)

/-- A bucket that starts and ends with popups of whole responses is made of them. -/
theorem isUnion_of_bounds {u v : Nat} {b : PopupBucket} (hv : v ≤ n) (hfirst : b.first = u * p + 1)
    (hlast : b.last = v * p) : b.IsUnion p n := by
  refine ⟨Finset.Icc (u + 1) v, fun j hj => ?_, fun k => ?_⟩
  · rw [Finset.mem_Icc] at hj
    omega
  · rw [Holds, hfirst, hlast]
    constructor
    · rintro ⟨hlo, hhi⟩
      have howner : OwnedBy p ((k - 1) / p + 1) k :=
        (ownedBy_iff hp (Nat.le_add_left 1 _)).2 ⟨by omega, rfl⟩
      have hu : u ≤ (k - 1) / p := (Nat.le_div_iff_mul_le hp).2 (by omega)
      have hv : (k - 1) / p < v := (Nat.div_lt_iff_lt_mul hp).2 (by omega)
      exact ⟨_, Finset.mem_Icc.2 ⟨Nat.succ_le_succ hu, hv⟩, howner⟩
    · rintro ⟨j, hj, hlo, hhi⟩
      rw [Finset.mem_Icc] at hj
      have hu : u * p ≤ (j - 1) * p := Nat.mul_le_mul_right p (by omega)
      have hv : j * p ≤ v * p := Nat.mul_le_mul_right p hj.2
      omega

variable {limit : Nat} (hlimit : 1 ≤ limit) (hmore : limit < p * n)
include hlimit hmore

/-- If responses fill a bucket without rest, each bucket is made of whole ones. -/
theorem isUnion_of_dvd (h : p ∣ limit) : ∀ b ∈ split (p * n) limit, b.IsUnion p n := by
  intro b hb
  obtain ⟨q, rfl⟩ := h
  obtain ⟨k, hfirst, -, hlast⟩ := (exists_mem_split_iff hlimit hmore).1 ⟨b, hb, rfl, rfl⟩
  apply isUnion_of_bounds hp (u := k * q) (v := min ((k + 1) * q) n) (min_le_right _ _)
  · rw [hfirst, Nat.mul_left_comm, Nat.mul_comm p]
  · rw [hlast, Nat.mul_left_comm, Nat.mul_min_mul_left, Nat.mul_comm p]

/-- If buckets cut the popups of a response without rest, each bucket is of one response. -/
theorem isInside_of_dvd (h : limit ∣ p) : ∀ b ∈ split (p * n) limit, b.IsInside p n := by
  intro b hb
  obtain ⟨q, rfl⟩ := h
  obtain ⟨k, hfirst, htotal, hlast⟩ := (exists_mem_split_iff hlimit hmore).1 ⟨b, hb, rfl, rfl⟩
  have hn : k / q < n := by
    rw [hfirst, Nat.mul_assoc, Nat.mul_comm k] at htotal
    exact Nat.div_lt_of_lt_mul (Nat.lt_of_mul_lt_mul_left htotal)
  refine ⟨k / q + 1, Nat.le_add_left 1 _, hn, fun x ⟨hlo, hhi⟩ => ?_⟩
  have hq : 0 < q := Nat.pos_of_mul_pos_left hp
  have hbelow : k / q * (limit * q) ≤ k * limit := by
    rw [Nat.mul_left_comm, Nat.mul_comm k]
    exact Nat.mul_le_mul_left limit (Nat.div_mul_le_self k q)
  have habove : (k + 1) * limit ≤ (k / q + 1) * (limit * q) := by
    rw [Nat.mul_left_comm, Nat.mul_comm (k + 1), Nat.mul_comm (k / q + 1)]
    exact Nat.mul_le_mul_left limit (Nat.lt_mul_div_succ k hq)
  rw [hfirst] at hlo
  rw [hlast] at hhi
  exact ⟨by rw [Nat.add_sub_cancel]; omega, by omega⟩

/-- If a bucket has room for a response, but not for whole ones without rest, the first bucket cuts
the response at its end. -/
theorem exists_cuts_of_le (hle : p ≤ limit) (h : ¬ p ∣ limit) :
    ∃ b ∈ split (p * n) limit, b.Cuts p n := by
  obtain ⟨b, hb, hfirst, hlast⟩ :=
    (exists_mem_split_iff hlimit hmore).2 ⟨0, rfl, by omega, rfl⟩
  rw [Nat.zero_mul, Nat.zero_add] at hfirst
  rw [Nat.zero_add, Nat.one_mul, min_eq_left hmore.le] at hlast
  have hwhole : 0 < limit / p := Nat.div_pos hle hp
  have hrest : limit / p * p < limit :=
    lt_of_le_of_ne (Nat.div_mul_le_self limit p) fun heq => h ⟨limit / p, by rw [Nat.mul_comm, heq]⟩
  have hend : limit < (limit / p + 1) * p := by
    rw [Nat.mul_comm]
    exact Nat.lt_mul_div_succ limit hp
  -- The first response is there, and the one at the end lacks its last popup.
  refine ⟨b, hb, limit / p + 1, 1, Nat.le_add_left 1 _, Nat.div_lt_of_lt_mul hmore, le_refl 1, ?_,
    (Nat.lt_add_of_pos_left hwhole).ne',
    ⟨limit / p * p + 1, ?_, ?_⟩, ⟨1, ?_, ?_⟩, (limit / p + 1) * p, ?_, ?_⟩
  · exact Nat.pos_of_mul_pos_left (Nat.zero_lt_of_lt hmore)
  · exact ⟨by omega, by omega⟩
  · exact ⟨le_refl _, by rw [Nat.succ_mul]; omega⟩
  · exact ⟨by omega, by omega⟩
  · exact ⟨by omega, by omega⟩
  · exact ⟨by rw [Nat.add_sub_cancel]; omega, le_refl _⟩
  · rintro ⟨-, hhi⟩
    omega

omit hmore in
/-- If a bucket has no room for a response and does not cut its popups without rest, the bucket at
the end of the first response has popups of the second one too. -/
theorem exists_cuts_of_lt (hlt : limit < p) (hn : 2 ≤ n) (h : ¬ limit ∣ p) :
    ∃ b ∈ split (p * n) limit, b.Cuts p n := by
  have hmore : limit < p * n := lt_of_lt_of_le hlt (Nat.le_mul_of_pos_right p (by omega))
  have htwo : p + p ≤ p * n := by
    rw [← Nat.mul_two]
    exact Nat.mul_le_mul_left p hn
  have hrest : p / limit * limit < p :=
    lt_of_le_of_ne (Nat.div_mul_le_self p limit) fun heq => h ⟨p / limit, by rw [Nat.mul_comm, heq]⟩
  have hend : p < (p / limit + 1) * limit := by
    rw [Nat.mul_comm]
    exact Nat.lt_mul_div_succ p hlimit
  have hbefore : limit ≤ p / limit * limit :=
    Nat.le_mul_of_pos_left limit (Nat.div_pos hlt.le hlimit)
  obtain ⟨b, hb, hfirst, hlast⟩ :=
    (exists_mem_split_iff hlimit hmore).2 ⟨p / limit, rfl, by omega, rfl⟩
  -- The bucket has the last popup of the first response and the next one, but not the very first.
  refine ⟨b, hb, 1, 2, le_refl 1, by omega, by omega, hn, by omega, ⟨p, ?_, ?_⟩,
    ⟨p + 1, ?_, ?_⟩, 1, ?_, ?_⟩
  · exact ⟨by omega, by omega⟩
  · exact ⟨by omega, by omega⟩
  · exact ⟨by omega, by omega⟩
  · exact ⟨by omega, by omega⟩
  · exact ⟨by omega, by omega⟩
  · rintro ⟨hlo, -⟩
    omega

end Aligned

end PopupBucket

namespace TestTemplate

/-- One of two numbers divides the other. -/
theorem aligned_iff {popups limit : Nat} (hp : 0 < popups) (hlimit : 0 < limit) :
    aligned popups limit = true ↔ popups ∣ limit ∨ limit ∣ popups := by
  unfold aligned
  split
  · next hle =>
    rw [decide_eq_true_iff, ← Nat.dvd_iff_mod_eq_zero, or_iff_left_of_imp]
    exact fun h => (Nat.le_antisymm hle (Nat.le_of_dvd hp h)) ▸ dvd_refl popups
  · next hlt =>
    rw [decide_eq_true_iff, ← Nat.dvd_iff_mod_eq_zero, or_iff_right]
    exact fun h => hlt (Nat.le_of_dvd hlimit h)

/-- When a page that opens popups has no flaw. -/
theorem flaw?_eq_none_iff {t : TestTemplate} {mode : RespType} {limits : PlanLimits}
    (hp : 0 < t.popupsPerId mode) (hlimit : 0 < limits.maxPopupsPerUrl) :
    t.flaw? mode limits = none ↔ (t.file ≠ "" ∧ t.label ≠ "") ∧ 1 ≤ t.numRespIds ∧
      (t.popupsPerId mode * t.idGroupLimit mode limits ≤ limits.maxPopupsPerUrl ∨
        t.popupsPerId mode ∣ limits.maxPopupsPerUrl ∨
        limits.maxPopupsPerUrl ∣ t.popupsPerId mode) := by
  rw [← aligned_iff hp hlimit, ← not_or, Nat.one_le_iff_ne_zero]
  unfold flaw?
  dsimp only
  by_cases hname : t.file = "" ∨ t.label = ""
  · simp [hname]
  · by_cases hids : t.numRespIds = 0
    · simp [hname, hids]
    · rw [if_neg hname, if_neg hids, if_neg hp.ne', if_neg hlimit.ne', ite_eq_left_iff]
      constructor
      · intro h
        refine ⟨hname, hids, ?_⟩
        by_contra hnot
        cases h hnot
      · rintro ⟨-, -, hfit⟩ hnot
        exact absurd hfit hnot

/-- All buckets of the visits of a page that passes the check are aligned. Of a page that is checked
for its popups and does not pass, a visit of several responses has a bucket that cuts the popups of
one of them. -/
theorem buckets_aligned {t : TestTemplate} {mode : RespType} {limits : PlanLimits}
    (hp : 0 < t.popupsPerId mode) (hlimit : 1 ≤ limits.maxPopupsPerUrl) :
    (t.flaw? mode limits = none → ∀ n, 1 ≤ n → n ≤ t.idGroupLimit mode limits →
      ∀ b ∈ PopupBucket.split (t.popupsPerId mode * n) limits.maxPopupsPerUrl,
        b.IsUnion (t.popupsPerId mode) n ∨ b.IsInside (t.popupsPerId mode) n) ∧
    (t.file ≠ "" → t.label ≠ "" → 1 ≤ t.numRespIds → 2 ≤ t.idGroupLimit mode limits →
      t.flaw? mode limits ≠ none → ∃ n, 1 ≤ n ∧ n ≤ t.idGroupLimit mode limits ∧
        ∃ b ∈ PopupBucket.split (t.popupsPerId mode * n) limits.maxPopupsPerUrl,
          b.Cuts (t.popupsPerId mode) n ∧
            ¬ (b.IsUnion (t.popupsPerId mode) n ∨ b.IsInside (t.popupsPerId mode) n)) := by
  have hiff := flaw?_eq_none_iff hp hlimit
  generalize t.popupsPerId mode = p at hp hiff ⊢
  generalize limits.maxPopupsPerUrl = limit at hlimit hiff ⊢
  generalize t.idGroupLimit mode limits = group at hiff ⊢
  constructor
  · intro hnone n _ hn b hb
    by_cases hmore : limit < p * n
    · rcases (hiff.1 hnone).2.2 with hfit | hdvd | hdvd
      · have hle : p * n ≤ p * group := Nat.mul_le_mul_left p hn
        omega
      · exact Or.inl (PopupBucket.isUnion_of_dvd hp hlimit hmore hdvd b hb)
      · exact Or.inr (PopupBucket.isInside_of_dvd hp hlimit hmore hdvd b hb)
    · rw [PopupBucket.split_eq_nil (by omega)] at hb
      exact absurd hb List.not_mem_nil
  · intro hfile hlabel hids hgroup hflaw
    have huneven : ¬ (p * group ≤ limit ∨ p ∣ limit ∨ limit ∣ p) := fun h =>
      hflaw (hiff.2 ⟨⟨hfile, hlabel⟩, hids, h⟩)
    rw [not_or, not_or, Nat.not_le] at huneven
    obtain ⟨hmore, hdvd, hdvd'⟩ := huneven
    have hcuts : ∃ b ∈ PopupBucket.split (p * group) limit, b.Cuts p group := by
      rcases Nat.lt_or_ge limit p with hlt | hle
      · exact PopupBucket.exists_cuts_of_lt hp hlimit hlt hgroup hdvd'
      · exact PopupBucket.exists_cuts_of_le hp hlimit hmore hle hdvd
    obtain ⟨b, hb, hcut⟩ := hcuts
    refine ⟨group, by omega, le_refl _, b, hb, hcut, ?_⟩
    rintro (hunion | hinside)
    · exact PopupBucket.not_cuts_of_isUnion hp hunion hcut
    · exact PopupBucket.not_cuts_of_isInside hp hinside hcut

/-- A page that opens popups for each of up to ten responses. -/
def opener (popups : Nat) : TestTemplate :=
  { TestTemplate.plain "coop.html" "COOP" with popupsParsing := popups }

/-- At most eight popups for each visit. -/
def eightPopups : PlanLimits :=
  { PlanLimits.default with maxPopupsPerUrl := 8 }

/-- Buckets of eight popups hold two responses with four popups each, but they cut one of those with
three. -/
theorem buckets_aligned_opener :
    0 < (opener 4).popupsPerId .parsing ∧ 0 < (opener 3).popupsPerId .parsing ∧
    1 ≤ eightPopups.maxPopupsPerUrl ∧
    (∀ b ∈ PopupBucket.split (4 * 5) 8, b.IsUnion 4 5 ∨ b.IsInside 4 5) ∧
    ∃ n ≤ 10, ∃ b ∈ PopupBucket.split (3 * n) 8, b.Cuts 3 n := by
  have hfour : 0 < (opener 4).popupsPerId .parsing := by decide
  have hthree : 0 < (opener 3).popupsPerId .parsing := by decide
  have hlimit : 1 ≤ eightPopups.maxPopupsPerUrl := by decide
  have haligned := (buckets_aligned hfour hlimit).1 (by decide) 5 (by decide) (by decide)
  obtain ⟨n, -, hn, b, hb, hcut, -⟩ := (buckets_aligned hthree hlimit).2 (by decide) (by decide)
    (by decide) (by decide) (by decide)
  exact ⟨hfour, hthree, hlimit, haligned, n, hn, b, hb, hcut⟩

end TestTemplate

end ProbeCampaign
