import Mathlib.Algebra.Order.Field.Power
import Mathlib.Data.Rat.Cast.Order
import Mathlib.Tactic
import ProbeCampaign.Json.Double

/-!
# Rounding to doubles

Fractions are compared with doubles as rational numbers (`value`). A positive fraction is rounded to a
mantissa at an exponent that its size tells (`RoundsTo`), so a fraction below the limit has a nearest
double (`exists_nearest`), and a fraction close to a double has that double (`nearest_of_close`). A
reader of decimals rounds up to three times. Each rounding adds little, and a decimal that leaves room
for all of them is read as a double (`exists_ofDecimal`).
-/

namespace ProbeCampaign.Json.Double

/-! ## Fractions -/

/-- A power that is split over numerator and denominator. -/
theorem cast_scale {b : ℕ} (hb : 0 < b) (num den : ℕ) (e : ℤ) :
    ((num * Nat.pow b e.toNat : ℕ) : ℚ) / ((den * Nat.pow b (-e).toNat : ℕ) : ℚ) =
      (num / den : ℚ) * (b : ℚ) ^ e := by
  have hne : (b : ℚ) ≠ 0 := by exact_mod_cast hb.ne'
  rcases le_total 0 e with he | he
  · obtain ⟨k, rfl⟩ := Int.eq_ofNat_of_zero_le he
    simp
    ring
  · obtain ⟨k, hk⟩ := Int.eq_ofNat_of_zero_le (Int.neg_nonneg.2 he)
    obtain rfl : e = -(k : ℤ) := by omega
    simp
    ring

theorem cast_scale_neg {b : ℕ} (hb : 0 < b) (num den : ℕ) (e : ℤ) :
    ((num * Nat.pow b (-e).toNat : ℕ) : ℚ) / ((den * Nat.pow b e.toNat : ℕ) : ℚ) =
      (num / den : ℚ) / (b : ℚ) ^ e := by
  have hscale := cast_scale hb num den (-e)
  rwa [neg_neg, zpow_neg, ← div_eq_mul_inv] at hscale

theorem scale_pos {b den : ℕ} (hb : 0 < b) (hden : 0 < den) (e : ℤ) :
    0 < den * Nat.pow b e.toNat :=
  Nat.mul_pos hden (pow_pos hb _)

/-- A rounded fraction lies next to it. -/
theorem abs_roundEven_sub_le (num : ℕ) {den : ℕ} (hden : 0 < den) :
    |(roundEven num den : ℚ) - num / den| ≤ 1 / 2 := by
  have hpos : (0 : ℚ) < den := by exact_mod_cast hden
  have hsplit : (num : ℚ) = den * (num / den : ℕ) + (num % den : ℕ) := by
    exact_mod_cast (Nat.div_add_mod num den).symm
  have hfrac : (num : ℚ) / den = (num / den : ℕ) + (num % den : ℕ) / den := by
    nth_rewrite 1 [hsplit]
    field_simp
  have hlt : ((num % den : ℕ) : ℚ) < den := by exact_mod_cast Nat.mod_lt num hden
  have hnonneg : (0 : ℚ) ≤ (num % den : ℕ) := Nat.cast_nonneg _
  rw [hfrac, roundEven]
  split
  · next h =>
    have hhalf : (den : ℚ) ≤ 2 * (num % den : ℕ) := by
      exact_mod_cast h.elim le_of_lt fun h => h.1.le
    have hle : 1 / 2 ≤ ((num % den : ℕ) : ℚ) / den := by
      rw [le_div_iff₀ hpos]
      linarith
    have hle' : ((num % den : ℕ) : ℚ) / den ≤ 1 := by
      rw [div_le_one hpos]
      exact hlt.le
    rw [abs_le]
    push_cast
    constructor <;> linarith
  · next h =>
    have hhalf : 2 * ((num % den : ℕ) : ℚ) ≤ den := by
      exact_mod_cast not_lt.1 fun hlt => h (Or.inl hlt)
    have hle : ((num % den : ℕ) : ℚ) / den ≤ 1 / 2 := by
      rw [div_le_iff₀ hpos]
      linarith
    have hle' : 0 ≤ ((num % den : ℕ) : ℚ) / den := by positivity
    rw [abs_le]
    constructor <;> linarith

/-- A fraction that is rounded to a multiple of a power. -/
theorem abs_roundEven_scale_le {b : ℕ} (hb : 0 < b) (num : ℕ) {den : ℕ} (hden : 0 < den) (e : ℤ) :
    |(roundEven (num * Nat.pow b (-e).toNat) (den * Nat.pow b e.toNat) : ℚ) * b ^ e - num / den| ≤
      b ^ e / 2 := by
  have hb' : (0 : ℚ) < b := by exact_mod_cast hb
  have hpos : (0 : ℚ) < (b : ℚ) ^ e := by positivity
  have hround := abs_roundEven_sub_le (num * Nat.pow b (-e).toNat) (scale_pos hb hden e)
  rw [cast_scale_neg hb] at hround
  generalize (roundEven _ _ : ℚ) = m at hround ⊢
  have hscaled : m * (b : ℚ) ^ e - num / den = (m - num / den / (b : ℚ) ^ e) * (b : ℚ) ^ e := by
    rw [sub_mul, div_mul_cancel₀ _ hpos.ne']
  calc |m * (b : ℚ) ^ e - num / den| = |m - num / den / (b : ℚ) ^ e| * (b : ℚ) ^ e := by
        rw [hscaled, abs_mul, abs_of_pos hpos]
    _ ≤ 1 / 2 * (b : ℚ) ^ e := by gcongr
    _ = (b : ℚ) ^ e / 2 := by ring

/-- Which powers of two a fraction reaches, as the numerator and the denominator tell. -/
theorem le_scale_iff (num : ℕ) {den : ℕ} (hden : 0 < den) (e : ℤ) :
    den * Nat.pow 2 e.toNat ≤ num * Nat.pow 2 (-e).toNat ↔ (2 : ℚ) ^ e ≤ num / den := by
  have hpos : (0 : ℚ) < ((den * Nat.pow 2 e.toNat : ℕ) : ℚ) := by
    exact_mod_cast scale_pos two_pos hden e
  rw [← Nat.cast_le (α := ℚ), ← one_le_div hpos, cast_scale_neg two_pos, one_le_div (by positivity)]
  rfl

/-- The exponent of a positive fraction. -/
theorem log2_spec {num den : ℕ} (hnum : 0 < num) (hden : 0 < den) :
    (2 : ℚ) ^ log2 num den ≤ num / den ∧ (num / den : ℚ) < 2 ^ (log2 num den + 1) := by
  have hnum_ge : (2 : ℚ) ^ (num.log2 : ℤ) ≤ num := by
    exact_mod_cast Nat.log2_self_le hnum.ne'
  have hnum_lt : (num : ℚ) < 2 ^ ((num.log2 : ℤ) + 1) := by
    exact_mod_cast Nat.lt_log2_self (n := num)
  have hden_ge : (2 : ℚ) ^ (den.log2 : ℤ) ≤ den := by
    exact_mod_cast Nat.log2_self_le hden.ne'
  have hden_lt : (den : ℚ) < 2 ^ ((den.log2 : ℤ) + 1) := by
    exact_mod_cast Nat.lt_log2_self (n := den)
  have hpos : (0 : ℚ) < den := by exact_mod_cast hden
  have htwo : (2 : ℚ) ≠ 0 := by norm_num
  have hge : (2 : ℚ) ^ ((num.log2 : ℤ) - den.log2 - 1) ≤ num / den := by
    rw [le_div_iff₀ hpos]
    calc (2 : ℚ) ^ ((num.log2 : ℤ) - den.log2 - 1) * den
        ≤ 2 ^ ((num.log2 : ℤ) - den.log2 - 1) * 2 ^ ((den.log2 : ℤ) + 1) := by gcongr
      _ = 2 ^ (num.log2 : ℤ) := by
        rw [← zpow_add₀ htwo]
        congr 1
        ring
      _ ≤ num := hnum_ge
  have hlt : (num / den : ℚ) < 2 ^ ((num.log2 : ℤ) - den.log2 + 1) := by
    rw [div_lt_iff₀ hpos]
    calc (num : ℚ) < 2 ^ ((num.log2 : ℤ) + 1) := hnum_lt
      _ = 2 ^ ((num.log2 : ℤ) - den.log2 + 1) * 2 ^ (den.log2 : ℤ) := by
        rw [← zpow_add₀ htwo]
        congr 1
        ring
      _ ≤ 2 ^ ((num.log2 : ℤ) - den.log2 + 1) * den := by gcongr
  unfold log2
  dsimp only
  split
  · next h => exact ⟨(le_scale_iff num hden _).1 h, hlt⟩
  · next h =>
    rw [le_scale_iff num hden, not_le] at h
    exact ⟨hge, by rwa [sub_add_cancel]⟩

/-! ## Values -/

/-- The number that a double stands for. -/
def value (x : Double) : ℚ :=
  x.mantissa * 2 ^ x.exponent

/-- A double in the one form that a rounding gives it. -/
structure Finite (x : Double) : Prop where
  mantissa_lt : x.mantissa < 2 ^ 53
  exponent_ge : -1074 ≤ x.exponent
  exponent_le : x.exponent ≤ 971
  normal : x.exponent = -1074 ∨ 2 ^ 52 ≤ x.mantissa

/-- Numbers below this one are rounded to doubles. -/
def limit : ℚ :=
  (2 ^ 53 - 1 / 2) * 2 ^ (971 : ℤ)

theorem ofRounded_of_lt {m : ℕ} (h : m < 2 ^ 53) (e : ℤ) :
    ofRounded m e = if e ≤ 971 then some ⟨m, e⟩ else none := by
  have hne : m ≠ capacity 53 := h.ne
  simp [ofRounded, hne]

theorem ofRounded_carry (e : ℤ) :
    ofRounded (2 ^ 53) e = if e + 1 ≤ 971 then some ⟨2 ^ 52, e + 1⟩ else none := by
  have heq : 2 ^ 53 = capacity 53 := rfl
  rw [ofRounded, if_pos heq]
  rfl

/-- A mantissa and an exponent to which a positive number is rounded. The mantissa may be the next
power of two. -/
structure RoundsTo (r : ℚ) (m : ℕ) (e : ℤ) : Prop where
  exponent_ge : -1074 ≤ e
  lt : r < 2 ^ 53 * 2 ^ e
  normal : e = -1074 ∨ 2 ^ 52 * 2 ^ e ≤ r
  close : |m * 2 ^ e - r| ≤ 2 ^ e / 2

/-- Every fraction is rounded to some mantissa and exponent. -/
theorem exists_roundsTo {num den : ℕ} (hnum : 0 < num) (hden : 0 < den) :
    ∃ m e, RoundsTo (num / den) m e ∧ nearest num den = ofRounded m e := by
  have htwo : (2 : ℚ) ≠ 0 := by norm_num
  obtain ⟨hge, hlt⟩ := log2_spec hnum hden
  refine ⟨_, _, ?_, if_neg hnum.ne'⟩
  generalize he : max (log2 num den - 52) (-1074) = e
  have hpos : (0 : ℚ) < 2 ^ e := by positivity
  refine ⟨by omega, ?_, ?_, ?_⟩
  · calc (num / den : ℚ) < 2 ^ (log2 num den + 1) := hlt
      _ ≤ 2 ^ (53 + e) := zpow_le_zpow_right₀ (by norm_num) (by omega)
      _ = 2 ^ 53 * 2 ^ e := by rw [zpow_add₀ htwo]; norm_num
  · rcases max_choice (log2 num den - 52) (-1074) with hmax | hmax
    · right
      calc (2 : ℚ) ^ 52 * 2 ^ e = 2 ^ (52 + e) := by rw [zpow_add₀ htwo]; norm_num
        _ = 2 ^ log2 num den := by
          congr 1
          omega
        _ ≤ num / den := hge
    · left
      omega
  · exact abs_roundEven_scale_le two_pos num hden e

namespace RoundsTo

variable {r : ℚ} {m : ℕ} {e : ℤ}

/-- A rounded mantissa has 53 bits, or it is the next power of two. -/
theorem mantissa_le (h : RoundsTo r m e) : m ≤ 2 ^ 53 := by
  have hpos : (0 : ℚ) < 2 ^ e := by positivity
  have hle := (abs_le.1 h.close).2
  have hlt : (m : ℚ) * 2 ^ e < (2 ^ 53 + 1) * 2 ^ e := by linarith [h.lt]
  have hlt' : m < 2 ^ 53 + 1 := by exact_mod_cast lt_of_mul_lt_mul_right hlt hpos.le
  omega

/-- A rounded mantissa has 53 bits unless the exponent is the least one. -/
theorem mantissa_ge (h : RoundsTo r m e) : e = -1074 ∨ 2 ^ 52 ≤ m := by
  have hpos : (0 : ℚ) < 2 ^ e := by positivity
  refine h.normal.imp_right fun hr => ?_
  have hge := (abs_le.1 h.close).1
  have hlt : (2 ^ 52 : ℚ) * 2 ^ e < (m + 1) * 2 ^ e := by linarith
  have hlt' : 2 ^ 52 < m + 1 := by exact_mod_cast lt_of_mul_lt_mul_right hlt hpos.le
  omega

/-- What a number is rounded to is a double, unless its exponent is too large. -/
theorem finite (h : RoundsTo r m e) {x : Double} (hx : ofRounded m e = some x) :
    x.Finite ∧ x.value = m * 2 ^ e := by
  have hexponent := h.exponent_ge
  rcases h.mantissa_le.lt_or_eq with hlt | rfl
  · rw [ofRounded_of_lt hlt] at hx
    obtain ⟨hle, heq⟩ := Option.ite_none_right_eq_some.1 hx
    cases heq
    exact ⟨⟨hlt, hexponent, hle, h.mantissa_ge⟩, rfl⟩
  · rw [ofRounded_carry] at hx
    obtain ⟨hle, heq⟩ := Option.ite_none_right_eq_some.1 hx
    cases heq
    refine ⟨⟨by norm_num, by dsimp only; omega, hle, Or.inr le_rfl⟩, ?_⟩
    rw [value, zpow_add₀ (by norm_num)]
    norm_num
    ring

/-- Below the limit the exponent is not too large. -/
theorem exists_ofRounded (h : RoundsTo r m e) (hlimit : r < limit) :
    ∃ x, ofRounded m e = some x := by
  have hpos : (0 : ℚ) < 2 ^ e := by positivity
  have hle : e ≤ 971 := by
    by_contra hgt
    rcases h.normal with heq | hge
    · omega
    · have hpow : (2 : ℚ) ^ (971 + 1 : ℤ) ≤ 2 ^ e := zpow_le_zpow_right₀ (by norm_num) (by omega)
      have hpos' : (0 : ℚ) < 2 ^ (971 : ℤ) := by positivity
      rw [zpow_add_one₀ (by norm_num)] at hpow
      rw [limit] at hlimit
      generalize (2 : ℚ) ^ (971 : ℤ) = unit at hpos' hpow hlimit
      linarith
  rcases h.mantissa_le.lt_or_eq with hlt | rfl
  · rw [ofRounded_of_lt hlt, if_pos hle]
    exact ⟨_, rfl⟩
  · rw [ofRounded_carry]
    by_cases hlast : e + 1 ≤ 971
    · rw [if_pos hlast]
      exact ⟨_, rfl⟩
    -- Such a number would be half a unit from the next power of two.
    · obtain rfl : e = 971 := by omega
      have hclose := (abs_le.1 h.close).2
      rw [limit] at hlimit
      generalize (2 : ℚ) ^ (971 : ℤ) = unit at hclose hlimit
      push_cast at hclose
      linarith

section Close

variable {n : ℕ} {f : ℤ} (hx : Finite ⟨n, f⟩) (hclose : |r - n * 2 ^ f| < 2 ^ f / 4)

include hx hclose

/-- A number close to a double is rounded at its exponent or below. -/
theorem exponent_le_of_close (h : RoundsTo r m e) : e ≤ f := by
  rcases h.normal with rfl | hr
  · exact hx.exponent_ge
  · have hpos : (0 : ℚ) < 2 ^ f := by positivity
    have hlast : (n : ℚ) * 2 ^ f ≤ (2 ^ 53 - 1) * 2 ^ f := by
      have hn : (n : ℚ) + 1 ≤ 2 ^ 53 := by exact_mod_cast hx.mantissa_lt
      gcongr
      linarith
    have hpow : (2 : ℚ) ^ e < 2 ^ (f + 1) := by
      rw [zpow_add_one₀ (by norm_num)]
      linarith [(abs_lt.1 hclose).2]
    have hlt := (zpow_lt_zpow_iff_right₀ (by norm_num : (1 : ℚ) < 2)).1 hpow
    omega

theorem ofRounded_of_exponent_eq (h : RoundsTo r m e) (he : e = f) :
    ofRounded m e = some ⟨n, f⟩ := by
  subst he
  have hpos : (0 : ℚ) < 2 ^ e := by positivity
  obtain ⟨hge, hle⟩ := abs_le.1 h.close
  obtain ⟨hgt, hlt⟩ := abs_lt.1 hclose
  have hup : (m : ℚ) * 2 ^ e < (n + 1) * 2 ^ e := by linarith
  have hdown : (n : ℚ) * 2 ^ e < (m + 1) * 2 ^ e := by linarith
  have hup' : m < n + 1 := by exact_mod_cast lt_of_mul_lt_mul_right hup hpos.le
  have hdown' : n < m + 1 := by exact_mod_cast lt_of_mul_lt_mul_right hdown hpos.le
  obtain rfl : m = n := by omega
  rw [ofRounded_of_lt hx.mantissa_lt, if_pos hx.exponent_le]

/-- A number just below a power of two is rounded up to it. -/
theorem ofRounded_of_exponent_lt (h : RoundsTo r m e) (he : e < f) :
    ofRounded m e = some ⟨n, f⟩ := by
  have hpos : (0 : ℚ) < 2 ^ e := by positivity
  have hge : 2 ^ 52 ≤ n := by
    have hne : f ≠ -1074 := by
      have hexponent := h.exponent_ge
      omega
    exact hx.normal.resolve_left hne
  have hge' : (2 ^ 52 : ℚ) * 2 ^ f ≤ n * 2 ^ f := by
    have hcast : (2 ^ 52 : ℚ) ≤ n := by exact_mod_cast hge
    gcongr
  obtain ⟨hgt, hlt⟩ := abs_lt.1 hclose
  obtain rfl : f = e + 1 := by
    by_contra hne
    have hpow : (2 : ℚ) ^ (e + 1 + 1) ≤ 2 ^ f := zpow_le_zpow_right₀ (by norm_num) (by omega)
    rw [zpow_add_one₀ (by norm_num), zpow_add_one₀ (by norm_num)] at hpow
    linarith [h.lt]
  rw [zpow_add_one₀ (by norm_num)] at hge' hgt hlt
  have hup : (n : ℚ) * 2 ^ e < (2 ^ 52 + 1) * 2 ^ e := by linarith [h.lt]
  have hdown : (2 ^ 53 : ℚ) * 2 ^ e < (m + 1) * 2 ^ e := by linarith [(abs_le.1 h.close).1]
  have hup' : n < 2 ^ 52 + 1 := by exact_mod_cast lt_of_mul_lt_mul_right hup hpos.le
  have hdown' : 2 ^ 53 < m + 1 := by exact_mod_cast lt_of_mul_lt_mul_right hdown hpos.le
  have hle := h.mantissa_le
  obtain rfl : n = 2 ^ 52 := by omega
  obtain rfl : m = 2 ^ 53 := by omega
  rw [ofRounded_carry, if_pos hx.exponent_le]

end Close

/-- A number that is close enough to a double is rounded to it. -/
theorem eq_of_close (h : RoundsTo r m e) {x : Double} (hx : x.Finite)
    (hclose : |r - x.value| < 2 ^ x.exponent / 4) : ofRounded m e = some x := by
  obtain ⟨n, f⟩ := x
  rcases (exponent_le_of_close hx hclose h).eq_or_lt with heq | hlt
  · exact ofRounded_of_exponent_eq hx hclose h heq
  · exact ofRounded_of_exponent_lt hx hclose h hlt

end RoundsTo

/-! ## Nearest doubles -/

theorem finite_zero : zero.Finite :=
  ⟨by decide, by decide, by decide, Or.inl rfl⟩

theorem value_zero : zero.value = 0 := by
  simp [value, zero]

/-- The nearest double is zero for zero, and else a rounded fraction. -/
theorem nearest_cases {num den : ℕ} (hden : 0 < den) {x : Double} (h : nearest num den = some x) :
    (num = 0 ∧ x = zero) ∨
      ∃ m e, RoundsTo (num / den) m e ∧ x.Finite ∧ x.value = m * 2 ^ e := by
  rcases Nat.eq_zero_or_pos num with rfl | hnum
  · cases h
    exact Or.inl ⟨rfl, rfl⟩
  · obtain ⟨m, e, hround, hnearest⟩ := exists_roundsTo hnum hden
    exact Or.inr ⟨m, e, hround, hround.finite (hnearest.symm.trans h)⟩

theorem finite_of_nearest {num den : ℕ} (hden : 0 < den) {x : Double}
    (h : nearest num den = some x) : x.Finite := by
  rcases nearest_cases hden h with ⟨-, rfl⟩ | ⟨-, -, -, hfinite, -⟩
  · exact finite_zero
  · exact hfinite

/-- From one on, a rounding adds or leaves out half of the last bit at most. -/
theorem abs_value_sub_le {num den : ℕ} (hden : 0 < den) {x : Double}
    (h : nearest num den = some x) (hone : 1 ≤ (num / den : ℚ)) :
    |x.value - num / den| ≤ num / den / 2 ^ 53 := by
  rcases nearest_cases hden h with ⟨rfl, rfl⟩ | ⟨m, e, hround, -, hvalue⟩
  · norm_num at hone
  · have hr : (2 : ℚ) ^ 52 * 2 ^ e ≤ num / den := by
      refine hround.normal.resolve_left ?_
      rintro rfl
      have hsmall : (2 : ℚ) ^ 53 * 2 ^ (-1074 : ℤ) ≤ 1 := by
        rw [← zpow_natCast, ← zpow_add₀ (by norm_num)]
        exact zpow_le_one_of_nonpos₀ (by norm_num) (by norm_num)
      exact absurd hone (not_le.2 (hround.lt.trans_le hsmall))
    rw [hvalue]
    linarith [hround.close]

/-- However small a number is, a rounding makes it hardly greater. -/
theorem value_le_of_nearest {num den : ℕ} (hden : 0 < den) {x : Double}
    (h : nearest num den = some x) : x.value ≤ 2 * (num / den) + 1 := by
  have hnonneg : (0 : ℚ) ≤ num / den := by positivity
  rcases nearest_cases hden h with ⟨-, rfl⟩ | ⟨m, e, hround, -, hvalue⟩
  · rw [value_zero]
    linarith
  · have hclose := (abs_le.1 hround.close).2
    rw [hvalue]
    rcases hround.normal with rfl | hr
    · have hsmall : (2 : ℚ) ^ (-1074 : ℤ) ≤ 1 :=
        zpow_le_one_of_nonpos₀ (by norm_num) (by norm_num)
      generalize (2 : ℚ) ^ (-1074 : ℤ) = unit at hsmall hclose ⊢
      linarith
    · linarith

/-- Below the limit there is a nearest double. -/
theorem exists_nearest {num den : ℕ} (hden : 0 < den) (h : (num / den : ℚ) < limit) :
    ∃ x, nearest num den = some x := by
  rcases Nat.eq_zero_or_pos num with rfl | hnum
  · exact ⟨zero, rfl⟩
  · obtain ⟨m, e, hround, hnearest⟩ := exists_roundsTo hnum hden
    rw [hnearest]
    exact hround.exists_ofRounded h

/-- A double of which less than a fourth of the last bit is left is nothing. -/
theorem Finite.eq_zero {x : Double} (hx : x.Finite) (h : x.value < 2 ^ x.exponent / 4) :
    x = zero := by
  obtain ⟨n, f⟩ := x
  have hpos : (0 : ℚ) < 2 ^ f := by positivity
  have hlt : (n : ℚ) * 2 ^ f < (1 : ℕ) * 2 ^ f := by
    have hvalue : (n : ℚ) * 2 ^ f < 2 ^ f / 4 := h
    rw [Nat.cast_one]
    linarith
  have hn : n < 1 := by exact_mod_cast lt_of_mul_lt_mul_right hlt hpos.le
  obtain rfl : n = 0 := by omega
  have hf : f = -1074 := hx.normal.resolve_right (by norm_num)
  rw [hf, zero]

/-- A double is the nearest to what is closer to it than a quarter of its unit. -/
theorem nearest_of_close {num den : ℕ} (hden : 0 < den) {x : Double} (hx : x.Finite)
    (hclose : |(num / den : ℚ) - x.value| < 2 ^ x.exponent / 4) : nearest num den = some x := by
  rcases Nat.eq_zero_or_pos num with rfl | hnum
  · rw [Nat.cast_zero, zero_div, zero_sub, abs_neg] at hclose
    rw [hx.eq_zero ((le_abs_self _).trans_lt hclose)]
    rfl
  · obtain ⟨m, e, hround, hnearest⟩ := exists_roundsTo hnum hden
    rw [hnearest]
    exact hround.eq_of_close hx hclose

theorem times_eq (x y : Double) :
    ∃ num den, 0 < den ∧ x.times y = nearest num den ∧ (num / den : ℚ) = x.value * y.value := by
  have hscale := cast_scale two_pos (x.mantissa * y.mantissa) 1 (x.exponent + y.exponent)
  rw [one_mul] at hscale
  refine ⟨_, Nat.pow 2 (-(x.exponent + y.exponent)).toNat, pow_pos two_pos _, rfl, ?_⟩
  rw [hscale, value, value, zpow_add₀ (by norm_num)]
  push_cast
  ring

theorem dividedBy_eq (x : Double) {y : Double} (hy : 0 < y.value) :
    ∃ num den, 0 < den ∧ x.dividedBy y = nearest num den ∧
      (num / den : ℚ) = x.value / y.value := by
  have hmantissa : 0 < y.mantissa := by
    by_contra hzero
    rw [Nat.not_lt, Nat.le_zero] at hzero
    simp [value, hzero] at hy
  refine ⟨_, _, scale_pos two_pos hmantissa _, rfl, ?_⟩
  rw [cast_scale two_pos, value, value, zpow_sub₀ (by norm_num), Nat.cast_ofNat]
  field_simp

/-! ## Decimals -/

theorem two_pow_eq : (2 : ℚ) ^ (93 * 11) = 2 ^ 52 * 2 ^ (971 : ℤ) := by
  rw [← zpow_natCast, ← zpow_natCast 2 52, ← zpow_add₀ (by norm_num)]
  rfl

/-- The powers of ten up to the 308th are below the limit. -/
theorem ten_pow_lt_limit {k : ℕ} (hk : k ≤ 308) : (10 : ℚ) ^ k < limit := by
  have hpos : (0 : ℚ) < 2 ^ (971 : ℤ) := by positivity
  calc (10 : ℚ) ^ k ≤ 10 ^ (28 * 11) := pow_le_pow_right₀ (by norm_num) hk
    _ = (10 ^ 28) ^ 11 := pow_mul _ _ _
    _ ≤ (2 ^ 93 * (101 / 100)) ^ 11 := by
      gcongr
      norm_num
    _ = (101 / 100) ^ 11 * 2 ^ 52 * 2 ^ (971 : ℤ) := by
      rw [mul_pow, ← pow_mul, two_pow_eq]
      ring
    _ < limit := by
      rw [limit]
      gcongr
      norm_num

/-- The powers of ten that are at hand. -/
theorem exists_tenTo {k : ℕ} (hk : k ≤ 308) :
    ∃ t, tenTo k = some t ∧ |t.value - 10 ^ k| ≤ 10 ^ k / 2 ^ 53 := by
  have hratio : ((Nat.pow 10 k : ℕ) / (1 : ℕ) : ℚ) = 10 ^ k := by
    rw [Nat.cast_one, div_one]
    exact Nat.cast_pow 10 k
  have hlimit := ten_pow_lt_limit hk
  have hone : (1 : ℚ) ≤ 10 ^ k := one_le_pow₀ (by norm_num)
  rw [← hratio] at hlimit hone
  obtain ⟨t, ht⟩ := exists_nearest one_pos hlimit
  have hclose := abs_value_sub_le one_pos ht hone
  rw [hratio] at hclose
  exact ⟨t, ht, hclose⟩

/-- Up to here there is room for the roundings of the digits, of a power of ten, and of their
product. -/
def safe : ℚ :=
  (2 ^ 53 - 3) * 2 ^ (971 : ℤ)

/-- The product with a power of ten is a double. -/
theorem exists_times {r : ℚ} {x t : Double} {k : ℕ} (hx : |x.value - r| ≤ r / 2 ^ 53)
    (ht : |t.value - 10 ^ k| ≤ 10 ^ k / 2 ^ 53) (hr : 0 ≤ r) (hsafe : r * 10 ^ k ≤ safe) :
    ∃ y, x.times t = some y ∧ y.Finite := by
  obtain ⟨num, den, hden, heq, hratio⟩ := times_eq x t
  have hlimit : (num / den : ℚ) < limit := by
    have hx' : x.value ≤ r * (1 + 1 / 2 ^ 53) := by linarith [(abs_le.1 hx).2]
    have ht' : t.value ≤ 10 ^ k * (1 + 1 / 2 ^ 53) := by linarith [(abs_le.1 ht).2]
    have ht'' : 0 ≤ t.value := by unfold value; positivity
    have hpos : (0 : ℚ) < 2 ^ (971 : ℤ) := by positivity
    rw [hratio]
    calc x.value * t.value ≤ r * (1 + 1 / 2 ^ 53) * (10 ^ k * (1 + 1 / 2 ^ 53)) := by gcongr
      _ = r * 10 ^ k * (1 + 1 / 2 ^ 53) ^ 2 := by ring
      _ ≤ safe * (1 + 1 / 2 ^ 53) ^ 2 := by gcongr
      _ = (2 ^ 53 - 3) * (1 + 1 / 2 ^ 53) ^ 2 * 2 ^ (971 : ℤ) := by
        rw [safe]
        ring
      _ < limit := by
        rw [limit]
        gcongr
        norm_num
  obtain ⟨y, hy⟩ := exists_nearest hden hlimit
  exact ⟨y, heq.trans hy, finite_of_nearest hden hy⟩

/-- The quotient by a power of ten is a double. -/
theorem exists_dividedBy {x t : Double} {k : ℕ} (hx : x.value ≤ 2 ^ 70)
    (ht : |t.value - 10 ^ k| ≤ 10 ^ k / 2 ^ 53) :
    ∃ y, x.dividedBy t = some y ∧ y.Finite ∧ y.value ≤ 4 * x.value + 1 := by
  have hone : (1 : ℚ) ≤ 10 ^ k := one_le_pow₀ (by norm_num)
  have ht' : 1 / 2 ≤ t.value := by linarith [(abs_le.1 ht).1]
  have hx' : 0 ≤ x.value := by unfold value; positivity
  obtain ⟨num, den, hden, heq, hratio⟩ := dividedBy_eq x (show 0 < t.value by linarith)
  have hle : (num / den : ℚ) ≤ 2 * x.value := by
    rw [hratio, div_le_iff₀ (by linarith)]
    nlinarith
  have hlimit : (num / den : ℚ) < limit := by
    calc (num / den : ℚ) ≤ 2 * 2 ^ 70 := by linarith
      _ < 10 ^ 22 := by norm_num
      _ < limit := ten_pow_lt_limit (by norm_num)
  obtain ⟨y, hy⟩ := exists_nearest hden hlimit
  have hvalue := value_le_of_nearest hden hy
  exact ⟨y, heq.trans hy, finite_of_nearest hden hy, by linarith⟩

/-- A word has a nearest double, which differs from it in the last bit of 53 at most. -/
theorem exists_nearest_of_lt {n : ℕ} (hn : n < 2 ^ 64) :
    ∃ x, nearest n 1 = some x ∧ |x.value - n| ≤ n / 2 ^ 53 ∧ x.value ≤ 2 ^ 65 := by
  have hratio : (n / (1 : ℕ) : ℚ) = n := by rw [Nat.cast_one, div_one]
  have hcast : (n : ℚ) < 2 ^ 64 := by exact_mod_cast hn
  have hlimit : (n / (1 : ℕ) : ℚ) < limit := by
    calc (n / (1 : ℕ) : ℚ) < 2 ^ 64 := by rwa [hratio]
      _ < 10 ^ 22 := by norm_num
      _ < limit := ten_pow_lt_limit (by norm_num)
  obtain ⟨x, hx⟩ := exists_nearest one_pos hlimit
  have hclose' : |x.value - n| ≤ n / 2 ^ 53 := by
    rcases Nat.eq_zero_or_pos n with rfl | hpos
    · cases hx
      simp [value_zero]
    · have hclose := abs_value_sub_le one_pos hx
      rw [hratio] at hclose
      exact hclose (by exact_mod_cast hpos)
  exact ⟨x, hx, hclose', by linarith [(abs_le.1 hclose').2]⟩

theorem safe_lt : safe < 10 ^ 309 := by
  have hpos : (0 : ℚ) < 2 ^ (971 : ℤ) := by positivity
  calc safe ≤ 2 * (2 ^ 52 * 2 ^ (971 : ℤ)) := by
        rw [safe, ← mul_assoc]
        gcongr
        norm_num
    _ = 2 * (2 ^ 93) ^ 11 := by rw [← two_pow_eq, pow_mul]
    _ ≤ 2 * (10 ^ 28) ^ 11 := by
      gcongr
      norm_num
    _ < 10 * (10 ^ 28) ^ 11 := by
      gcongr
      norm_num
    _ = 10 ^ 309 := by rw [← pow_mul, ← pow_succ']

/-- A decimal is read as a double, whatever the roundings do. -/
theorem exists_ofDecimal {significand : ℕ} {e : ℤ} (hfits : significand < 2 ^ 64)
    (hsafe : (significand : ℚ) * 10 ^ e ≤ safe) :
    ∃ x, ofDecimal significand e = some x ∧ x.Finite := by
  obtain ⟨x, hx, hclose, hle⟩ := exists_nearest_of_lt hfits
  rw [ofDecimal, hx, Option.bind_eq_bind, Option.bind_some]
  split_ifs with hlarge hzero hpositive hnegative htwice
  · exact ⟨zero, rfl, finite_zero⟩
  -- Only nothing has so large an exponent.
  · refine absurd hsafe (not_le.2 (safe_lt.trans_le ?_))
    have hone : (1 : ℚ) ≤ significand := by
      rw [Nat.one_le_cast, Nat.one_le_iff_ne_zero]
      rintro rfl
      cases hx
      exact hzero rfl
    have hpow : (10 : ℚ) ^ ((309 : ℕ) : ℤ) ≤ 10 ^ e :=
      zpow_le_zpow_right₀ (by norm_num) (by omega)
    rw [zpow_natCast] at hpow
    calc (10 : ℚ) ^ 309 ≤ 10 ^ e := hpow
      _ ≤ significand * 10 ^ e := le_mul_of_one_le_left (by positivity) hone
  · obtain ⟨t, ht, hclose'⟩ := exists_tenTo (k := e.toNat) (by omega)
    have hpow : (10 : ℚ) ^ e = 10 ^ e.toNat := by
      rw [← zpow_natCast, Int.toNat_of_nonneg hpositive]
    rw [hpow] at hsafe
    rw [ht]
    exact exists_times hclose hclose' (Nat.cast_nonneg _) hsafe
  · obtain ⟨t, ht, hclose'⟩ := exists_tenTo (k := (-e).toNat) (by omega)
    rw [ht]
    obtain ⟨y, hy, hfinite, -⟩ := exists_dividedBy (hle.trans (by norm_num)) hclose'
    exact ⟨y, hy, hfinite⟩
  · obtain ⟨t, ht, hclose'⟩ := exists_tenTo (k := 308) le_rfl
    obtain ⟨t', ht', hclose''⟩ := exists_tenTo (k := (-e - 308).toNat) (by omega)
    obtain ⟨y, hy, -, hvalue⟩ := exists_dividedBy (hle.trans (by norm_num)) hclose'
    obtain ⟨z, hz, hfinite, -⟩ := exists_dividedBy (x := y) (by linarith) hclose''
    refine ⟨z, ?_, hfinite⟩
    rw [ht, Option.bind_some, hy, Option.bind_some, ht', Option.bind_some, hz]
  · exact ⟨zero, rfl, finite_zero⟩

end ProbeCampaign.Json.Double
