import Mathlib.Tactic
import ProbeCampaign.Proofs.Json.Number
import ProbeCampaign.Proofs.Json.Rounding

/-!
# Doubles as they are written

The search for the shortest decimal of a double ends (`isNearest_shortest`), so the parts that are
written have the digits and the size of the double (`wellFormed_numeral`). The reader takes them in and
has room for its roundings, but for the last doubles, which are looked at one by one. So the text of
each double is read as a double (`readNumber_numeral`), though not always as the same one.
-/

namespace ProbeCampaign.Json

namespace Double

/-! ## The shortest decimal -/

theorem isNearest_eq (digits : ℕ) (e : ℤ) :
    ∃ num den : ℕ, 0 < den ∧ (num / den : ℚ) = digits * 10 ^ e ∧
      ∀ x : Double, x.isNearest digits e = true ↔ nearest num den = some x := by
  have hscale := cast_scale (show 0 < 10 by norm_num) digits 1 e
  rw [one_mul, Nat.cast_one, div_one] at hscale
  have hden : 0 < Nat.pow 10 (-e).toNat := pow_pos (by norm_num) _
  exact ⟨_, _, hden, hscale, fun x => decide_eq_true_iff⟩

/-- Where the multiples of a power of ten are close enough to each other, one of them is found. -/
theorem isSome_decimalAt? {x : Double} (hx : x.Finite) {e : ℤ}
    (he : 2 * (10 : ℚ) ^ e < 2 ^ x.exponent) : (x.decimalAt? e).isSome := by
  have hscale := cast_scale two_pos x.mantissa 1 x.exponent
  have hden : 0 < Nat.pow 2 (-x.exponent).toNat := pow_pos two_pos _
  have hround := abs_roundEven_scale_le (show 0 < 10 by norm_num)
    (x.mantissa * Nat.pow 2 x.exponent.toNat) hden e
  rw [one_mul, Nat.cast_one, div_one] at hscale
  rw [hscale] at hround
  rw [decimalAt?, List.find?_isSome]
  refine ⟨_, List.mem_cons_self, ?_⟩
  generalize roundEven _ _ = digits at hround ⊢
  obtain ⟨num, den, hden, hratio, hnearest⟩ := isNearest_eq digits e
  rw [hnearest]
  refine nearest_of_close hden hx ?_
  rw [hratio]
  calc |(digits : ℚ) * 10 ^ e - x.value| ≤ 10 ^ e / 2 := hround
    _ < 2 ^ x.exponent / 4 := by linarith

theorem isNearest_of_decimalAt? {x : Double} {e : ℤ} {digits : ℕ}
    (h : x.decimalAt? e = some digits) : x.isNearest digits e = true := by
  unfold decimalAt? at h
  exact List.find?_some (p := fun digits => x.isNearest digits e) h

/-- A decimal that is found further down is one that the double is nearest to. -/
theorem isNearest_shortestFrom {x : Double} {fuel k : ℕ} {e : ℤ} (hk : k < fuel)
    (h : (x.decimalAt? (e - k)).isSome) :
    x.isNearest (x.shortestFrom fuel e).1 (x.shortestFrom fuel e).2 = true := by
  -- The exponent goes down with the fuel, and so do the steps that are left to take.
  induction fuel generalizing k e with
  | zero => omega
  | succ fuel ih =>
    rw [shortestFrom]
    cases hfirst : x.decimalAt? e with
    | some digits => exact isNearest_of_decimalAt? hfirst
    | none =>
      cases k with
      | zero => simp [hfirst] at h
      | succ k =>
        refine ih (k := k) (by omega) ?_
        rwa [show e - 1 - k = e - (k + 1 : ℕ) by push_cast; ring]

theorem Finite.log2_le {x : Double} (hx : x.Finite) : x.mantissa.log2 ≤ 52 := by
  rcases Nat.eq_zero_or_pos x.mantissa with hzero | hpos
  · rw [hzero]
    exact Nat.zero_le 52
  · exact Nat.lt_succ_iff.1 ((Nat.log2_lt hpos.ne').2 hx.mantissa_lt)

/-- The estimate of the exponent is hardly too large. -/
theorem estimate_le {l : ℤ} (hlo : -1074 ≤ l) (hhi : l ≤ 1023) :
    (10 : ℚ) ^ (l * 30103 / 100000) ≤ 2 ^ (l + 6) := by
  -- Powers of ten are compared by `10 ^ 3 ≤ 2 ^ 10`, and below one by `2 ^ 43 ≤ 10 ^ 13`.
  rcases le_total 0 (l * 30103 / 100000) with he | he
  · obtain ⟨k, hk⟩ := Int.eq_ofNat_of_zero_le he
    rw [hk, zpow_natCast]
    refine le_of_pow_le_pow_left₀ (n := 3) (by norm_num) (by positivity) ?_
    calc ((10 : ℚ) ^ k) ^ 3 = (10 ^ 3) ^ k := pow_right_comm _ _ _
      _ ≤ (2 ^ 10) ^ k := by
        gcongr
        norm_num
      _ = 2 ^ ((10 * k : ℕ) : ℤ) := by rw [zpow_natCast, pow_mul]
      _ ≤ 2 ^ ((l + 6) * (3 : ℕ)) := zpow_le_zpow_right₀ (by norm_num) (by omega)
      _ = (2 ^ (l + 6)) ^ 3 := by rw [zpow_mul, zpow_natCast]
  · obtain ⟨k, hk⟩ := Int.eq_ofNat_of_zero_le (Int.neg_nonneg.2 he)
    rw [show l * 30103 / 100000 = -(k : ℤ) by omega, zpow_neg, zpow_natCast]
    refine inv_le_of_inv_le₀ (by positivity) ?_
    rw [← zpow_neg]
    refine le_of_pow_le_pow_left₀ (n := 13) (by norm_num) (by positivity) ?_
    calc ((2 : ℚ) ^ (-(l + 6))) ^ 13 = 2 ^ (-(l + 6) * (13 : ℕ)) := by
          rw [zpow_mul, zpow_natCast]
      _ ≤ 2 ^ ((43 * k : ℕ) : ℤ) := zpow_le_zpow_right₀ (by norm_num) (by omega)
      _ = (2 ^ 43) ^ k := by rw [zpow_natCast, pow_mul]
      _ ≤ (10 ^ 13) ^ k := by
        gcongr
        norm_num
      _ = (10 ^ k) ^ 13 := pow_right_comm _ _ _

/-- Nineteen steps down from the first exponent, two multiples are close enough to each other. -/
theorem grid_lt {x : Double} (hx : x.Finite) {e : ℤ}
    (he : (10 : ℚ) ^ e ≤ 2 ^ (x.mantissa.log2 + x.exponent + 6)) :
    2 * (10 : ℚ) ^ (e + 1 - (19 : ℕ)) < 2 ^ x.exponent := by
  have hlog := hx.log2_le
  have hpos : (0 : ℚ) < 2 ^ x.exponent := by positivity
  calc 2 * (10 : ℚ) ^ (e + 1 - (19 : ℕ)) = 2 / 10 ^ 18 * 10 ^ e := by
        rw [show e + 1 - (19 : ℕ) = e - (18 : ℕ) by push_cast; ring, zpow_sub₀ (by norm_num),
          zpow_natCast]
        ring
    _ ≤ 2 / 10 ^ 18 * 2 ^ (x.mantissa.log2 + x.exponent + 6) := by gcongr
    _ ≤ 2 / 10 ^ 18 * 2 ^ (x.exponent + (58 : ℕ)) := by
      refine mul_le_mul_of_nonneg_left (zpow_le_zpow_right₀ (by norm_num) ?_) (by norm_num)
      omega
    _ = 2 / 10 ^ 18 * 2 ^ 58 * 2 ^ x.exponent := by
      rw [zpow_add₀ (by norm_num), zpow_natCast]
      ring
    _ < 1 * 2 ^ x.exponent := by
      gcongr
      norm_num
    _ = 2 ^ x.exponent := one_mul _

/-- A double is nearest to its shortest decimal. -/
theorem isNearest_shortest {x : Double} (hx : x.Finite) :
    x.isNearest x.shortest.1 x.shortest.2 = true := by
  have hlog := hx.log2_le
  have hge := hx.exponent_ge
  have hle := hx.exponent_le
  have hestimate := estimate_le (l := x.mantissa.log2 + x.exponent) (by omega) (by omega)
  exact isNearest_shortestFrom (k := 19) (by norm_num) (isSome_decimalAt? hx (grid_lt hx hestimate))

/-- The value of a double that is none of the last ones. -/
theorem value_le {x : Double} (hx : x.Finite)
    (hlast : x.exponent < 971 ∨ x.mantissa + 4 ≤ 2 ^ 53) :
    x.value ≤ (2 ^ 53 - 4) * 2 ^ (971 : ℤ) := by
  have hpos : (0 : ℚ) < 2 ^ (971 : ℤ) := by positivity
  rcases hlast with hexponent | hmantissa
  · have hm : (x.mantissa : ℚ) ≤ 2 ^ 53 := by exact_mod_cast hx.mantissa_lt.le
    have hpow : (2 : ℚ) ^ (x.exponent + 1) ≤ 2 ^ (971 : ℤ) :=
      zpow_le_zpow_right₀ (by norm_num) (by omega)
    rw [zpow_add_one₀ (by norm_num)] at hpow
    generalize (2 : ℚ) ^ (971 : ℤ) = unit at hpos hpow ⊢
    calc x.value ≤ 2 ^ 53 * 2 ^ x.exponent := mul_le_mul_of_nonneg_right hm (by positivity)
      _ ≤ (2 ^ 53 - 4) * unit := by linarith
  · have hm : (x.mantissa : ℚ) ≤ 2 ^ 53 - 4 := by
      rw [le_sub_iff_add_le]
      exact_mod_cast hmantissa
    have hpow : (2 : ℚ) ^ x.exponent ≤ 2 ^ (971 : ℤ) :=
      zpow_le_zpow_right₀ (by norm_num) hx.exponent_le
    exact mul_le_mul hm hpow (by positivity) (by norm_num)

/-- Apart from the last doubles, the shortest decimal leaves room for the roundings of a reader. -/
theorem shortest_le_safe {x : Double} (hx : x.Finite)
    (hlast : x.exponent < 971 ∨ x.mantissa + 4 ≤ 2 ^ 53) :
    (x.shortest.1 : ℚ) * 10 ^ x.shortest.2 ≤ safe := by
  have hvalue := value_le hx hlast
  have hone : (1 : ℚ) ≤ 2 ^ (971 : ℤ) := one_le_zpow₀ (by norm_num) (by norm_num)
  obtain ⟨num, den, hden, hratio, hnearest⟩ := isNearest_eq x.shortest.1 x.shortest.2
  have hclose := abs_value_sub_le hden ((hnearest x).1 (isNearest_shortest hx))
  rw [hratio] at hclose
  by_contra hgt
  rw [not_le, safe] at hgt
  generalize (2 : ℚ) ^ (971 : ℤ) = unit at hvalue hone hgt
  have hclose := (abs_le.1 (hclose (by linarith))).1
  linarith

end Double

/-! ## Digits that fit -/

theorem value_eq_ofDigitChars (cs : List Char) : Decimal.value cs = Nat.ofDigitChars 10 cs 0 :=
  rfl

theorem le_ofDigitChars (n : ℕ) (cs : List Char) : n ≤ Nat.ofDigitChars 10 cs n := by
  rw [Nat.ofDigitChars_eq_ofDigitChars_zero]
  exact (Nat.le_mul_of_pos_left n (by positivity)).trans (Nat.le_add_right _ _)

/-- All digits are taken in if their number fits. -/
theorem takeFitting_of_lt {n : ℕ} {cs : List Char} (h : Nat.ofDigitChars 10 cs n < capacity 64) :
    takeFitting n cs = (Nat.ofDigitChars 10 cs n, cs.length) := by
  induction cs generalizing n with
  | nil => rfl
  | cons c cs ih =>
    rw [Nat.ofDigitChars_cons, show '0'.toNat = 48 from rfl] at h ⊢
    have hnext : 10 * n + (c.toNat - 48) < capacity 64 := (le_ofDigitChars _ cs).trans_lt h
    rw [takeFitting]
    dsimp only
    rw [if_pos hnext, ih h]
    rfl

/-- What is left out makes the number smaller. -/
theorem takeFitting_le (n : ℕ) (cs : List Char) :
    (takeFitting n cs).2 ≤ cs.length ∧
      (takeFitting n cs).1 * 10 ^ (cs.length - (takeFitting n cs).2) ≤
        Nat.ofDigitChars 10 cs n := by
  induction cs generalizing n with
  | nil => simp [takeFitting]
  | cons c cs ih =>
    rw [takeFitting]
    dsimp only
    split
    · obtain ⟨hlength, hle⟩ := ih (10 * n + (c.toNat - 48))
      refine ⟨Nat.succ_le_succ hlength, ?_⟩
      rw [List.length_cons, Nat.add_sub_add_right, Nat.ofDigitChars_cons]
      exact hle
    · refine ⟨Nat.zero_le _, ?_⟩
      rw [Nat.ofDigitChars_eq_ofDigitChars_zero, Nat.sub_zero, Nat.mul_comm]
      exact Nat.le_add_right _ _

/-- The digits that are taken fit a word. -/
theorem takeFitting_lt {n : ℕ} (h : n < capacity 64) (cs : List Char) :
    (takeFitting n cs).1 < capacity 64 := by
  induction cs generalizing n with
  | nil => exact h
  | cons c cs ih =>
    rw [takeFitting]
    dsimp only
    split
    · next hnext => exact ih hnext
    · exact h

namespace Numeral

/-- The number of the digits and the exponent, without the sign. -/
def value (x : Numeral) : ℚ :=
  Decimal.value (x.whole ++ x.fraction) * 10 ^ (x.exponent.getD 0 - x.fraction.length)

/-- The decimal that is rounded for a number is no greater than the number. -/
theorem double?_eq {x : Numeral} (h : Decimal.value x.whole < capacity 64) :
    ∃ (significand : ℕ) (e : ℤ), significand < 2 ^ 64 ∧ (significand : ℚ) * 10 ^ e ≤ x.value ∧
      x.double? = Double.ofDecimal significand e := by
  rw [value_eq_ofDigitChars] at h
  obtain ⟨hlength, hle⟩ := takeFitting_le (Nat.ofDigitChars 10 x.whole 0) x.fraction
  have hlt := takeFitting_lt h x.fraction
  rw [double?, takeFitting_of_lt h]
  refine ⟨_, _, hlt, ?_, rfl⟩
  generalize takeFitting (Nat.ofDigitChars 10 x.whole 0) x.fraction = taken at hlength hle ⊢
  obtain ⟨significand, places⟩ := taken
  dsimp only at hlength hle ⊢
  rw [← Nat.ofDigitChars_append, ← value_eq_ofDigitChars] at hle
  have hcast : (significand : ℚ) * 10 ^ (x.fraction.length - places) ≤
      Decimal.value (x.whole ++ x.fraction) := by exact_mod_cast hle
  calc (significand : ℚ) * 10 ^ ((x.whole.length - x.whole.length - places + x.exponent.getD 0 : ℤ))
      = significand * 10 ^ (x.fraction.length - places) *
          10 ^ (x.exponent.getD 0 - x.fraction.length) := by
        rw [mul_assoc, ← zpow_natCast, ← zpow_add₀ (by norm_num)]
        congr 2
        omega
    _ ≤ x.value := by
      unfold value
      gcongr

theorem double?_sign (x : Numeral) (negative : Bool) :
    double? { x with negative := negative } = x.double? :=
  rfl

/-- A number whose digits are there: at least one before the point, without leading zeros, and one
after it or an exponent. -/
structure WellFormed (x : Numeral) : Prop where
  whole : readWhole x.whole = some (x.whole, [])
  fraction : ∀ c ∈ x.fraction, Decimal.isDigit c = true
  fits : Decimal.value x.whole < capacity 64
  double : x.fraction = [] → x.exponent.isSome

/-- An exponent is read as it is written. -/
theorem readExponent_writeExponent (e : Option ℤ) :
    readExponent (writeExponent e) = some (e, []) := by
  have hread : ∀ n, readDigits (Nat.toDigits 10 n) = some (Nat.toDigits 10 n, []) := fun n =>
    readDigits_of_all Nat.toDigits_ne_nil fun c hc => isDigit_of_mem_toDigits hc
  match e with
  | none => rfl
  | some (.ofNat n) =>
    obtain ⟨c, cs, heq, hdigit⟩ := exists_toDigits n
    have hsign := splitSign_of_isDigit hdigit cs
    rw [← heq] at hsign
    rw [writeExponent, Int.ofNat_eq_natCast, integer_ofNat, readExponent, if_pos (Or.inl rfl), hsign]
    simp [hread, value_toDigits]
  | some (.negSucc n) =>
    rw [writeExponent, integer_negSucc, readExponent, if_pos (Or.inl rfl)]
    simp [splitSign, splitMinus, hread, value_toDigits, Int.negSucc_eq]

/-- No digit follows the digits of a whole part. -/
theorem endsDigits_write (ds : List Char) (e : Option ℤ) :
    EndsDigits (writeFraction ds ++ writeExponent e) := by
  cases ds with
  | nil =>
    cases e with
    | none => simp [EndsDigits, writeFraction, writeExponent]
    | some e => simp [EndsDigits, writeFraction, writeExponent, Decimal.isDigit]
  | cons c cs => simp [EndsDigits, writeFraction, Decimal.isDigit]

/-- A fraction is read as it is written. -/
theorem readFraction_write {ds : List Char} (h : ∀ c ∈ ds, Decimal.isDigit c = true)
    (e : Option ℤ) :
    readFraction (writeFraction ds ++ writeExponent e) = some (ds, writeExponent e) := by
  cases ds with
  | nil =>
    refine readFraction_of_ne ?_
    cases e with
    | none => simp [writeFraction, writeExponent]
    | some e => simp [writeFraction, writeExponent]
  | cons c cs =>
    exact readDigits_append (readDigits_of_all (List.cons_ne_nil c cs) h) (endsDigits_write [] e)

/-- What is written of a number is read back. -/
theorem WellFormed.readNumeral_text {x : Numeral} (h : x.WellFormed) :
    readNumeral x.text = some (x, []) := by
  obtain ⟨negative, whole, fraction, exponent⟩ := x
  have hwhole := readWhole_append h.whole (endsDigits_write fraction exponent)
  have hfraction := readFraction_write h.fraction exponent
  have hexponent := readExponent_writeExponent exponent
  have hminus : splitMinus (text ⟨negative, whole, fraction, exponent⟩) =
      (negative, whole ++ (writeFraction fraction ++ writeExponent exponent)) := by
    cases negative with
    | true => rfl
    | false =>
      cases whole with
      | nil => cases h.whole
      | cons c cs => exact splitMinus_of_isDigit (isDigit_of_readWhole h.whole) _
  rw [readNumeral, hminus]
  simp [hwhole, hfraction, hexponent]

/-- A well-formed numeral is read as a double. -/
theorem WellFormed.datum?_eq {x : Numeral} (h : x.WellFormed) :
    x.datum? = x.double?.map fun d => d.datum x.negative := by
  have hdouble : ¬(x.fraction.isEmpty = true ∧ x.exponent.isNone = true) := by
    rintro ⟨hempty, hnone⟩
    have hsome := h.double (List.isEmpty_iff.1 hempty)
    rw [Option.isNone_iff_eq_none.1 hnone] at hsome
    cases hsome
  rw [datum?]
  exact if_neg hdouble

/-- What is written of a number is read as the double that is read for its parts. -/
theorem WellFormed.readNumber_text {x : Numeral} (h : x.WellFormed) {d : Double}
    (hd : x.double? = some d) : readNumber x.text = some (d.datum x.negative, []) := by
  rw [readNumber, h.readNumeral_text]
  simp [h.datum?_eq, hd]

end Numeral

/-! ## The parts of a double -/

/-- A numeral of some digits is less than the power of ten with as many zeros. -/
theorem value_lt {cs : List Char} (h : ∀ c ∈ cs, Decimal.isDigit c = true) :
    Decimal.value cs < 10 ^ cs.length := by
  induction cs with
  | nil => exact Nat.one_pos
  | cons c cs ih =>
    obtain ⟨hc, hcs⟩ := List.forall_mem_cons.1 h
    have hle : c.toNat ≤ 57 := by
      simp only [Decimal.isDigit, Bool.and_eq_true, decide_eq_true_eq] at hc
      exact UInt32.le_iff_toNat_le.1 hc.2
    have hlt := ih hcs
    have hmul : 10 ^ cs.length * (10 * 0 + (c.toNat - '0'.toNat)) ≤ 10 ^ cs.length * 9 := by
      refine Nat.mul_le_mul_left _ ?_
      rw [show '0'.toNat = 48 from rfl]
      omega
    rw [value_eq_ofDigitChars] at hlt ⊢
    rw [Nat.ofDigitChars_cons, Nat.ofDigitChars_eq_ofDigitChars_zero, List.length_cons, pow_succ]
    omega

/-- The digits of a positive number. -/
structure DigitsOf (ds : List Char) (n : ℕ) : Prop where
  head : ds.head? ≠ some '0'
  digits : ∀ c ∈ ds, Decimal.isDigit c = true
  ne_nil : ds ≠ []
  value : Nat.ofDigitChars 10 ds 0 = n

/-- The decimal digits of a number are digits of it. -/
theorem digitsOf_toDigits {n : ℕ} (hn : 0 < n) : DigitsOf (Nat.toDigits 10 n) n where
  head := head?_toDigits hn.ne'
  digits := fun _ hc => isDigit_of_mem_toDigits hc
  ne_nil := Nat.toDigits_ne_nil
  value := value_toDigits n

namespace DigitsOf

variable {ds : List Char} {n : ℕ} {e : ℤ}

/-- The first digits of a number are a whole part of their own. -/
theorem readWhole_take (h : DigitsOf ds n) {k : ℕ} (hk : 0 < k) :
    readWhole (ds.take k) = some (ds.take k, []) := by
  cases ds with
  | nil => exact absurd rfl h.ne_nil
  | cons c cs =>
    obtain ⟨k, rfl⟩ := Nat.exists_eq_add_of_lt hk
    refine readWhole_of_all ?_ h.head fun c hc => h.digits c (List.mem_of_mem_take hc)
    exact List.cons_ne_nil _ _

/-- Sixteen digits fit a word. -/
theorem value_take_lt (h : DigitsOf ds n) {k : ℕ} (hk : k ≤ 16) :
    Decimal.value (ds.take k) < capacity 64 := by
  have hlt := value_lt fun c hc => h.digits c (List.mem_of_mem_take (i := k) hc)
  have hle : (ds.take k).length ≤ 16 := (List.length_take_le _ _).trans hk
  calc Decimal.value (ds.take k) < 10 ^ (ds.take k).length := hlt
    _ ≤ 10 ^ 16 := Nat.pow_le_pow_right (by norm_num) hle
    _ < capacity 64 := by decide

/-- Some digits before the point and the rest after it. -/
theorem split (h : DigitsOf ds n) (negative : Bool) {k : ℕ} (hpos : 0 < k) (hk : k ≤ 16)
    {exponent : Option ℤ} (hdouble : ds.drop k = [] → exponent.isSome)
    (he : exponent.getD 0 - (ds.length - k : ℕ) = e) :
    Numeral.WellFormed ⟨negative, ds.take k, ds.drop k, exponent⟩ ∧
      Numeral.value ⟨negative, ds.take k, ds.drop k, exponent⟩ = n * 10 ^ e := by
  refine ⟨⟨h.readWhole_take hpos, fun c hc => h.digits c (List.mem_of_mem_drop hc),
    h.value_take_lt hk, hdouble⟩, ?_⟩
  rw [Numeral.value]
  dsimp only
  rw [List.take_append_drop, List.length_drop, value_eq_ofDigitChars, h.value, he]

/-- Zeros up to the point. -/
theorem pad (h : DigitsOf ds n) (negative : Bool) (he : 0 ≤ e) (hpoint : ds.length + e ≤ 16) :
    Numeral.WellFormed ⟨negative, ds ++ List.replicate e.toNat '0', ['0'], none⟩ ∧
      Numeral.value ⟨negative, ds ++ List.replicate e.toNat '0', ['0'], none⟩ = n * 10 ^ e := by
  obtain ⟨k, rfl⟩ := Int.eq_ofNat_of_zero_le he
  rw [Int.toNat_natCast]
  have hall : ∀ c ∈ ds ++ List.replicate k '0', Decimal.isDigit c = true :=
    List.forall_mem_append.2 ⟨h.digits, fun c hc => List.eq_of_mem_replicate hc ▸ rfl⟩
  have hwhole : readWhole (ds ++ List.replicate k '0') = some (ds ++ List.replicate k '0', []) := by
    refine readWhole_of_all (List.append_ne_nil_of_left_ne_nil h.ne_nil _) ?_ hall
    rw [List.head?_append_of_ne_nil _ h.ne_nil]
    exact h.head
  have hfits : Decimal.value (ds ++ List.replicate k '0') < capacity 64 := by
    have hlength : (ds ++ List.replicate k '0').length ≤ 16 := by
      rw [List.length_append, List.length_replicate]
      omega
    calc Decimal.value (ds ++ List.replicate k '0') < 10 ^ _ := value_lt hall
      _ ≤ 10 ^ 16 := Nat.pow_le_pow_right (by norm_num) hlength
      _ < capacity 64 := by decide
  refine ⟨⟨hwhole, by simp [Decimal.isDigit], hfits, nofun⟩, ?_⟩
  have hvalue : Decimal.value (ds ++ List.replicate k '0' ++ ['0']) = 10 * (10 ^ k * n) := by
    rw [value_eq_ofDigitChars, Nat.ofDigitChars_append, Nat.ofDigitChars_append, h.value,
      Nat.ofDigitChars_replicate_zero]
    rfl
  rw [Numeral.value]
  dsimp only
  rw [hvalue]
  push_cast
  norm_num
  ring

/-- Zeros after the point. -/
theorem shift (h : DigitsOf ds n) (negative : Bool) {k : ℕ} (he : e = -(k + ds.length : ℕ)) :
    Numeral.WellFormed ⟨negative, ['0'], List.replicate k '0' ++ ds, none⟩ ∧
      Numeral.value ⟨negative, ['0'], List.replicate k '0' ++ ds, none⟩ = n * 10 ^ e := by
  have hall : ∀ c ∈ List.replicate k '0' ++ ds, Decimal.isDigit c = true :=
    List.forall_mem_append.2 ⟨fun c hc => List.eq_of_mem_replicate hc ▸ rfl, h.digits⟩
  have hfits : Decimal.value ['0'] < capacity 64 := by decide
  refine ⟨⟨rfl, hall, hfits, fun hempty => ?_⟩, ?_⟩
  · exact absurd (List.append_eq_nil_iff.1 hempty).2 h.ne_nil
  · have hvalue : Decimal.value (['0'] ++ (List.replicate k '0' ++ ds)) = n := by
      rw [value_eq_ofDigitChars, Nat.ofDigitChars_append, Nat.ofDigitChars_append]
      show Nat.ofDigitChars 10 ds (Nat.ofDigitChars 10 (List.replicate k '0') 0) = n
      rw [Nat.ofDigitChars_replicate_zero, mul_zero, h.value]
    rw [Numeral.value]
    dsimp only
    rw [hvalue, he, List.length_append, List.length_replicate, Option.getD_none, zero_sub]

end DigitsOf

namespace Double

theorem numeral_eq (x : Double) (negative : Bool) :
    x.numeral negative = { x.numeral false with negative := negative } := by
  unfold numeral
  dsimp only
  split_ifs <;> rfl

theorem double?_zero : Numeral.double? ⟨false, ['0'], ['0'], none⟩ = some zero := by
  decide +kernel

theorem numeral_zero (negative : Bool) : zero.numeral negative = ⟨negative, ['0'], ['0'], none⟩ := by
  unfold numeral
  exact if_pos rfl

theorem shortest_pos {x : Double} (hx : x.Finite) (hne : x ≠ zero) : 0 < x.shortest.1 := by
  refine Nat.pos_of_ne_zero fun hzero => hne ?_
  have hnearest := isNearest_shortest hx
  rw [hzero, isNearest, zero_mul] at hnearest
  exact (Option.some.inj (of_decide_eq_true hnearest)).symm

/-- The parts of a double are those of its shortest decimal. -/
theorem wellFormed_numeral {x : Double} (hx : x.Finite) (hne : x ≠ zero) (negative : Bool) :
    (x.numeral negative).WellFormed ∧
      (x.numeral negative).value = x.shortest.1 * 10 ^ x.shortest.2 := by
  have hpos := shortest_pos hx hne
  rw [numeral]
  generalize x.shortest = decimal at hpos ⊢
  obtain ⟨digits, e⟩ := decimal
  dsimp only at hpos ⊢
  have h := digitsOf_toDigits hpos
  generalize Nat.toDigits 10 digits = ds at h ⊢
  have hlength := List.length_pos_iff.2 h.ne_nil
  rw [if_neg hne]
  split_ifs with hinteger hpoint hsmall
  · exact h.pad negative hinteger.1 hinteger.2
  · refine h.split negative (by omega) (by omega) (fun hdrop => ?_) ?_
    · rw [List.drop_eq_nil_iff] at hdrop
      omega
    · simp only [Option.getD_none]
      omega
  · exact h.shift negative (by omega)
  · refine h.split negative one_pos (by norm_num) (fun _ => rfl) ?_
    simp only [Option.getD_some]
    omega

instance : DecidablePred Finite :=
  fun x => decidable_of_iff
    (x.mantissa < 2 ^ 53 ∧ -1074 ≤ x.exponent ∧ x.exponent ≤ 971 ∧
      (x.exponent = -1074 ∨ 2 ^ 52 ≤ x.mantissa))
    ⟨fun ⟨h₁, h₂, h₃, h₄⟩ => ⟨h₁, h₂, h₃, h₄⟩, fun ⟨h₁, h₂, h₃, h₄⟩ => ⟨h₁, h₂, h₃, h₄⟩⟩

/-- The last doubles, of which the reader leaves none out. -/
theorem double?_last : ∀ k < 3,
    (numeral ⟨2 ^ 53 - 1 - k, 971⟩ false).double?.any (fun y => y.Finite) = true := by
  decide +kernel

/-- A double is read for the parts of each double. -/
theorem exists_double? {x : Double} (hx : x.Finite) (hne : x ≠ zero) (negative : Bool) :
    ∃ y, (x.numeral negative).double? = some y ∧ y.Finite := by
  obtain ⟨hwellFormed, hvalue⟩ := wellFormed_numeral hx hne negative
  by_cases hlast : x.exponent < 971 ∨ x.mantissa + 4 ≤ 2 ^ 53
  · obtain ⟨significand, e, hfits, hle, heq⟩ := Numeral.double?_eq hwellFormed.fits
    rw [hvalue] at hle
    rw [heq]
    exact exists_ofDecimal hfits (hle.trans (shortest_le_safe hx hlast))
  · obtain ⟨n, f⟩ := x
    have hlt : n < 2 ^ 53 := hx.mantissa_lt
    have hle : f ≤ 971 := hx.exponent_le
    rw [not_or] at hlast
    dsimp only at hlast
    obtain rfl : f = 971 := by omega
    have hread := double?_last (2 ^ 53 - 1 - n) (by omega)
    rw [show 2 ^ 53 - 1 - (2 ^ 53 - 1 - n) = n by omega] at hread
    obtain ⟨y, hy, hfinite⟩ := (Option.any_eq_true _ _).1 hread
    rw [numeral_eq, Numeral.double?_sign]
    exact ⟨y, hy, of_decide_eq_true hfinite⟩

/-- The text of a double is read as a double. -/
theorem readNumber_numeral {x : Double} (hx : x.Finite) (negative : Bool) :
    ∃ y : Double, y.Finite ∧ readNumber (x.numeral negative).text = some (y.datum negative, []) := by
  by_cases hne : x = zero
  · refine ⟨zero, finite_zero, ?_⟩
    have hwellFormed : Numeral.WellFormed ⟨negative, ['0'], ['0'], none⟩ :=
      ⟨rfl, by simp [Decimal.isDigit], Nat.two_pow_pos 64, nofun⟩
    have hdouble := Numeral.double?_sign ⟨false, ['0'], ['0'], none⟩ negative
    rw [double?_zero] at hdouble
    rw [hne, numeral_zero]
    exact hwellFormed.readNumber_text hdouble
  · obtain ⟨y, hy, hfinite⟩ := exists_double? hx hne negative
    have hread := (wellFormed_numeral hx hne negative).1.readNumber_text hy
    have hsign : (x.numeral negative).negative = negative := by rw [numeral_eq]
    rw [hsign] at hread
    exact ⟨y, hfinite, hread⟩

end Double

end ProbeCampaign.Json
