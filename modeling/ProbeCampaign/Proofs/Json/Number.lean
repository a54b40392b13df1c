import Mathlib.Data.List.TakeWhile
import Mathlib.Tactic
import ProbeCampaign.Json.Parser
import ProbeCampaign.Json.Printer
import ProbeCampaign.Proofs.Text.Split

/-!
# Numbers in JSON texts

A number has no end of its own: it goes on as long as the text does. So it is read whatever comes
after it, as long as that does not go on with a number (`readNumber_append`). An integer that fits
64 bits is read back from its decimal form (`readNumber_integer`).
-/

namespace ProbeCampaign.Json

/-- A text that goes on with no digit. -/
def EndsDigits (rest : List Char) : Prop :=
  ∀ c ∈ rest.head?, Decimal.isDigit c = false

/-- A text that goes on with no number. -/
def EndsNumber (rest : List Char) : Prop :=
  ∀ c ∈ rest.head?, Decimal.isDigit c = false ∧ c ≠ '.' ∧ c ≠ 'e' ∧ c ≠ 'E'

theorem EndsNumber.endsDigits {rest : List Char} (h : EndsNumber rest) : EndsDigits rest :=
  fun c hc => (h c hc).1

theorem endsNumber_nil : EndsNumber [] := by
  simp [EndsNumber]

theorem endsNumber_cons {c : Char}
    (h : Decimal.isDigit c = false ∧ c ≠ '.' ∧ c ≠ 'e' ∧ c ≠ 'E') (rest : List Char) :
    EndsNumber (c :: rest) := by
  simpa [EndsNumber] using h

section Rest

/-! ## Reading in front of a rest -/

variable {cs rest : List Char}

theorem EndsDigits.takeWhile (h : EndsDigits rest) (cs : List Char) :
    (cs ++ rest).takeWhile Decimal.isDigit = cs.takeWhile Decimal.isDigit :=
  Text.takeWhile_append_stop h cs

theorem EndsDigits.dropWhile (h : EndsDigits rest) (cs : List Char) :
    (cs ++ rest).dropWhile Decimal.isDigit = cs.dropWhile Decimal.isDigit ++ rest :=
  Text.dropWhile_append_stop h cs

/-- Digits are read to their end, whatever else follows. -/
theorem readDigits_append {ds r : List Char} (h : readDigits cs = some (ds, r))
    (hrest : EndsDigits rest) : readDigits (cs ++ rest) = some (ds, r ++ rest) := by
  unfold readDigits at h ⊢
  rw [hrest.takeWhile, hrest.dropWhile]
  cases htake : cs.takeWhile Decimal.isDigit with
  | nil => simp [htake] at h
  | cons d ds' =>
    rw [htake] at h
    cases h
    rfl

theorem readWhole_of_ne {c : Char} (h : c ≠ '0') (cs : List Char) :
    readWhole (c :: cs) = readDigits (c :: cs) := by
  simp [readWhole, h]

/-- A whole part is read to its end, whatever else follows. A zero stands alone, in front of the
rest as well. -/
theorem readWhole_append {ds r : List Char} (h : readWhole cs = some (ds, r))
    (hrest : EndsDigits rest) : readWhole (cs ++ rest) = some (ds, r ++ rest) := by
  cases cs with
  | nil => cases h
  | cons c cs =>
    rw [List.cons_append]
    by_cases hzero : c = '0'
    · subst hzero
      rw [readWhole] at h ⊢
      split at h
      · cases h
      · next hdigit =>
        cases h
        rw [if_neg]
        cases r with
        | nil =>
          cases rest with
          | nil => simp
          | cons d rest => simp [hrest d rfl]
        | cons d r => exact hdigit
    · rw [readWhole_of_ne hzero] at h ⊢
      exact readDigits_append h hrest

theorem readFraction_of_ne (h : cs.head? ≠ some '.') : readFraction cs = some ([], cs) := by
  unfold readFraction
  split
  · simp at h
  · rfl

/-- A fraction is read to its end, whatever else follows. -/
theorem readFraction_append {ds r : List Char} (h : readFraction cs = some (ds, r))
    (hrest : EndsNumber rest) : readFraction (cs ++ rest) = some (ds, r ++ rest) := by
  cases cs with
  | nil =>
    cases h
    exact readFraction_of_ne fun hpoint => (hrest '.' hpoint).2.1 rfl
  | cons c cs =>
    by_cases hpoint : c = '.'
    · subst hpoint
      exact readDigits_append h hrest.endsDigits
    · rw [readFraction_of_ne (by simpa using hpoint)] at h
      cases h
      exact readFraction_of_ne (by simpa using hpoint)

/-- What follows does not change the sign of a numeral. -/
theorem splitMinus_append (h : cs ≠ []) (rest : List Char) :
    splitMinus (cs ++ rest) = ((splitMinus cs).1, (splitMinus cs).2 ++ rest) := by
  cases cs with
  | nil => exact absurd rfl h
  | cons c cs =>
    by_cases hc : c = '-'
    · subst hc
      rfl
    · simp [splitMinus, hc]

/-- What follows does not change the sign of an exponent. -/
theorem splitSign_append (h : cs ≠ []) (rest : List Char) :
    splitSign (cs ++ rest) = ((splitSign cs).1, (splitSign cs).2 ++ rest) := by
  cases cs with
  | nil => exact absurd rfl h
  | cons c cs =>
    by_cases hc : c = '+'
    · subst hc
      rfl
    · simpa [splitSign, hc] using splitMinus_append (List.cons_ne_nil c cs) rest

theorem readExponent_of_not (h : ∀ c ∈ cs.head?, c ≠ 'e' ∧ c ≠ 'E') :
    readExponent cs = some (none, cs) := by
  cases cs with
  | nil => rfl
  | cons c cs => simp [readExponent, h c rfl]

/-- An exponent is read to its end, whatever else follows. -/
theorem readExponent_append {r : List Char} {e : Option Int} (h : readExponent cs = some (e, r))
    (hrest : EndsNumber rest) : readExponent (cs ++ rest) = some (e, r ++ rest) := by
  cases cs with
  | nil =>
    cases h
    exact readExponent_of_not fun c hc => (hrest c hc).2.2
  | cons c cs =>
    by_cases hc : c = 'e' ∨ c = 'E'
    · rw [readExponent, if_pos hc] at h
      have hne : cs ≠ [] := by
        rintro rfl
        cases h
      have hsign := splitSign_append hne rest
      generalize splitSign cs = signed at h hsign
      obtain ⟨negative, unsigned⟩ := signed
      obtain ⟨⟨ds, r'⟩, hdigits, heq⟩ := Option.map_eq_some_iff.1 h
      cases heq
      rw [List.cons_append, readExponent, if_pos hc, hsign]
      simp [readDigits_append hdigits hrest.endsDigits]
    · rw [readExponent, if_neg hc] at h
      cases h
      exact readExponent_of_not (by simpa using hc)

/-- A numeral is read to its end as long as no part of a number follows. -/
theorem readNumeral_append {r : List Char} {x : Numeral} (h : readNumeral cs = some (x, r))
    (hrest : EndsNumber rest) : readNumeral (cs ++ rest) = some (x, r ++ rest) := by
  have hne : cs ≠ [] := by
    rintro rfl
    cases h
  have hminus := splitMinus_append hne rest
  unfold readNumeral at h ⊢
  generalize splitMinus cs = signed at h hminus
  obtain ⟨negative, unsigned⟩ := signed
  obtain ⟨⟨whole, r₁⟩, hwhole, h⟩ := Option.bind_eq_some_iff.1 h
  obtain ⟨⟨fraction, r₂⟩, hfraction, h⟩ := Option.bind_eq_some_iff.1 h
  obtain ⟨⟨exponent, r₃⟩, hexponent, h⟩ := Option.bind_eq_some_iff.1 h
  cases h
  rw [hminus]
  simp [readWhole_append hwhole hrest.endsDigits, readFraction_append hfraction hrest,
    readExponent_append hexponent hrest]

/-- A number is read whatever comes after it, unless that goes on with a number. -/
theorem readNumber_append {d : Datum} (h : readNumber cs = some (d, [])) (hrest : EndsNumber rest) :
    readNumber (cs ++ rest) = some (d, rest) := by
  unfold readNumber at h ⊢
  obtain ⟨⟨x, r⟩, hnumeral, h⟩ := Option.bind_eq_some_iff.1 h
  obtain ⟨d', hdatum, heq⟩ := Option.bind_eq_some_iff.1 h
  cases heq
  simp [readNumeral_append hnumeral hrest, hdatum]

end Rest

/-! ## The first character -/

/-- A character that a number may start with. -/
def StartsNumber (c : Char) : Prop :=
  c = '-' ∨ Decimal.isDigit c = true

instance : DecidablePred StartsNumber :=
  fun _ => inferInstanceAs (Decidable (_ ∨ _))

theorem isDigit_of_readWhole {c : Char} {cs : List Char} {p : List Char × List Char}
    (h : readWhole (c :: cs) = some p) : Decimal.isDigit c = true := by
  by_cases hzero : c = '0'
  · subst hzero
    rfl
  · by_contra hdigit
    simp [readWhole_of_ne hzero, readDigits, hdigit] at h

/-- What is read as a number starts like one. -/
theorem startsNumber_of_readNumber {cs : List Char} {p : Datum × List Char}
    (h : readNumber cs = some p) : ∃ c tail, cs = c :: tail ∧ StartsNumber c := by
  cases cs with
  | nil => cases h
  | cons c cs =>
    refine ⟨c, cs, rfl, ?_⟩
    by_cases hminus : c = '-'
    · exact .inl hminus
    · obtain ⟨_, hnumeral, -⟩ := Option.bind_eq_some_iff.1 h
      have hsplit : splitMinus (c :: cs) = (false, c :: cs) := by simp [splitMinus, hminus]
      rw [readNumeral, hsplit] at hnumeral
      obtain ⟨_, hwhole, -⟩ := Option.bind_eq_some_iff.1 hnumeral
      exact .inr (isDigit_of_readWhole hwhole)

/-! ## Integers -/

theorem isDigit_of_mem_toDigits {n : Nat} {c : Char} (h : c ∈ Nat.toDigits 10 n) :
    Decimal.isDigit c = true := by
  have hdigit := Nat.isDigit_of_mem_toDigits (by decide) (by decide) h
  simpa [Char.isDigit, Decimal.isDigit, Char.le_def] using hdigit

theorem value_toDigits (n : Nat) : Decimal.value (Nat.toDigits 10 n) = n :=
  Nat.ofDigitChars_ten_toDigits

/-- The digits of a positive number have no leading zero. -/
theorem head?_toDigits {n : Nat} (h : n ≠ 0) : (Nat.toDigits 10 n).head? ≠ some '0' := by
  -- By induction on the number of digits: the first of many is the first without the last.
  induction n using Nat.strongRecOn with
  | ind n ih =>
    by_cases hlt : n < 10
    · rw [Nat.toDigits_of_lt_base hlt]
      interval_cases n <;> simp_all [Nat.digitChar]
    · rw [Nat.toDigits_of_base_le (by decide) (by omega),
        List.head?_append_of_ne_nil _ Nat.toDigits_ne_nil]
      exact ih (n / 10) (by omega) (by omega)

/-- A run of digits is read to its end. -/
theorem readDigits_of_all {ds : List Char} (hne : ds ≠ [])
    (hall : ∀ c ∈ ds, Decimal.isDigit c = true) : readDigits ds = some (ds, []) := by
  rw [readDigits, List.takeWhile_eq_self_iff.2 hall, List.dropWhile_eq_nil_iff.2 hall]
  cases ds with
  | nil => exact absurd rfl hne
  | cons c cs => rfl

/-- Digits are a whole part unless the first of several is zero. -/
theorem readWhole_of_all {ds : List Char} (hne : ds ≠ []) (hhead : ds.head? ≠ some '0')
    (hall : ∀ c ∈ ds, Decimal.isDigit c = true) : readWhole ds = some (ds, []) := by
  cases ds with
  | nil => exact absurd rfl hne
  | cons c cs =>
    rw [readWhole_of_ne (by simpa using hhead)]
    exact readDigits_of_all hne hall

/-- The digits of a number are read as a whole part. -/
theorem readWhole_toDigits (n : Nat) :
    readWhole (Nat.toDigits 10 n) = some (Nat.toDigits 10 n, []) := by
  by_cases hzero : n = 0
  · subst hzero
    rfl
  · exact readWhole_of_all Nat.toDigits_ne_nil (head?_toDigits hzero)
      fun c hc => isDigit_of_mem_toDigits hc

/-- A number without fraction and exponent. -/
theorem readNumber_of_whole {cs unsigned : List Char} {negative : Bool} {d : Datum}
    (hsplit : splitMinus cs = (negative, unsigned)) (hwhole : readWhole unsigned = some (unsigned, []))
    (hdatum : (⟨negative, unsigned, [], none⟩ : Numeral).datum? = some d) :
    readNumber cs = some (d, []) := by
  simp [readNumber, readNumeral, hsplit, hwhole, readFraction, readExponent, hdatum]

theorem splitMinus_of_isDigit {c : Char} (h : Decimal.isDigit c = true) (cs : List Char) :
    splitMinus (c :: cs) = (false, c :: cs) := by
  have hne : c ≠ '-' := by
    rintro rfl
    cases h
  simp [splitMinus, hne]

theorem splitSign_of_isDigit {c : Char} (h : Decimal.isDigit c = true) (cs : List Char) :
    splitSign (c :: cs) = (false, c :: cs) := by
  have hne : c ≠ '+' := by
    rintro rfl
    cases h
  simpa [splitSign, hne] using splitMinus_of_isDigit h cs

theorem exists_toDigits (n : Nat) :
    ∃ c cs, Nat.toDigits 10 n = c :: cs ∧ Decimal.isDigit c = true := by
  cases hdigits : Nat.toDigits 10 n with
  | nil => exact absurd hdigits Nat.toDigits_ne_nil
  | cons c cs => exact ⟨c, cs, rfl, isDigit_of_mem_toDigits (hdigits ▸ List.mem_cons_self)⟩

theorem splitMinus_toDigits (n : Nat) : splitMinus (Nat.toDigits 10 n) = (false, Nat.toDigits 10 n) := by
  obtain ⟨c, cs, heq, hdigit⟩ := exists_toDigits n
  rw [heq, splitMinus_of_isDigit hdigit]

theorem integer_ofNat (n : Nat) : integer n = Nat.toDigits 10 n :=
  Nat.toList_repr

theorem integer_negSucc (n : Nat) : integer (.negSucc n) = '-' :: Nat.toDigits 10 (n + 1) := by
  show ("-" ++ (n + 1).repr).toList = _
  simp [Nat.toList_repr]

/-- An integer of 64 bits, signed or not, is read back from its decimal form. -/
theorem readNumber_integer {n : Int} (hlo : -(capacity 63 : Int) ≤ n) (hhi : n < capacity 64) :
    readNumber (integer n) = some (.int n, []) := by
  cases n with
  | ofNat k =>
    have hk : k < capacity 64 := Int.ofNat_lt.1 hhi
    rw [Int.ofNat_eq_natCast, integer_ofNat]
    refine readNumber_of_whole (splitMinus_toDigits k) (readWhole_toDigits k) ?_
    simp [Numeral.datum?, value_toDigits, hk]
  | negSucc k =>
    have hk : ¬ capacity 63 < k + 1 := by omega
    rw [integer_negSucc]
    refine readNumber_of_whole rfl (readWhole_toDigits (k + 1)) ?_
    simp [Numeral.datum?, value_toDigits, hk, Int.negSucc_eq]

end ProbeCampaign.Json
