import Mathlib.Tactic
import ProbeCampaign.Text.Decimal

/-!
# Decimal forms read back

`int64?_ofInt`: an integer of 64 bits is read back from its decimal form. Other integers have other
forms as well (`ofInt_inj`).
-/

namespace ProbeCampaign.Decimal

theorem isDigit_digit {d : Nat} (h : d < 10) : isDigit (Char.ofNat (48 + d)) = true := by
  interval_cases d <;> rfl

theorem toNat_digit {d : Nat} (h : d < 10) : (Char.ofNat (48 + d)).toNat = 48 + d := by
  interval_cases d <;> rfl

/-- The digits of a number are digits. -/
theorem all_isDigit_reversedDigits (n : Nat) : ∀ c ∈ reversedDigits n, isDigit c = true := by
  induction n using reversedDigits.induct with
  | case1 n h =>
    intro c hc
    rw [reversedDigits, if_pos h, List.mem_singleton] at hc
    rw [hc]
    exact isDigit_digit h
  | case2 n h ih =>
    intro c hc
    rw [reversedDigits, if_neg h, List.mem_cons] at hc
    rcases hc with rfl | hc
    · exact isDigit_digit (Nat.mod_lt n (by omega))
    · exact ih c hc

theorem reversedDigits_ne_nil (n : Nat) : reversedDigits n ≠ [] := by
  rw [reversedDigits]
  split <;> simp

theorem value_append_singleton (cs : List Char) (c : Char) :
    value (cs ++ [c]) = 10 * value cs + (c.toNat - 48) := by
  simp [value]

/-- Writing a natural number and reading its digits gives it back. -/
theorem value_ofNat (n : Nat) : value (ofNat n) = n := by
  unfold ofNat
  -- By induction on the digits, the last of which is the remainder by ten.
  induction n using reversedDigits.induct with
  | case1 n h =>
    rw [reversedDigits, if_pos h, List.reverse_singleton, ← List.nil_append [_],
      value_append_singleton, toNat_digit h]
    show 10 * 0 + (48 + n - 48) = n
    omega
  | case2 n h ih =>
    rw [reversedDigits, if_neg h, List.reverse_cons, value_append_singleton, ih,
      toNat_digit (Nat.mod_lt n (by omega))]
    omega

theorem all_isDigit_ofNat (n : Nat) : ∀ c ∈ ofNat n, isDigit c = true := by
  intro c hc
  exact all_isDigit_reversedDigits n c (List.mem_reverse.1 hc)

theorem ofNat_ne_nil (n : Nat) : ofNat n ≠ [] := by
  rw [ofNat, ne_eq, List.reverse_eq_nil_iff]
  exact reversedDigits_ne_nil n

/-- The digits of a positive number have no leading zero. -/
theorem head?_ofNat {n : Nat} (h : n ≠ 0) : (ofNat n).head? ≠ some '0' := by
  rw [ofNat, List.head?_reverse]
  induction n using reversedDigits.induct with
  | case1 n hlt =>
    rw [reversedDigits, if_pos hlt]
    interval_cases n
    · exact absurd rfl h
    all_goals decide
  | case2 n hlt ih =>
    rw [reversedDigits, if_neg hlt,
      List.getLast?_cons_of_ne_nil (reversedDigits_ne_nil _)]
    exact ih (by omega)

theorem digits?_ofNat (n : Nat) : digits? (ofNat n) = some n := by
  rw [digits?, if_pos ⟨ofNat_ne_nil n, List.all_eq_true.2 (all_isDigit_ofNat n)⟩, value_ofNat]

/-- Numbers have different digits. -/
theorem ofNat_inj {m n : Nat} : ofNat m = ofNat n ↔ m = n := by
  constructor
  · intro h
    rw [← value_ofNat m, h, value_ofNat]
  · rintro rfl
    rfl

/-- Different integers have different decimal forms. -/
theorem ofInt_inj {m n : Int} : ofInt m = ofInt n ↔ m = n := by
  have hdigits : ∀ k l : Nat, '-' :: ofNat k ≠ ofNat l := by
    intro k l h
    have hminus := all_isDigit_ofNat l '-' (h ▸ List.mem_cons_self)
    exact absurd hminus (by decide)
  constructor
  · intro h
    cases m with
    | ofNat k =>
      cases n with
      | ofNat l => exact congrArg Int.ofNat (ofNat_inj.1 h)
      | negSucc l => exact absurd h.symm (hdigits _ _)
    | negSucc k =>
      cases n with
      | ofNat l => exact absurd h (hdigits _ _)
      | negSucc l =>
        rw [Nat.succ.inj (ofNat_inj.1 (List.cons.inj h).2)]
  · rintro rfl
    rfl

/-- A text that starts with a digit has no sign. -/
theorem int64?_of_isDigit {c : Char} {cs : List Char} {n : Nat} (h : isDigit c = true)
    (hd : digits? (c :: cs) = some n) (hn : n < capacity 63) : int64? (c :: cs) = some (n : Int) := by
  have hminus : c ≠ '-' := by
    rintro rfl
    exact absurd h (by decide)
  have hplus : c ≠ '+' := by
    rintro rfl
    exact absurd h (by decide)
  unfold int64?
  split
  · next heq => exact absurd (List.cons.inj heq).1 hminus
  · next heq => exact absurd (List.cons.inj heq).1 hplus
  · rw [hd, Option.filter_some, if_pos (decide_eq_true hn)]
    rfl

/-- A number of 63 bits is read back as an integer. -/
theorem int64?_ofNat {n : Nat} (h : n < capacity 63) : int64? (ofNat n) = some (n : Int) := by
  have hd := digits?_ofNat n
  have hall := all_isDigit_ofNat n
  cases hcs : ofNat n with
  | nil => exact absurd hcs (ofNat_ne_nil n)
  | cons c cs =>
    rw [hcs] at hd hall
    exact int64?_of_isDigit (hall c List.mem_cons_self) hd h

theorem fitsInt64_iff {n : Int} :
    fitsInt64 n = true ↔ -(capacity 63 : Int) ≤ n ∧ n < (capacity 63 : Int) := by
  rw [fitsInt64, Bool.and_eq_true, decide_eq_true_iff, decide_eq_true_iff]

/-- Writing an integer of 64 bits and reading it gives it back. -/
theorem int64?_ofInt {n : Int} (h : fitsInt64 n = true) : int64? (ofInt n) = some n := by
  obtain ⟨hlo, hhi⟩ := fitsInt64_iff.1 h
  cases n with
  | ofNat k =>
    exact int64?_ofNat (Int.ofNat_lt.1 hhi)
  | negSucc k =>
    have hk : k + 1 ≤ capacity 63 := by omega
    rw [ofInt, int64?, digits?_ofNat, Option.filter_some, if_pos (decide_eq_true hk)]
    rfl

/-- What is read is an integer of 64 bits, whichever sign it has. -/
theorem fitsInt64_of_int64? {cs : List Char} {n : Int} (h : int64? cs = some n) :
    fitsInt64 n = true := by
  have hpos : 0 < capacity 63 := by decide
  rw [fitsInt64_iff]
  unfold int64? at h
  split at h
  all_goals
    obtain ⟨m, hm, rfl⟩ := Option.map_eq_some_iff.1 h
    obtain ⟨k, hk, hkm⟩ := Option.bind_eq_some_iff.1 hm
    obtain ⟨-, hbound⟩ := Option.filter_eq_some_iff.1 hk
    have hbound := of_decide_eq_true hbound
    cases hkm
    omega

end ProbeCampaign.Decimal
