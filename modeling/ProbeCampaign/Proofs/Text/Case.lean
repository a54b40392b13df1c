import Mathlib.Tactic
import ProbeCampaign.Text.Case

/-!
# Upper case

The upper-case form of a character other than the less-than sign never has that sign in it, and so
neither has that of a text (`lessThan_not_mem_upper`).
-/

namespace ProbeCampaign.Text

theorem eq_of_ofNat_eq {n : Nat} {c : Char} (h : Char.ofNat n = c) (hc : c.toNat ≠ 0) :
    n = c.toNat := by
  subst h
  by_cases hvalid : n.isValidChar
  · rw [Char.ofNat, dif_pos hvalid]
    rfl
  · rw [Char.ofNat, dif_neg hvalid] at hc
    exact absurd rfl hc

/-- The tables neither list the less-than sign nor have a run that goes through it. -/
theorem lessThan_not_listed :
    (∀ e ∈ upperExpansions, 60 ∉ e.2) ∧
      ∀ run ∈ upperRuns, (run.2.1 : Int) + run.2.2.2 < 60 ∨ 60 < (run.1 : Int) + run.2.2.2 := by
  decide +kernel

/-- No character but a less-than sign has one in a form of another case. -/
theorem lessThan_not_mem_caseForm {c : Char} (h : c ≠ '<') :
    '<' ∉ caseForm upperExpansions upperRuns c := by
  have hsign : ∀ {n : Nat}, '<' = Char.ofNat n → n = 60 :=
    fun hn => eq_of_ofNat_eq hn.symm (by decide)
  unfold caseForm
  split
  · next ns hns =>
    rintro hmem
    obtain ⟨n, hn, heq⟩ := List.mem_map.1 hmem
    obtain ⟨before, after, hsplit, -⟩ := List.lookup_eq_some_iff.1 hns
    have hentry : (c.toNat, ns) ∈ upperExpansions := by
      rw [hsplit]
      exact List.mem_append_right _ List.mem_cons_self
    exact lessThan_not_listed.1 _ hentry (hsign heq.symm ▸ hn)
  · split
    · next n hn =>
      rw [List.mem_singleton]
      intro heq
      obtain ⟨⟨first, last, step, shift⟩, hrun, hin⟩ := List.exists_of_findSome?_eq_some hn
      simp only [inRun, Option.ite_none_right_eq_some, Option.some.injEq] at hin
      have hrange := lessThan_not_listed.2 _ hrun
      have hn := hsign heq
      dsimp only at hrange
      omega
    · rwa [List.mem_singleton, eq_comm]

/-- Nor has its upper case. -/
theorem lessThan_not_mem_upperChar {c : Char} (h : c ≠ '<') : '<' ∉ upperChar c := by
  unfold upperChar
  split
  · rw [List.mem_singleton]
    split
    · next hlower =>
      intro hsign
      have hn := eq_of_ofNat_eq hsign.symm (by decide)
      have hlow : 97 ≤ c.toNat := hlower.1
      have hsixty : '<'.toNat = 60 := rfl
      omega
    · exact h.symm
  · exact lessThan_not_mem_caseForm h

theorem lessThan_not_mem_upper {s : String} (h : '<' ∉ s.toList) : '<' ∉ (upper s).toList := by
  rw [upper, String.toList_ofList, List.mem_flatMap]
  rintro ⟨c, hc, hmem⟩
  exact lessThan_not_mem_upperChar (fun heq => h (heq ▸ hc)) hmem

end ProbeCampaign.Text
