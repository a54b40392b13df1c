import Mathlib.Tactic
import ProbeCampaign.Proofs.Family.Size

/-!
# Several headers in one response

The responses of headers that are probed together are one for each order of the headers, choice of a
changed name for each of them, and round (`coe_tests`). Choices from lists are functions that choose
from the sets of their members (`coe_choices`), and the names chosen along an order are names chosen
for the headers (`coe_order`). As many rounds as the longest list has values go through the values
of every header (`exists_round`).
-/

namespace ProbeCampaign

open scoped Nat

variable {α β : Type}

/-! ## Choices -/

theorem map_univ_prod {γ δ : Type} [Fintype α] [Fintype γ] (g : α × γ → δ) :
    (Finset.univ : Finset (α × γ)).val.map g =
      (Finset.univ : Finset α).val.bind fun a => Finset.univ.val.map fun c => g (a, c) := by
  rw [← Finset.univ_product_univ, Finset.product_val]
  show ((Finset.univ : Finset α).val.bind fun a => Finset.univ.val.map (Prod.mk a)).map g = _
  rw [Multiset.map_bind]
  refine Multiset.bind_congr fun a _ => ?_
  rw [Multiset.map_map]
  rfl

/-- One choice from each list, where each list goes through a set. -/
theorem coe_choices {n : Nat} (xs : Fin n → List β) (s : Fin n → Finset β) (g : Fin n → β → α)
    (h : ∀ p, (xs p : Multiset β) = (s p).val) :
    (choices (List.ofFn fun p => (xs p).map (g p)) : Multiset (List α)) =
      (Finset.univ : Finset ((p : Fin n) → s p)).val.map fun c => List.ofFn fun p => g p (c p) := by
  induction n with
  | zero => rfl
  | succ n ih =>
    have hrest := ih (fun p => xs p.succ) (fun p => s p.succ) (fun p => g p.succ) fun p => h p.succ
    have hcons : (Finset.univ : Finset ((p : Fin (n + 1)) → s p)).val =
        (Finset.univ : Finset (s 0 × ((p : Fin n) → s p.succ))).val.map
          (Fin.consEquiv fun p => s p) :=
      (Multiset.map_univ_val_equiv _).symm
    have hfirst : ((xs 0).map (g 0) : Multiset α) = Finset.univ.val.map fun x : s 0 => g 0 x := by
      rw [← Multiset.map_coe, h, Finset.univ_eq_attach, Finset.attach_val]
      exact (Multiset.attach_map_val' _ (g 0)).symm
    rw [List.ofFn_succ, choices, ← Multiset.coe_bind, hfirst, Multiset.bind_map, hcons,
      Multiset.map_map, map_univ_prod]
    refine Multiset.bind_congr fun x _ => ?_
    rw [← Multiset.map_coe, hrest, Multiset.map_map]
    refine Multiset.map_congr rfl fun c _ => ?_
    show g 0 x :: (List.ofFn fun p => g p.succ (c p)) = List.ofFn fun p =>
      g p ((Fin.consEquiv (fun p => s p)) (x, c) p)
    rw [List.ofFn_succ]
    rfl

namespace MultiHeaderFamily

/-! ## Names and values -/

/-- The names that a header is probed under. -/
def names (f : MultiHeaderFamily) (j : Fin f.headers.length) : Finset String :=
  Mutation.images Mutation.basic f.headers[j].1

/-- The value of a header in a round: its values take turns. -/
def valueAt (f : MultiHeaderFamily) (j : Fin f.headers.length) (i : Nat) : String :=
  f.headers[j].2.getD (i % f.headers[j].2.length) ""

/-- The response for an order of the headers, a name for each of them, and a round. -/
def ordered (f : MultiHeaderFamily) (σ : Equiv.Perm (Fin f.headers.length))
    (name : (j : Fin f.headers.length) → f.names j) (i : Nat) : ResponseSpec :=
  ⟨(List.ofFn fun p => ((name (σ p) : String), f.valueAt (σ p) i)) ++ f.baseResp, 200, f.label,
    .parsing⟩

theorem valueAt_of_lt {f : MultiHeaderFamily} {j : Fin f.headers.length} {i : Nat}
    (h : i < f.headers[j].2.length) : f.valueAt j i = f.headers[j].2[i] := by
  rw [valueAt, Nat.mod_eq_of_lt h, List.getD_eq_getElem?_getD, List.getElem?_eq_getElem h]
  rfl

/-- In a given order, a header stands at the place that the permutation gives it. -/
theorem getElem?_ordered (f : MultiHeaderFamily) (σ : Equiv.Perm (Fin f.headers.length))
    (name : (j : Fin f.headers.length) → f.names j) (i : Nat) (j : Fin f.headers.length) :
    (f.ordered σ name i).headers[(σ.symm j : Nat)]? = some ((name j : String), f.valueAt j i) := by
  have hlt : (σ.symm j : Nat) <
      (List.ofFn fun p => ((name (σ p) : String), f.valueAt (σ p) i)).length := by
    rw [List.length_ofFn]
    exact (σ.symm j).isLt
  rw [ordered, List.getElem?_append_left hlt, List.getElem?_ofFn, dif_pos (σ.symm j).isLt,
    Fin.eta, Equiv.apply_symm_apply]

/-! ## Rounds -/

theorem rounds_eq (f : MultiHeaderFamily) :
    f.rounds = ((f.headers.map fun h => h.2.length).max?).getD 0 := by
  rw [rounds, List.foldl_max]
  exact Nat.zero_max _

/-- There are as many rounds as the longest list has values. -/
theorem isGreatest_rounds {f : MultiHeaderFamily} (h : f.headers ≠ []) :
    IsGreatest {n | ∃ header ∈ f.headers, header.2.length = n} f.rounds := by
  obtain ⟨n, hn⟩ : ∃ n, (f.headers.map fun h => h.2.length).max? = some n :=
    Option.isSome_iff_exists.1 (List.isSome_max?_of_ne_nil (by simpa using h))
  obtain ⟨hmem, hle⟩ := List.max?_eq_some_iff.1 hn
  rw [rounds_eq, hn, Option.getD_some]
  refine ⟨List.mem_map.1 hmem, ?_⟩
  rintro m ⟨header, hheader, rfl⟩
  exact hle _ (List.mem_map_of_mem hheader)

/-- Every value of a header has a round, whatever the order and the names are. -/
theorem exists_round {f : MultiHeaderFamily} {j : Fin f.headers.length} {v : String}
    (h : v ∈ f.headers[j].2) : ∃ i : Fin f.rounds, f.valueAt j i = v := by
  obtain ⟨i, hi, rfl⟩ := List.getElem_of_mem h
  have hne : f.headers ≠ [] := List.ne_nil_of_length_pos j.pos
  have hle : f.headers[j].2.length ≤ f.rounds :=
    (isGreatest_rounds hne).2 ⟨_, List.getElem_mem _, rfl⟩
  exact ⟨⟨i, hi.trans_le hle⟩, valueAt_of_lt hi⟩

/-! ## Orders, names and rounds -/

/-- A header under each of its names. -/
def variants (header : String × List String) : List (String × List String) :=
  (Mutation.outputs Mutation.basic header.1).map fun n => (n, header.2)

/-- Where every header has values, the probes are the rounds of every choice of names in every
order. -/
theorem tests_eq {f : MultiHeaderFamily} (h : ∀ header ∈ f.headers, header.2 ≠ []) :
    f.tests = (permutations f.headers).flatMap fun order =>
      (choices (order.map variants)).flatMap fun chosen =>
        (List.range f.rounds).map (f.round chosen) := by
  have hnone : ¬ (f.headers.any fun header => header.2.isEmpty) = true := by
    rw [List.any_eq_true]
    rintro ⟨header, hheader, hempty⟩
    exact h header hheader (List.isEmpty_iff.1 hempty)
  rw [tests, if_neg hnone]
  show (permutations (f.headers.map variants)).flatMap _ = _
  rw [permutations_map, List.flatMap_map]

/-- The names along an order of the headers are those chosen for the headers. -/
theorem coe_order (f : MultiHeaderFamily) (σ : Equiv.Perm (Fin f.headers.length)) :
    (choices ((arranged f.headers σ).map variants) : Multiset (List (String × List String))) =
      (Finset.univ : Finset ((j : Fin f.headers.length) → f.names j)).val.map fun name =>
        List.ofFn fun p => ((name (σ p) : String), f.headers[σ p].2) := by
  have hchoices := coe_choices (fun p => Mutation.outputs Mutation.basic f.headers[σ p].1)
    (fun p => f.names (σ p)) (fun p n => (n, f.headers[σ p].2)) fun p => Mutation.coe_outputs _ _
  have hmap : (arranged f.headers σ).map variants = List.ofFn fun p => variants f.headers[σ p] := by
    rw [arranged, List.map_ofFn]
    rfl
  rw [hmap]
  refine hchoices.trans ?_
  rw [← Multiset.map_univ_val_equiv (Equiv.piCongrLeft (fun j => f.names j) σ).symm,
    Multiset.map_map]
  rfl

theorem round_eq (f : MultiHeaderFamily) (σ : Equiv.Perm (Fin f.headers.length))
    (name : (j : Fin f.headers.length) → f.names j) (i : Nat) :
    f.round (List.ofFn fun p => ((name (σ p) : String), f.headers[σ p].2)) i =
      f.ordered σ name i := by
  rw [round, List.map_ofFn]
  rfl

/-- The probes are one for each order of the headers, choice of names, and round. -/
theorem coe_tests {f : MultiHeaderFamily} (h : ∀ header ∈ f.headers, header.2 ≠ []) :
    (f.tests : Multiset ResponseSpec) =
      (Finset.univ : Finset (Equiv.Perm (Fin f.headers.length) ×
        ((j : Fin f.headers.length) → f.names j) × Fin f.rounds)).val.map
          fun t => f.ordered t.1 t.2.1 t.2.2 := by
  have hrounds : ∀ chosen, ((List.range f.rounds).map (f.round chosen) : Multiset ResponseSpec) =
      Finset.univ.val.map fun i : Fin f.rounds => f.round chosen i := by
    intro chosen
    rw [Fin.univ_val_map, ← List.map_coe_finRange_eq_range, List.map_map, List.ofFn_eq_map]
    rfl
  rw [tests_eq h, map_univ_prod, ← Multiset.coe_bind, coe_permutations, Multiset.bind_map]
  refine Multiset.bind_congr fun σ _ => ?_
  rw [map_univ_prod, ← Multiset.coe_bind, f.coe_order, Multiset.bind_map]
  refine Multiset.bind_congr fun name _ => ?_
  rw [hrounds]
  exact Multiset.map_congr rfl fun i _ => f.round_eq σ name i

/-- Headers that are probed together, each with values, have one response for every order of them,
every choice among their changed names, and every round up to the length of the longest list. It
holds each header once, in that order, under the chosen name and with the value whose turn it is,
and then the accompanying headers. So every value comes up in every order and under every choice of
names. Nothing is probed if there is no header or one has no values. -/
theorem tests_cover (f : MultiHeaderFamily) :
    (f.headers = [] ∨ (∃ header ∈ f.headers, header.2 = []) → f.tests = []) ∧
    (f.headers ≠ [] → (∀ header ∈ f.headers, header.2 ≠ []) →
      IsGreatest {n | ∃ header ∈ f.headers, header.2.length = n} f.rounds ∧
      (f.tests : Multiset ResponseSpec) =
        (Finset.univ : Finset (Equiv.Perm (Fin f.headers.length) ×
          ((j : Fin f.headers.length) → f.names j) × Fin f.rounds)).val.map
            (fun t => f.ordered t.1 t.2.1 t.2.2) ∧
      f.tests.length = f.headers.length ! * (∏ j, (f.names j).card) * f.rounds ∧
      ∀ (σ : Equiv.Perm (Fin f.headers.length)) (name : (j : Fin f.headers.length) → f.names j)
        (j : Fin f.headers.length), ∀ v ∈ f.headers[j].2, ∃ i : Fin f.rounds,
          f.ordered σ name i ∈ f.tests ∧
          (f.ordered σ name i).headers[(σ.symm j : Nat)]? = some ((name j : String), v)) := by
  refine ⟨?_, fun hne h => ⟨isGreatest_rounds hne, coe_tests h, ?_, fun σ name j v hv => ?_⟩⟩
  · rintro (hnil | ⟨header, hheader, hempty⟩)
    · -- There is no round.
      rw [tests_eq (by rw [hnil]; exact fun _ h => absurd h List.not_mem_nil), rounds_eq, hnil]
      rfl
    · rw [tests, if_pos (List.any_eq_true.2 ⟨header, hheader, by rw [hempty]; rfl⟩)]
  · have hcard := congrArg Multiset.card (coe_tests h)
    rw [Multiset.coe_card, Multiset.card_map, Finset.card_val, Finset.card_univ,
      Fintype.card_prod, Fintype.card_prod, Fintype.card_perm, Fintype.card_pi, Fintype.card_fin,
      Fintype.card_fin] at hcard
    simpa [mul_assoc] using hcard
  · obtain ⟨i, hi⟩ := exists_round hv
    refine ⟨i, ?_, by rw [getElem?_ordered, hi]⟩
    rw [← Multiset.mem_coe, coe_tests h]
    exact Multiset.mem_map.2 ⟨(σ, name, i), Finset.mem_univ _, rfl⟩

/-- Two headers, with three values and with one. -/
def paired : MultiHeaderFamily where
  label := "HSTS"
  headers := [("hsts", ["max-age=0", "max-age=60", "preload"]), ("from", ["null"])]
  baseResp := [("test", "1")]

/-- Each header has three names, so that there are 54 responses, in three rounds each; the last
value of the first header comes up in every order. -/
theorem tests_cover_paired :
    paired.headers ≠ [] ∧ (∀ header ∈ paired.headers, header.2 ≠ []) ∧
      paired.tests.length = 2 * 9 * 3 ∧
      ∀ σ name, ∃ i : Fin paired.rounds,
        (paired.ordered σ name i).headers[(σ.symm ⟨0, Nat.two_pos⟩ : Nat)]? =
          some ((name ⟨0, Nat.two_pos⟩ : String), "preload") := by
  have hvalues : ∀ header ∈ paired.headers, header.2 ≠ [] := by decide
  have hne : paired.headers ≠ [] := by decide
  have hnames : (∏ j, (paired.names j).card) = 9 := by decide +kernel
  obtain ⟨-, -, hlength, hcover⟩ := (tests_cover paired).2 hne hvalues
  refine ⟨hne, hvalues, ?_, fun σ name => ?_⟩
  · rw [hlength, hnames]
    rfl
  · obtain ⟨i, -, hi⟩ := hcover σ name ⟨0, Nat.two_pos⟩ "preload" (by decide)
    exact ⟨i, hi⟩

end MultiHeaderFamily

end ProbeCampaign
