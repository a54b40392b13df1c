import Mathlib.Algebra.Order.Floor.Div
import Mathlib.Tactic
import ProbeCampaign.Proofs.Plan.Failures

/-!
# Room for the buckets of a plan

The program breaks down where the bytes of the buckets of a range are too many to be counted
(`PopupBucket.split?_eq_some_iff`). Whether a plan is made at all depends on the ids that each of its
pages is planned for, as the lookups found them, and what is made then is the plan
(`plan?_eq_some_iff`).
-/

namespace ProbeCampaign

namespace PopupBucket

/-- The number of buckets is rounded up: what is left over takes one more, as the sum then reaches
the next multiple. -/
theorem number_eq {size : Nat} (hsize : 0 < size) (total : Nat) :
    number total size = total ⌈/⌉ size := by
  obtain ⟨q, rest, hrest, rfl⟩ : ∃ q rest, rest < size ∧ total = rest + size * q :=
    ⟨total / size, total % size, Nat.mod_lt total hsize, (Nat.mod_add_div total size).symm⟩
  unfold number
  rw [Nat.ceilDiv_eq_add_pred_div, Nat.add_mul_mod_self_left, Nat.mod_eq_of_lt hrest,
    Nat.add_mul_div_left rest q hsize, Nat.div_eq_of_lt hrest, Nat.zero_add]
  cases rest with
  | zero =>
    rw [if_pos rfl, Nat.zero_add, Nat.add_sub_assoc hsize, Nat.add_comm,
      Nat.add_mul_div_left _ q hsize, Nat.div_eq_of_lt (Nat.sub_lt hsize Nat.one_pos), Nat.zero_add]
  | succ rest =>
    have hnext : rest + 1 + size * q + size - 1 = rest + size * (q + 1) := by
      rw [Nat.mul_succ]
      omega
    rw [if_neg (Nat.succ_ne_zero rest), hnext, Nat.add_mul_div_left rest (q + 1) hsize,
      Nat.div_eq_of_lt (Nat.lt_of_succ_lt hrest), Nat.zero_add]

/-- Popups fit one visit, or room for their buckets can be reserved: each takes 24 bytes, and all
together fewer than `2 ^ 63`. -/
def Fits (total limit : Nat) : Prop :=
  limit < total → 24 * (total ⌈/⌉ max limit 1) < capacity 63

theorem hasRoom_iff {buckets : Nat} : hasRoom buckets = true ↔ 24 * buckets < capacity 63 := by
  unfold hasRoom bytes
  rw [decide_eq_true_iff, Nat.mul_comm]

/-- The program cuts popups into the buckets of `split`, if there is room for them. -/
theorem split?_eq_some_iff {total limit : Nat} {bs : List PopupBucket} :
    split? total limit = some bs ↔ Fits total limit ∧ split total limit = bs := by
  have hsize : 0 < max limit 1 := by omega
  unfold split? split Fits
  rw [number_eq hsize]
  by_cases hfit : total ≤ limit
  · rw [if_pos hfit, if_pos hfit, Option.some.injEq]
    exact ⟨fun h => ⟨fun hlt => absurd hfit (not_le.2 hlt), h⟩, fun h => h.2⟩
  · rw [if_neg hfit, if_neg hfit]
    by_cases hroom : hasRoom (total ⌈/⌉ max limit 1) = true
    · rw [if_pos hroom, Option.some.injEq]
      exact ⟨fun h => ⟨fun _ => hasRoom_iff.1 hroom, h⟩, fun h => h.2⟩
    · rw [if_neg hroom]
      exact ⟨fun h => (by cases h), fun h => absurd (hasRoom_iff.2 (h.1 (not_le.1 hfit))) hroom⟩

end PopupBucket

/-- All elements of a list give values exactly when each of them has what its value takes. -/
theorem Fallible.mapM_eq_some_iff {α β : Type} {f : α → Option β} {g : α → β} {P : α → Prop}
    (h : ∀ a b, f a = some b ↔ P a ∧ g a = b) {xs : List α} {ys : List β} :
    xs.mapM f = some ys ↔ (∀ x ∈ xs, P x) ∧ xs.map g = ys := by
  induction xs generalizing ys with
  | nil => simp [eq_comm]
  | cons x xs ih =>
    rw [List.mapM_cons, List.forall_mem_cons, List.map_cons]
    constructor
    · intro hys
      obtain ⟨y, hy, hys⟩ := Option.bind_eq_some_iff.1 hys
      obtain ⟨ys', hys', hcons⟩ := Option.bind_eq_some_iff.1 hys
      obtain ⟨hx, rfl⟩ := (h x y).1 hy
      obtain ⟨hxs, rfl⟩ := ih.1 hys'
      exact ⟨⟨hx, hxs⟩, Option.some.inj hcons⟩
    · rintro ⟨⟨hx, hxs⟩, rfl⟩
      rw [(h x _).2 ⟨hx, rfl⟩, ih.2 ⟨hxs, rfl⟩]
      rfl

namespace PlanRequest

open ResponseIndex

/-- Room for the buckets of a page can be reserved, range by range, for responses of some ids. -/
def FitsPage (r : PlanRequest) (t : TestTemplate) (ids : List Int) : Prop :=
  r.browserIds ≠ [] → ∀ x ∈ IdRange.chunk ids (t.idGroupLimit r.mode r.limits),
    PopupBucket.Fits (r.popups t x) r.limits.maxPopupsPerUrl

/-- Room for the buckets of every page can be reserved, for the ids that its label is planned for. -/
def HasRoom (r : PlanRequest) (c : Connection) : Prop :=
  ∀ step ∈ r.steps, r.FitsPage step.2 (recalled c.store r.mode (r.calls c) step.2.label)

/-- A range is planned if there is room for its buckets. -/
theorem bucketVisits?_eq_some_iff {r : PlanRequest} {scheme : Scheme} {t : TestTemplate} {b : Int}
    (x : IdRange) (es : List TestPlanEntry) :
    r.bucketVisits? scheme t b x = some es ↔
      PopupBucket.Fits (r.popups t x) r.limits.maxPopupsPerUrl ∧
        r.bucketVisits scheme t b x = es := by
  unfold bucketVisits? bucketVisits
  rw [Option.bind_eq_bind, Option.bind_eq_some_iff]
  constructor
  · rintro ⟨buckets, hsplit, hes⟩
    obtain ⟨hfits, rfl⟩ := PopupBucket.split?_eq_some_iff.1 hsplit
    exact ⟨hfits, Option.some.inj hes⟩
  · rintro ⟨hfits, rfl⟩
    exact ⟨_, PopupBucket.split?_eq_some_iff.2 ⟨hfits, rfl⟩, rfl⟩

/-- A page is planned if there is room for the buckets of each of its ranges. -/
theorem visits?_eq_some_iff {r : PlanRequest} {scheme : Scheme} {t : TestTemplate}
    {ids : List Int} {es : List TestPlanEntry} :
    r.visits? scheme t ids = some es ↔ r.FitsPage t ids ∧ r.visits scheme t ids = es := by
  have hbrowser : ∀ b ess, (IdRange.chunk ids (t.idGroupLimit r.mode r.limits)).mapM
      (r.bucketVisits? scheme t b) = some ess ↔ _ := fun b ess =>
    @Fallible.mapM_eq_some_iff _ _ _ _ _ (@bucketVisits?_eq_some_iff r scheme t b) _ ess
  have hfits : r.FitsPage t ids ↔ ∀ _ ∈ r.browserIds,
      ∀ x ∈ IdRange.chunk ids (t.idGroupLimit r.mode r.limits),
        PopupBucket.Fits (r.popups t x) r.limits.maxPopupsPerUrl := by
    unfold FitsPage
    constructor
    · exact fun h b hb => h (List.ne_nil_of_mem hb)
    · intro h hsome
      obtain ⟨b, hb⟩ := List.exists_mem_of_ne_nil _ hsome
      exact h b hb
  unfold visits? visits
  dsimp only
  rw [hfits, Option.bind_eq_bind, Option.bind_eq_some_iff]
  simp only [Fallible.mapM_eq_some_iff hbrowser, Option.pure_def, Option.some.injEq]
  constructor
  · rintro ⟨ess, ⟨hroom, rfl⟩, rfl⟩
    refine ⟨hroom, ?_⟩
    rw [List.flatMap_map]
    rfl
  · rintro ⟨hroom, rfl⟩
    refine ⟨_, ⟨hroom, rfl⟩, ?_⟩
    rw [List.flatMap_map]
    rfl

/-- A step is planned if there is room for it and for the steps after it. -/
theorem planSteps?_cons {r : PlanRequest} {scheme : Scheme} {t : TestTemplate}
    {rest : List (Scheme × TestTemplate)} {index index' : ResponseIndex} {c c' : Connection}
    {ids : List Int} (hids : index.ids c t.label r.mode = (ids, index', c'))
    {p : List TestPlanEntry × Connection} :
    r.planSteps? ((scheme, t) :: rest) index c = some p ↔ r.FitsPage t ids ∧
      ∃ q, r.planSteps? rest index' c' = some q ∧ (r.visits scheme t ids ++ q.1, q.2) = p := by
  rw [planSteps?, hids]
  dsimp only
  rw [Option.bind_eq_bind, Option.bind_eq_some_iff]
  simp only [visits?_eq_some_iff, Option.bind_eq_bind, Option.bind_eq_some_iff, Option.pure_def,
    Option.some.injEq]
  constructor
  · rintro ⟨es, ⟨hroom, rfl⟩, h⟩
    exact ⟨hroom, h⟩
  · rintro ⟨hroom, h⟩
    exact ⟨_, ⟨hroom, rfl⟩, h⟩

/-- Steps are planned if there is room for each of them with the ids that its label is planned
for. -/
theorem planSteps?_eq_some_iff {r : PlanRequest} {c₀ c : Connection} {log : List (String × Bool)}
    {index : ResponseIndex} (h : Remembers c₀ r.mode log index c)
    (steps : List (Scheme × TestTemplate)) (p : List TestPlanEntry × Connection) :
    r.planSteps? steps index c = some p ↔
      (∀ step ∈ steps, r.FitsPage step.2
        (recalled c₀.store r.mode (log ++ r.callsOf steps index c) step.2.label)) ∧
      r.planSteps steps index c = p := by
  -- The lookups made so far are the invariant, as in `planSteps_eq`.
  induction steps generalizing log index c p with
  | nil => simp [planSteps?, planSteps]
  | cons step rest ih =>
    obtain ⟨scheme, t⟩ := step
    rw [List.forall_mem_cons, planSteps]
    cases hknown : log.lookup t.label with
    | some failed =>
      have hids := h.ids_of_known hknown
      rw [planSteps?_cons hids, callsOf_of_known h hknown, recalled_append hknown, hids]
      simp only [ih h, and_assoc, exists_and_left, exists_eq_left']
    | none =>
      obtain ⟨index', hids, h'⟩ := h.ids_of_new hknown
      have hlast : (log ++ [(t.label, c.lookupFails c.lookups)]).lookup t.label =
          some (c.lookupFails c.lookups) := by
        rw [List.lookup_append, hknown, Option.none_or, List.lookup_cons_self]
      rw [planSteps?_cons hids, callsOf_of_new hids, recalled_append hlast, hids]
      simp only [ih h', and_assoc, exists_and_left, exists_eq_left']

/-- What the program plans is the plan, and it plans where there is room for all buckets. -/
theorem plan?_eq_some_iff {r : PlanRequest} {c : Connection} {p : PlanOutcome × Connection} :
    r.plan? c = some p ↔ r.HasRoom c ∧ r.plan c = p := by
  unfold plan? plan HasRoom calls
  rw [Option.bind_eq_bind, Option.bind_eq_some_iff]
  simp only [planSteps?_eq_some_iff (remembers_empty c r.mode), List.nil_append, and_assoc,
    exists_and_left, exists_eq_left', Option.pure_def, Option.some.injEq]

end PlanRequest

end ProbeCampaign
