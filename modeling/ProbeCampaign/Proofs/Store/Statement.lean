import Mathlib.Tactic
import ProbeCampaign.Proofs.Response.DedupKey
import ProbeCampaign.Store.Query

/-!
# What a statement selects

The values of a statement are only ever added to, so a condition goes on to mean what it did when it
was added (`holds_append`). What a statement accepts is therefore said by its clauses one after the
other (`accepts_require`, `accepts_requireAmong`), and the statement of a filter accepts the rows that
the filter selects (`accepts_iff`). The engine takes it if the filter has no more values and no more
conditions than there may be (`refusal?_eq_none_iff_withinLimits`).
-/

namespace ProbeCampaign

/-- Every condition that a filter gives holds of a result with a status, the type of its response,
and the id and the operating system of its browser. -/
structure ResultFilter.Selects (filter : ResultFilter) (testStatus : Int) (respType : RespType)
    (browserId : Int) (os : String) : Prop where
  testStatus : ∀ status ∈ filter.testStatus, testStatus = status
  respType : respType ∉ filter.excludeRespTypes
  known : filter.excludeUnknownBrowser = true → browserId ≠ unknownBrowserId
  browserId : ∀ ids ∈ filter.browserIds, browserId ∈ ids
  os : ∀ name ∈ filter.os, os = name

instance (filter : ResultFilter) (testStatus : Int) (respType : RespType) (browserId : Int)
    (os : String) : Decidable (filter.Selects testStatus respType browserId os) :=
  decidable_of_iff
    ((∀ status ∈ filter.testStatus, testStatus = status) ∧ respType ∉ filter.excludeRespTypes ∧
      (filter.excludeUnknownBrowser = true → browserId ≠ unknownBrowserId) ∧
      (∀ ids ∈ filter.browserIds, browserId ∈ ids) ∧ ∀ name ∈ filter.os, os = name)
    ⟨fun ⟨h₁, h₂, h₃, h₄, h₅⟩ => ⟨h₁, h₂, h₃, h₄, h₅⟩,
      fun ⟨h₁, h₂, h₃, h₄, h₅⟩ => ⟨h₁, h₂, h₃, h₄, h₅⟩⟩

/-- The number of values that a filter compares with. -/
def ResultFilter.valueCount (filter : ResultFilter) : Nat :=
  filter.testStatus.toList.length + filter.excludeRespTypes.length +
    (if filter.excludeUnknownBrowser then 1 else 0) + (filter.browserIds.getD []).length +
    filter.os.toList.length

/-- The number of conditions that a filter gives: those on the browsers it leaves are one. -/
def ResultFilter.conditionCount (filter : ResultFilter) : Nat :=
  filter.testStatus.toList.length + filter.excludeRespTypes.length +
    (if filter.excludeUnknownBrowser then 1 else 0) + filter.browserIds.toList.length +
    filter.os.toList.length

/-- A filter has no more values than the engine can number, and no more conditions than it can nest.
Four of its thousand levels are there without a condition. -/
structure ResultFilter.WithinLimits (filter : ResultFilter) : Prop where
  values : filter.valueCount ≤ 32766
  conditions : filter.conditionCount ≤ 996

namespace Statement

/-- The conditions of a statement number values that it has. -/
theorem le_of_mem_parameters (s : Statement) {c : Condition} (hc : c ∈ s.conditions) {p : Nat}
    (hp : p ∈ c.parameters) : 1 ≤ p ∧ p ≤ s.values.size := by
  have hmem : p ∈ s.conditions.flatMap Condition.parameters := List.mem_flatMap.2 ⟨c, hc, hp⟩
  rw [s.numbered, List.mem_range'_1] at hmem
  omega

/-- Values that are added later make no difference to a condition. -/
theorem holds_append (s : Statement) {c : Condition} (hc : c ∈ s.conditions)
    (added : Array ColumnValue) (j : JoinedRow) :
    c.holds (s.values ++ added) j = c.holds s.values j := by
  have hsame : ∀ p ∈ c.parameters, (s.values ++ added)[p - 1]? = s.values[p - 1]? := by
    intro p hp
    have hle := s.le_of_mem_parameters hc hp
    exact Array.getElem?_append_left (by omega)
  cases c with
  | compare comparison column p =>
    rw [Condition.holds, Condition.holds, hsame p List.mem_cons_self]
  | among column ps =>
    rw [Condition.holds, Condition.holds, Bool.eq_iff_iff, List.any_eq_true, List.any_eq_true]
    refine exists_congr fun p => and_congr_right fun hp => ?_
    rw [hsame p hp]

/-- A statement with one more condition, whose values come after the others. -/
theorem accepts_concat {s t : Statement} {c : Condition} {added : Array ColumnValue}
    (hconditions : t.conditions = s.conditions ++ [c]) (hvalues : t.values = s.values ++ added)
    (j : JoinedRow) :
    t.accepts j = true ↔ s.accepts j = true ∧ c.holds (s.values ++ added) j = true := by
  rw [accepts, accepts, List.all_eq_true, List.all_eq_true, hconditions, hvalues]
  constructor
  · intro h
    refine ⟨fun d hd => ?_, h c (by simp)⟩
    rw [← s.holds_append hd added]
    exact h d (List.mem_append_left _ hd)
  · rintro ⟨h, hlast⟩ d hd
    rcases List.mem_append.1 hd with hd | hd
    · rw [s.holds_append hd]
      exact h d hd
    · rw [List.mem_singleton.1 hd]
      exact hlast

theorem accepts_require (s : Statement) (comparison : Comparison) (column : Column)
    (v : ColumnValue) (j : JoinedRow) :
    (s.require comparison column v).accepts j = true ↔
      s.accepts j = true ∧ comparison.holds (j.value column) v = true := by
  rw [accepts_concat rfl Array.push_eq_append]
  simp [Condition.holds]

/-- A condition on several values asks for one of them. The value with the i-th of the numbers is
the i-th value. -/
theorem accepts_requireAmong (s : Statement) (column : Column) (vs : List ColumnValue)
    (j : JoinedRow) :
    (s.requireAmong column vs).accepts j = true ↔ s.accepts j = true ∧ j.value column ∈ vs := by
  rw [accepts_concat rfl (congrArg Prod.fst (number_eq s.values #[] vs)), number_eq,
    Array.empty_append, Condition.holds, List.any_eq_true]
  refine and_congr_right fun _ => ?_
  have hvalue : ∀ i, (s.values ++ vs.toArray)[s.values.size + 1 + i - 1]? = vs[i]? := by
    intro i
    rw [Array.getElem?_append_right (by omega), List.getElem?_toArray]
    congr 1
    omega
  constructor
  · rintro ⟨p, hp, hany⟩
    obtain ⟨hlo, -⟩ := List.mem_range'_1.1 hp
    obtain ⟨i, rfl⟩ := Nat.exists_eq_add_of_le hlo
    rw [hvalue, Option.any_eq_true] at hany
    obtain ⟨v, hv, heq⟩ := hany
    rw [of_decide_eq_true heq]
    exact List.mem_of_getElem? hv
  · intro hmem
    obtain ⟨i, hi⟩ := List.mem_iff_getElem?.1 hmem
    have hlt : i < vs.length := (List.getElem?_eq_some_iff.1 hi).1
    refine ⟨s.values.size + 1 + i, List.mem_range'_1.2 ⟨by omega, by omega⟩, ?_⟩
    rw [hvalue, hi]
    exact decide_eq_true rfl

/-! ## Filters -/

theorem accepts_requireGiven (s : Statement) (comparison : Comparison) (column : Column)
    (given : Option ColumnValue) (j : JoinedRow) :
    (s.requireGiven comparison column given).accepts j = true ↔
      s.accepts j = true ∧ ∀ v ∈ given, comparison.holds (j.value column) v = true := by
  cases given with
  | none => simp [requireGiven]
  | some v => simp [requireGiven, accepts_require]

/-- A condition on a list is that on its values, if there is a list. -/
theorem accepts_requireAmong? {s t : Statement} {column : Column}
    {given : Option (List ColumnValue)} (h : s.requireAmong? column given = some t)
    (j : JoinedRow) :
    t.accepts j = true ↔ s.accepts j = true ∧ ∀ vs ∈ given, j.value column ∈ vs := by
  match given with
  | none =>
    cases h
    simp
  | some [] => cases h
  | some (v :: vs) =>
    cases h
    simp [accepts_requireAmong]

/-- Every excluded type adds a condition. -/
theorem accepts_foldl_require (types : List RespType) (s : Statement) (j : JoinedRow) :
    (types.foldl (fun s t => s.require .different .respType (.text t.name)) s).accepts j = true ↔
      s.accepts j = true ∧ j.response.spec.respType ∉ types := by
  induction types generalizing s with
  | nil => simp
  | cons t types ih =>
    have hdifferent : Comparison.different.holds (j.value .respType) (.text t.name) = true ↔
        j.response.spec.respType ≠ t := by
      simp [Comparison.holds, JoinedRow.value, RespType.name_inj]
    rw [List.foldl_cons, ih, accepts_require, hdifferent, List.mem_cons, not_or, and_assoc]

/-- A filter has no statement if it leaves no browser. -/
theorem ofFilter?_eq_none_iff {filter : ResultFilter} :
    ofFilter? filter = none ↔ filter.browserIds = some [] := by
  unfold ofFilter?
  match filter.browserIds with
  | none => simp [requireAmong?]
  | some [] => simp [requireAmong?]
  | some (id :: ids) => simp [requireAmong?]

/-- The statement of a filter accepts the rows that the filter selects. -/
theorem accepts_iff {filter : ResultFilter} {s : Statement} (h : ofFilter? filter = some s)
    (j : JoinedRow) :
    s.accepts j = true ↔ filter.Selects j.result.testStatus j.response.spec.respType
      j.result.browserId j.browser.entry.os := by
  obtain ⟨t, ht, heq⟩ := Option.bind_eq_some_iff.1 h
  cases heq
  have hstatus : (∀ v ∈ filter.testStatus.map ColumnValue.integer,
        Comparison.equal.holds (j.value .testStatus) v = true) ↔
      ∀ status ∈ filter.testStatus, j.result.testStatus = status := by
    simp [Comparison.holds, JoinedRow.value]
  have hknown : (∀ v ∈ if filter.excludeUnknownBrowser then
          some (ColumnValue.integer unknownBrowserId) else none,
        Comparison.different.holds (j.value .browserId) v = true) ↔
      (filter.excludeUnknownBrowser = true → j.result.browserId ≠ unknownBrowserId) := by
    cases filter.excludeUnknownBrowser with
    | true => simp [Comparison.holds, JoinedRow.value]
    | false => simp
  have hbrowser : (∀ vs ∈ filter.browserIds.map fun ids => ids.map ColumnValue.integer,
        j.value .browserId ∈ vs) ↔
      ∀ ids ∈ filter.browserIds, j.result.browserId ∈ ids := by
    simp [JoinedRow.value]
  have hos : (∀ v ∈ filter.os.map ColumnValue.text,
        Comparison.equal.holds (j.value .os) v = true) ↔
      ∀ os ∈ filter.os, j.browser.entry.os = os := by
    simp [Comparison.holds, JoinedRow.value]
  have heverything : everything.accepts j = true := rfl
  rw [accepts_requireGiven, accepts_requireAmong? ht, accepts_requireGiven, accepts_foldl_require,
    accepts_requireGiven, hstatus, hknown, hbrowser, hos]
  constructor
  · rintro ⟨⟨⟨⟨⟨-, hstatus⟩, htype⟩, hknown⟩, hbrowser⟩, hos⟩
    exact ⟨hstatus, htype, hknown, hbrowser, hos⟩
  · rintro ⟨hstatus, htype, hknown, hbrowser, hos⟩
    exact ⟨⟨⟨⟨⟨heverything, hstatus⟩, htype⟩, hknown⟩, hbrowser⟩, hos⟩

/-! ## Limits -/

theorem counts_requireGiven (s : Statement) (comparison : Comparison) (column : Column)
    (given : Option ColumnValue) :
    (s.requireGiven comparison column given).values.size = s.values.size + given.toList.length ∧
      (s.requireGiven comparison column given).conditions.length =
        s.conditions.length + given.toList.length := by
  cases given with
  | none => exact ⟨rfl, rfl⟩
  | some v => simp [requireGiven, require]

theorem counts_requireAmong? {s t : Statement} {column : Column}
    {given : Option (List ColumnValue)} (h : s.requireAmong? column given = some t) :
    t.values.size = s.values.size + (given.getD []).length ∧
      t.conditions.length = s.conditions.length + given.toList.length := by
  match given with
  | none =>
    cases h
    exact ⟨rfl, rfl⟩
  | some [] => cases h
  | some (v :: vs) =>
    cases h
    simp [requireAmong, number_eq]

theorem counts_foldl_require (types : List RespType) (s : Statement) :
    let t := types.foldl (fun s t => s.require .different .respType (.text t.name)) s
    t.values.size = s.values.size + types.length ∧
      t.conditions.length = s.conditions.length + types.length := by
  induction types generalizing s with
  | nil => exact ⟨rfl, rfl⟩
  | cons t types ih =>
    obtain ⟨hvalues, hconditions⟩ := ih (s.require .different .respType (.text t.name))
    simp only [List.foldl_cons, List.length_cons]
    rw [hvalues, hconditions]
    simp [require]
    omega

/-- The statement of a filter has the values and the conditions that the filter gives. -/
theorem counts_ofFilter? {filter : ResultFilter} {s : Statement} (h : ofFilter? filter = some s) :
    s.values.size = filter.valueCount ∧ s.conditions.length = filter.conditionCount := by
  obtain ⟨t, ht, heq⟩ := Option.bind_eq_some_iff.1 h
  cases heq
  obtain ⟨hvalues, hconditions⟩ := counts_requireAmong? ht
  have hunknown : (if filter.excludeUnknownBrowser then
      some (ColumnValue.integer unknownBrowserId) else none).toList.length =
        if filter.excludeUnknownBrowser then 1 else 0 := by
    split <;> rfl
  have hbrowser : ((filter.browserIds.map fun ids => ids.map ColumnValue.integer).getD []).length =
      (filter.browserIds.getD []).length := by
    cases filter.browserIds <;> simp
  rw [(counts_requireGiven ..).1, (counts_requireGiven ..).2, hvalues, hconditions,
    (counts_requireGiven ..).1, (counts_requireGiven ..).2, (counts_foldl_require ..).1,
    (counts_foldl_require ..).2, (counts_requireGiven ..).1, (counts_requireGiven ..).2, hunknown,
    hbrowser, ResultFilter.valueCount, ResultFilter.conditionCount]
  simp only [Option.toList_map, List.length_map]
  exact ⟨by simp [everything], by simp [everything]⟩

/-- The greatest number of a value is the number of values. -/
theorem any_parameters_iff (s : Statement) (n : Nat) :
    (s.conditions.flatMap Condition.parameters).any (n < ·) = true ↔ ¬ s.values.size ≤ n := by
  rw [s.numbered, List.any_eq_true]
  constructor
  · rintro ⟨p, hp, hover⟩
    have hover := of_decide_eq_true hover
    have hle := List.mem_range'_1.1 hp
    omega
  · intro hmany
    exact ⟨s.values.size, List.mem_range'_1.2 ⟨by omega, by omega⟩, decide_eq_true (by omega)⟩

theorem maxDepth_lt_depth_iff (n : Nat) : maxDepth < depth (n + 2) ↔ ¬ n ≤ 996 := by
  rw [depth, maxDepth]
  omega

/-- A statement is refused for its values, or for its conditions. As long as there are not too many
of these, all of them are read, so every value is counted. -/
theorem refusal?_eq_none_iff (s : Statement) :
    s.refusal? = none ↔ s.values.size ≤ 32766 ∧ s.conditions.length ≤ 996 := by
  unfold refusal?
  by_cases hfew : s.conditions.length ≤ 996
  · have hread : s.readConditions = s.conditions :=
      List.take_of_length_le (hfew.trans (by decide))
    rw [hread, if_neg ((maxDepth_lt_depth_iff _).not.2 (not_not.2 hfew))]
    by_cases hvalues : s.values.size ≤ 32766
    · rw [if_neg ((s.any_parameters_iff maxParameter).not.2 (not_not.2 hvalues))]
      exact iff_of_true rfl ⟨hvalues, hfew⟩
    · rw [if_pos ((s.any_parameters_iff maxParameter).2 hvalues)]
      exact iff_of_false (Option.some_ne_none _) fun h => hvalues h.1
  · rw [if_pos ((maxDepth_lt_depth_iff _).2 hfew)]
    refine iff_of_false ?_ fun h => hfew h.2
    split <;> exact Option.some_ne_none _

theorem refusal?_eq_none_iff_withinLimits {filter : ResultFilter} {s : Statement}
    (h : ofFilter? filter = some s) : s.refusal? = none ↔ filter.WithinLimits := by
  obtain ⟨hvalues, hconditions⟩ := counts_ofFilter? h
  rw [refusal?_eq_none_iff, hvalues, hconditions]
  exact ⟨fun ⟨h₁, h₂⟩ => ⟨h₁, h₂⟩, fun h => ⟨h.values, h.conditions⟩⟩

end Statement

end ProbeCampaign
