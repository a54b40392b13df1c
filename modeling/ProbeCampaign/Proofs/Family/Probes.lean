import Mathlib.Tactic
import ProbeCampaign.Family.Probes

/-!
# The responses of families

Whichever way a response of a family is generated, it is made by `responseWith`: it has the label of
the family, probes parsing and ends in the headers that accompany the family (`makes_of_mem_tests`).
So do those of several headers together (`exists_round_of_mem_tests`), and a fixed corpus is made of
debug and basic responses under its label (`label_of_mem_specs`).
-/

namespace ProbeCampaign

namespace HeaderFamily

variable {f : HeaderFamily} {spec : ResponseSpec}

/-- A response is one of the family, with some status code and some headers before those that
accompany the family. -/
def Makes (f : HeaderFamily) (spec : ResponseSpec) : Prop :=
  ∃ status headers, spec = f.responseWith status headers

theorem Makes.label (h : f.Makes spec) : spec.label = f.label := by
  obtain ⟨status, headers, rfl⟩ := h
  rfl

theorem Makes.respType (h : f.Makes spec) : spec.respType = .parsing := by
  obtain ⟨status, headers, rfl⟩ := h
  rfl

theorem makes_response (f : HeaderFamily) (headers : List Header) : f.Makes (f.response headers) :=
  ⟨200, headers, rfl⟩

theorem makes_single (f : HeaderFamily) (value : String) : f.Makes (f.single value) :=
  f.makes_response _

theorem makes_spread (f : HeaderFamily) (values : List String) : f.Makes (f.spread values) :=
  f.makes_response _

theorem makes_spreadUnder (f : HeaderFamily) (first other : String) (values : List String) :
    f.Makes (f.spreadUnder first other values) := by
  cases values with
  | nil => exact f.makes_response _
  | cons v rest => exact f.makes_response _

/-- The probes of names are of the form that the family makes. -/
theorem makes_of_mem_nameTests (h : spec ∈ f.nameTests) : f.Makes spec := by
  unfold nameTests at h
  obtain ⟨value, -, h⟩ := List.mem_flatMap.1 h
  obtain ⟨name, -, rfl⟩ := List.mem_map.1 h
  exact f.makes_response _

/-- The probes of single values are of that form. -/
theorem makes_of_mem_valueTests {redirect : Header} (h : spec ∈ f.valueTests redirect) :
    f.Makes spec := by
  unfold valueTests at h
  rcases List.mem_append.1 h with h | h
  · obtain ⟨value, -, rfl⟩ := List.mem_map.1 h
    exact f.makes_single value
  · obtain ⟨value, -, h⟩ := List.mem_flatMap.1 h
    rcases List.mem_append.1 h with h | h
    · obtain ⟨code, -, rfl⟩ := List.mem_map.1 h
      exact ⟨code, _, rfl⟩
    · obtain ⟨changed, -, rfl⟩ := List.mem_map.1 h
      exact f.makes_single changed

/-- The probes that spread values over headers are of that form. -/
theorem makes_of_mem_splits {values : List String} (h : spec ∈ f.splits values) :
    f.Makes spec := by
  unfold splits at h
  split at h
  · split at h
    · simp only [List.mem_cons, List.not_mem_nil, or_false] at h
      rcases h with rfl | rfl
      · exact f.makes_spread _
      · exact f.makes_spread _
    · exact absurd h List.not_mem_nil
  · exact absurd h List.not_mem_nil

/-- The probes with a value twice are of that form. -/
theorem makes_of_mem_duplicates {value : String} (h : spec ∈ f.duplicates value) :
    f.Makes spec := by
  simp only [duplicates, List.mem_cons, List.not_mem_nil, or_false] at h
  rcases h with rfl | rfl | rfl | rfl
  · exact f.makes_spread _
  · exact f.makes_single _
  · exact f.makes_spread _
  · exact f.makes_spread _

/-- The probes that mix valid and invalid values are of that form. -/
theorem makes_of_mem_mixtures {valid invalid : String} (h : spec ∈ f.mixtures valid invalid) :
    f.Makes spec := by
  simp only [mixtures, List.mem_cons, List.not_mem_nil, or_false] at h
  rcases h with rfl | rfl | rfl | rfl
  · exact f.makes_spread _
  · exact f.makes_spread _
  · exact f.makes_single _
  · exact f.makes_single _

/-- The probes of several values are of that form, in each way to put them into one response. -/
theorem makes_of_mem_multipleTests (h : spec ∈ f.multipleTests) : f.Makes spec := by
  simp only [multipleTests, List.mem_append, List.mem_flatMap, List.mem_map, List.mem_cons,
    List.not_mem_nil, or_false] at h
  rcases h with ((((h | h) | h) | h) | h) | h
  · obtain ⟨order, -, rfl | rfl | rfl⟩ := h
    · exact f.makes_single _
    · exact f.makes_single _
    · exact f.makes_single _
  · obtain ⟨order, -, rfl⟩ := h
    exact f.makes_spread order
  · obtain ⟨order, -, h⟩ := h
    exact makes_of_mem_splits h
  · obtain ⟨value, -, h⟩ := h
    exact makes_of_mem_duplicates h
  · obtain ⟨order, -, rfl | rfl⟩ := h
    · exact f.makes_spreadUnder _ _ _
    · exact f.makes_spreadUnder _ _ _
  · obtain ⟨valid, -, invalid, -, h⟩ := h
    exact makes_of_mem_mixtures h

/-- So are all probes of a family. -/
theorem makes_of_mem_tests {redirect : Header} (h : spec ∈ f.tests redirect) : f.Makes spec := by
  unfold tests at h
  rcases List.mem_append.1 h with h | h
  · rcases List.mem_append.1 h with h | h
    · exact makes_of_mem_nameTests h
    · exact makes_of_mem_valueTests h
  · exact makes_of_mem_multipleTests h

end HeaderFamily

/-- Every probe of several headers is a round of some choice of names. -/
theorem MultiHeaderFamily.exists_round_of_mem_tests {f : MultiHeaderFamily} {spec : ResponseSpec}
    (h : spec ∈ f.tests) : ∃ chosen i, spec = f.round chosen i := by
  unfold tests at h
  split at h
  · exact absurd h List.not_mem_nil
  · obtain ⟨order, -, h⟩ := List.mem_flatMap.1 h
    obtain ⟨chosen, -, h⟩ := List.mem_flatMap.1 h
    obtain ⟨i, -, rfl⟩ := List.mem_map.1 h
    exact ⟨chosen, i, rfl⟩

/-- A response of a fixed corpus has its label, and its type is debug or basic. -/
theorem BasicCorpus.label_of_mem_specs {c : BasicCorpus} {redirect : Header} {spec : ResponseSpec}
    (h : spec ∈ c.specs redirect) :
    spec.label = c.label ∧ (spec.respType = .debug ∨ spec.respType = .basic) := by
  unfold specs at h
  rcases List.mem_append.1 h with h | h
  · rcases List.mem_append.1 h with h | h
    · obtain ⟨headers, -, rfl⟩ := List.mem_map.1 h
      exact ⟨rfl, Or.inl rfl⟩
    · obtain ⟨headers, -, rfl⟩ := List.mem_map.1 h
      exact ⟨rfl, Or.inr rfl⟩
  · obtain ⟨headers, -, rfl⟩ := List.mem_map.1 h
    exact ⟨rfl, Or.inr rfl⟩

end ProbeCampaign
