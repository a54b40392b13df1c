import ProbeCampaign.Store.Connection

/-!
# A snapshot of response ids

A `ResponseIndex` remembers the answer to the first lookup of each label and
type, so that later writes do not show. A lookup that fails counts as an answer
without ids.
-/

namespace ProbeCampaign

/-- The remembered answers, the latest first, and the number of lookups. -/
structure ResponseIndex where
  answers : List ((String × RespType) × List Int)
  storeLookups : Nat

namespace ResponseIndex

/-- An index that has asked for nothing. -/
def empty : ResponseIndex :=
  ⟨[], 0⟩

/-- The distinct ids of an answer, ascending; none if it is a failure. -/
def settle : Except Failure (List Int) → List Int
  | .ok ids => (ids.mergeSort fun a b => decide (a ≤ b)).eraseReps
  | .error _ => []

/-- The ids of the responses of a label and type. -/
def ids (index : ResponseIndex) (c : Connection) (label : String) (respType : RespType) :
    List Int × ResponseIndex × Connection :=
  match index.answers.lookup (label, respType) with
  | some known => (known, index, c)
  | none =>
    let (answer, called) := c.lookup label respType
    let found := settle answer
    (found, ⟨((label, respType), found) :: index.answers, index.storeLookups + 1⟩, called)

end ResponseIndex

end ProbeCampaign
