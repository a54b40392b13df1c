/-!
# Sets of texts

`ascending` lists the distinct texts of a list in the order of their code
points.
-/

namespace ProbeCampaign.Text

/-- The distinct texts of a list, ascending. -/
def ascending (ss : List String) : List String :=
  (ss.mergeSort fun a b => decide (a ≤ b)).eraseReps

end ProbeCampaign.Text
