import Mathlib.Tactic
import ProbeCampaign.Proofs.Family.Orders

/-!
# Several values in one response

The responses that a family has with several values are those for each order of its valid values
(`orderForms`), those for each of these values twice (`twiceForms`) and those for each of them with
one of two other values (`mixedForms`), and nothing else (`coe_multipleTests`).
-/

namespace ProbeCampaign.HeaderFamily

open scoped List

/-! ## Forms -/

/-- The headers that set one end of an order of three values or more apart from the others. -/
def splitForms (name : String) (values : List String) : List (List Header) :=
  if 3 ≤ values.length then
    [[(name, values.headD ""), (name, ", ".intercalate values.tail)],
      [(name, ", ".intercalate values.dropLast), (name, values.getLastD "")]]
  else []

/-- The headers that probe an order of values: joined, in headers of their own under names in one
or two cases, and split. -/
def orderForms (name : String) (values : List String) : List (List Header) :=
  [[(name, ", ".intercalate values)],
    [(name, "; ".intercalate values)],
    [(name, " ".intercalate values)],
    values.map fun v => (name, v),
    values.mapIdx fun i v => (if i = 0 then name else Text.upper name, v),
    values.mapIdx fun i v => (if i = 0 then Text.upper name else name, v)] ++
  splitForms name values

/-- The headers that probe a value twice. -/
def twiceForms (name value : String) : List (List Header) :=
  [[(name, value), (name, value)],
    [(name, value ++ ", " ++ value)],
    [(name, value), (name, Text.lower value)],
    [(name, value), (name, Text.upper value)]]

/-- The headers that probe a valid value with an invalid one. -/
def mixedForms (name valid invalid : String) : List (List Header) :=
  [[(name, valid), (name, invalid)],
    [(name, invalid), (name, valid)],
    [(name, valid ++ ", " ++ invalid)],
    [(name, invalid ++ ", " ++ valid)]]

/-! ## Responses for the forms -/

/-- The first value stands under one name, and all others under the other. -/
theorem spreadUnder_eq (f : HeaderFamily) (first other : String) (values : List String) :
    f.spreadUnder first other values =
      f.response (values.mapIdx fun i v => (if i = 0 then first else other, v)) := by
  cases values with
  | nil => rfl
  | cons v rest =>
    have hrest : rest.mapIdx (fun i w => (if i + 1 = 0 then first else other, w)) =
        rest.map fun w => (other, w) := by
      exact List.ext_getElem (by simp) fun i _ _ => by simp
    rw [List.mapIdx_cons, hrest]
    rfl

/-- The ways to split a list of values are told by their forms. -/
theorem splits_eq (f : HeaderFamily) (values : List String) :
    f.splits values = (splitForms f.headerName values).map f.response := by
  cases values with
  | nil => rfl
  | cons first rest =>
    have hlast : (first :: rest).getLast? = some ((first :: rest).getLastD "") := by
      rw [List.getLastD_eq_getLast?, List.getLast?_cons]
      rfl
    unfold splits splitForms
    rw [hlast]
    by_cases hlength : 3 ≤ (first :: rest).length
    · rw [if_pos hlength]
      dsimp only
      rw [if_pos hlength]
      rfl
    · rw [if_neg hlength]
      dsimp only
      rw [if_neg hlength]
      rfl

/-- What is generated for an order of values. -/
def orderTests (f : HeaderFamily) (order : List String) : List ResponseSpec :=
  [f.joined ", " order, f.joined "; " order, f.joined " " order] ++ [f.spread order] ++
    f.splits order ++ [f.spreadUnder f.headerName (Text.upper f.headerName) order,
      f.spreadUnder (Text.upper f.headerName) f.headerName order]

/-- The probes of one order of the values have each form once. The splits stand before the responses
under two names here, and last among the forms. -/
theorem orderTests_perm (f : HeaderFamily) (order : List String) :
    f.orderTests order ~ (orderForms f.headerName order).map f.response := by
  rw [orderTests, splits_eq, spreadUnder_eq, spreadUnder_eq, orderForms, List.map_append,
    List.append_assoc]
  exact List.perm_append_comm.append_left _

/-- The probes of all orders are those of each order, differently arranged. -/
theorem flatMap_orderTests_perm (f : HeaderFamily) (orders : List (List String)) :
    (orders.flatMap fun o => [f.joined ", " o, f.joined "; " o, f.joined " " o]) ++
      orders.map f.spread ++ orders.flatMap f.splits ++
      (orders.flatMap fun o => [f.spreadUnder f.headerName (Text.upper f.headerName) o,
        f.spreadUnder (Text.upper f.headerName) f.headerName o]) ~
    orders.flatMap f.orderTests := by
  rw [List.map_eq_flatMap]
  refine ((List.flatMap_append_perm _ _ _).append_right _ |>.append_right _).trans ?_
  refine ((List.flatMap_append_perm _ _ _).append_right _).trans ?_
  exact List.flatMap_append_perm _ _ _

theorem duplicates_eq (f : HeaderFamily) (value : String) :
    f.duplicates value = (twiceForms f.headerName value).map f.response := rfl

theorem mixtures_eq (f : HeaderFamily) (valid invalid : String) :
    f.mixtures valid invalid = (mixedForms f.headerName valid invalid).map f.response := rfl

/-- The probes of several values are of every order, of every value twice, and of valid with invalid
values. -/
theorem multipleTests_perm (f : HeaderFamily) :
    f.multipleTests ~ ((permutations f.validValues).flatMap (orderForms f.headerName) ++
      f.validValues.flatMap (twiceForms f.headerName) ++
      f.validValues.flatMap fun v =>
        (f.otherValues.take 2).flatMap (mixedForms f.headerName v)).map f.response := by
  -- The responses with a value twice stand before the last ones for orders.
  have hswap : ∀ front twice under mixed : List ResponseSpec,
      front ++ twice ++ under ++ mixed ~ front ++ under ++ twice ++ mixed := by
    intro front twice under mixed
    rw [List.append_assoc front twice, List.append_assoc front under]
    exact (List.perm_append_comm.append_left front).append_right mixed
  have horders := (f.flatMap_orderTests_perm (permutations f.validValues)).trans
    (List.Perm.flatMap_left _ fun order _ => f.orderTests_perm order)
  rw [List.map_append, List.map_append, List.map_flatMap, List.map_flatMap, List.map_flatMap]
  simp only [List.map_flatMap, ← duplicates_eq, ← mixtures_eq]
  exact (hswap _ _ _ _).trans ((horders.append_right _).append_right _)

/-- The responses with several values are the forms for every order of the positions of valid
values, for every valid value twice, and for every valid value with each of the first two other
values. Each of them occurs once, in a plain response with the accompanying headers behind it. -/
theorem coe_multipleTests (f : HeaderFamily) :
    (f.multipleTests : Multiset ResponseSpec) =
      ((∑ σ : Equiv.Perm (Fin f.validValues.length),
          (orderForms f.headerName (arranged f.validValues σ) : Multiset (List Header))) +
        f.validValues.flatMap (twiceForms f.headerName) +
        f.validValues.flatMap fun v =>
          (f.otherValues.take 2).flatMap (mixedForms f.headerName v)).map
      fun headers => ⟨headers ++ f.baseResp, 200, f.label, .parsing⟩ := by
  have horders : ((permutations f.validValues).flatMap (orderForms f.headerName) :
      Multiset (List Header)) = ∑ σ : Equiv.Perm (Fin f.validValues.length),
        (orderForms f.headerName (arranged f.validValues σ) : Multiset (List Header)) := by
    rw [← Multiset.coe_bind, coe_permutations, Multiset.bind_map]
    rfl
  rw [← horders, Multiset.coe_add, Multiset.coe_add, Multiset.map_coe]
  exact Multiset.coe_eq_coe.2 f.multipleTests_perm

end ProbeCampaign.HeaderFamily
