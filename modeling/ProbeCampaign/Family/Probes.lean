import ProbeCampaign.Family
import ProbeCampaign.Mutation

/-!
# The parsing corpus of a family

Which responses probe a header family: its valid values under many names
(`nameTests`), all values and many changes of them under the one name
(`valueTests`), and several values in one response (`multipleTests`). For
several headers together, `MultiHeaderFamily.tests` takes every order of them.
-/

namespace ProbeCampaign

/-- Every way to take one element out of a list, with the rest in order. -/
def selections {α : Type} : List α → List (α × List α)
  | [] => []
  | a :: rest => (a, rest) :: (selections rest).map fun (b, others) => (b, a :: others)

/-- The orders of `n` elements of a list, the earliest element first. -/
def arrangements {α : Type} : Nat → List α → List (List α)
  | 0, _ => [[]]
  | n + 1, l => (selections l).flatMap fun (a, rest) => (arrangements n rest).map (a :: ·)

/-- The orders of a list, lexicographic by position. -/
def permutations {α : Type} (l : List α) : List (List α) :=
  arrangements l.length l

/-- One choice from each list, the last varying fastest. -/
def choices {α : Type} : List (List α) → List (List α)
  | [] => [[]]
  | l :: rest => l.flatMap fun a => (choices rest).map (a :: ·)

/-- The status codes that each valid value is also served with. -/
def probedStatusCodes : List UInt16 :=
  [201, 203, 204, 300, 302, 400, 403, 404, 418, 500]

/-- The number of invalid values that valid ones are mixed with. -/
def invalidSweep : Nat := 2

namespace HeaderFamily

/-- A response with a status code and the given headers before those of every
response. -/
def responseWith (f : HeaderFamily) (status : UInt16) (headers : List Header) : ResponseSpec :=
  ⟨headers ++ f.baseResp, status, f.label, .parsing⟩

/-- A plain response with the given headers before those of every response. -/
def response (f : HeaderFamily) (headers : List Header) : ResponseSpec :=
  f.responseWith 200 headers

/-- A response with one value under the canonical name. -/
def single (f : HeaderFamily) (value : String) : ResponseSpec :=
  f.response [(f.headerName, value)]

/-- Valid values under the canonical, the alternative and the changed names. -/
def nameTests (f : HeaderFamily) : List ResponseSpec :=
  let names := f.headerName :: (f.altNames ++ Mutation.outputs Mutation.general f.headerName)
  f.validValues.flatMap fun value => names.map fun name => f.response [(name, value)]

/-- A valid value with one of the other status codes, and with a target if the
code redirects. -/
def statusTest (f : HeaderFamily) (redirect : Header) (value : String) (code : UInt16) :
    ResponseSpec :=
  f.responseWith code
    ((f.headerName, value) :: if 300 ≤ code ∧ code < 400 then [redirect] else [])

/-- Legacy and other values as they are, valid values with other status codes
and with every change. -/
def valueTests (f : HeaderFamily) (redirect : Header) : List ResponseSpec :=
  (f.legacyValues ++ f.otherValues).map f.single ++
  f.validValues.flatMap fun value =>
    probedStatusCodes.map (f.statusTest redirect value) ++
    (Mutation.outputs Mutation.general value).map f.single

/-- Values joined in one header. -/
def joined (f : HeaderFamily) (separator : String) (values : List String) : ResponseSpec :=
  f.single (separator.intercalate values)

/-- Values in headers of their own. -/
def spread (f : HeaderFamily) (values : List String) : ResponseSpec :=
  f.response (values.map fun v => (f.headerName, v))

/-- Values in headers of their own, the first under one name and the rest under
another. -/
def spreadUnder (f : HeaderFamily) (first other : String) : List String → ResponseSpec
  | [] => f.response []
  | v :: rest => f.response ((first, v) :: rest.map fun w => (other, w))

/-- The first value apart from the rest, and the last apart from those before. -/
def splits (f : HeaderFamily) (values : List String) : List ResponseSpec :=
  match values, values.getLast? with
  | first :: rest, some last =>
    if 3 ≤ values.length then
      [f.spread [first, ", ".intercalate rest],
        f.spread [", ".intercalate values.dropLast, last]]
    else []
  | _, _ => []

/-- A value twice: in two headers, in one, and once in another case. -/
def duplicates (f : HeaderFamily) (value : String) : List ResponseSpec :=
  [f.spread [value, value], f.joined ", " [value, value], f.spread [value, Text.lower value],
    f.spread [value, Text.upper value]]

/-- A valid and an invalid value in both orders, apart and joined. -/
def mixtures (f : HeaderFamily) (valid invalid : String) : List ResponseSpec :=
  [f.spread [valid, invalid], f.spread [invalid, valid], f.joined ", " [valid, invalid],
    f.joined ", " [invalid, valid]]

/-- Several values in one response. -/
def multipleTests (f : HeaderFamily) : List ResponseSpec :=
  let orders := permutations f.validValues
  let upper := Text.upper f.headerName
  (orders.flatMap fun o => [f.joined ", " o, f.joined "; " o, f.joined " " o]) ++
  orders.map f.spread ++
  orders.flatMap f.splits ++
  f.validValues.flatMap f.duplicates ++
  (orders.flatMap fun o =>
    [f.spreadUnder f.headerName upper o, f.spreadUnder upper f.headerName o]) ++
  (f.validValues.flatMap fun v => (f.otherValues.take invalidSweep).flatMap (f.mixtures v))

/-- Every response of the family, in order. -/
def tests (f : HeaderFamily) (redirect : Header) : List ResponseSpec :=
  f.nameTests ++ f.valueTests redirect ++ f.multipleTests

end HeaderFamily

namespace MultiHeaderFamily

/-- The response of round `i`: each header under its chosen name with its value
of that round. -/
def round (f : MultiHeaderFamily) (chosen : List (String × List String)) (i : Nat) :
    ResponseSpec :=
  let headers := chosen.map fun (name, values) => (name, values.getD (i % values.length) "")
  ⟨headers ++ f.baseResp, 200, f.label, .parsing⟩

/-- The number of rounds until every value has been used. -/
def rounds (f : MultiHeaderFamily) : Nat :=
  (f.headers.map fun h => h.2.length).foldl max 0

/-- Every order of the headers, every choice of changed names and every round;
nothing if a header has no values. -/
def tests (f : MultiHeaderFamily) : List ResponseSpec :=
  if f.headers.any fun h => h.2.isEmpty then []
  else
    let variants := f.headers.map fun (name, values) =>
      (Mutation.outputs Mutation.basic name).map fun n => (n, values)
    (permutations variants).flatMap fun order =>
      (choices order).flatMap fun chosen =>
        (List.range f.rounds).map (f.round chosen)

end MultiHeaderFamily

end ProbeCampaign
