/-!
# Self-describing data

`Datum` is the tree of scalars, lists and tables that both document formats of
the project read and write. A table keeps its entries in the order of the text,
repetitions included, so that a reader may refuse a repeated field; `canonical`
forgets the order.
-/

namespace ProbeCampaign

/-- A tree of scalars, lists and tables. A number with a fraction or an exponent
is kept as a text, and so is one of more than 64 bits. -/
inductive Datum where
  | null
  | bool (b : Bool)
  | int (n : Int)
  | real (literal : String)
  | text (s : String)
  | list (items : List Datum)
  | table (entries : List (String × Datum))
  deriving Inhabited

namespace Datum

/-- The datum of an optional value. -/
def ofOption {α : Type} (f : α → Datum) : Option α → Datum
  | none => .null
  | some a => f a

/-- A list of texts. -/
def texts (ss : List String) : Datum :=
  .list (ss.map .text)

mutual

/-- Equality of trees, entry by entry. -/
def beq : Datum → Datum → Bool
  | .null, .null => true
  | .bool a, .bool b => a == b
  | .int a, .int b => a == b
  | .real a, .real b => a == b
  | .text a, .text b => a == b
  | .list xs, .list ys => beqItems xs ys
  | .table xs, .table ys => beqEntries xs ys
  | _, _ => false

/-- Equality of item lists. -/
def beqItems : List Datum → List Datum → Bool
  | [], [] => true
  | x :: xs, y :: ys => beq x y && beqItems xs ys
  | _, _ => false

/-- Equality of entry lists. -/
def beqEntries : List (String × Datum) → List (String × Datum) → Bool
  | [], [] => true
  | (j, x) :: xs, (k, y) :: ys => j == k && beq x y && beqEntries xs ys
  | _, _ => false

end

instance : BEq Datum := ⟨beq⟩

/-- Puts an entry into an ascending table; an entry of the same key is replaced. -/
def insertEntry {α : Type} (key : String) (value : α) :
    List (String × α) → List (String × α)
  | [] => [(key, value)]
  | (k, v) :: rest =>
    if key < k then (key, value) :: (k, v) :: rest
    else if key = k then (key, value) :: rest
    else (k, v) :: insertEntry key value rest

mutual

/-- The same tree with every table ascending by key, the last of repeated
entries kept. -/
def canonical : Datum → Datum
  | .list items => .list (canonicalItems items)
  | .table entries => .table (canonicalEntries entries [])
  | d => d

/-- `canonical` on each item. -/
def canonicalItems : List Datum → List Datum
  | [] => []
  | d :: ds => canonical d :: canonicalItems ds

/-- Inserts the entries one after the other into an ascending table. -/
def canonicalEntries : List (String × Datum) → List (String × Datum) → List (String × Datum)
  | [], acc => acc
  | (k, d) :: rest, acc => canonicalEntries rest (insertEntry k (canonical d) acc)

end

end Datum

end ProbeCampaign
