import ProbeCampaign.Datum.Decode

/-!
# Ranges of response ids

`IdRange.chunk` cuts a list of ids into runs of neighbours of bounded length,
in order. Ids are integers of 64 bits; the id after the largest is the smallest.
-/

namespace ProbeCampaign

/-- The integer of 64 bits, signed, that agrees with `n` modulo the number of
them. -/
def wrapInt64 (n : Int) : Int :=
  Int.bmod n (capacity 64)

/-- The ids from `first` to `last`, both included. -/
structure IdRange where
  first : Int
  last : Int
  deriving DecidableEq

namespace IdRange

/-- The number of ids, counted in 64 bits. -/
def size (r : IdRange) : Nat :=
  ((r.last - r.first + 1) % (capacity 64 : Int)).toNat

/-- No id lies in the range. -/
def isEmpty (r : IdRange) : Bool :=
  r.last < r.first

/-- The ids of the range, ascending. -/
def ids (r : IdRange) : List Int :=
  (List.range (r.last - r.first + 1).toNat).map fun (k : Nat) => r.first + (k : Int)

/-- Extends the run from `start` to `previous`, which has `count` ids, by the
ids that follow, and begins a new run where one does not follow or the run is
full. -/
def extendRun (maxRun : Nat) (start previous : Int) (count : Nat) : List Int → List IdRange
  | [] => [⟨start, previous⟩]
  | id :: rest =>
    if id = wrapInt64 (previous + 1) ∧ count < maxRun then
      extendRun maxRun start id (count + 1) rest
    else ⟨start, previous⟩ :: extendRun maxRun id id 1 rest

/-- Cuts a list of ids into runs of at most `maxRun` ids, at least one. -/
def chunk (ids : List Int) (maxRun : Nat) : List IdRange :=
  match ids with
  | [] => []
  | first :: rest => extendRun (max maxRun 1) first first 1 rest

/-- The range that a record denotes. -/
def ofDatum? (d : Datum) : Option IdRange := do
  let r ← Record.of? ["first", "last"] d
  let first ← r.required "first" Datum.int64?
  let last ← r.required "last" Datum.int64?
  pure ⟨first, last⟩

/-- The record of a range. -/
def toDatum (r : IdRange) : Datum :=
  .table [("first", .int r.first), ("last", .int r.last)]

end IdRange

end ProbeCampaign
