import ProbeCampaign.Capacity
import ProbeCampaign.Datum.Decode

/-!
# Popup buckets

A page that opens many popups is visited once for each bucket of them.
`PopupBucket.split` cuts the popups `1` to `total` into consecutive buckets of
bounded size; the part of the page without popups runs with the first bucket.
The program reserves room for all buckets before it makes the first, and breaks
down where there cannot be as much; `split?` is what it runs.
-/

namespace ProbeCampaign

/-- The popups from `first` to `last` of a page, counted from one, and whether
the page runs its part without popups too. -/
structure PopupBucket where
  first : Nat
  last : Nat
  runNoPopup : Bool
  deriving DecidableEq

namespace PopupBucket

/-- How a URL says whether the part without popups runs. -/
def flag (b : PopupBucket) : String :=
  if b.runNoPopup then "yes" else "no"

/-- The buckets from popup `first` on, each of `size + 1` popups as long as
there are as many. -/
def splitFrom (size total first : Nat) (runNoPopup : Bool) : List PopupBucket :=
  if first ≤ total then
    let last := min (first + size) total
    ⟨first, last, runNoPopup⟩ :: splitFrom size total (last + 1) false
  else []
  termination_by total + 1 - first

/-- Cuts the popups `1` to `total` into buckets of at most `limit`, at least
one. Popups that fit one visit need no bucket. -/
def split (total limit : Nat) : List PopupBucket :=
  if total ≤ limit then [] else splitFrom (limit - 1) total 1 true

/-- The bytes that a bucket takes: two words, and a flag padded to a third. -/
def bytes : Nat := 24

/-- Whether room for a number of buckets can be reserved: the bytes of one piece
of memory are counted by the positive values of 64 signed bits. -/
def hasRoom (buckets : Nat) : Bool :=
  buckets * bytes < capacity 63

/-- The number of buckets of `size` popups that all popups take. -/
def number (total size : Nat) : Nat :=
  if total % size = 0 then total / size else total / size + 1

/-- The buckets of `split`, or none if the program breaks down because room for
them cannot be reserved. -/
def split? (total limit : Nat) : Option (List PopupBucket) :=
  if total ≤ limit then some []
  else if hasRoom (number total (max limit 1)) then some (splitFrom (limit - 1) total 1 true)
  else none

/-- The bucket that a record denotes. -/
def ofDatum? (d : Datum) : Option PopupBucket := do
  let r ← Record.of? ["first_popup", "last_popup", "run_no_popup"] d
  let first ← r.required "first_popup" (Datum.natOfBits? 64)
  let last ← r.required "last_popup" (Datum.natOfBits? 64)
  let runNoPopup ← r.required "run_no_popup" Datum.bool?
  pure ⟨first, last, runNoPopup⟩

/-- The record of a bucket. -/
def toDatum (b : PopupBucket) : Datum :=
  .table [
    ("first_popup", .int b.first),
    ("last_popup", .int b.last),
    ("run_no_popup", .bool b.runNoPopup)]

end PopupBucket

end ProbeCampaign
