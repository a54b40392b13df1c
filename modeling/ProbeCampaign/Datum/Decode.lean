import ProbeCampaign.Capacity
import ProbeCampaign.Datum

/-!
# Reading records from data

A record is a table of named fields or a list of its fields in declaration
order. `Record` is the common view of both forms; `required`, `optional` and
`defaulted` are the three rules for a field that may be absent. Unknown fields
are ignored and a known field given twice is refused. Integers must lie in the
range of the field.
-/

namespace ProbeCampaign

namespace Datum

/-- The truth value. -/
def bool? : Datum → Option Bool
  | .bool b => some b
  | _ => none

/-- The text. -/
def text? : Datum → Option String
  | .text s => some s
  | _ => none

/-- A text of exactly one character. -/
def char? : Datum → Option Char
  | .text s =>
    match s.toList with
    | [c] => some c
    | _ => none
  | _ => none

/-- An integer between two bounds, both included. -/
def intWithin? (lo hi : Int) : Datum → Option Int
  | .int n => if lo ≤ n ∧ n ≤ hi then some n else none
  | _ => none

/-- A natural number of at most the given number of bits. -/
def natOfBits? (bits : Nat) : Datum → Option Nat
  | .int n => if 0 ≤ n ∧ n < (capacity bits : Int) then some n.toNat else none
  | _ => none

/-- A signed integer of 64 bits. -/
def int64? : Datum → Option Int :=
  intWithin? (-(capacity 63 : Int)) ((capacity 63 : Int) - 1)

/-- The items of a list, each read by `item?`. -/
def list? {α : Type} (item? : Datum → Option α) : Datum → Option (List α)
  | .list items => items.mapM item?
  | _ => none

/-- A list of exactly two items. -/
def pair? {α β : Type} (first? : Datum → Option α) (second? : Datum → Option β) :
    Datum → Option (α × β)
  | .list [a, b] => do
    let x ← first? a
    let y ← second? b
    pure (x, y)
  | _ => none

/-- The entries of a table in order, each value read by `value?`. -/
def entries? {α : Type} (value? : Datum → Option α) : Datum → Option (List (String × α))
  | .table entries => entries.mapM fun (k, d) => (value? d).map (k, ·)
  | _ => none

/-- A table as an ascending map; the last of repeated keys counts. -/
def map? {α : Type} (value? : Datum → Option α) (d : Datum) : Option (List (String × α)) :=
  (d.entries? value?).map (·.foldl (fun acc (k, v) => insertEntry k v acc) [])

/-- The name of a choice: a text, or a table of that one name with nothing in it. -/
def choice? : Datum → Option String
  | .text s => some s
  | .table [(s, .null)] => some s
  | _ => none

/-- Absent values read as `none`. -/
def option? {α : Type} (value? : Datum → Option α) : Datum → Option (Option α)
  | .null => some none
  | d => (value? d).map some

end Datum

/-- The fields of a record as given, and whether they were given by position. -/
structure Record where
  entries : List (String × Datum)
  byPosition : Bool

namespace Record

/-- No name is the key of two entries. -/
def repeats (names : List String) (entries : List (String × Datum)) : Bool :=
  names.any fun n => 1 < entries.countP (fun e => e.1 == n)

/-- The view of a datum as a record with the fields `names`. -/
def of? (names : List String) : Datum → Option Record
  | .table entries => if repeats names entries then none else some ⟨entries, false⟩
  | .list items => if items.length ≤ names.length then some ⟨names.zip items, true⟩ else none
  | _ => none

/-- The datum given for a field. -/
def get? (r : Record) (name : String) : Option Datum :=
  r.entries.lookup name

/-- A field that must be given. -/
def required {α : Type} (r : Record) (name : String) (read? : Datum → Option α) : Option α :=
  r.get? name >>= read?

/-- A field that stands for `fallback` when it is not given. -/
def defaulted {α : Type} (r : Record) (name : String) (read? : Datum → Option α)
    (fallback : α) : Option α :=
  match r.get? name with
  | some d => read? d
  | none => some fallback

/-- An optional field: absent or null is `none`, but a list of fields has to
reach it. -/
def optional {α : Type} (r : Record) (name : String) (read? : Datum → Option α) :
    Option (Option α) :=
  match r.get? name with
  | some d => d.option? read?
  | none => if r.byPosition then none else some none

end Record

end ProbeCampaign
