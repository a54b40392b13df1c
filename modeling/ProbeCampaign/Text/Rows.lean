import ProbeCampaign.Text.Hex

/-!
# Tables written as text

A large table is a text of rows between blanks or line breaks; a row is
hexadecimal numbers joined by colons. `rows` reads such a text, `covers` looks a
number up in rows that are intervals.
-/

namespace ProbeCampaign.Text

/-- The numbers of one row. -/
def row (cs : List Char) : List Nat :=
  (cs.splitOn ':').map fun digits => (Hex.number? digits).getD 0

/-- The rows of a table. -/
def rows (table : String) : List (List Nat) :=
  ((table.toList.splitOnP fun c => c == ' ' || c == '\n').filter (· ≠ [])).map row

/-- Whether a number lies in one of the intervals. -/
def covers (intervals : List (List Nat)) (n : Nat) : Bool :=
  intervals.any fun
    | [a] => n == a
    | [a, b] => a ≤ n && n ≤ b
    | _ => false

end ProbeCampaign.Text
