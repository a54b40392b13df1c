import ProbeCampaign.Text.ClassTable

/-!
# Character classes

`isWord`, `isDigit` and `isSpace` are the classes of letters-and-digits, of
decimal digits and of white space over all of Unicode; `trim` removes white
space at both ends.
-/

namespace ProbeCampaign.Text

/-- Membership of a code point in a list of intervals, both ends included. -/
def within (intervals : List (Nat × Nat)) (n : Nat) : Bool :=
  intervals.any fun (lo, hi) => lo ≤ n && n ≤ hi

/-- A letter or decimal digit of ASCII. -/
def isAsciiAlnum (c : Char) : Bool :=
  ('0' ≤ c && c ≤ '9') || ('A' ≤ c && c ≤ 'Z') || ('a' ≤ c && c ≤ 'z')

/-- A letter, mark, decimal digit, connector or joiner. -/
def isWord (c : Char) : Bool :=
  if c.toNat < 128 then isAsciiAlnum c || c == '_' else within wordIntervals c.toNat

/-- A decimal digit of any script. -/
def isDigit (c : Char) : Bool :=
  if c.toNat < 128 then '0' ≤ c && c ≤ '9' else within digitIntervals c.toNat

/-- White space. -/
def isSpace (c : Char) : Bool :=
  within spaceIntervals c.toNat

/-- The text without white space at its start. -/
def trimStart (cs : List Char) : List Char :=
  cs.dropWhile isSpace

/-- The text without white space at its ends. -/
def trim (cs : List Char) : List Char :=
  (trimStart (trimStart cs).reverse).reverse

end ProbeCampaign.Text
