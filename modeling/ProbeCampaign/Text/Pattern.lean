/-!
# Matching and replacing

A `Pattern` says how many characters of the head of a text it matches; zero
means that it does not match there. Matches in a text are found from left to
right and do not overlap: `replaceAll` exchanges them, `count` counts them and
`removeFirst` removes the first of them.
-/

namespace ProbeCampaign

/-- The length of the match at the head of a text, or zero. -/
abbrev Pattern := List Char → Nat

namespace Pattern

/-- The pattern that matches one fixed text. -/
def literal (text : List Char) : Pattern :=
  fun cs => if text.isPrefixOf cs then text.length else 0

/-- Every match exchanged for a replacement. -/
def replaceAll (p : Pattern) (replacement : List Char) : List Char → List Char
  | [] => []
  | c :: cs =>
    match p (c :: cs) with
    | 0 => c :: replaceAll p replacement cs
    | n + 1 => replacement ++ replaceAll p replacement (cs.drop n)
  termination_by cs => cs.length

/-- The number of matches. -/
def count (p : Pattern) : List Char → Nat
  | [] => 0
  | c :: cs =>
    match p (c :: cs) with
    | 0 => count p cs
    | n + 1 => count p (cs.drop n) + 1
  termination_by cs => cs.length

/-- The text without its first `k` matches. -/
def removeFirst (p : Pattern) : Nat → List Char → List Char
  | 0, cs => cs
  | _ + 1, [] => []
  | k + 1, c :: cs =>
    match p (c :: cs) with
    | 0 => c :: removeFirst p (k + 1) cs
    | n + 1 => removeFirst p k (cs.drop n)
  termination_by _ cs => cs.length

/-- Whether the pattern matches anywhere in a text. -/
def occurs (p : Pattern) : List Char → Bool
  | [] => false
  | c :: cs => p (c :: cs) != 0 || occurs p cs

end Pattern

end ProbeCampaign
