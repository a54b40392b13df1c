import ProbeCampaign.Text.CaseTable
import ProbeCampaign.Text.Class

/-!
# Full case mapping

`upperChar` and `lowerChar` give the case forms of one character, which may be
several characters. `upper` and `lower` map a whole text; a capital sigma at
the end of a word becomes a final small sigma in `lower`, which looks at the
text around it, while `lowerChar` never does.
-/

namespace ProbeCampaign.Text

/-- The code point that a run sends `n` to. -/
def inRun (n : Nat) (run : Nat × Nat × Nat × Int) : Option Nat :=
  let (first, last, step, shift) := run
  if first ≤ n ∧ n ≤ last ∧ (n - first) % step = 0 then some (n + shift).toNat else none

/-- The case form of a character by an expansion table and a table of runs. -/
def caseForm (expansions : List (Nat × List Nat)) (runs : List (Nat × Nat × Nat × Int))
    (c : Char) : List Char :=
  match expansions.lookup c.toNat with
  | some ns => ns.map Char.ofNat
  | none =>
    match runs.findSome? (inRun c.toNat) with
    | some n => [Char.ofNat n]
    | none => [c]

/-- The upper-case form of a character. -/
def upperChar (c : Char) : List Char :=
  if c.toNat < 128 then
    [if 'a' ≤ c ∧ c ≤ 'z' then Char.ofNat (c.toNat - 32) else c]
  else caseForm upperExpansions upperRuns c

/-- The lower-case form of a character, wherever it stands. -/
def lowerChar (c : Char) : List Char :=
  if c.toNat < 128 then
    [if 'A' ≤ c ∧ c ≤ 'Z' then Char.ofNat (c.toNat + 32) else c]
  else caseForm lowerExpansions lowerRuns c

/-- The characters begin, after those without effect on case, with a cased one. -/
def meetsCased (cs : List Char) : Bool :=
  match cs.dropWhile fun c => within caseIgnorableIntervals c.toNat with
  | c :: _ => within casedIntervals c.toNat
  | [] => false

/-- Maps the rest of a text to lower case; `before` holds what precedes it, the
nearest character first. -/
def lowerFrom (before : List Char) : List Char → List Char
  | [] => []
  | c :: rest =>
    (if c = 'Σ' then [if meetsCased before && !meetsCased rest then 'ς' else 'σ']
      else lowerChar c) ++ lowerFrom (c :: before) rest

/-- The text in upper case. -/
def upper (s : String) : String :=
  String.ofList (s.toList.flatMap upperChar)

/-- The text in lower case. -/
def lower (s : String) : String :=
  String.ofList (lowerFrom [] s.toList)

end ProbeCampaign.Text
