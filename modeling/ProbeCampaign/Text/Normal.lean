import ProbeCampaign.Text.NormalTable

/-!
# Canonical normal form

`compose` brings a text into its canonical composed form: every character is
decomposed, the marks after each base are put in the order of their classes,
and neighbours that have a composite are joined, each mark with its base unless
a mark of the same or a higher class stands between.
-/

namespace ProbeCampaign.Text.Normal

/-- The combining class of a code point; zero for a base. -/
def combiningClass (n : Nat) : Nat :=
  (combiningClasses.findSome? fun
    | [k, first, last] => if first ≤ n ∧ n ≤ last then some k else none
    | _ => none).getD 0

/-- The full decomposition of a code point. A syllable of the Korean block is
given by its index: 28 finals for each of 21 vowels for each initial. -/
def decomposeOne (n : Nat) : List Nat :=
  if n < 0xC0 then [n]
  else if 0xAC00 ≤ n ∧ n < 0xD7A4 then
    let s := n - 0xAC00
    let final := s % 28
    [0x1100 + s / 588, 0x1161 + s % 588 / 28] ++ if final = 0 then [] else [0x11A7 + final]
  else
    (decompositions.findSome? fun
      | c :: parts => if c = n then some parts else none
      | [] => none).getD [n]

/-- The composite of two code points. -/
def composite? (a b : Nat) : Option Nat :=
  if 0x1100 ≤ a ∧ a < 0x1113 ∧ 0x1161 ≤ b ∧ b < 0x1176 then
    some (0xAC00 + ((a - 0x1100) * 21 + (b - 0x1161)) * 28)
  else if 0xAC00 ≤ a ∧ a < 0xD7A4 ∧ (a - 0xAC00) % 28 = 0 ∧ 0x11A7 < b ∧ b < 0x11C3 then
    some (a + (b - 0x11A7))
  else
    compositions.findSome? fun
      | [x, y, c] => if x = a ∧ y = b then some c else none
      | _ => none

/-- Puts the marks gathered so far, then the rest, in order. -/
def reorder : List (Nat × Nat) → List Nat → List Nat
  | gathered, [] => (gathered.mergeSort fun x y => x.1 ≤ y.1).map Prod.snd
  | gathered, n :: rest =>
    let k := combiningClass n
    if k = 0 then
      (gathered.mergeSort fun x y => x.1 ≤ y.1).map Prod.snd ++ n :: reorder [] rest
    else reorder (gathered ++ [(k, n)]) rest

/-- Joins composites. `base` is the last base, `between` the marks after it that
stay, in order, and `last` the class of the last of them. -/
def join : Option Nat → List Nat → Nat → List Nat → List Nat
  | base, between, _, [] => base.toList ++ between
  | none, between, _, n :: rest =>
    if combiningClass n = 0 then between ++ join (some n) [] 0 rest
    else join none (between ++ [n]) 0 rest
  | some b, between, last, n :: rest =>
    let k := combiningClass n
    let free := between = [] ∨ last < k
    match if free then composite? b n else none with
    | some c => join (some c) between last rest
    | none =>
      if k = 0 then b :: between ++ join (some n) [] 0 rest
      else join (some b) (between ++ [n]) k rest

/-- The composed form of a text. -/
def compose (cs : List Char) : List Char :=
  if cs.all (·.toNat < 128) then cs
  else (join none [] 0 (reorder [] (cs.flatMap fun c => decomposeOne c.toNat))).map Char.ofNat

end ProbeCampaign.Text.Normal
