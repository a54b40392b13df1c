import ProbeCampaign.Text.Decimal
import ProbeCampaign.Text.Hex

/-!
# IPv6 addresses

`parse?` reads the text between the brackets of a host as eight pieces of 16
bits: groups of up to four hexadecimal digits between colons, at most one gap
written as two colons, and the last two pieces possibly as four decimal bytes.
`render` writes the longest run of at least two zero pieces, the first of equal
ones, as the gap.
-/

namespace ProbeCampaign.Ipv6

/-- A decimal byte without a leading zero. -/
def octet? (cs : List Char) : Option Nat :=
  if (cs.length > 1 ∧ cs.head? = some '0') ∨ 3 < cs.length then none
  else (Decimal.digits? cs).filter (· ≤ 255)

/-- The two pieces of four decimal bytes. -/
def embedded? (cs : List Char) : Option (List Nat) := do
  match ← (cs.splitOn '.').mapM octet? with
  | [a, b, c, d] => pure [256 * a + b, 256 * c + d]
  | _ => none

/-- Reads the pieces from `cs` on, after the pieces `seen`. The gap is the
number of pieces up to and with the zero piece that stands for it. -/
def readPieces : Nat → List Nat → Option Nat → List Char → Option (List Nat × Option Nat)
  | _, seen, gap, [] => some (seen, gap)
  | 0, _, _, _ => none
  | fuel + 1, seen, gap, c :: cs =>
    if seen.length = 8 then none
    else if c = ':' then
      if gap.isSome then none else readPieces fuel (seen ++ [0]) (some (seen.length + 1)) cs
    else
      let group := ((c :: cs).take 4).takeWhile fun d => (Hex.value? d).isSome
      let rest := (c :: cs).drop group.length
      match Hex.number? group with
      | none => none
      | some n =>
        match rest with
        | [] => some (seen ++ [n], gap)
        | ':' :: d :: rest' => readPieces fuel (seen ++ [n]) gap (d :: rest')
        | '.' :: _ =>
          if group = [] ∨ 6 < seen.length then none
          else (embedded? (c :: cs)).map fun pieces => (seen ++ pieces, gap)
        | _ => none

/-- The eight pieces, the gap filled with zeros. -/
def fill? : List Nat × Option Nat → Option (List Nat)
  | (seen, none) => if seen.length = 8 then some seen else none
  | (seen, some gap) =>
    if seen.length ≤ 8 then
      some (seen.take gap ++ List.replicate (8 - seen.length) 0 ++ seen.drop gap)
    else none

/-- The eight pieces that a text denotes. -/
def parse? (cs : List Char) : Option (List Nat) :=
  match cs with
  | ':' :: ':' :: rest => readPieces (rest.length + 1) [0] (some 1) rest >>= fill?
  | ':' :: _ => none
  | [] => none
  | [_] => none
  | _ => readPieces (cs.length + 1) [] none cs >>= fill?

/-- The digits of a piece. -/
def renderPiece (n : Nat) : List Char :=
  (Nat.toDigits 16 n)

/-- The number of zeros at the head of a list. -/
def zeros (pieces : List Nat) : Nat :=
  (pieces.takeWhile (· = 0)).length

/-- Start and length of the longest run of zeros from position `i` on, the first
of equal ones. -/
def longestZeros : Nat → List Nat → Nat × Nat
  | _, [] => (0, 0)
  | i, p :: rest =>
    let here := zeros (p :: rest)
    let (start, length) := longestZeros (i + 1) rest
    if length ≤ here then (i, here) else (start, length)

/-- Pieces with a colon between neighbours. -/
def joined : List Nat → List Char
  | [] => []
  | [p] => renderPiece p
  | p :: rest => renderPiece p ++ ':' :: joined rest

/-- The shortest text of an address. -/
def render (pieces : List Nat) : List Char :=
  let (start, length) := longestZeros 0 pieces
  if length < 2 then joined pieces
  else joined (pieces.take start) ++ ':' :: ':' :: joined (pieces.drop (start + length))

end ProbeCampaign.Ipv6
