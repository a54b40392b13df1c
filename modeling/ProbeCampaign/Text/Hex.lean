/-!
# Hexadecimal digits

`digit` and `value?` relate the numbers below sixteen and their digits;
`ofBytes` writes bytes as two lower-case digits each.
-/

namespace ProbeCampaign.Hex

/-- The lower-case digit of a number below sixteen. -/
def digit (n : Nat) : Char :=
  if n < 10 then Char.ofNat (48 + n) else Char.ofNat (87 + n)

/-- The upper-case digit of a number below sixteen. -/
def upperDigit (n : Nat) : Char :=
  if n < 10 then Char.ofNat (48 + n) else Char.ofNat (55 + n)

/-- The value of a digit in either case. -/
def value? (c : Char) : Option Nat :=
  if '0' ≤ c ∧ c ≤ '9' then some (c.toNat - 48)
  else if 'a' ≤ c ∧ c ≤ 'f' then some (c.toNat - 87)
  else if 'A' ≤ c ∧ c ≤ 'F' then some (c.toNat - 55)
  else none

/-- The number that a run of digits denotes, the most significant first. -/
def number? (cs : List Char) : Option Nat :=
  cs.foldl (fun acc c => do
    let n ← acc
    let v ← value? c
    pure (16 * n + v)) (some 0)

/-- Two digits for each byte. -/
def ofBytes (bytes : List UInt8) : List Char :=
  bytes.flatMap fun b => [digit (b.toNat / 16), digit (b.toNat % 16)]

/-- The bytes that pairs of digits denote. -/
def toBytes? : List Char → Option (List UInt8)
  | [] => some []
  | [_] => none
  | a :: b :: rest => do
    let hi ← value? a
    let lo ← value? b
    let bytes ← toBytes? rest
    pure (UInt8.ofNat (16 * hi + lo) :: bytes)

end ProbeCampaign.Hex
