import ProbeCampaign.Capacity

/-!
# Decimal integers

`nat?` and `int64?` read the plain decimal forms of the integers of a bounded
range: at least one ASCII digit, a sign allowed in front, leading zeros without
meaning. `ofInt` writes the shortest such form. `overflows` compares a decimal
fraction with the largest double.
-/

namespace ProbeCampaign.Decimal

/-- A decimal digit of ASCII. -/
def isDigit (c : Char) : Bool :=
  '0' ≤ c && c ≤ '9'

/-- The number that digits denote. -/
def value (cs : List Char) : Nat :=
  cs.foldl (fun n c => 10 * n + (c.toNat - 48)) 0

/-- The number of a non-empty run of digits. -/
def digits? (cs : List Char) : Option Nat :=
  if cs ≠ [] ∧ cs.all isDigit then some (value cs) else none

/-- A natural number of at most the given number of bits, with an optional plus sign. -/
def nat? (bits : Nat) (cs : List Char) : Option Nat :=
  let unsigned :=
    match cs with
    | '+' :: rest => rest
    | _ => cs
  (digits? unsigned).filter (· < capacity bits)

/-- An integer of 64 bits, with an optional sign. -/
def int64? : List Char → Option Int
  | '-' :: rest => ((digits? rest).filter (· ≤ capacity 63)).map fun n => -(n : Int)
  | '+' :: rest => ((digits? rest).filter (· < capacity 63)).map fun n => (n : Int)
  | cs => ((digits? cs).filter (· < capacity 63)).map fun n => (n : Int)

/-- Whether `mantissa · 10 ^ exponent` rounds to no finite double. -/
def overflows (mantissa : Nat) (exponent : Int) : Bool :=
  let digits : Int := (Nat.toDigits 10 mantissa).length
  if mantissa = 0 ∨ digits + exponent < 300 then false
  else if 320 < digits + exponent then true
  else
    let limit := (capacity 54 - 1) * capacity 970
    if 0 ≤ exponent then limit ≤ mantissa * Nat.pow 10 exponent.toNat
    else limit * Nat.pow 10 exponent.natAbs ≤ mantissa

/-- The digits of a natural number, the least significant first. -/
def reversedDigits (n : Nat) : List Char :=
  if n < 10 then [Char.ofNat (48 + n)]
  else Char.ofNat (48 + n % 10) :: reversedDigits (n / 10)

/-- The digits of a natural number. -/
def ofNat (n : Nat) : List Char :=
  (reversedDigits n).reverse

/-- The decimal form of an integer. -/
def ofInt : Int → List Char
  | .ofNat n => ofNat n
  | .negSucc n => '-' :: ofNat (n + 1)

end ProbeCampaign.Decimal
