import ProbeCampaign.Text.Decimal
import ProbeCampaign.Text.Hex

/-!
# IPv4 addresses in host names

A host whose last label is a number denotes an address: one to four numbers in
decimal, octal (leading `0`) or hexadecimal (leading `0x`), the last of which
fills the bytes that are left. `parse?` gives the 32-bit address and `render`
its four decimal bytes.
-/

namespace ProbeCampaign.Ipv4

/-- The number of digits in the given base. -/
def ofDigits? (base : Nat) (cs : List Char) : Option Nat :=
  cs.foldl (fun acc c => do
    let n ← acc
    let v ← Hex.value? c
    if v < base then pure (base * n + v) else none) (some 0)

/-- A number in one of the three notations. -/
def number? : List Char → Option Nat
  | [] => none
  | '0' :: 'x' :: rest => ofDigits? 16 rest
  | '0' :: 'X' :: rest => ofDigits? 16 rest
  | '0' :: c :: rest => ofDigits? 8 (c :: rest)
  | cs => ofDigits? 10 cs

/-- The labels of a name, without the empty one after a final dot. -/
def labels (cs : List Char) : List (List Char) :=
  let parts := cs.splitOn '.'
  if parts.getLast? = some [] then parts.dropLast else parts

/-- Whether the last label of a name is a number. -/
def endsInNumber (cs : List Char) : Bool :=
  match (labels cs).getLast? with
  | some last => (!last.isEmpty && last.all Decimal.isDigit) || (number? last).isSome
  | none => false

/-- The weight of a byte with some bytes after it. -/
def weight (after : Nat) : Nat :=
  capacity (8 * after)

/-- Bytes as the leading bytes of an address, the first with `k` bytes after it. -/
def leading : Nat → List Nat → Nat
  | _, [] => 0
  | k, b :: bs => b * weight k + leading (k - 1) bs

/-- The address of all numbers; every number but the last is one byte. -/
def address? (numbers : List Nat) : Option Nat :=
  match numbers.getLast? with
  | none => none
  | some last =>
    let bytes := numbers.dropLast
    if 3 < bytes.length ∨ bytes.any (255 < ·) ∨ weight (4 - bytes.length) ≤ last then none
    else some (leading 3 bytes + last)

/-- The address that a name denotes. -/
def parse? (cs : List Char) : Option Nat :=
  (labels cs).mapM number? >>= address?

/-- Four decimal bytes. -/
def render (n : Nat) : List Char :=
  Decimal.ofNat (n / 16777216) ++ '.' :: (Decimal.ofNat (n / 65536 % 256) ++ '.' ::
    (Decimal.ofNat (n / 256 % 256) ++ '.' :: Decimal.ofNat (n % 256)))

end ProbeCampaign.Ipv4
