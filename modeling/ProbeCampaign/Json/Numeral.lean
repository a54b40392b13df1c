import ProbeCampaign.Json.Double
import ProbeCampaign.Json.Printer
import ProbeCampaign.Text.Decimal

/-!
# Numbers as they are written

A `Numeral` has the parts of a number in a JSON text. `datum?` is the number that
it denotes, and `Double.numeral` writes a double.
-/

namespace ProbeCampaign.Json

/-- The parts of a number: whether it has a minus sign, the digits before and
after the point, and the exponent. -/
structure Numeral where
  negative : Bool
  whole : List Char
  fraction : List Char
  exponent : Option Int

/-- Goes on with a number as long as it fits 64 bits, and counts the digits that
it takes in. -/
def takeFitting (n : Nat) : List Char → Nat × Nat
  | [] => (n, 0)
  | c :: cs =>
    let next := 10 * n + (c.toNat - 48)
    if next < capacity 64 then
      let (value, taken) := takeFitting next cs
      (value, taken + 1)
    else (n, 0)

namespace Numeral

/-- A point and digits, or nothing. -/
def writeFraction : List Char → List Char
  | [] => []
  | c :: cs => '.' :: c :: cs

/-- An exponent, or nothing. -/
def writeExponent : Option Int → List Char
  | none => []
  | some e => 'e' :: integer e

/-- The text of a number. -/
def text (x : Numeral) : List Char :=
  (if x.negative then ['-'] else []) ++
    (x.whole ++ (writeFraction x.fraction ++ writeExponent x.exponent))

/-- The double that is read for the parts of a number. The digits that do not fit
64 bits are left out; those before the point still count for the exponent. -/
def double? (x : Numeral) : Option Double :=
  let (whole, taken) := takeFitting 0 x.whole
  let (significand, places) := takeFitting whole x.fraction
  Double.ofDecimal significand (x.whole.length - taken - places + x.exponent.getD 0)

end Numeral

/-- The parts of a double. From `10 ^ 16` on and below `10 ^ -5` it is written with
an exponent. -/
def Double.numeral (x : Double) (negative : Bool) : Numeral :=
  let (digits, e) := x.shortest
  let ds := Nat.toDigits 10 digits
  let point : Int := ds.length + e
  let zeros (k : Int) := List.replicate k.toNat '0'
  if x = zero then ⟨negative, ['0'], ['0'], none⟩
  else if 0 ≤ e ∧ point ≤ 16 then ⟨negative, ds ++ zeros e, ['0'], none⟩
  else if 0 < point ∧ point ≤ 16 then
    ⟨negative, ds.take point.toNat, ds.drop point.toNat, none⟩
  else if -5 < point ∧ point ≤ 0 then ⟨negative, ['0'], zeros (-point) ++ ds, none⟩
  else ⟨negative, ds.take 1, ds.drop 1, some (point - 1)⟩

/-- The datum of a double. -/
def Double.datum (x : Double) (negative : Bool) : Datum :=
  .real (String.ofList (x.numeral negative).text)

/-- The number of the parts. Without fraction and exponent it is an integer if it
fits 64 bits, signed or unsigned, and is not a negative zero; else it is a
double. -/
def Numeral.datum? (x : Numeral) : Option Datum :=
  let n := Decimal.value x.whole
  let double := x.double?.map fun d => d.datum x.negative
  if x.fraction.isEmpty ∧ x.exponent.isNone then
    if x.negative then if n = 0 ∨ capacity 63 < n then double else some (.int (-n))
    else if n < capacity 64 then some (.int n)
    else double
  else double

end ProbeCampaign.Json
