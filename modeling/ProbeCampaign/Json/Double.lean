import ProbeCampaign.Capacity

/-!
# Doubles in JSON texts

A number with a fraction or an exponent is kept as a double, the nearest one
where a single rounding is enough. `ofDecimal` rounds more than once, first the
digits and then for the power of ten, so what it gives may lie next to the
nearest double. `shortest` has the fewest digits to which a double is nearest.
-/

namespace ProbeCampaign.Json

/-- The finite double `mantissa · 2 ^ exponent`, without a sign. -/
structure Double where
  mantissa : Nat
  exponent : Int
  deriving DecidableEq

namespace Double

/-- Nothing, at the smallest exponent. -/
def zero : Double :=
  ⟨0, -1074⟩

/-- The exponent of the greatest power of two up to a positive fraction. -/
def log2 (num den : Nat) : Int :=
  let e : Int := num.log2 - den.log2
  if den * Nat.pow 2 e.toNat ≤ num * Nat.pow 2 (-e).toNat then e else e - 1

/-- The integer nearest to a fraction, of two the even one. -/
def roundEven (num den : Nat) : Nat :=
  let below := num / den
  let rest := 2 * (num % den)
  if den < rest ∨ den = rest ∧ below % 2 = 1 then below + 1 else below

/-- The double of a rounded mantissa, which has 53 bits or is the next power of
two; none if the exponent is too large. -/
def ofRounded (mantissa : Nat) (exponent : Int) : Option Double :=
  let x : Double :=
    if mantissa = capacity 53 then ⟨capacity 52, exponent + 1⟩ else ⟨mantissa, exponent⟩
  if x.exponent ≤ 971 then some x else none

/-- The double nearest to a fraction, of two the one with the even mantissa; none
if the fraction is too large. -/
def nearest (num den : Nat) : Option Double :=
  if num = 0 then some zero
  else
    -- The last bit of the mantissa counts `2 ^ e`.
    let e := max (log2 num den - 52) (-1074)
    ofRounded (roundEven (num * Nat.pow 2 (-e).toNat) (den * Nat.pow 2 e.toNat)) e

/-- The product with a double. -/
def times (x y : Double) : Option Double :=
  let e := x.exponent + y.exponent
  nearest (x.mantissa * y.mantissa * Nat.pow 2 e.toNat) (Nat.pow 2 (-e).toNat)

/-- The quotient by a double. -/
def dividedBy (x y : Double) : Option Double :=
  let e := x.exponent - y.exponent
  nearest (x.mantissa * Nat.pow 2 e.toNat) (y.mantissa * Nat.pow 2 (-e).toNat)

/-- The double nearest to a power of ten. -/
def tenTo (k : Nat) : Option Double :=
  nearest (Nat.pow 10 k) 1

/-- The double that is read for `significand · 10 ^ exponent`. The powers of ten
end at the 308th; a second division by it leaves nothing of 64 bits. -/
def ofDecimal (significand : Nat) (exponent : Int) : Option Double := do
  let x ← nearest significand 1
  if 308 < exponent then if x = zero then some zero else none
  else if 0 ≤ exponent then x.times (← tenTo exponent.toNat)
  else if -308 ≤ exponent then x.dividedBy (← tenTo (-exponent).toNat)
  else if -616 ≤ exponent then
    (← x.dividedBy (← tenTo 308)).dividedBy (← tenTo (-exponent - 308).toNat)
  else some zero

/-- Whether a double is the nearest one to `digits · 10 ^ e`. -/
def isNearest (x : Double) (digits : Nat) (e : Int) : Bool :=
  nearest (digits * Nat.pow 10 e.toNat) (Nat.pow 10 (-e).toNat) = some x

/-- The multiple of `10 ^ e` next to a double, the closer one first, to which the
double is nearest. -/
def decimalAt? (x : Double) (e : Int) : Option Nat :=
  let n := x.mantissa * Nat.pow 2 x.exponent.toNat * Nat.pow 10 (-e).toNat
  let d := Nat.pow 2 (-x.exponent).toNat * Nat.pow 10 e.toNat
  let closer := roundEven n d
  let other := if closer = n / d then closer + 1 else n / d
  [closer, other].find? fun digits => x.isNearest digits e

/-- The digits and the exponent of the shortest decimal that a double is nearest
to, tried at exponents that go down. -/
def shortestFrom (x : Double) : Nat → Int → Nat × Int
  | 0, e => (0, e)
  | fuel + 1, e =>
    match x.decimalAt? e with
    | some digits => (digits, e)
    | none => shortestFrom x fuel (e - 1)

/-- The shortest decimal that a double is nearest to. It has 17 digits at most,
and one more is left for the estimate of the first. -/
def shortest (x : Double) : Nat × Int :=
  let e := (x.mantissa.log2 + x.exponent) * 30103 / 100000
  x.shortestFrom 20 (e + 1)

end Double

end ProbeCampaign.Json
