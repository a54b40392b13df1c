import ProbeCampaign.Capacity

/-!
# Punycode

The ASCII form of a label with other characters: its ASCII characters, a
hyphen, and then for every further character the number of steps that a counter
over (code point, position) takes to reach it, in a mixed-radix notation whose
digits adapt to the numbers seen.
-/

namespace ProbeCampaign.Punycode

/-- The adapted bias after a number `delta` for a label of `size` characters. -/
def adapt (delta size : Nat) (first : Bool) : Nat :=
  let d := if first then delta / 700 else delta / 2
  reduce (d + d / size) 0
where
  /-- Divides by 35 until the quotient fits, counting the steps. -/
  reduce (d k : Nat) : Nat :=
    if 455 < d then reduce (d / 35) (k + 36) else k + 36 * d / (d + 38)
  termination_by d
  decreasing_by omega

/-- The threshold of the digit of weight class `k`. -/
def threshold (k bias : Nat) : Nat :=
  min 26 (max 1 (k - bias))

/-- The digit for a number below 36. -/
def digit (n : Nat) : Char :=
  if n < 26 then Char.ofNat (97 + n) else Char.ofNat (22 + n)

/-- The value of a digit. -/
def value? (c : Char) : Option Nat :=
  if 'a' ≤ c ∧ c ≤ 'z' then some (c.toNat - 97)
  else if 'A' ≤ c ∧ c ≤ 'Z' then some (c.toNat - 65)
  else if '0' ≤ c ∧ c ≤ '9' then some (c.toNat - 22)
  else none

/-- The digits of a number, from weight class `k` on. -/
def number (bias k q : Nat) : List Char :=
  let t := threshold k bias
  if q < t then [digit q]
  else digit (t + (q - t) % (36 - t)) :: number bias (k + 36) ((q - t) / (36 - t))
  termination_by q
  decreasing_by
    have h1 : 1 ≤ threshold k bias := by unfold threshold; omega
    have h2 : threshold k bias ≤ 26 := by unfold threshold; omega
    have h3 : (q - threshold k bias) / (36 - threshold k bias) ≤ q - threshold k bias :=
      Nat.div_le_self _ _
    omega

/-- The encoder between two characters: the steps since the last one, the bias
and the number of characters written. -/
structure Encoder where
  delta : Nat
  bias : Nat
  written : Nat
  output : List Char

/-- Passes one character of the label while the counter is at code point `n`. -/
def Encoder.pass (basic n : Nat) (e : Encoder) (c : Nat) : Encoder :=
  if c < n then { e with delta := e.delta + 1 }
  else if c = n then
    { delta := 0
      bias := adapt e.delta (e.written + 1) (e.written == basic)
      written := e.written + 1
      output := e.output ++ number e.bias 36 e.delta }
  else e

/-- Moves the counter from code point `n` along the given ascending ones. -/
def encodeFrom (label : List Nat) (basic : Nat) : Nat → List Nat → Encoder → Encoder
  | _, [], e => e
  | n, m :: rest, e =>
    let e := { e with delta := e.delta + (m - n) * (e.written + 1) }
    let e := label.foldl (Encoder.pass basic m) e
    encodeFrom label basic (m + 1) rest { e with delta := e.delta + 1 }

/-- The written form of a label. -/
def encode (cs : List Char) : List Char :=
  let label := cs.map Char.toNat
  let basic := cs.filter (·.toNat < 128)
  let others := ((label.filter (128 ≤ ·)).mergeSort (· ≤ ·)).eraseReps
  let e := encodeFrom label basic.length 128 others ⟨0, 72, basic.length, []⟩
  basic ++ (if basic.isEmpty then [] else ['-']) ++ e.output

/-- The decoder inside a number: the counter's code point and position, the
position at the start of the number, the weight and class of the next digit. -/
structure Decoder where
  code : Nat
  position : Nat
  before : Nat
  weight : Nat
  rank : Nat
  bias : Nat
  output : List Nat

/-- Reads digits into characters; the last number has to be complete. -/
def decodeFrom : List Char → Decoder → Option (List Nat)
  | [], d => if d.rank = 36 then some d.output else none
  | c :: rest, d =>
    match value? c with
    | none => none
    | some v =>
      let position := d.position + v * d.weight
      let t := threshold d.rank d.bias
      if capacity 32 ≤ position then none
      else if v < t then
        let size := d.output.length + 1
        let code := d.code + position / size
        let index := position % size
        if code < 0xD800 ∨ (0xDFFF < code ∧ code < 0x110000) then
          decodeFrom rest
            { code
              position := index + 1
              before := index + 1
              weight := 1
              rank := 36
              bias := adapt (position - d.before) size (d.before == 0)
              output := d.output.take index ++ code :: d.output.drop index }
        else none
      else
        decodeFrom rest
          { d with position, weight := d.weight * (36 - t), rank := d.rank + 36 }

/-- The part of a text after its last hyphen and the part before it. -/
def splitLast (cs : List Char) : List Char × List Char :=
  let tail := cs.reverse.takeWhile (· ≠ '-')
  (tail.reverse, ((cs.reverse.drop tail.length).drop 1).reverse)

/-- The label that a written form denotes. -/
def decode? (cs : List Char) : Option (List Char) :=
  let (digits, basic) := splitLast cs
  if basic.all (·.toNat < 128) then
    (decodeFrom digits ⟨128, 0, 0, 1, 36, 72, basic.map Char.toNat⟩).map (·.map Char.ofNat)
  else none

end ProbeCampaign.Punycode
