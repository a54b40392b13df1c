/-!
# A reproducible stream of coin flips

`coin seed i` is the `i`-th flip for a seed of 64 bits. The seed is spread over
a key of eight words by a linear congruential generator with permuted output;
the key drives a stream cipher of twelve rounds, and each flip looks at the top
bit of one 64-bit number of its output.
-/

namespace ProbeCampaign.Keystream

/-- One step of the generator that spreads the seed. -/
def advance (state : UInt64) : UInt64 :=
  state * 6364136223846793005 + 11634580027462260723

/-- The word rotated to the right by fewer than 32 places. -/
def rotateRight (x n : UInt32) : UInt32 :=
  if n = 0 then x else (x >>> n) ||| (x <<< (32 - n))

/-- The word rotated to the left by between one and 31 places. -/
def rotateLeft (x n : UInt32) : UInt32 :=
  (x <<< n) ||| (x >>> (32 - n))

/-- The key word drawn from a state of the generator. -/
def keyWord (state : UInt64) : UInt32 :=
  rotateRight (((state >>> 18) ^^^ state) >>> 27).toUInt32 (state >>> 59).toUInt32

/-- The first `n` key words after a state. -/
def keyWords : Nat → UInt64 → List UInt32
  | 0, _ => []
  | n + 1, state =>
    let next := advance state
    keyWord next :: keyWords n next

/-- Mixes four words of the cipher state. -/
def quarter (v : Vector UInt32 16) (a b c d : Fin 16) : Vector UInt32 16 :=
  let x := v[a] + v[b]
  let w := rotateLeft (v[d] ^^^ x) 16
  let z := v[c] + w
  let y := rotateLeft (v[b] ^^^ z) 12
  let x := x + y
  let w := rotateLeft (w ^^^ x) 8
  let z := z + w
  let y := rotateLeft (y ^^^ z) 7
  (((v.set a x).set b y).set c z).set d w

/-- A column round followed by a diagonal round. -/
def doubleRound (v : Vector UInt32 16) : Vector UInt32 16 :=
  let v := quarter v 0 4 8 12
  let v := quarter v 1 5 9 13
  let v := quarter v 2 6 10 14
  let v := quarter v 3 7 11 15
  let v := quarter v 0 5 10 15
  let v := quarter v 1 6 11 12
  let v := quarter v 2 7 8 13
  quarter v 3 4 9 14

/-- `n` double rounds. -/
def doubleRounds : Nat → Vector UInt32 16 → Vector UInt32 16
  | 0, v => v
  | n + 1, v => doubleRounds n (doubleRound v)

/-- The cipher state for a key and a block number. -/
def start (key : List UInt32) (counter : UInt64) : Vector UInt32 16 :=
  let k := fun i => key.getD i 0
  #v[0x61707865, 0x3320646e, 0x79622d32, 0x6b206574,
    k 0, k 1, k 2, k 3, k 4, k 5, k 6, k 7,
    counter.toUInt32, (counter >>> 32).toUInt32, 0, 0]

/-- One block of output. -/
def block (key : List UInt32) (counter : UInt64) : Vector UInt32 16 :=
  let v := start key counter
  let w := doubleRounds 6 v
  Vector.ofFn fun i => w[i] + v[i]

/-- The `i`-th flip: whether the `i`-th 64-bit number of the output is below
`2 ^ 63`. -/
def coin (seed : UInt64) (i : Nat) : Bool :=
  let out := block (keyWords 8 seed) (UInt64.ofNat (i / 8))
  out[2 * (i % 8) + 1] < 0x80000000

end ProbeCampaign.Keystream
