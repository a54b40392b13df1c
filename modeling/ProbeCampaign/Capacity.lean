/-!
# Capacities

Integers in files, URLs and arguments have a fixed number of bits. `capacity` is
the number of values of so many bits, and `fitsInt64` tells the integers that
are signed values of 64 bits.
-/

namespace ProbeCampaign

/-- The number of values of some bits. -/
def capacity (bits : Nat) : Nat :=
  Nat.pow 2 bits

/-- Whether an integer is a signed value of 64 bits. -/
def fitsInt64 (n : Int) : Bool :=
  -(capacity 63 : Int) ≤ n && n < (capacity 63 : Int)

end ProbeCampaign
