/-!
# Bytes as text

`lossy` reads bytes as UTF-8 and writes the replacement character for every
maximal ill-formed part, so that every byte sequence has a text. `bytes` is the
encoding of a text, and `decode?` reads it back without any replacement.
-/

namespace ProbeCampaign.Utf8

/-- The replacement character. -/
def replacement : Char := '\uFFFD'

/-- A byte that continues a sequence. -/
def isContinuation (b : UInt8) : Bool :=
  0x80 ≤ b && b ≤ 0xBF

/-- Whether `b` may follow the lead byte of a sequence of three or four bytes. -/
def maySecond (lead b : UInt8) : Bool :=
  if lead = 0xE0 then 0xA0 ≤ b && b ≤ 0xBF
  else if lead = 0xED then 0x80 ≤ b && b ≤ 0x9F
  else if lead = 0xF0 then 0x90 ≤ b && b ≤ 0xBF
  else if lead = 0xF4 then 0x80 ≤ b && b ≤ 0x8F
  else isContinuation b

/-- The six payload bits of a continuation byte. -/
def payload (b : UInt8) : Nat := b.toNat % 64

/-- The first character of a non-empty byte sequence and the number of bytes
after the lead byte that belong to it. -/
def head (lead : UInt8) (rest : List UInt8) : Char × Nat :=
  if lead < 0x80 then (Char.ofNat lead.toNat, 0)
  else if 0xC2 ≤ lead ∧ lead ≤ 0xDF then
    match rest with
    | b :: _ =>
      if isContinuation b then (Char.ofNat ((lead.toNat % 32) * 64 + payload b), 1)
      else (replacement, 0)
    | [] => (replacement, 0)
  else if 0xE0 ≤ lead ∧ lead ≤ 0xEF then
    match rest with
    | b :: more =>
      if maySecond lead b then
        match more with
        | c :: _ =>
          if isContinuation c then
            (Char.ofNat ((lead.toNat % 16) * 4096 + payload b * 64 + payload c), 2)
          else (replacement, 1)
        | [] => (replacement, 1)
      else (replacement, 0)
    | [] => (replacement, 0)
  else if 0xF0 ≤ lead ∧ lead ≤ 0xF4 then
    match rest with
    | b :: more =>
      if maySecond lead b then
        match more with
        | c :: more' =>
          if isContinuation c then
            match more' with
            | d :: _ =>
              if isContinuation d then
                (Char.ofNat ((lead.toNat % 8) * 262144 + payload b * 4096 + payload c * 64 +
                  payload d), 3)
              else (replacement, 2)
            | [] => (replacement, 2)
          else (replacement, 1)
        | [] => (replacement, 1)
      else (replacement, 0)
    | [] => (replacement, 0)
  else (replacement, 0)

/-- The text of a byte sequence. -/
def lossy : List UInt8 → List Char
  | [] => []
  | b :: rest =>
    let (c, n) := head b rest
    c :: lossy (rest.drop n)
  termination_by bs => bs.length

/-- The bytes of one character. -/
def encode (c : Char) : List UInt8 :=
  let n := c.toNat
  if n < 0x80 then [UInt8.ofNat n]
  else if n < 0x800 then [UInt8.ofNat (0xC0 + n / 64), UInt8.ofNat (0x80 + n % 64)]
  else if n < 0x10000 then
    [UInt8.ofNat (0xE0 + n / 4096), UInt8.ofNat (0x80 + n / 64 % 64), UInt8.ofNat (0x80 + n % 64)]
  else
    [UInt8.ofNat (0xF0 + n / 262144), UInt8.ofNat (0x80 + n / 4096 % 64),
      UInt8.ofNat (0x80 + n / 64 % 64), UInt8.ofNat (0x80 + n % 64)]

/-- The bytes of a text. -/
def bytes (cs : List Char) : List UInt8 :=
  cs.flatMap encode

/-- The text that bytes encode, if they encode one. -/
def decode? (bs : List UInt8) : Option (List Char) :=
  let cs := lossy bs
  if bytes cs = bs then some cs else none

end ProbeCampaign.Utf8
