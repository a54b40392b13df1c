import ProbeCampaign.Text.Hex
import ProbeCampaign.Text.Utf8

/-!
# Percent-encoding

`decode` turns the escapes of a text into bytes and leaves an incomplete escape
as it is; `encode` writes an escape for every byte of the characters that a set
does not keep.
-/

namespace ProbeCampaign.Percent

/-- The escape of one byte. -/
def escape (b : UInt8) : List Char :=
  ['%', Hex.upperDigit (b.toNat / 16), Hex.upperDigit (b.toNat % 16)]

/-- The text with escapes for the characters that are not kept. -/
def encode (keep : Char → Bool) (cs : List Char) : List Char :=
  cs.flatMap fun c => if keep c then [c] else (Utf8.encode c).flatMap escape

/-- The byte of an escape with two digits. -/
def byte? (a b : Char) : Option UInt8 :=
  match Hex.value? a, Hex.value? b with
  | some hi, some lo => some (UInt8.ofNat (16 * hi + lo))
  | _, _ => none

/-- The bytes of a text with its escapes resolved. -/
def decode : List Char → List UInt8
  | [] => []
  | '%' :: a :: b :: rest =>
    match byte? a b with
    | some byte => byte :: decode rest
    | none => 0x25 :: decode (a :: b :: rest)
  | c :: rest => Utf8.encode c ++ decode rest

end ProbeCampaign.Percent
