import ProbeCampaign.Json.Numeral
import ProbeCampaign.Text.Hex

/-!
# Reading JSON text

`parse?` reads one value with blanks around it. Lists and tables nest at most
`maxDepth` deep. The readers of the parts return the rest of the text; those of
values carry fuel, and every recursive step either drops a character or moves
to a value that starts at the same place, so twice the length is enough.
-/

namespace ProbeCampaign.Json

/-- The deepest nesting that is read. -/
def maxDepth : Nat := 127

/-- The four blanks of the format. -/
def isBlank (c : Char) : Bool :=
  c == ' ' || c == '\n' || c == '\t' || c == '\r'

/-- The text without its leading blanks. -/
def skipBlanks (cs : List Char) : List Char :=
  cs.dropWhile isBlank

/-- The number of four hexadecimal digits. -/
def hexUnit? (a b c d : Char) : Option Nat :=
  Hex.number? [a, b, c, d]

/-- A character by its code point, unless the code point is a surrogate. -/
def scalar? (n : Nat) : Option Char :=
  if n < 0xD800 ∨ (0xDFFF < n ∧ n < 0x110000) then some (Char.ofNat n) else none

/-- The character of an escape with one letter. -/
def unescape? (c : Char) : Option Char :=
  if c = '"' then some '"'
  else if c = '\\' then some '\\'
  else if c = '/' then some '/'
  else if c = 'b' then some '\x08'
  else if c = 'f' then some '\x0c'
  else if c = 'n' then some '\n'
  else if c = 'r' then some '\r'
  else if c = 't' then some '\t'
  else none

/-- Reads the inside of a text up to its closing quotation mark. A character
beyond U+FFFF may be written as two escapes. -/
def readText : List Char → Option (List Char × List Char)
  | [] => none
  | '"' :: rest => some ([], rest)
  | '\\' :: 'u' :: a :: b :: c :: d :: rest =>
    match hexUnit? a b c d with
    | none => none
    | some n =>
      if 0xD800 ≤ n ∧ n < 0xDC00 then
        match rest with
        | '\\' :: 'u' :: e :: f :: g :: h :: rest' =>
          match hexUnit? e f g h with
          | none => none
          | some m =>
            if 0xDC00 ≤ m ∧ m < 0xE000 then
              (readText rest').map fun (cs, r) =>
                (Char.ofNat (0x10000 + (n - 0xD800) * 0x400 + (m - 0xDC00)) :: cs, r)
            else none
        | _ => none
      else
        match scalar? n with
        | none => none
        | some x => (readText rest).map fun (cs, r) => (x :: cs, r)
  | '\\' :: c :: rest =>
    match unescape? c with
    | none => none
    | some x => (readText rest).map fun (cs, r) => (x :: cs, r)
  | c :: rest =>
    if c = '\\' ∨ c.toNat < 32 then none
    else (readText rest).map fun (cs, r) => (c :: cs, r)

/-- The digits at the head of a text, at least one of them. -/
def readDigits (cs : List Char) : Option (List Char × List Char) :=
  match cs.takeWhile Decimal.isDigit with
  | [] => none
  | ds => some (ds, cs.dropWhile Decimal.isDigit)

/-- The digits before the point of a number: no leading zero unless it stands
alone. -/
def readWhole : List Char → Option (List Char × List Char)
  | '0' :: rest => if (rest.head?.map Decimal.isDigit).getD false then none else some (['0'], rest)
  | cs => readDigits cs

/-- A point and digits, or nothing. -/
def readFraction : List Char → Option (List Char × List Char)
  | '.' :: rest => readDigits rest
  | cs => some ([], cs)

/-- Whether a text starts with a minus sign, and the text without it. -/
def splitMinus : List Char → Bool × List Char
  | '-' :: rest => (true, rest)
  | cs => (false, cs)

/-- Whether a text starts with a minus sign, and the text without its sign. -/
def splitSign : List Char → Bool × List Char
  | '+' :: rest => (false, rest)
  | cs => splitMinus cs

/-- An exponent with its sign, or nothing. -/
def readExponent : List Char → Option (Option Int × List Char)
  | [] => some (none, [])
  | c :: rest =>
    if c = 'e' ∨ c = 'E' then
      let (negative, unsigned) := splitSign rest
      (readDigits unsigned).map fun (ds, r) =>
        (some (if negative then -(Decimal.value ds : Int) else Decimal.value ds), r)
    else some (none, c :: rest)

/-- The parts of the number at the head of a text. -/
def readNumeral (cs : List Char) : Option (Numeral × List Char) := do
  let (negative, unsigned) := splitMinus cs
  let (whole, rest) ← readWhole unsigned
  let (fraction, rest) ← readFraction rest
  let (exponent, rest) ← readExponent rest
  pure (⟨negative, whole, fraction, exponent⟩, rest)

/-- Reads a number. -/
def readNumber (cs : List Char) : Option (Datum × List Char) := do
  let (x, rest) ← readNumeral cs
  let d ← x.datum?
  pure (d, rest)

mutual

/-- Reads a value that starts at the head of the text. -/
def readValue : Nat → Nat → List Char → Option (Datum × List Char)
  | 0, _, _ => none
  | fuel + 1, depth, cs =>
    match cs with
    | 'n' :: 'u' :: 'l' :: 'l' :: rest => some (.null, rest)
    | 't' :: 'r' :: 'u' :: 'e' :: rest => some (.bool true, rest)
    | 'f' :: 'a' :: 'l' :: 's' :: 'e' :: rest => some (.bool false, rest)
    | '"' :: rest => (readText rest).map fun (s, r) => (.text (String.ofList s), r)
    | '[' :: rest =>
      match depth with
      | 0 => none
      | depth + 1 =>
        match skipBlanks rest with
        | ']' :: rest' => some (.list [], rest')
        | rest' => (readItems fuel depth rest').map fun (ds, r) => (.list ds, r)
    | '{' :: rest =>
      match depth with
      | 0 => none
      | depth + 1 =>
        match skipBlanks rest with
        | '}' :: rest' => some (.table [], rest')
        | rest' => (readEntries fuel depth rest').map fun (es, r) => (.table es, r)
    | _ => readNumber cs

/-- Reads items up to the closing bracket. -/
def readItems : Nat → Nat → List Char → Option (List Datum × List Char)
  | 0, _, _ => none
  | fuel + 1, depth, cs =>
    match readValue fuel depth cs with
    | none => none
    | some (d, rest) =>
      match skipBlanks rest with
      | ',' :: rest' =>
        (readItems fuel depth (skipBlanks rest')).map fun (ds, r) => (d :: ds, r)
      | ']' :: rest' => some ([d], rest')
      | _ => none

/-- Reads entries up to the closing brace. -/
def readEntries : Nat → Nat → List Char → Option (List (String × Datum) × List Char)
  | 0, _, _ => none
  | fuel + 1, depth, cs =>
    match cs with
    | '"' :: rest =>
      match readText rest with
      | none => none
      | some (k, rest') =>
        match skipBlanks rest' with
        | ':' :: rest'' =>
          match readValue fuel depth (skipBlanks rest'') with
          | none => none
          | some (d, rest₃) =>
            match skipBlanks rest₃ with
            | ',' :: rest₄ =>
              (readEntries fuel depth (skipBlanks rest₄)).map fun (es, r) =>
                ((String.ofList k, d) :: es, r)
            | '}' :: rest₄ => some ([(String.ofList k, d)], rest₄)
            | _ => none
        | _ => none
    | _ => none

end

/-- The value that a whole text denotes. -/
def parseChars? (cs : List Char) : Option Datum :=
  match readValue (2 * cs.length + 2) maxDepth (skipBlanks cs) with
  | some (d, rest) => if (skipBlanks rest).isEmpty then some d else none
  | none => none

/-- The value that a whole string denotes. -/
def parse? (s : String) : Option Datum :=
  parseChars? s.toList

end ProbeCampaign.Json
