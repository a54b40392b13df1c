import ProbeCampaign.Datum
import ProbeCampaign.Text.Decimal
import ProbeCampaign.Text.Hex

/-!
# Scalars of TOML

Readers of the texts, numbers and dates of the format. Each reads a prefix of
its input and returns the rest; `none` says that the input does not start with
such a scalar.
-/

namespace ProbeCampaign.Toml

/-- A blank within a line. -/
def isBlank (c : Char) : Bool :=
  c == ' ' || c == '\t'

/-- The text without the blanks in front. -/
def skipBlanks (cs : List Char) : List Char :=
  cs.dropWhile isBlank

/-- The text after a line break in front. -/
def newline? : List Char → Option (List Char)
  | '\n' :: rest => some rest
  | '\r' :: '\n' :: rest => some rest
  | _ => none

/-- A character that may stand in a text or a comment as it is. -/
def isPlain (c : Char) : Bool :=
  c == '\t' || (32 ≤ c.toNat && c.toNat ≠ 127)

/-- A character of a key without quotation marks. -/
def isBare (c : Char) : Bool :=
  ('a' ≤ c && c ≤ 'z') || ('A' ≤ c && c ≤ 'Z') || Decimal.isDigit c || c == '-' || c == '_'

/-- The character of a code point in hexadecimal, surrogates excluded. -/
def codePoint? (digits : List Char) : Option Char := do
  let n ← Hex.number? digits
  if n < 0xD800 ∨ (0xDFFF < n ∧ n < 0x110000) then pure (Char.ofNat n) else none

/-- The character of an escape, given the text after its backslash. -/
def escape? : List Char → Option (Char × List Char)
  | 'b' :: rest => some ('\x08', rest)
  | 't' :: rest => some ('\t', rest)
  | 'n' :: rest => some ('\n', rest)
  | 'f' :: rest => some ('\x0c', rest)
  | 'r' :: rest => some ('\r', rest)
  | '"' :: rest => some ('"', rest)
  | '\\' :: rest => some ('\\', rest)
  | 'u' :: a :: b :: c :: d :: rest => (codePoint? [a, b, c, d]).map (·, rest)
  | 'U' :: a :: b :: c :: d :: e :: f :: g :: h :: rest =>
    (codePoint? [a, b, c, d, e, f, g, h]).map (·, rest)
  | _ => none

/-- A character in front of a read text. -/
def consTo (c : Char) (r : List Char × List Char) : List Char × List Char :=
  (c :: r.1, r.2)

/-- Reads the inside of a text with escapes up to its quotation mark. -/
def basic? : Nat → List Char → Option (List Char × List Char)
  | 0, _ => none
  | _ + 1, [] => none
  | fuel + 1, c :: rest =>
    if c = '"' then some ([], rest)
    else if c = '\\' then do
      let (x, rest') ← escape? rest
      (basic? fuel rest').map (consTo x)
    else if isPlain c then (basic? fuel rest).map (consTo c)
    else none

/-- Reads the inside of a text without escapes up to its apostrophe. -/
def literal? : List Char → Option (List Char × List Char)
  | [] => none
  | c :: rest =>
    if c = '\'' then some ([], rest)
    else if isPlain c then (literal? rest).map (consTo c)
    else none

/-- What a run of quotation marks at the head of a text over several lines is:
its characters that belong to the text, and the rest if the text ends there. -/
def quoteRun (mark : Char) (cs : List Char) : Nat × Option (List Char) :=
  let n := (cs.takeWhile (· = mark)).length
  if n < 3 then (n, none)
  else
    let kept := min (n - 3) 2
    (kept, some (cs.drop (kept + 3)))

/-- The text after a backslash that ends a line, if only blanks stand between:
the line break and all blanks and line breaks after it are skipped. -/
def continued? (cs : List Char) : Option (List Char) :=
  (newline? (skipBlanks cs)).map skipAll
where
  /-- The text without blanks and line breaks in front. -/
  skipAll : List Char → List Char
    | ' ' :: rest => skipAll rest
    | '\t' :: rest => skipAll rest
    | '\n' :: rest => skipAll rest
    | '\r' :: '\n' :: rest => skipAll rest
    | cs => cs

/-- Reads the inside of a text over several lines up to its three marks.
Escapes count if the mark is a quotation mark. A line break is read as a line
feed. -/
def multiline? (mark : Char) : Nat → List Char → Option (List Char × List Char)
  | 0, _ => none
  | fuel + 1, cs =>
    match cs with
    | [] => none
    | c :: rest =>
      if c = mark then
        match quoteRun mark cs with
        | (n, some rest') => some (List.replicate n mark, rest')
        | (n, none) =>
          (multiline? mark fuel (cs.drop n)).map fun r => (List.replicate n mark ++ r.1, r.2)
      else if c = '\\' ∧ mark = '"' then
        match continued? rest with
        | some rest' => multiline? mark fuel rest'
        | none => do
          let (x, rest') ← escape? rest
          (multiline? mark fuel rest').map (consTo x)
      else
        match newline? cs with
        | some rest' => (multiline? mark fuel rest').map (consTo '\n')
        | none => if isPlain c then (multiline? mark fuel rest).map (consTo c) else none

/-- The text without a line break in front. -/
def dropNewline (cs : List Char) : List Char :=
  (newline? cs).getD cs

/-- Reads a text on one line. -/
def lineText? : List Char → Option (List Char × List Char)
  | '"' :: rest => basic? (rest.length + 1) rest
  | '\'' :: rest => literal? rest
  | _ => none

/-- Reads a text in one of its four forms. -/
def text? : List Char → Option (List Char × List Char)
  | '"' :: '"' :: '"' :: rest => multiline? '"' (rest.length + 1) (dropNewline rest)
  | '\'' :: '\'' :: '\'' :: rest => multiline? '\'' (rest.length + 1) (dropNewline rest)
  | cs => lineText? cs

/-- Reads at least one digit, with single underscores between digits; returns
the digits. -/
def digitRun? (isDigit : Char → Bool) (cs : List Char) : Option (List Char × List Char) :=
  match cs with
  | [] => none
  | c :: rest => if isDigit c then some (consTo c (more rest)) else none
where
  /-- Further digits. -/
  more : List Char → List Char × List Char
    | '_' :: c :: rest => if isDigit c then consTo c (more rest) else ([], '_' :: c :: rest)
    | c :: rest => if isDigit c then consTo c (more rest) else ([], c :: rest)
    | [] => ([], [])

/-- The sign of a number, and whether it is negative. -/
def sign : List Char → Bool × List Char
  | '-' :: rest => (true, rest)
  | '+' :: rest => (false, rest)
  | cs => (false, cs)

/-- Reads the digits of a decimal number: a leading zero stands alone. -/
def wholeDigits? : List Char → Option (List Char × List Char)
  | '0' :: rest => some (['0'], rest)
  | cs => digitRun? Decimal.isDigit cs

/-- An integer if it has at most 64 bits. -/
def within64 (n : Int) : Option Datum :=
  if fitsInt64 n then some (.int n) else none

/-- Reads the digits of a number to the base 16, 8 or 2. -/
def based? (base : Nat) (cs : List Char) : Option (Datum × List Char) := do
  let isDigit c := ((Hex.value? c).map fun v => decide (v < base)).getD false
  let (ds, rest) ← digitRun? isDigit cs
  let n := ds.foldl (fun n c => base * n + (Hex.value? c).getD 0) 0
  (within64 n).map (·, rest)

/-- Reads an integer. -/
def integer? : List Char → Option (Datum × List Char)
  | '0' :: 'x' :: rest => based? 16 rest
  | '0' :: 'o' :: rest => based? 8 rest
  | '0' :: 'b' :: rest => based? 2 rest
  | cs => do
    let (negative, unsigned) := sign cs
    let (ds, rest) ← wholeDigits? unsigned
    let n : Int := Decimal.value ds
    (within64 (if negative then -n else n)).map (·, rest)

/-- Reads an exponent with its sign. -/
def exponent? : List Char → Option (Int × List Char)
  | c :: rest =>
    if c = 'e' ∨ c = 'E' then do
      let (negative, unsigned) := sign rest
      let (ds, rest') ← digitRun? Decimal.isDigit unsigned
      let n : Int := Decimal.value ds
      pure (if negative then -n else n, rest')
    else none
  | [] => none

/-- The part of `cs` in front of its suffix `rest`. -/
def before (cs rest : List Char) : String :=
  String.ofList (cs.take (cs.length - rest.length))

/-- Reads a number with a fraction, an exponent or both, or one of the special
numbers. A number beyond the range of doubles is refused. -/
def real? (cs : List Char) : Option (Datum × List Char) :=
  let (negative, unsigned) := sign cs
  match unsigned with
  | 'i' :: 'n' :: 'f' :: rest => some (.real (before cs rest), rest)
  | 'n' :: 'a' :: 'n' :: rest => some (.real (before cs rest), rest)
  | _ => do
    let (whole, rest) ← wholeDigits? unsigned
    let (fraction, exponent, rest') ←
      match exponent? rest with
      | some (e, rest') => some ([], e, rest')
      | none =>
        match rest with
        | '.' :: rest' => do
          let (fs, rest'') ← digitRun? Decimal.isDigit rest'
          match exponent? rest'' with
          | some (e, rest₃) => some (fs, e, rest₃)
          | none => some (fs, 0, rest'')
        | _ => none
    if !negative ∧ Decimal.overflows (Decimal.value (whole ++ fraction))
        (exponent - fraction.length) then none
    else some (.real (before cs rest'), rest')

/-- Reads exactly two digits of a number between two bounds, both included. -/
def twoDigits? (lo hi : Nat) : List Char → Option (Nat × List Char)
  | a :: b :: rest =>
    if Decimal.isDigit a && Decimal.isDigit b then
      let n := Decimal.value [a, b]
      if lo ≤ n ∧ n ≤ hi then some (n, rest) else none
    else none
  | _ => none

/-- Reads one given character. -/
def char? (c : Char) : List Char → Option (List Char)
  | x :: rest => if x = c then some rest else none
  | [] => none

/-- The number of days of a month. -/
def daysOf (year month : Nat) : Nat :=
  if month = 2 then
    if year % 4 = 0 ∧ (year % 100 ≠ 0 ∨ year % 400 = 0) then 29 else 28
  else if month = 4 ∨ month = 6 ∨ month = 9 ∨ month = 11 then 30
  else 31

/-- Reads a date; returns the rest. -/
def date? : List Char → Option (List Char)
  | a :: b :: c :: d :: '-' :: rest =>
    if [a, b, c, d].all Decimal.isDigit then do
      let (month, rest) ← twoDigits? 1 12 rest
      let rest ← char? '-' rest
      let (_, rest) ← twoDigits? 1 (daysOf (Decimal.value [a, b, c, d]) month) rest
      pure rest
    else none
  | _ => none

/-- The text after a point and digits, if it starts with them. -/
def skipFraction (cs : List Char) : List Char :=
  match cs with
  | '.' :: rest =>
    if (rest.takeWhile Decimal.isDigit).isEmpty then cs else rest.dropWhile Decimal.isDigit
  | _ => cs

/-- Reads a time of day with an optional fraction; returns the rest. -/
def time? (cs : List Char) : Option (List Char) := do
  let (_, rest) ← twoDigits? 0 23 cs
  let rest ← char? ':' rest
  let (_, rest) ← twoDigits? 0 59 rest
  let rest ← char? ':' rest
  let (_, rest) ← twoDigits? 0 60 rest
  pure (skipFraction rest)

/-- The text after an offset from universal time, if there is one. -/
def skipOffset (cs : List Char) : List Char :=
  match cs with
  | 'Z' :: rest => rest
  | 'z' :: rest => rest
  | c :: rest =>
    if c = '+' ∨ c = '-' then
      (do
        let (_, rest) ← twoDigits? 0 23 rest
        let rest ← char? ':' rest
        let (_, rest) ← twoDigits? 0 59 rest
        pure rest).getD cs
    else cs
  | [] => []

/-- The text after a time of day that follows a date, if one does. -/
def skipTime (cs : List Char) : List Char :=
  match cs with
  | c :: rest =>
    if c = 'T' ∨ c = 't' ∨ c = ' ' then ((time? rest).map skipOffset).getD cs else cs
  | [] => []

/-- The datum of a date or time: a table, so that it is neither a text nor a
number. -/
def dateDatum (literal : String) : Datum :=
  .table [("$date", .text literal)]

/-- Reads a date, a time of day or both. -/
def dateTime? (cs : List Char) : Option (Datum × List Char) :=
  match date? cs with
  | some rest => let rest := skipTime rest; some (dateDatum (before cs rest), rest)
  | none => (time? cs).map fun rest => (dateDatum (before cs rest), rest)

/-- Reads a number or a date. -/
def number? (cs : List Char) : Option (Datum × List Char) :=
  dateTime? cs <|> real? cs <|> integer? cs

end ProbeCampaign.Toml
