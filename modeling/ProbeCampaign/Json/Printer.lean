import ProbeCampaign.Datum
import ProbeCampaign.Text.Hex

/-!
# JSON text of data

`compact` writes a datum without any blank, `pretty` with one item a line and
two blanks a level. A quotation mark, a backslash and the control characters
below U+0020 are the only characters written with an escape.
-/

namespace ProbeCampaign.Json

/-- The escape of one character of a text, or the character itself. -/
def escape (c : Char) : List Char :=
  if c = '"' then ['\\', '"']
  else if c = '\\' then ['\\', '\\']
  else if c = '\x08' then ['\\', 'b']
  else if c = '\t' then ['\\', 't']
  else if c = '\n' then ['\\', 'n']
  else if c = '\x0c' then ['\\', 'f']
  else if c = '\r' then ['\\', 'r']
  else if c.toNat < 32 then
    ['\\', 'u', '0', '0', Hex.digit (c.toNat / 16), Hex.digit (c.toNat % 16)]
  else [c]

/-- A text between quotation marks. -/
def quote (s : String) : List Char :=
  '"' :: (s.toList.flatMap escape ++ ['"'])

/-- An integer in decimal. -/
def integer (n : Int) : List Char :=
  (toString n).toList

mutual

/-- The text of a datum without blanks. -/
def compact : Datum → List Char
  | .null => ['n', 'u', 'l', 'l']
  | .bool true => ['t', 'r', 'u', 'e']
  | .bool false => ['f', 'a', 'l', 's', 'e']
  | .int n => integer n
  | .real literal => literal.toList
  | .text s => quote s
  | .list [] => ['[', ']']
  | .list (d :: ds) => '[' :: (compact d ++ compactItems ds)
  | .table [] => ['{', '}']
  | .table ((k, d) :: rest) => '{' :: (quote k ++ ':' :: (compact d ++ compactEntries rest))

/-- The items after the first and the closing bracket. -/
def compactItems : List Datum → List Char
  | [] => [']']
  | d :: ds => ',' :: (compact d ++ compactItems ds)

/-- The entries after the first and the closing brace. -/
def compactEntries : List (String × Datum) → List Char
  | [] => ['}']
  | (k, d) :: rest => ',' :: (quote k ++ ':' :: (compact d ++ compactEntries rest))

end

/-- A line break and the indentation of a level. -/
def newline (level : Nat) : List Char :=
  '\n' :: List.replicate (2 * level) ' '

mutual

/-- The text of a datum with one item a line, inside `level` brackets. -/
def prettyAt (level : Nat) : Datum → List Char
  | .list [] => ['[', ']']
  | .list (d :: ds) =>
    '[' :: (newline (level + 1) ++ prettyAt (level + 1) d ++ prettyItems level ds)
  | .table [] => ['{', '}']
  | .table ((k, d) :: rest) =>
    '{' :: (newline (level + 1) ++ quote k ++ ':' :: ' ' ::
      (prettyAt (level + 1) d ++ prettyEntries level rest))
  | .null => compact .null
  | .bool b => compact (.bool b)
  | .int n => compact (.int n)
  | .real literal => compact (.real literal)
  | .text s => compact (.text s)

/-- The items after the first and the closing bracket, on lines of their own. -/
def prettyItems (level : Nat) : List Datum → List Char
  | [] => newline level ++ [']']
  | d :: ds => ',' :: (newline (level + 1) ++ prettyAt (level + 1) d ++ prettyItems level ds)

/-- The entries after the first and the closing brace, on lines of their own. -/
def prettyEntries (level : Nat) : List (String × Datum) → List Char
  | [] => newline level ++ ['}']
  | (k, d) :: rest =>
    ',' :: (newline (level + 1) ++ quote k ++ ':' :: ' ' ::
      (prettyAt (level + 1) d ++ prettyEntries level rest))

end

/-- The text of a datum with one item a line. -/
def pretty (d : Datum) : List Char :=
  prettyAt 0 d

/-- `compact` as a string. -/
def render (d : Datum) : String :=
  String.ofList (compact d)

/-- `pretty` as a string. -/
def renderPretty (d : Datum) : String :=
  String.ofList (pretty d)

end ProbeCampaign.Json
