import ProbeCampaign.Text.Decimal
import ProbeCampaign.Toml.Scalar

/-!
# TOML text of data

`render?` writes a table as a document. The entries with scalars and plain
lists come first; then every table and every item of a list of tables gets a
header and a body of its own, with an empty line between. Lists of at least two
items are written one item a line. A text is written in the first form that
fits it without an escape, in this order: on one line with quotation marks, on
one line with apostrophes, over several lines with either. Data that the format
cannot hold, such as null, have no text.
-/

namespace ProbeCampaign.Toml

/-- What decides the form of a text: an escape that it needs in any case, a
backslash, a line break, and its longest runs of both marks. -/
structure Shape where
  control : Bool
  backslash : Bool
  newline : Bool
  quotes : Nat
  apostrophes : Nat

/-- The longest run of a character. -/
def longestRun (mark : Char) (cs : List Char) : Nat :=
  (cs.foldl (fun (longest, current) c =>
    if c = mark then (max longest (current + 1), current + 1) else (longest, 0)) (0, 0)).1

/-- The shape of a text. -/
def Shape.of (cs : List Char) : Shape where
  control := cs.any fun c => !isPlain c && c != '\n'
  backslash := cs.contains '\\'
  newline := cs.contains '\n'
  quotes := longestRun '"' cs
  apostrophes := longestRun '\'' cs

/-- One of the four forms of a text. -/
inductive TextForm where
  | basic
  | literal
  | multiBasic
  | multiLiteral
  deriving DecidableEq

/-- The form that a text is written in. -/
def TextForm.of (s : Shape) : TextForm :=
  if !s.control && !s.backslash && s.quotes == 0 && !s.newline then .basic
  else if !s.control && s.apostrophes == 0 && !s.newline then .literal
  else if !s.control && !s.backslash && s.quotes ≤ 2 then .multiBasic
  else if !s.control && s.apostrophes ≤ 2 then .multiLiteral
  else if s.newline then .multiBasic
  else .basic

/-- The escape of a character, or the character itself. -/
def escape (c : Char) : List Char :=
  if c = '\x08' then ['\\', 'b']
  else if c = '\t' then ['\\', 't']
  else if c = '\n' then ['\\', 'n']
  else if c = '\x0c' then ['\\', 'f']
  else if c = '\r' then ['\\', 'r']
  else if c = '"' then ['\\', '"']
  else if c = '\\' then ['\\', '\\']
  else if c.toNat < 32 ∨ c.toNat = 127 then
    ['\\', 'u', '0', '0', Hex.upperDigit (c.toNat / 16), Hex.upperDigit (c.toNat % 16)]
  else [c]

/-- The inside of a text over several lines with escapes. Line breaks stand for
themselves, and so do quotation marks but for every third of a run; `run` counts
those right before. -/
def escapeLines : Nat → List Char → List Char
  | _, [] => []
  | run, c :: rest =>
    if c = '"' then
      if run < 2 then '"' :: escapeLines (run + 1) rest
      else '\\' :: '"' :: escapeLines 0 rest
    else if c = '\n' then '\n' :: escapeLines 0 rest
    else escape c ++ escapeLines 0 rest

/-- Three marks, with a line break before a text that holds one, and three
marks. -/
def fence (mark : Char) (newline : Bool) (inside : List Char) : List Char :=
  [mark, mark, mark] ++ (if newline then ['\n'] else []) ++ inside ++ [mark, mark, mark]

/-- A text in a form. -/
def writeText (form : TextForm) (cs : List Char) : List Char :=
  match form with
  | .basic => '"' :: (cs.flatMap escape ++ ['"'])
  | .literal => '\'' :: (cs ++ ['\''])
  | .multiBasic => fence '"' (cs.contains '\n') (escapeLines 0 cs)
  | .multiLiteral => fence '\'' (cs.contains '\n') cs

/-- A text in the form that fits it. -/
def text (s : String) : List Char :=
  writeText (TextForm.of (Shape.of s.toList)) s.toList

/-- A part of a key: bare if it can be, else as a text on one line. -/
def keyPart (s : String) : List Char :=
  let cs := s.toList
  let shape := Shape.of cs
  if !cs.isEmpty && cs.all isBare then cs
  else if !shape.control && !shape.newline && !shape.backslash && shape.quotes == 0 then
    writeText .basic cs
  else if !shape.control && !shape.newline && shape.apostrophes == 0 then writeText .literal cs
  else writeText .basic cs

/-- Texts with a separator between. -/
def joinWith (separator : List Char) (parts : List (List Char)) : List Char :=
  separator.intercalate parts

/-- A key of parts. -/
def key (parts : List String) : List Char :=
  joinWith ['.'] (parts.map keyPart)

/-- The items of a list between brackets, one a line if there are several. -/
def brackets : List (List Char) → List Char
  | [] => ['[', ']']
  | [item] => '[' :: (item ++ [']'])
  | items => '[' :: (items.flatMap fun i => "\n    ".toList ++ i ++ [',']) ++ ['\n', ']']

/-- Entries between braces. -/
def braces : List (List Char) → List Char
  | [] => ['{', '}']
  | entries => ['{', ' '] ++ joinWith [',', ' '] entries ++ [' ', '}']

mutual

/-- A value on the right of an equals sign. -/
def valueText? : Datum → Option (List Char)
  | .null => none
  | .bool true => some ['t', 'r', 'u', 'e']
  | .bool false => some ['f', 'a', 'l', 's', 'e']
  | .int n => if fitsInt64 n then some (Decimal.ofInt n) else none
  | .real literal => some literal.toList
  | .text s => some (text s)
  | .list items => (valueTexts? items).map brackets
  | .table entries => (inlineEntries? entries).map braces

/-- Several values. -/
def valueTexts? : List Datum → Option (List (List Char))
  | [] => some []
  | d :: ds => do
    let t ← valueText? d
    let ts ← valueTexts? ds
    pure (t :: ts)

/-- Entries of a table that is a value. -/
def inlineEntries? : List (String × Datum) → Option (List (List Char))
  | [] => some []
  | (k, d) :: rest => do
    let t ← valueText? d
    let ts ← inlineEntries? rest
    pure ((keyPart k ++ " = ".toList ++ t) :: ts)

end

/-- A table of a document. -/
def isTable : Datum → Bool
  | .table _ => true
  | _ => false

/-- Whether a datum is written under headers. -/
def hasHeader : Datum → Bool
  | .table _ => true
  | .list (d :: ds) => (d :: ds).all isTable
  | _ => false

/-- The lines of the entries without a header. -/
def body? (entries : List (String × Datum)) : Option (List Char) := do
  let lines ← (entries.filter fun e => !hasHeader e.2).mapM fun (k, d) => do
    let t ← valueText? d
    pure (keyPart k ++ " = ".toList ++ t ++ ['\n'])
  pure lines.flatten

mutual

/-- The blocks of a table: one for its own lines, and those of the tables in it.
A table that holds nothing but tables needs no block of its own. -/
def tableBlocks? (path : List String) : Datum → Option (List (List Char))
  | .table entries => do
    let lines ← body? entries
    let inner ← entryBlocks? path entries
    let header := '[' :: (key path ++ [']', '\n'])
    if lines.isEmpty ∧ !entries.isEmpty then pure inner else pure ((header ++ lines) :: inner)
  | .list items => itemBlocks? path items
  | _ => some []

/-- The blocks of the entries of a table. -/
def entryBlocks? (path : List String) : List (String × Datum) → Option (List (List Char))
  | [] => some []
  | (k, d) :: rest => do
    let blocks ← if hasHeader d then tableBlocks? (path ++ [k]) d else some []
    let more ← entryBlocks? path rest
    pure (blocks ++ more)

/-- The blocks of the items of a list of tables. -/
def itemBlocks? (path : List String) : List Datum → Option (List (List Char))
  | [] => some []
  | .table entries :: rest => do
    let lines ← body? entries
    let inner ← entryBlocks? path entries
    let more ← itemBlocks? path rest
    pure (("[[".toList ++ key path ++ "]]\n".toList ++ lines) :: (inner ++ more))
  | _ :: rest => itemBlocks? path rest

end

/-- The text of a document. -/
def render? (entries : List (String × Datum)) : Option String := do
  let lines ← body? entries
  let blocks ← entryBlocks? [] entries
  let blocks := if lines.isEmpty then blocks else lines :: blocks
  pure (String.ofList (joinWith ['\n'] blocks))

end ProbeCampaign.Toml
