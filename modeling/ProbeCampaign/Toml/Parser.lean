import ProbeCampaign.Toml.Node
import ProbeCampaign.Toml.Scalar

/-!
# Reading TOML text

`parse?` reads a document into a table. The lines of the text are headers and
assignments; each header begins a section, and the sections are added to the
tree of the document one after the other.
-/

namespace ProbeCampaign.Toml

/-- Lists and tables within values nest less deep than this, and keys have fewer
parts. -/
def depthLimit : Nat := 80

/-- The text after a comment, if it starts with one. -/
def skipComment : List Char → List Char
  | '#' :: rest => rest.dropWhile isPlain
  | cs => cs

/-- The text after the rest of a line: blanks, a comment, and a line break or
the end. -/
def endLine? (cs : List Char) : Option (List Char) :=
  match skipComment (skipBlanks cs) with
  | [] => some []
  | rest => newline? rest

/-- The text without blanks, line breaks and comments in front. -/
def skipLines : Nat → List Char → List Char
  | 0, cs => cs
  | fuel + 1, cs =>
    let rest := skipComment (skipBlanks cs)
    match newline? rest with
    | some rest' => skipLines fuel rest'
    | none => rest

/-- Reads one part of a key. -/
def keyPart? (cs : List Char) : Option (String × List Char) :=
  match cs with
  | '"' :: _ => (lineText? cs).map fun r => (String.ofList r.1, r.2)
  | '\'' :: _ => (lineText? cs).map fun r => (String.ofList r.1, r.2)
  | _ =>
    match cs.takeWhile isBare with
    | [] => none
    | bare => some (String.ofList bare, cs.dropWhile isBare)

/-- Reads a key of parts with dots between, and the blanks around them. -/
def key? : Nat → List Char → Option (List String × List Char)
  | 0, _ => none
  | fuel + 1, cs => do
    let (part, rest) ← keyPart? (skipBlanks cs)
    match skipBlanks rest with
    | '.' :: rest' => (key? fuel rest').map fun r => (part :: r.1, r.2)
    | rest' => pure ([part], rest')

/-- The parts of a key before the last, and the last. -/
def splitKey (parts : List String) : List String × String :=
  (parts.dropLast, parts.getLastD "")

/-- The table of the assignments inside braces. -/
def tableOf? (pairs : List (List String × Datum)) : Option Datum := do
  let es ← pairs.foldlM (fun es (parts, d) =>
    let (path, key) := splitKey parts
    assign path key d es) []
  pure (.table (entriesToData es))

mutual

/-- Reads a value at the head of the text. -/
def value? : Nat → Nat → List Char → Option (Datum × List Char)
  | 0, _, _ => none
  | fuel + 1, depth, cs =>
    match cs with
    | '"' :: _ => (text? cs).map fun r => (.text (String.ofList r.1), r.2)
    | '\'' :: _ => (text? cs).map fun r => (.text (String.ofList r.1), r.2)
    | 't' :: 'r' :: 'u' :: 'e' :: rest => some (.bool true, rest)
    | 'f' :: 'a' :: 'l' :: 's' :: 'e' :: rest => some (.bool false, rest)
    | '[' :: rest =>
      match depth with
      | 0 => none
      | depth + 1 => (items? fuel depth rest).map fun r => (.list r.1, r.2)
    | '{' :: rest =>
      match depth with
      | 0 => none
      | depth + 1 =>
        match skipBlanks rest with
        | '}' :: rest' => some (.table [], rest')
        | _ => do
          let (pairs, rest') ← pairs? fuel depth rest
          let d ← tableOf? pairs
          pure (d, rest')
    | _ => number? cs

/-- Reads items up to the closing bracket; a comma may follow the last. -/
def items? : Nat → Nat → List Char → Option (List Datum × List Char)
  | 0, _, _ => none
  | fuel + 1, depth, cs =>
    match skipLines cs.length cs with
    | ']' :: rest => some ([], rest)
    | start => do
      let (d, rest) ← value? fuel depth start
      match skipLines rest.length rest with
      | ',' :: rest' => (items? fuel depth rest').map fun r => (d :: r.1, r.2)
      | ']' :: rest' => pure ([d], rest')
      | _ => none

/-- Reads assignments up to the closing brace, all on one line. -/
def pairs? : Nat → Nat → List Char → Option (List (List String × Datum) × List Char)
  | 0, _, _ => none
  | fuel + 1, depth, cs => do
    let (parts, rest) ← key? depthLimit cs
    match rest with
    | '=' :: rest' =>
      let (d, rest'') ← value? fuel depth (skipBlanks rest')
      match skipBlanks rest'' with
      | ',' :: rest₃ => (pairs? fuel depth rest₃).map fun r => ((parts, d) :: r.1, r.2)
      | '}' :: rest₃ => pure ([(parts, d)], rest₃)
      | _ => none
    | _ => none

end

/-- One line of a document. -/
inductive Line where
  | assignment (key : List String) (value : Datum)
  | tableHeader (key : List String)
  | itemHeader (key : List String)

/-- Reads one line that is neither empty nor a comment. -/
def line? (cs : List Char) : Option (Line × List Char) :=
  match cs with
  | '[' :: '[' :: rest => do
    let (parts, rest') ← key? depthLimit rest
    match rest' with
    | ']' :: ']' :: rest'' => (endLine? rest'').map (.itemHeader parts, ·)
    | _ => none
  | '[' :: rest => do
    let (parts, rest') ← key? depthLimit rest
    match rest' with
    | ']' :: rest'' => (endLine? rest'').map (.tableHeader parts, ·)
    | _ => none
  | _ => do
    let (parts, rest) ← key? depthLimit cs
    match rest with
    | '=' :: rest' =>
      let (d, rest'') ← value? (2 * rest'.length + 2) (depthLimit - 1) (skipBlanks rest')
      (endLine? rest'').map (.assignment parts d, ·)
    | _ => none

/-- Reads the lines of a document. -/
def lines? : Nat → List Char → Option (List Line)
  | 0, _ => none
  | fuel + 1, cs =>
    match skipLines cs.length cs with
    | [] => some []
    | start => do
      let (line, rest) ← line? start
      (lines? fuel rest).map (line :: ·)

/-- Adds the assignments up to the next header to a table. -/
def fill : List Line → Entries → Option Entries
  | .assignment parts d :: rest, es =>
    let (path, key) := splitKey parts
    (assign path key d es) >>= fill rest
  | _, es => some es

/-- Adds the sections of a document to its tree. -/
def addSections : List Line → Entries → Option Entries
  | [], es => some es
  | .assignment _ _ :: rest, es => addSections rest es
  | .tableHeader parts :: rest, es =>
    let (path, key) := splitKey parts
    openTable (fill rest) path key es >>= addSections rest
  | .itemHeader parts :: rest, es =>
    let (path, key) := splitKey parts
    openItem (fill rest) path key es >>= addSections rest

/-- The text without a byte order mark. -/
def skipMark : List Char → List Char
  | '\uFEFF' :: rest => rest
  | cs => cs

/-- The table that a whole text denotes. -/
def parseChars? (cs : List Char) : Option Datum := do
  let lines ← lines? (cs.length + 1) (skipMark cs)
  let es ← fill lines []
  let tree ← addSections lines es
  pure (.table (entriesToData tree))

/-- The table that a whole string denotes. -/
def parse? (s : String) : Option Datum :=
  parseChars? s.toList

end ProbeCampaign.Toml
