import ProbeCampaign.Datum.Decode
import ProbeCampaign.Keystream
import ProbeCampaign.Text.Ascending
import ProbeCampaign.Text.Case

/-!
# Mutations of header names and values

A `Mutation` is one small change of a text: another case, blanks or quotation
marks around it, a character put in or exchanged. `general` lists the changes
that every header is probed with; `outputs` gives the distinct results.
-/

namespace ProbeCampaign

/-- Where a sequence is put into a text. -/
inductive Position where
  | lead
  | middle
  | trail
  deriving DecidableEq

/-- One change of a text. -/
inductive Mutation where
  | upper
  | lower
  | randomCase
  | leadTrailSpace
  | doubleQuotes
  | singleQuotes
  | removeWhitespace
  | doubleSpaces
  | spaceToTab
  | insert (seq : String) (position : Position)
  | replace (old : Char) (new : String)
  deriving DecidableEq

namespace Mutation

/-- The characters from the `i`-th on, each in the case that its coin says. -/
def flipCase (seed : UInt64) : Nat → List Char → List Char
  | _, [] => []
  | i, c :: rest =>
    (if Keystream.coin seed i then Text.upperChar c else Text.lowerChar c) ++
      flipCase seed (i + 1) rest

/-- The text with a case for each character at random. -/
def randomCaseOf (seed : UInt64) (s : String) : String :=
  String.ofList (flipCase seed 0 s.toList)

/-- The seed of the random-case mutation. -/
def randomCaseSeed : UInt64 := 42

/-- Every occurrence of a character exchanged for a text. -/
def exchange (old : Char) (new : String) (s : String) : String :=
  String.ofList (s.toList.flatMap fun c => if c = old then new.toList else [c])

/-- A sequence put before the character at half the length. -/
def insertMiddle (seq s : String) : String :=
  let half := s.toList.length / 2
  String.ofList (s.toList.take half ++ seq.toList ++ s.toList.drop half)

/-- The changed text. -/
def apply : Mutation → String → String
  | .upper, s => Text.upper s
  | .lower, s => Text.lower s
  | .randomCase, s => randomCaseOf randomCaseSeed s
  | .leadTrailSpace, s => " " ++ s ++ " "
  | .doubleQuotes, s => "\"" ++ s ++ "\""
  | .singleQuotes, s => "'" ++ s ++ "'"
  | .removeWhitespace, s => exchange ' ' "" s
  | .doubleSpaces, s => exchange ' ' "  " s
  | .spaceToTab, s => exchange ' ' "\t" s
  | .insert seq .lead, s => seq ++ s
  | .insert seq .trail, s => s ++ seq
  | .insert seq .middle, s => insertMiddle seq s
  | .replace old new, s => exchange old new s

/-- The changes without a parameter. -/
def simple : List Mutation :=
  [.upper, .lower, .randomCase, .leadTrailSpace, .doubleQuotes, .singleQuotes, .removeWhitespace,
    .doubleSpaces, .spaceToTab]

/-- The sequences that are put in: every ASCII character, two blanks, a
no-break space with a letter, and a wide comma. -/
def sequences : List String :=
  (List.range 128).map (fun n => String.singleton (Char.ofNat n)) ++ ["  ", "\u00A0a", "\uFF0C"]

/-- The characters that are exchanged. -/
def replaceable : List Char :=
  [';', ',', ':', '=', '\'', '"', '-', '_']

/-- What they are exchanged for. -/
def replacements : List String :=
  ["", " ", ";", ",", ":", "=", "-", "_", "'", "\"", "\x60", "\u00B4", "\u2018", "\u2019",
    "\u201A", "\u201B", "\u201C", "\u201D", "\u201E", "\u201F"]

/-- The changes that every header name and value is probed with. -/
def general : List Mutation :=
  simple ++
  ([Position.lead, .trail, .middle].flatMap fun p => sequences.map fun seq => .insert seq p) ++
  (replaceable.flatMap fun old =>
    (replacements.filter (· ≠ String.singleton old)).map fun new => .replace old new)

/-- The few changes of names in responses with several headers. -/
def basic : List Mutation :=
  [.lower, .randomCase, .leadTrailSpace]

/-- The distinct results of several changes of a text, ascending. -/
def outputs (changes : List Mutation) (s : String) : List String :=
  Text.ascending (changes.map (·.apply s))

/-- The position of a name. -/
def position? : String → Option Position
  | "lead" => some .lead
  | "middle" => some .middle
  | "trail" => some .trail
  | _ => none

/-- The names of the changes without a parameter. -/
def simpleNames : List (String × Mutation) :=
  ["upper", "lower", "random_case", "lead_trail_space", "double_quotes", "single_quotes",
    "remove_whitespace", "double_spaces", "space_to_tab"].zip simple

/-- The name of a position. -/
def positionName : Position → String
  | .lead => "lead"
  | .middle => "middle"
  | .trail => "trail"

/-- The change that a table denotes. -/
def ofDatum? (d : Datum) : Option Mutation := do
  let entries ← d.entries? some
  let kind ← entries.lookup "kind" >>= Datum.text?
  match kind with
  | "insert" =>
    let seq ← entries.lookup "seq" >>= Datum.text?
    let at_ ← entries.lookup "at" >>= Datum.text? >>= position?
    pure (.insert seq at_)
  | "replace" =>
    let old ← entries.lookup "from" >>= Datum.char?
    let new ← entries.lookup "to" >>= Datum.text?
    pure (.replace old new)
  | name => simpleNames.lookup name

/-- The table of a change. -/
def toDatum : Mutation → Datum
  | .insert seq p =>
    .table [("kind", .text "insert"), ("seq", .text seq), ("at", .text (positionName p))]
  | .replace old new =>
    .table [("kind", .text "replace"), ("from", .text (String.singleton old)), ("to", .text new)]
  | m => .table [("kind", .text (((simpleNames.find? fun e => e.2 = m).map (·.1)).getD ""))]

end Mutation

end ProbeCampaign
