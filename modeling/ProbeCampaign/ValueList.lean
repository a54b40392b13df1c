import ProbeCampaign.Host
import ProbeCampaign.Text.Ascending
import ProbeCampaign.Text.Class
import ProbeCampaign.Text.Decimal
import ProbeCampaign.Text.Pattern
import ProbeCampaign.Text.Utf8

/-!
# Lists of observed header values

A list holds one header value a line, followed by a blank and the number of
sites that send it; the first line is a heading. `parse` keeps the values that
are frequent enough, with URLs exchanged for the placeholder and with accidental
detail (hashes, long numbers, long runs of URLs) taken out.
-/

namespace ProbeCampaign.ValueList

/-- A character of the path of a URL with a scheme. -/
def isPathChar (c : Char) : Bool :=
  Text.isWord c || ['.', '*', '/', '-', ':', '?', '='].contains c

/-- A character of a label of a host name. -/
def isLabelChar (c : Char) : Bool :=
  Text.isWord c || c == '*' || c == '-' || c == '/'

/-- A character after the last dot of a host name. -/
def isTailChar (c : Char) : Bool :=
  isLabelChar c || c == ':' || c == '?' || c == '='

/-- A URL with a scheme in one case: the scheme, a colon with two slashes and
any further characters of a path. -/
def withScheme : Pattern := fun cs =>
  let afterScheme :=
    match cs with
    | 'h' :: 't' :: 't' :: 'p' :: 's' :: rest => some (5, rest)
    | 'h' :: 't' :: 't' :: 'p' :: rest => some (4, rest)
    | 'H' :: 'T' :: 'T' :: 'P' :: 'S' :: rest => some (5, rest)
    | 'H' :: 'T' :: 'T' :: 'P' :: rest => some (4, rest)
    | _ => none
  match afterScheme with
  | some (n, ':' :: '/' :: '/' :: rest) => n + 3 + (rest.takeWhile isPathChar).length
  | _ => 0

/-- After a dot, the length of further labels and of what follows the last dot;
zero if nothing may follow. -/
def afterDot : Nat → List Char → Nat
  | 0, _ => 0
  | fuel + 1, cs =>
    let label := (cs.takeWhile isLabelChar).length
    let further :=
      match cs.drop label with
      | '.' :: rest => if label = 0 then 0 else afterDot fuel rest
      | _ => 0
    if further = 0 then (cs.takeWhile isTailChar).length else label + 1 + further

/-- A host name with at least one dot and its path. -/
def withDots : Pattern := fun cs =>
  let label := (cs.takeWhile isLabelChar).length
  match cs.drop label with
  | '.' :: rest =>
    if label = 0 then 0
    else
      match afterDot cs.length rest with
      | 0 => 0
      | n + 1 => label + 1 + (n + 1)
  | _ => 0

/-- What looks like a URL. -/
def urlLike : Pattern := fun cs =>
  match withScheme cs with
  | 0 => withDots cs
  | n + 1 => n + 1

/-- The placeholder as characters. -/
def placeholder : List Char := urlPlaceholder.toList

/-- The number and total length of the placeholders at the head of a text, each
with the white space after it. -/
def spacedPlaceholders : Nat → List Char → Nat × Nat
  | 0, _ => (0, 0)
  | fuel + 1, cs =>
    if placeholder.isPrefixOf cs then
      let rest := cs.drop placeholder.length
      let blanks := (rest.takeWhile Text.isSpace).length
      let (count, length) := spacedPlaceholders fuel (rest.drop blanks)
      (count + 1, placeholder.length + blanks + length)
    else (0, 0)

/-- At least three placeholders with nothing but white space between them. -/
def runOfUrls : Pattern := fun cs =>
  let (count, length) := spacedPlaceholders cs.length cs
  if 3 ≤ count then length else 0

/-- The length of the text if it stands at the head, else zero. -/
def skip (text : String) (cs : List Char) : Nat :=
  Pattern.literal text.toList cs

/-- White space and commas, one directive in each case, and a placeholder. -/
def furtherUrl (cs : List Char) : Nat :=
  let separators := (cs.takeWhile fun c => Text.isSpace c || c == ',').length
  let capital := skip "ALLOW-FROM " (cs.drop separators)
  let small := skip "allow-from " (cs.drop (separators + capital))
  let before := separators + capital + small
  if placeholder.isPrefixOf (cs.drop before) then before + placeholder.length else 0

/-- The total length of the further URLs at the head of a text. -/
def furtherUrls : Nat → List Char → Nat
  | 0, _ => 0
  | fuel + 1, cs =>
    match furtherUrl cs with
    | 0 => 0
    | n + 1 => n + 1 + furtherUrls fuel (cs.drop (n + 1))

/-- A placeholder and at least one further URL. -/
def urlGroup : Pattern := fun cs =>
  if placeholder.isPrefixOf cs then
    match furtherUrls cs.length (cs.drop placeholder.length) with
    | 0 => 0
    | n + 1 => placeholder.length + (n + 1)
  else 0

/-- The start of a source hash. -/
def hashStart : List Char := "sha256-".toList

/-- A source hash with at least one character. -/
def sourceHash : Pattern := fun cs =>
  if hashStart.isPrefixOf cs then
    match ((cs.drop hashStart.length).takeWhile fun c => !Text.isSpace c).length with
    | 0 => 0
    | n + 1 => hashStart.length + (n + 1)
  else 0

/-- At least four decimal digits. -/
def longNumber : Pattern := fun cs =>
  let n := (cs.takeWhile Text.isDigit).length
  if 4 ≤ n then n else 0

/-- The number of URL groups that a value keeps. -/
def maxGroups : Nat := 4

/-- The value without all but its last URL groups. -/
def limitGroups (cs : List Char) : List Char :=
  urlGroup.removeFirst (urlGroup.count cs - maxGroups) cs

/-- The value without accidental detail. -/
def normalize (cs : List Char) : List Char :=
  let cs := runOfUrls.replaceAll (placeholder ++ [' ']) cs
  let cs := limitGroups cs
  let cs := sourceHash.replaceAll "sha256-default".toList cs
  longNumber.replaceAll "60".toList cs

/-- The parts before and after the last blank. -/
def splitCount? (cs : List Char) : Option (List Char × List Char) :=
  let tail := (cs.reverse.takeWhile (· ≠ ' ')).reverse
  if tail.length = cs.length then none
  else some (cs.take (cs.length - tail.length - 1), tail)

/-- The count that a text denotes; commas in it do not matter. -/
def count? (cs : List Char) : Option Nat :=
  Decimal.nat? 64 ((Text.trim cs).filter (· ≠ ','))

/-- The normal value of a row if its count reaches a minimum. -/
def row? (minCount : Nat) (cs : List Char) : Option String := do
  let (value, tail) ← splitCount? cs
  let n ← count? tail
  if minCount ≤ n then pure (String.ofList (normalize value)) else none

/-- The lines of a text: without the line feed and a carriage return right
before it, and without an empty last line. -/
def lines (cs : List Char) : List (List Char) :=
  let parts := cs.splitOn '\n'
  let ended := parts.dropLast.map fun l => if l.getLast? = some '\r' then l.dropLast else l
  match parts.getLast? with
  | none => ended
  | some [] => ended
  | some last => ended ++ [last]

/-- The values of a list that are sent by at least `minCount` sites, ascending. -/
def parse (content : List Char) (minCount : Nat) : List String :=
  Text.ascending
    (((lines (urlLike.replaceAll placeholder content)).drop 1).filterMap (row? minCount))

/-- The values of a file; bytes that are no text are read as such. -/
def parseBytes (content : ByteArray) (minCount : Nat) : List String :=
  parse (Utf8.lossy content.toList) minCount

end ProbeCampaign.ValueList
