import ProbeCampaign.Url.Percent

/-!
# Paths of web URLs

`normalize` turns the text after a host into segments: both slashes separate,
a segment of one dot is dropped and one of two dots drops the segment before
it, each dot possibly percent-encoded. What a segment may not hold is
percent-encoded.
-/

namespace ProbeCampaign.UrlPath

/-- A character that a segment holds as it is. -/
def isPlain (c : Char) : Bool :=
  32 < c.toNat && c.toNat < 127 &&
    !(['"', '#', '<', '>', '?', '\x60', '{', '}'].contains c)

/-- A segment of one dot. -/
def isSingleDot (segment : List Char) : Bool :=
  [['.'], ['%', '2', 'e'], ['%', '2', 'E']].contains segment

/-- A segment of two dots. -/
def isDoubleDot (segment : List Char) : Bool :=
  [['.', '.'], ['%', '2', 'e', '%', '2', 'e'], ['%', '2', 'e', '%', '2', 'E'],
    ['%', '2', 'E', '%', '2', 'e'], ['%', '2', 'E', '%', '2', 'E'], ['%', '2', 'e', '.'],
    ['%', '2', 'E', '.'], ['.', '%', '2', 'e'], ['.', '%', '2', 'E']].contains segment

/-- A letter with a colon or a bar, the name of a drive. -/
def isDrive : List Char → Bool
  | [a, b] => (('A' ≤ a && a ≤ 'Z') || ('a' ≤ a && a ≤ 'z')) && (b == ':' || b == '|')
  | _ => false

/-- The segments without the last; a drive stays. -/
def shorten (segments : List (List Char)) : List (List Char) :=
  match segments.getLast? with
  | some last => if isDrive last then segments else segments.dropLast
  | none => segments

/-- Appends encoded segments to those before them; the last of them ends the
path. -/
def resolve (before : List (List Char)) : List (List Char) → List (List Char)
  | [] => before
  | [s] =>
    if isDoubleDot s then shorten before ++ [[]]
    else if isSingleDot s then before ++ [[]]
    else before ++ [s]
  | s :: rest =>
    if isDoubleDot s then resolve (shorten before) rest
    else if isSingleDot s then resolve before rest
    else resolve (before ++ [s]) rest

/-- The path of the text between host and query. -/
def normalize (cs : List Char) : List Char :=
  let unix := cs.map fun c => if c = '\\' then '/' else c
  let relative := if unix.head? = some '/' then unix.drop 1 else unix
  let segments := (relative.splitOn '/').map (Percent.encode isPlain)
  (resolve [] segments).flatMap fun s => '/' :: s

end ProbeCampaign.UrlPath
