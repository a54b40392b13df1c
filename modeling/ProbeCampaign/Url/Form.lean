import ProbeCampaign.Url.Percent

/-!
# Query strings as key–value pairs

`encode` writes pairs as `key=value` joined by ampersands, `decode` reads any
text as such pairs. A blank is written as a plus sign; letters, digits and the
characters `*-._` stand for themselves and all else is percent-encoded.
-/

namespace ProbeCampaign.Form

/-- The characters that stand for themselves. -/
def isPlain (c : Char) : Bool :=
  ('0' ≤ c && c ≤ '9') || ('A' ≤ c && c ≤ 'Z') || ('a' ≤ c && c ≤ 'z') ||
    c == '*' || c == '-' || c == '.' || c == '_'

/-- The written form of a key or a value. -/
def encodeText (cs : List Char) : List Char :=
  cs.flatMap fun c => if c = ' ' then ['+'] else Percent.encode isPlain [c]

/-- One pair. -/
def encodePair (pair : String × String) : List Char :=
  encodeText pair.1.toList ++ '=' :: encodeText pair.2.toList

/-- All pairs, in order. -/
def encode : List (String × String) → List Char
  | [] => []
  | [pair] => encodePair pair
  | pair :: rest => encodePair pair ++ '&' :: encode rest

/-- The key or value that a written form denotes. -/
def decodeText (cs : List Char) : String :=
  String.ofList (Utf8.lossy (Percent.decode (cs.map fun c => if c = '+' then ' ' else c)))

/-- The pair of a written form; without an equals sign the value is empty. -/
def decodePair (cs : List Char) : String × String :=
  (decodeText (cs.takeWhile (· ≠ '=')), decodeText ((cs.dropWhile (· ≠ '=')).drop 1))

/-- The parts between ampersands, empty ones left out. -/
def pieces (cs : List Char) : List (List Char) :=
  (cs.splitOn '&').filter (· ≠ [])

/-- All pairs that a text denotes. -/
def decode (cs : List Char) : List (String × String) :=
  (pieces cs).map decodePair

/-- The value of the last pair with the given key. -/
def last? (pairs : List (String × String)) (key : String) : Option String :=
  pairs.reverse.lookup key

end ProbeCampaign.Form
