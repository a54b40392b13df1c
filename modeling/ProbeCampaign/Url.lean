import ProbeCampaign.Text.Decimal
import ProbeCampaign.Url.Host
import ProbeCampaign.Url.Path

/-!
# Absolute URLs

`Url.parse` reads a text the way browsers do: blanks around it and line breaks
in it do not count, backslashes are slashes in web URLs, user names and
fragments are dropped, and a port that the scheme implies is left out. Web URLs
are taken apart; of other URLs only scheme and validity matter here.
-/

namespace ProbeCampaign

/-- A URL without user name and fragment. Only web URLs have a host here; the
path of others is left empty. -/
structure Url where
  scheme : List Char
  host : Option Host
  port : Option Nat
  path : List Char
  query : Option (List Char)

namespace Url

/-- A letter of ASCII. -/
def isLetter (c : Char) : Bool :=
  ('A' ≤ c && c ≤ 'Z') || ('a' ≤ c && c ≤ 'z')

/-- A character of a scheme after its first. -/
def isSchemeChar (c : Char) : Bool :=
  isLetter c || Decimal.isDigit c || c == '+' || c == '-' || c == '.'

/-- The text that counts: without control characters and blanks at its ends and
without tabs and line breaks. -/
def clean (cs : List Char) : List Char :=
  let blank := fun c : Char => decide (c.toNat ≤ 32)
  (((cs.dropWhile blank).reverse.dropWhile blank).reverse).filter fun c =>
    !(c == '\t' || c == '\n' || c == '\r')

/-- A capital letter made small. -/
def toLower (c : Char) : Char :=
  if 'A' ≤ c ∧ c ≤ 'Z' then Char.ofNat (c.toNat + 32) else c

/-- The scheme in small letters and what follows its colon. -/
def scheme? (cs : List Char) : Option (List Char × List Char) :=
  let name := cs.takeWhile isSchemeChar
  match cs.drop name.length with
  | ':' :: rest =>
    if (name.head?.map isLetter).getD false then some (name.map toLower, rest) else none
  | _ => none

/-- The port that a scheme implies, for the schemes whose URLs name a host after
any number of slashes. -/
def webPort? (scheme : List Char) : Option Nat :=
  [("http".toList, 80), ("https".toList, 443), ("ws".toList, 80), ("wss".toList, 443),
    ("ftp".toList, 21)].lookup scheme

/-- A character that ends the authority of a URL. -/
def endsAuthority (web : Bool) (c : Char) : Bool :=
  c == '/' || c == '?' || c == '#' || (web && c == '\\')

/-- The authority and what follows it. -/
def splitAuthority (web : Bool) (cs : List Char) : List Char × List Char :=
  (cs.takeWhile fun c => !endsAuthority web c, cs.dropWhile fun c => !endsAuthority web c)

/-- The parts before and after the last at sign. -/
def splitUser (authority : List Char) : Option (List Char) × List Char :=
  let host := (authority.reverse.takeWhile (· ≠ '@')).reverse
  if host.length = authority.length then (none, authority)
  else (some (authority.take (authority.length - host.length - 1)), host)

/-- The host up to the first colon outside brackets, and the rest. -/
def splitHost (inBrackets : Bool) : List Char → List Char × List Char
  | [] => ([], [])
  | c :: cs =>
    if c = ':' ∧ !inBrackets then ([], c :: cs)
    else
      let inside := if c = '[' then true else if c = ']' then false else inBrackets
      let (host, rest) := splitHost inside cs
      (c :: host, rest)

/-- The port after a host; none if it is absent or implied. -/
def readPort (implied : Option Nat) : List Char → Except UrlError (Option Nat)
  | [] => .ok none
  | _ :: digits =>
    if !digits.all Decimal.isDigit || 65535 < Decimal.value digits then .error .port
    else if digits = [] ∨ some (Decimal.value digits) = implied then .ok none
    else .ok (some (Decimal.value digits))

/-- The text before the fragment. -/
def dropFragment (cs : List Char) : List Char :=
  cs.takeWhile (· ≠ '#')

/-- The query after the first question mark. -/
def query? (cs : List Char) : Option (List Char) :=
  match cs.dropWhile (· ≠ '?') with
  | _ :: rest => some rest
  | [] => none

/-- A web URL from what follows the slashes after its scheme. -/
def parseWeb (scheme : List Char) (implied : Nat) (cs : List Char) : Except UrlError Url := do
  let (authority, rest) := splitAuthority true cs
  let (_, hostPort) := splitUser authority
  let (hostText, portText) := splitHost false hostPort
  if hostText = [] then throw .emptyHost
  let host ← Host.parse hostText
  let port ← readPort (some implied) portText
  let tail := dropFragment rest
  pure
    { scheme
      host := some host
      port
      path := UrlPath.normalize (tail.takeWhile (· ≠ '?'))
      query := query? tail }

/-- Checks the authority of a URL whose scheme gives hosts no meaning. -/
def checkOpaque (cs : List Char) : Except UrlError Unit := do
  let (authority, rest) := splitAuthority false cs
  let (user, hostPort) := splitUser authority
  let (hostText, portText) := splitHost false hostPort
  if user = some [] ∧ hostText = [] ∧ portText = [] ∧ rest ≠ [] then throw .emptyHost
  Host.parseOpaque hostText
  if hostText = [] ∧ portText ≠ [] then throw .emptyHost
  let _ ← readPort none (portText.takeWhile (· ≠ '\\'))
  if hostText = [] ∧ (user.getD [] ≠ [] ∧ user ≠ some [':']) then throw .emptyHost

/-- Checks the host of a file URL, which has neither user name nor port. -/
def checkFile (cs : List Char) : Except UrlError Unit :=
  match cs with
  | a :: b :: rest =>
    if (a == '/' || a == '\\') && (b == '/' || b == '\\') then
      let host := (splitAuthority true rest).1
      if host = [] ∨ UrlPath.isDrive host then .ok () else (Host.parse host).map fun _ => ()
    else .ok ()
  | _ => .ok ()

/-- The URL that a text denotes. -/
def parse (cs : List Char) : Except UrlError Url :=
  match scheme? (clean cs) with
  | none => .error .relative
  | some (scheme, rest) =>
    match webPort? scheme with
    | some implied => parseWeb scheme implied (rest.dropWhile fun c => c == '/' || c == '\\')
    | none => do
      if scheme = "file".toList then checkFile rest
      else
        match rest with
        | '/' :: '/' :: authority => checkOpaque authority
        | _ => pure ()
      pure { scheme, host := none, port := none, path := [], query := none }

end Url

end ProbeCampaign
