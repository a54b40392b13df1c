import ProbeCampaign.Text.Normal
import ProbeCampaign.Text.Utf8
import ProbeCampaign.Url.DirectionTable
import ProbeCampaign.Url.DomainTable
import ProbeCampaign.Url.Punycode

/-!
# Domain names in ASCII form

`toAscii?` brings a domain name into the form in which it is looked up: every
character takes its plain form, every label beyond ASCII is checked and written
in Punycode after `xn--`. A label that already has this form must be what its
decoded characters would give.
-/

namespace ProbeCampaign.Domain

/-- A character of ASCII that no domain name holds. -/
def isForbidden (c : Char) : Bool :=
  c.toNat ≤ 32 || c.toNat == 127 ||
    ['%', '#', '/', ':', '<', '>', '?', '@', '[', '\\', ']', '^', '|'].contains c

/-- The form at the distance that a row gives. -/
def inRow (n : Nat) : List Nat → Option Nat
  | [first, form] => if n = first then some form else none
  | [first, form, last] => if first ≤ n ∧ n ≤ last then some (form + (n - first)) else none
  | [first, form, last, step] =>
    if first ≤ n ∧ n ≤ last ∧ (n - first) % step = 0 then some (form + (n - first)) else none
  | _ => none

/-- The characters that a character stands for in a domain name. -/
def mapped? (c : Char) : Option (List Char) :=
  let n := c.toNat
  if n < 128 then some [if 'A' ≤ c ∧ c ≤ 'Z' then Char.ofNat (n + 32) else c]
  else if Text.covers valid n then some [c]
  else if Text.covers ignored n then some []
  else
    match mappedRuns.findSome? (inRow n) with
    | some m => some [Char.ofNat m]
    | none =>
      mappedSequences.findSome? fun
        | m :: form => if m = n then some (form.map Char.ofNat) else none
        | [] => none

/-- Whether a character of a label stays as it is. -/
def isValid (c : Char) : Bool :=
  mapped? c == some [c]

/-- A character that ends the influence of the vowel before it. -/
def isVirama (c : Char) : Bool :=
  Text.Normal.combiningClass c.toNat == 9

/-- The nearest character that joining does not look through lies in a table. -/
def meets (table : List (List Nat)) (cs : List Char) : Bool :=
  match cs.dropWhile fun c => Text.covers transparent c.toNat with
  | c :: _ => Text.covers table c.toNat
  | [] => false

/-- The joiners of a label stand where they have an effect; `before` holds what
precedes the rest, the nearest character first. -/
def joinersFit (before : List Char) : List Char → Bool
  | [] => true
  | c :: rest =>
    let afterVirama := (before.head?.map isVirama).getD false
    (if c = '\u200D' then afterVirama
      else if c = '\u200C' then afterVirama || (meets joinsAfter before && meets joinsBefore rest)
      else true) && joinersFit (c :: before) rest

/-- A label of right-to-left letters, or one with their numbers. -/
def hasRightToLeft (label : List Char) : Bool :=
  label.any fun c => c.toNat ≥ 128 &&
    (Text.covers rightToLeft c.toNat || Text.covers arabicLetters c.toNat ||
      Text.covers arabicNumbers c.toNat)

/-- A letter of a right-to-left script. -/
def isRightToLeft (n : Nat) : Bool :=
  Text.covers rightToLeft n || Text.covers arabicLetters n

/-- A character in no table of directions. -/
def isLeftToRight (n : Nat) : Bool :=
  !(isRightToLeft n || Text.covers arabicNumbers n || Text.covers europeanNumbers n ||
    Text.covers nonspacing n || Text.covers neutral n || Text.covers formatting n)

/-- The rules for a label in a domain name with right-to-left characters. -/
def directionFits (label : List Char) : Bool :=
  let codes := label.map Char.toNat
  let core := (codes.reverse.dropWhile (Text.covers nonspacing ·))
  match codes, core with
  | [], _ => true
  | first :: _, lastFirst =>
    if isRightToLeft first then
      codes.all (fun n => isRightToLeft n || Text.covers arabicNumbers n ||
        Text.covers europeanNumbers n || Text.covers nonspacing n || Text.covers neutral n) &&
      (match lastFirst with
        | last :: _ => isRightToLeft last || Text.covers arabicNumbers last ||
            Text.covers europeanNumbers last
        | [] => true) &&
      !(codes.any (Text.covers europeanNumbers ·) && codes.any (Text.covers arabicNumbers ·))
    else if isLeftToRight first then
      codes.all (fun n => isLeftToRight n || Text.covers europeanNumbers n ||
        Text.covers nonspacing n || Text.covers neutral n) &&
      (match lastFirst with
        | last :: _ => isLeftToRight last || Text.covers europeanNumbers last
        | [] => true)
    else false

/-- The characters of a label: those of its Punycode form after `xn--`. -/
def unicodeLabel? : List Char → Option (List Char)
  | 'x' :: 'n' :: '-' :: '-' :: rest =>
    match Punycode.decode? rest with
    | none => none
    | some cs =>
      if cs.all (·.toNat < 128) || !cs.all isValid || Text.Normal.compose cs != cs ||
          cs.contains '.' then none
      else some cs
  | label => some label

/-- A label may stand in a domain name. -/
def labelFits (label : List Char) : Bool :=
  !(label.any isForbidden) && (label.all (·.toNat < 128) ||
    (label.all isValid && !((label.head?.map fun c => Text.covers Text.marks c.toNat).getD false) &&
      joinersFit [] label))

/-- The ASCII form of a label. -/
def asciiLabel (label : List Char) : List Char :=
  if label.all (·.toNat < 128) then label
  else ['x', 'n', '-', '-'] ++ Punycode.encode label

/-- The ASCII form of a domain name given as bytes. -/
def toAscii? (bytes : List UInt8) : Option (List Char) := do
  let forms ← (Utf8.lossy bytes).mapM mapped?
  let labels ← ((Text.Normal.compose forms.flatten).splitOn '.').mapM unicodeLabel?
  if !labels.all labelFits then none
  else if labels.any hasRightToLeft && !labels.all directionFits then none
  else pure (['.'].intercalate (labels.map asciiLabel))

end ProbeCampaign.Domain
