import ProbeCampaign.Text.Class
import ProbeCampaign.Text.WidthTable

/-!
# The width of texts

How many columns of a terminal a text takes.
-/

namespace ProbeCampaign.Text

/-- The columns of a character. -/
def charWidth (c : Char) : Nat :=
  if c.toNat < 0xA0 then 1
  else if within wideIntervals c.toNat then 2
  else if within flatIntervals c.toNat then 0
  else 1

/-- The columns of a text. -/
def width (s : String) : Nat :=
  s.toList.foldl (fun columns c => columns + charWidth c) 0

end ProbeCampaign.Text
