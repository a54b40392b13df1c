import ProbeCampaign.Json.Parser
import ProbeCampaign.Json.Printer
import ProbeCampaign.Repeat
import ProbeCampaign.Text.Decimal

/-!
# The retry artifact

A `RetryArtifact` lists the URLs that each browser has to repeat, by the id of
the browser in decimal. Its file is a JSON table. A browser visits its URLs in
batches and is restarted between them.
-/

namespace ProbeCampaign

/-- URLs by browser, ascending by the text of the browser id. -/
structure RetryArtifact where
  urls : List (String × List String)
  deriving DecidableEq

namespace RetryArtifact

/-- The key of a browser. -/
def key (browserId : Int) : String :=
  String.ofList (Decimal.ofInt browserId)

/-- The artifact of what has to be repeated. -/
def ofOutcome (o : RepeatOutcome) : RetryArtifact :=
  ⟨o.urls.foldl (fun acc (id, urls) => Datum.insertEntry (key id) urls acc) []⟩

/-- The text of the file of an artifact. -/
def render (a : RetryArtifact) : String :=
  Json.renderPretty (.table (a.urls.map fun (k, urls) => (k, .texts urls)))

/-- The artifact that the text of a file denotes. -/
def parse? (content : List Char) : Option RetryArtifact := do
  let d ← Json.parseChars? content
  let urls ← d.map? (Datum.list? Datum.text?)
  pure ⟨urls⟩

/-- The URLs of a browser over a scheme. -/
def urlsFor (a : RetryArtifact) (browserId : Int) (scheme : Scheme) : List String :=
  ((a.urls.lookup (key browserId)).getD []).filter fun url =>
    (scheme.name ++ "://").toList.isPrefixOf url.toList

/-- The number of URLs over all browsers. -/
def total (a : RetryArtifact) : Nat :=
  (a.urls.flatMap (·.2)).length

end RetryArtifact

/-- Cuts a list into pieces of `size + 1` items as long as there are as many. -/
def cut {α : Type} (size : Nat) : List α → List (List α)
  | [] => []
  | a :: rest => (a :: rest.take size) :: cut size (rest.drop size)
  termination_by l => l.length

/-- Cuts URLs into batches of at most `limit`, at least one. -/
def batches (urls : List String) (limit : Nat) : List (List String) :=
  cut (limit - 1) urls

end ProbeCampaign
