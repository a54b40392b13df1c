import ProbeCampaign.Json.Parser
import ProbeCampaign.Json.Printer
import ProbeCampaign.Store

/-!
# The file of a store

A store is kept in a file as one JSON record. `parse?` reads what `render`
writes; the index of digests is not in the file but made anew.
-/

namespace ProbeCampaign

/-- The stored response that a record denotes. -/
def StoredResponse.ofDatum? (d : Datum) : Option StoredResponse := do
  let r ← Record.of? ["id", "spec", "digest", "created_at"] d
  let id ← r.required "id" Datum.int64?
  let spec ← r.required "spec" ResponseSpec.ofDatum?
  let digest ← r.required "digest" Datum.text?
  let createdAt ← r.required "created_at" (Datum.natOfBits? 64)
  pure ⟨id, spec, digest, createdAt⟩

/-- The registered browser that a record denotes. -/
def Browser.ofDatum? (d : Datum) : Option Browser := do
  let .table entries := d | none
  let id ← entries.lookup "id" >>= Datum.int64?
  let entry ← BrowserEntry.ofDatum? d
  pure ⟨id, entry⟩

namespace ResultRow

/-- The record of a row. -/
def toDatum (r : ResultRow) : Datum :=
  .table [
    ("id", .int r.id),
    ("test_name", .text r.testName),
    ("test_status", .int r.testStatus),
    ("relation_info", .text r.relationInfo),
    ("org_scheme", .text r.orgScheme),
    ("org_host", .text r.orgHost),
    ("resp_scheme", .text r.respScheme),
    ("resp_host", .text r.respHost),
    ("outcome_value", .ofOption .text r.outcome),
    ("full_url", .text r.fullUrl),
    ("browser_id", .int r.browserId),
    ("response_id", .int r.responseId)]

/-- The row that a record denotes. -/
def ofDatum? (d : Datum) : Option ResultRow := do
  let r ← Record.of? ["id", "test_name", "test_status", "relation_info", "org_scheme", "org_host",
    "resp_scheme", "resp_host", "outcome_value", "full_url", "browser_id", "response_id"] d
  let id ← r.required "id" Datum.int64?
  let testName ← r.required "test_name" Datum.text?
  let testStatus ← r.required "test_status" Datum.int64?
  let relationInfo ← r.required "relation_info" Datum.text?
  let orgScheme ← r.required "org_scheme" Datum.text?
  let orgHost ← r.required "org_host" Datum.text?
  let respScheme ← r.required "resp_scheme" Datum.text?
  let respHost ← r.required "resp_host" Datum.text?
  let outcome ← r.optional "outcome_value" Datum.text?
  let fullUrl ← r.required "full_url" Datum.text?
  let browserId ← r.required "browser_id" Datum.int64?
  let responseId ← r.required "response_id" Datum.int64?
  pure ⟨id, testName, testStatus, relationInfo, orgScheme, orgHost, respScheme, respHost, outcome,
    fullUrl, browserId, responseId⟩

end ResultRow

namespace Store

/-- Adds a response under an id that comes after all that are used. -/
def putBack (s : Store) (r : StoredResponse) : Option Store :=
  if h : s.byDigest[r.digest]? = none then
    if (s.responseIds : Int) < r.id then
      some ({ s with responseIds := r.id.toNat - 1 }.add r.createdAt r.spec r.digest h)
    else none
  else none

/-- The record of a store. -/
def toDatum (s : Store) : Datum :=
  .table [
    ("responses", .list (s.responses.toList.map StoredResponse.toDatum)),
    ("response_ids", .int s.responseIds),
    ("browsers", .list (s.browsers.map Browser.toDatum)),
    ("browser_ids", .int s.browserIds),
    ("results", .list (s.results.toList.map ResultRow.toDatum))]

/-- The store that a record denotes. -/
def ofDatum? (d : Datum) : Option Store := do
  let r ← Record.of? ["responses", "response_ids", "browsers", "browser_ids", "results"] d
  let responses ← r.required "responses" (Datum.list? StoredResponse.ofDatum?)
  let responseIds ← r.required "response_ids" (Datum.natOfBits? 63)
  let browsers ← r.required "browsers" (Datum.list? Browser.ofDatum?)
  let browserIds ← r.required "browser_ids" (Datum.natOfBits? 63)
  let results ← r.required "results" (Datum.list? ResultRow.ofDatum?)
  let s ← responses.foldlM putBack empty
  pure { s with responseIds, browsers, browserIds, results := results.toArray }

/-- The text of the file of a store. -/
def render (s : Store) : String :=
  Json.render s.toDatum

/-- The store that the text of a file denotes; an empty file holds an empty
store. -/
def parse? (content : List Char) : Option Store :=
  if content.isEmpty then some empty else Json.parseChars? content >>= ofDatum?

end Store

end ProbeCampaign
