import ProbeCampaign.Response
import ProbeCampaign.Browser

/-!
# Results of executed tests

A `ResultRecord` is what a browser reports for one response of one test page.
The records that differ at most in browser, status, URL and outcome belong to
the same `TestIdentity`; a `ResultFilter` selects records for reconciliation.
-/

namespace ProbeCampaign

/-- The test case that a record belongs to. -/
structure TestIdentity where
  testName : String
  relationInfo : String
  orgScheme : String
  orgHost : String
  respScheme : String
  respHost : String
  responseId : Int
  respType : RespType
  deriving DecidableEq

namespace TestIdentity

/-- The parts of an identity joined by underscores. -/
def text (i : TestIdentity) : String :=
  "_".intercalate [i.testName, i.relationInfo, i.orgScheme, i.orgHost, i.respScheme, i.respHost,
    toString i.responseId, i.respType.name]

/-- Lexicographic order by the fields in order; texts compare by code points. -/
def compare (a b : TestIdentity) : Ordering :=
  (Ord.compare a.testName b.testName).then <|
  (Ord.compare a.relationInfo b.relationInfo).then <|
  (Ord.compare a.orgScheme b.orgScheme).then <|
  (Ord.compare a.orgHost b.orgHost).then <|
  (Ord.compare a.respScheme b.respScheme).then <|
  (Ord.compare a.respHost b.respHost).then <|
  (Ord.compare a.responseId b.responseId).then <|
  Ord.compare a.respType.rank b.respType.rank

/-- The record of an identity. -/
def toDatum (i : TestIdentity) : Datum :=
  .table [
    ("test_name", .text i.testName),
    ("relation_info", .text i.relationInfo),
    ("org_scheme", .text i.orgScheme),
    ("org_host", .text i.orgHost),
    ("resp_scheme", .text i.respScheme),
    ("resp_host", .text i.respHost),
    ("response_id", .int i.responseId),
    ("resp_type", .text i.respType.name)]

end TestIdentity

/-- One executed test as reported by a browser. -/
structure ResultRecord where
  id : Option Int
  testName : String
  testStatus : Int
  relationInfo : String
  orgScheme : String
  orgHost : String
  respScheme : String
  respHost : String
  responseId : Int
  respType : RespType
  browserId : Int
  fullUrl : String
  outcomeValue : Option Datum

namespace ResultRecord

/-- The test case of a record. -/
def identity (r : ResultRecord) : TestIdentity :=
  ⟨r.testName, r.relationInfo, r.orgScheme, r.orgHost, r.respScheme, r.respHost, r.responseId,
    r.respType⟩

/-- The fields of a record, in order. -/
def fields : List String :=
  ["id", "test_name", "test_status", "relation_info", "org_scheme", "org_host", "resp_scheme",
    "resp_host", "response_id", "resp_type", "browser_id", "full_url", "outcome_value"]

/-- The record that a datum denotes. The id, the relation and the outcome may be
left out; a null outcome is no outcome. -/
def ofDatum? (d : Datum) : Option ResultRecord := do
  let r ← Record.of? fields d
  let id ← r.defaulted "id" (Datum.option? Datum.int64?) none
  let testName ← r.required "test_name" Datum.text?
  let testStatus ← r.required "test_status" Datum.int64?
  let relationInfo ← r.defaulted "relation_info" Datum.text? ""
  let orgScheme ← r.required "org_scheme" Datum.text?
  let orgHost ← r.required "org_host" Datum.text?
  let respScheme ← r.required "resp_scheme" Datum.text?
  let respHost ← r.required "resp_host" Datum.text?
  let responseId ← r.required "response_id" Datum.int64?
  let respType ← r.required "resp_type" RespType.ofDatum?
  let browserId ← r.required "browser_id" Datum.int64?
  let fullUrl ← r.required "full_url" Datum.text?
  let outcomeValue ←
    r.defaulted "outcome_value" (Datum.option? fun d => some d.canonical) none
  pure ⟨id, testName, testStatus, relationInfo, orgScheme, orgHost, respScheme, respHost,
    responseId, respType, browserId, fullUrl, outcomeValue⟩

/-- The datum of a record with every field. -/
def toDatum (r : ResultRecord) : Datum :=
  .table [
    ("id", .ofOption .int r.id),
    ("test_name", .text r.testName),
    ("test_status", .int r.testStatus),
    ("relation_info", .text r.relationInfo),
    ("org_scheme", .text r.orgScheme),
    ("org_host", .text r.orgHost),
    ("resp_scheme", .text r.respScheme),
    ("resp_host", .text r.respHost),
    ("response_id", .int r.responseId),
    ("resp_type", .text r.respType.name),
    ("browser_id", .int r.browserId),
    ("full_url", .text r.fullUrl),
    ("outcome_value", .ofOption (fun d => d) r.outcomeValue)]

/-- The records of a JSON text that is a list of them. -/
def parseList? (text : String) : Option (List ResultRecord) :=
  Json.parse? text >>= Datum.list? ofDatum?

end ResultRecord

/-- A selection of records. -/
structure ResultFilter where
  testStatus : Option Int
  excludeRespTypes : List RespType
  excludeUnknownBrowser : Bool
  browserIds : Option (List Int)
  os : Option String

namespace ResultFilter

/-- Completed tests of real browsers, debug responses left out. -/
def default : ResultFilter :=
  ⟨some 0, [.debug], true, none, none⟩

/-- The fields of a filter, in order. -/
def fields : List String :=
  ["test_status", "exclude_resp_types", "exclude_unknown_browser", "browser_ids", "os"]

/-- The filter that a record denotes. -/
def ofDatum? (d : Datum) : Option ResultFilter := do
  let r ← Record.of? fields d
  let testStatus ← r.optional "test_status" Datum.int64?
  let excludeRespTypes ← r.required "exclude_resp_types" (Datum.list? RespType.ofDatum?)
  let excludeUnknownBrowser ← r.required "exclude_unknown_browser" Datum.bool?
  let browserIds ← r.optional "browser_ids" (Datum.list? Datum.int64?)
  let os ← r.optional "os" Datum.text?
  pure ⟨testStatus, excludeRespTypes, excludeUnknownBrowser, browserIds, os⟩

end ResultFilter

end ProbeCampaign
