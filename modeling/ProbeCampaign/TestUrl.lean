import ProbeCampaign.Error
import ProbeCampaign.IdRange
import ProbeCampaign.Popup
import ProbeCampaign.Response
import ProbeCampaign.Result
import ProbeCampaign.Text.Decimal
import ProbeCampaign.Url
import ProbeCampaign.Url.Form

/-!
# Test URLs

A `TestPlanEntry` is one visit of a test page by one browser; its URL carries
the entry in the query, in a fixed order of parameters. `url` is the URL handed
to the browser, `cleanUrl` leaves out what differs between visits of the same
test, and `parse` reads a URL back, whatever other parameters it has.
-/

namespace ProbeCampaign

/-- One visit of a test page. The path has no leading slash. -/
structure TestPlanEntry where
  scheme : Scheme
  host : String
  path : String
  respType : RespType
  browserId : Int
  label : String
  ids : IdRange
  timeout : Nat
  popups : Option PopupBucket
  deriving DecidableEq

namespace TestPlanEntry

/-- The parameters that identify the test, for one browser. -/
def identifyingParams (e : TestPlanEntry) (browserId : Int) : List (String × String) := [
  ("resp_type", e.respType.name),
  ("browser_id", String.ofList (Decimal.ofInt browserId)),
  ("label", e.label),
  ("first_id", String.ofList (Decimal.ofInt e.ids.first)),
  ("last_id", String.ofList (Decimal.ofInt e.ids.last)),
  ("scheme", e.scheme.name)]

/-- The parameters that differ between visits of the same test. -/
def visitParams (e : TestPlanEntry) : List (String × String) :=
  ("timeout", String.ofList (Decimal.ofNat e.timeout)) ::
    match e.popups with
    | none => []
    | some b => [
        ("first_popup", String.ofList (Decimal.ofNat b.first)),
        ("last_popup", String.ofList (Decimal.ofNat b.last)),
        ("run_no_popup", b.flag)]

/-- The URL of the page with the given parameters. -/
def render (e : TestPlanEntry) (params : List (String × String)) : String :=
  e.scheme.name ++ "://" ++ e.host ++ "/" ++ e.path ++ "?" ++ String.ofList (Form.encode params)

/-- The URL handed to the browser. -/
def url (e : TestPlanEntry) : String :=
  e.render (e.identifyingParams e.browserId ++ e.visitParams)

/-- The URL of the test, whoever visits it. -/
def cleanUrl (e : TestPlanEntry) : String :=
  e.render (e.identifyingParams unknownBrowserId)

/-- The parameters of a URL, with errors that name the URL. -/
structure Params where
  url : String
  pairs : List (String × String)

/-- The error that the URL has a flaw. -/
def Params.flaw (p : Params) (reason : String) : Failure :=
  .invalidUrl p.url reason

/-- The value of a parameter if it is given. -/
def Params.get? (p : Params) (key : String) : Option String :=
  Form.last? p.pairs key

/-- The value of a parameter that must be given. -/
def Params.get (p : Params) (key : String) : Except Failure String :=
  match p.get? key with
  | some value => .ok value
  | none => .error (p.flaw ("missing " ++ key))

/-- The number that a parameter must hold. -/
def Params.number (p : Params) (key : String) : Except Failure Int := do
  let value ← p.get key
  match Decimal.int64? value.toList with
  | some n => .ok n
  | none => .error (p.flaw (key ++ " is not a number"))

/-- The number from zero on, below a bound, that a parameter must hold. -/
def Params.count (p : Params) (key : String) (bound : Nat) : Except Failure Nat := do
  let n ← p.number key
  if 0 ≤ n ∧ n < bound then .ok n.toNat else .error (p.flaw (key ++ " out of range"))

/-- The popup parameters, all or none of which must be given. -/
def Params.popups (p : Params) : Except Failure (Option PopupBucket) :=
  match p.get? "first_popup", p.get? "last_popup", p.get? "run_no_popup" with
  | none, none, none => .ok none
  | some _, some _, some flag => do
    let first ← p.count "first_popup" (capacity 64)
    let last ← p.count "last_popup" (capacity 64)
    if flag = "yes" then .ok (some ⟨first, last, true⟩)
    else if flag = "no" then .ok (some ⟨first, last, false⟩)
    else .error (p.flaw "run_no_popup must be yes or no")
  | _, _, _ => .error (p.flaw "incomplete popup parameters")

/-- The host of a URL with its port, if the scheme does not imply it. -/
def hostText (host : Host) (port : Option Nat) : String :=
  String.ofList (host.render ++
    match port with
    | some n => ':' :: Decimal.ofNat n
    | none => [])

/-- The entry that a URL denotes. -/
def parse (raw : String) : Except Failure TestPlanEntry := do
  let parsed ← (Url.parse raw.toList).mapError fun e => Failure.invalidUrl raw e.message
  let params : Params := ⟨raw, Form.decode (parsed.query.getD [])⟩
  let some scheme := Scheme.ofName? (String.ofList parsed.scheme)
    | throw (params.flaw "unsupported scheme")
  let some host := parsed.host
    | throw (params.flaw "missing host")
  let path := String.ofList (parsed.path.dropWhile (· = '/'))
  let some echoed := Scheme.ofName? (← params.get "scheme")
    | throw (params.flaw "invalid scheme parameter")
  if echoed ≠ scheme then throw (params.flaw "scheme parameter does not match URL")
  let first ← params.number "first_id"
  let last ← params.number "last_id"
  let ids : IdRange := ⟨first, last⟩
  if ids.isEmpty then throw (params.flaw "first_id is after last_id")
  let timeout ← params.count "timeout" (capacity 32)
  let popups ← params.popups
  let typeName ← params.get "resp_type"
  let some respType := RespType.ofName? typeName
    | throw (Failure.unknownRespType typeName)
  let browserId ← params.number "browser_id"
  let label ← params.get "label"
  pure
    { scheme, host := hostText host parsed.port, path, respType, browserId, label, ids, timeout,
      popups }

/-- The fields of an entry, in order. -/
def fields : List String :=
  ["scheme", "host", "path", "resp_type", "browser_id", "label", "ids", "timeout", "popups"]

/-- The entry that a record denotes. -/
def ofDatum? (d : Datum) : Option TestPlanEntry := do
  let r ← Record.of? fields d
  let scheme ← r.required "scheme" Scheme.ofDatum?
  let host ← r.required "host" Datum.text?
  let path ← r.required "path" Datum.text?
  let respType ← r.required "resp_type" RespType.ofDatum?
  let browserId ← r.required "browser_id" Datum.int64?
  let label ← r.required "label" Datum.text?
  let ids ← r.required "ids" IdRange.ofDatum?
  let timeout ← r.required "timeout" (Datum.natOfBits? 32)
  let popups ← r.optional "popups" PopupBucket.ofDatum?
  pure { scheme, host, path, respType, browserId, label, ids, timeout, popups }

/-- The record of an entry. -/
def toDatum (e : TestPlanEntry) : Datum :=
  .table [
    ("scheme", .text e.scheme.name),
    ("host", .text e.host),
    ("path", .text e.path),
    ("resp_type", .text e.respType.name),
    ("browser_id", .int e.browserId),
    ("label", .text e.label),
    ("ids", e.ids.toDatum),
    ("timeout", .int e.timeout),
    ("popups", .ofOption PopupBucket.toDatum e.popups)]

end TestPlanEntry

end ProbeCampaign
