import ProbeCampaign.Config.Limits

/-!
# Test pages

A `TestTemplate` is one test page with the label of the responses it loads.
`flaw?` finds what makes a page unfit for one type of responses: above all,
popups of one response that would be cut in two when a visit may not open all
popups of its responses.
-/

namespace ProbeCampaign

/-- The types of responses that a page is run for. -/
inductive ModeFilter where
  | all
  | nonParsing
  | parsingOnly
  deriving DecidableEq

namespace ModeFilter

/-- The name of a filter. -/
def name : ModeFilter → String
  | .all => "all"
  | .nonParsing => "non_parsing"
  | .parsingOnly => "parsing_only"

/-- The filter of a name. -/
def ofName? (s : String) : Option ModeFilter :=
  [ModeFilter.all, .nonParsing, .parsingOnly].find? (·.name == s)

/-- Whether responses of a type pass. -/
def allows : ModeFilter → RespType → Bool
  | .all, _ => true
  | .nonParsing, mode => mode ≠ .parsing
  | .parsingOnly, mode => mode = .parsing

end ModeFilter

/-- One test page: its file, the label of its responses, how many of them one
URL may carry, and the popups it opens for each. -/
structure TestTemplate where
  file : String
  label : String
  numRespIds : Nat
  popupsParsing : Nat
  popupsBasic : Nat
  httpOnly : Bool
  modes : ModeFilter
  deriving DecidableEq

/-- What makes a page unfit for one type of responses. -/
inductive TemplateFlaw where
  | unnamed
  | noIds
  | noPopupsAllowed (mode : RespType)
  | unevenPopups (mode : RespType) (popups limit : Nat)
  deriving DecidableEq

/-- The wording of a flaw. -/
def TemplateFlaw.message : TemplateFlaw → String
  | .unnamed => "file and label must be set"
  | .noIds => "num_resp_ids must be at least 1"
  | .noPopupsAllowed mode => mode.name ++ " popups declared but max_popups_per_url is 0"
  | .unevenPopups mode popups limit =>
    mode.name ++ " popups per id (" ++ toString popups ++
      ") cannot be split evenly into buckets of " ++ toString limit

namespace TestTemplate

/-- A page without popups that runs for every type and over every scheme. -/
def plain (file label : String) : TestTemplate :=
  ⟨file, label, 10, 0, 0, false, .all⟩

/-- Whether the page is planned for a type of responses. -/
def runsIn (t : TestTemplate) (mode : RespType) : Bool :=
  t.modes.allows mode

/-- Whether the page is planned over a scheme. -/
def runsOver (t : TestTemplate) (scheme : Scheme) : Bool :=
  !(t.httpOnly && scheme.isSecure)

/-- The popups opened for each response of a type. -/
def popupsPerId (t : TestTemplate) : RespType → Nat
  | .parsing => t.popupsParsing
  | _ => t.popupsBasic

/-- How many responses of a type one URL may carry; only those that probe
parsing are grouped. -/
def idGroupLimit (t : TestTemplate) (mode : RespType) (plan : PlanLimits) : Nat :=
  match mode with
  | .parsing => max (min t.numRespIds plan.maxRespsPerUrl) 1
  | _ => 1

/-- Whether buckets of `limit` popups never cut the `popups` of one response:
one of the two numbers divides the other. -/
def aligned (popups limit : Nat) : Bool :=
  if popups ≤ limit then limit % popups = 0 else popups % limit = 0

/-- What makes the page unfit for a type of responses within the limits. -/
def flaw? (t : TestTemplate) (mode : RespType) (plan : PlanLimits) : Option TemplateFlaw :=
  let popups := t.popupsPerId mode
  let limit := plan.maxPopupsPerUrl
  if t.file = "" ∨ t.label = "" then some .unnamed
  else if t.numRespIds = 0 then some .noIds
  else if popups = 0 then none
  else if limit = 0 then some (.noPopupsAllowed mode)
  else if popups * t.idGroupLimit mode plan ≤ limit ∨ aligned popups limit then none
  else some (.unevenPopups mode popups limit)

/-- The fields of a page, in order. -/
def fields : List String :=
  ["file", "label", "num_resp_ids", "popups_parsing", "popups_basic", "http_only", "modes"]

/-- The page that a record denotes; all but the first three fields may be left
out. -/
def ofDatum? (d : Datum) : Option TestTemplate := do
  let r ← Record.of? fields d
  let file ← r.required "file" Datum.text?
  let label ← r.required "label" Datum.text?
  let numRespIds ← r.required "num_resp_ids" (Datum.natOfBits? 32)
  let popupsParsing ← r.defaulted "popups_parsing" (Datum.natOfBits? 32) 0
  let popupsBasic ← r.defaulted "popups_basic" (Datum.natOfBits? 32) 0
  let httpOnly ← r.defaulted "http_only" Datum.bool? false
  let modes ← r.defaulted "modes" (fun d => d.choice? >>= ModeFilter.ofName?) .all
  pure ⟨file, label, numRespIds, popupsParsing, popupsBasic, httpOnly, modes⟩

/-- The record of a page. -/
def toDatum (t : TestTemplate) : Datum :=
  .table [
    ("file", .text t.file),
    ("label", .text t.label),
    ("num_resp_ids", .int t.numRespIds),
    ("popups_parsing", .int t.popupsParsing),
    ("popups_basic", .int t.popupsBasic),
    ("http_only", .bool t.httpOnly),
    ("modes", .text t.modes.name)]

end TestTemplate

/-- A page that is unfit, and why. -/
structure TemplateError where
  file : String
  label : String
  flaw : TemplateFlaw
  deriving DecidableEq

/-- The wording of an error. -/
def TemplateError.message (e : TemplateError) : String :=
  "template " ++ e.file ++ " (" ++ e.label ++ "): " ++ e.flaw.message

/-- The error of a page that is unfit for a type of responses. -/
def TestTemplate.error? (t : TestTemplate) (mode : RespType) (plan : PlanLimits) :
    Option TemplateError :=
  (t.flaw? mode plan).map (⟨t.file, t.label, ·⟩)

/-- The built-in pages. -/
def builtinTemplates : List TestTemplate :=
  let cors := "fetch-cors.sub.html"
  let framing := "framing.sub.html"
  [ { TestTemplate.plain cors "CORS" with modes := .nonParsing },
    { TestTemplate.plain cors "CORS-ACAO" with modes := .parsingOnly },
    { TestTemplate.plain cors "CORS-ACAC" with modes := .parsingOnly },
    { TestTemplate.plain cors "CORS-ACAM" with modes := .parsingOnly },
    { TestTemplate.plain cors "CORS-ACAH" with modes := .parsingOnly },
    { TestTemplate.plain cors "CORS-ACEH" with modes := .parsingOnly },
    .plain framing "XFO",
    .plain framing "CSP-FA",
    .plain framing "CSPvsXFO",
    .plain "fullscreen-api-pp.sub.html" "PP",
    .plain "originAgentCluster-oac.sub.html" "OAC",
    .plain "perfAPI-tao.sub.html" "TAO",
    .plain "referrer-access-rp.sub.html" "RP",
    .plain "script-execution-csp.sub.html" "CSP-SCRIPT",
    .plain "subresource-loading-coep.sub.html" "COEP",
    .plain "subresource-loading-corp.sub.html" "CORP",
    .plain "subresource-loading-csp.sub.html" "CSP-IMG",
    { TestTemplate.plain "upgrade-hsts.sub.html" "HSTS" with httpOnly := true },
    { TestTemplate.plain "window-references-coop.sub.html" "COOP" with
      popupsParsing := 2, popupsBasic := 12 } ]

end ProbeCampaign
