import ProbeCampaign.Host

/-!
# Header families

A `HeaderFamily` is one probed header with its values in classes; a
`MultiHeaderFamily` is several headers probed together; a `BasicCorpus` is a
small fixed set of responses.
-/

namespace ProbeCampaign

/-- One probed header: its names, its values by effect, and the headers that
accompany it in every response. -/
structure HeaderFamily where
  label : String
  headerName : String
  altNames : List String
  blockValues : List String
  allowValues : List String
  partialValues : List String
  legacyValues : List String
  otherValues : List String
  baseResp : List Header
  deriving DecidableEq

namespace HeaderFamily

/-- The values with a defined effect: blocking, allowing and partial ones. -/
def validValues (f : HeaderFamily) : List String :=
  f.blockValues ++ f.allowValues ++ f.partialValues

/-- Every value. -/
def allValues (f : HeaderFamily) : List String :=
  f.validValues ++ f.legacyValues ++ f.otherValues

/-- The family with further values, placeholders in them expanded. -/
def extendOther (f : HeaderFamily) (hosts : HostConfig) (values : List String) : HeaderFamily :=
  { f with otherValues := f.otherValues ++ UrlForms.expand hosts values }

/-- The fields of a family, in order. -/
def fields : List String :=
  ["label", "header_name", "alt_names", "block_values", "allow_values", "partial_values",
    "legacy_values", "other_values", "base_resp"]

/-- The family that a record denotes; what is left out is empty. -/
def ofDatum? (d : Datum) : Option HeaderFamily := do
  let r ← Record.of? fields d
  let texts (name : String) := r.defaulted name (Datum.list? Datum.text?) []
  let label ← r.defaulted "label" Datum.text? ""
  let headerName ← r.defaulted "header_name" Datum.text? ""
  let altNames ← texts "alt_names"
  let blockValues ← texts "block_values"
  let allowValues ← texts "allow_values"
  let partialValues ← texts "partial_values"
  let legacyValues ← texts "legacy_values"
  let otherValues ← texts "other_values"
  let baseResp ← r.defaulted "base_resp" (Datum.list? Header.ofDatum?) []
  pure ⟨label, headerName, altNames, blockValues, allowValues, partialValues, legacyValues,
    otherValues, baseResp⟩

/-- The record of a family. -/
def toDatum (f : HeaderFamily) : Datum :=
  .table [
    ("label", .text f.label),
    ("header_name", .text f.headerName),
    ("alt_names", .texts f.altNames),
    ("block_values", .texts f.blockValues),
    ("allow_values", .texts f.allowValues),
    ("partial_values", .texts f.partialValues),
    ("legacy_values", .texts f.legacyValues),
    ("other_values", .texts f.otherValues),
    ("base_resp", .list (f.baseResp.map Header.toDatum))]

end HeaderFamily

/-- Several headers probed together, each with the values it cycles through. -/
structure MultiHeaderFamily where
  label : String
  headers : List (String × List String)
  baseResp : List Header
  deriving DecidableEq

namespace MultiHeaderFamily

/-- The family that a record denotes; what is left out is empty. -/
def ofDatum? (d : Datum) : Option MultiHeaderFamily := do
  let r ← Record.of? ["label", "headers", "base_resp"] d
  let label ← r.defaulted "label" Datum.text? ""
  let headers ← r.defaulted "headers"
    (Datum.list? (Datum.pair? Datum.text? (Datum.list? Datum.text?))) []
  let baseResp ← r.defaulted "base_resp" (Datum.list? Header.ofDatum?) []
  pure ⟨label, headers, baseResp⟩

/-- The record of a family. -/
def toDatum (f : MultiHeaderFamily) : Datum :=
  .table [
    ("label", .text f.label),
    ("headers", .list (f.headers.map fun h => .list [.text h.1, .texts h.2])),
    ("base_resp", .list (f.baseResp.map Header.toDatum))]

end MultiHeaderFamily

/-- A fixed set of responses: a blocking and an allowing one for a quick look,
basic ones, and basic ones that redirect. -/
structure BasicCorpus where
  label : String
  debug : List (List Header)
  basic : List (List Header)
  redirects : List (List Header)
  deriving DecidableEq

namespace BasicCorpus

/-- The responses of a corpus; `redirect` is the header of redirecting ones. -/
def specs (c : BasicCorpus) (redirect : Header) : List ResponseSpec :=
  (c.debug.map fun headers => ⟨headers, 200, c.label, .debug⟩) ++
  (c.basic.map fun headers => ⟨headers, 200, c.label, .basic⟩) ++
  (c.redirects.map fun headers => ⟨headers ++ [redirect], 302, c.label, .basic⟩)

/-- The corpus that a record denotes; what is left out is empty. -/
def ofDatum? (d : Datum) : Option BasicCorpus := do
  let r ← Record.of? ["label", "debug", "basic", "redirects"] d
  let lists (name : String) := r.defaulted name (Datum.list? (Datum.list? Header.ofDatum?)) []
  let label ← r.defaulted "label" Datum.text? ""
  let debug ← lists "debug"
  let basic ← lists "basic"
  let redirects ← lists "redirects"
  pure ⟨label, debug, basic, redirects⟩

/-- The record of a corpus. -/
def toDatum (c : BasicCorpus) : Datum :=
  let lists := fun ls : List (List Header) =>
    Datum.list (ls.map fun hs => .list (hs.map Header.toDatum))
  .table [
    ("label", .text c.label),
    ("debug", lists c.debug),
    ("basic", lists c.basic),
    ("redirects", lists c.redirects)]

end BasicCorpus

end ProbeCampaign
