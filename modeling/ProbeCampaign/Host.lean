import ProbeCampaign.Datum.Decode
import ProbeCampaign.Response
import ProbeCampaign.Text.Case
import ProbeCampaign.Text.Pattern

/-!
# Hosts of the test pages

`HostConfig` names the hosts that the response server answers on. Header values
that refer to an origin hold a placeholder; `UrlForms.expand` writes each such
value once for every form in which the hosts can be referred to.
-/

namespace ProbeCampaign

/-- The hosts and the directory of the test pages. -/
structure HostConfig where
  baseHost : String
  altHost : String
  testDir : String
  deriving DecidableEq

namespace HostConfig

/-- The hosts used when none are configured. -/
def default : HostConfig :=
  ⟨"web-platform.test", "not-web-platform.test", "_hp/tests"⟩

/-- The host that serves the test pages. -/
def testHost (h : HostConfig) : String :=
  "sub." ++ h.baseHost

/-- The header that redirects to an empty page. -/
def redirectEmpty (h : HostConfig) : Header :=
  ("location", "https://sub." ++ h.baseHost ++ "/_hp/common/empty.html")

/-- The fields of the hosts, in order. -/
def fields : List String := ["base_host", "alt_host", "test_dir"]

/-- The hosts that a record denotes; each has a default. -/
def ofDatum? (d : Datum) : Option HostConfig := do
  let r ← Record.of? fields d
  let baseHost ← r.defaulted "base_host" Datum.text? default.baseHost
  let altHost ← r.defaulted "alt_host" Datum.text? default.altHost
  let testDir ← r.defaulted "test_dir" Datum.text? default.testDir
  pure ⟨baseHost, altHost, testDir⟩

/-- The record of the hosts. -/
def toDatum (h : HostConfig) : Datum :=
  .table [
    ("base_host", .text h.baseHost),
    ("alt_host", .text h.altHost),
    ("test_dir", .text h.testDir)]

end HostConfig

/-- The text that stands for an origin, a site or a URL in a header value. -/
def urlPlaceholder : String := "<!URL!>"

namespace UrlForms

/-- The secure origin of the test pages. -/
def originSecure (h : HostConfig) : String :=
  "https://sub." ++ h.baseHost

/-- The forms in which the hosts are referred to. -/
def all (h : HostConfig) : List String :=
  let base := h.baseHost
  let origin := originSecure h
  let originPort := origin ++ ":443"
  [ "sub." ++ base,
    origin,
    "HTTPS://SUB." ++ Text.upper base,
    origin ++ "/abc/",
    origin ++ "/?a=a",
    "http://sub." ++ base,
    originPort,
    origin ++ "/",
    originPort ++ "/",
    "https://" ++ base,
    "https://sub.sub." ++ base,
    "*." ++ base,
    "*.sub." ++ base,
    "https://*.sub." ++ base,
    "https://" ++ h.altHost ]

/-- The value with one form in place of every placeholder. -/
def fill (form value : String) : String :=
  String.ofList
    ((Pattern.literal urlPlaceholder.toList).replaceAll form.toList value.toList)

/-- The outputs of one value: itself, or one for each form if it holds a
placeholder. -/
def expandOne (h : HostConfig) (value : String) : List String :=
  if (Pattern.literal urlPlaceholder.toList).occurs value.toList then
    (all h).map fun form => fill form value
  else [value]

/-- The outputs of several values, in order. -/
def expand (h : HostConfig) (values : List String) : List String :=
  values.flatMap (expandOne h)

end UrlForms

end ProbeCampaign
