/-!
# What is wrong with a URL

`UrlError` lists the reasons for which a text denotes no absolute URL, and
`UrlError.message` words them.
-/

namespace ProbeCampaign

/-- A reason for which a text is not an absolute URL. -/
inductive UrlError where
  | relative
  | emptyHost
  | domain
  | domainCharacter
  | ipv4
  | ipv6
  | port
  deriving DecidableEq

/-- The wording of a reason. -/
def UrlError.message : UrlError → String
  | .relative => "relative URL without a base"
  | .emptyHost => "empty host"
  | .domain => "invalid international domain name"
  | .domainCharacter => "invalid domain character"
  | .ipv4 => "invalid IPv4 address"
  | .ipv6 => "invalid IPv6 address"
  | .port => "invalid port number"

end ProbeCampaign
