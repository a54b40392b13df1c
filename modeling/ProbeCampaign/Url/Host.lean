import ProbeCampaign.Url.Domain
import ProbeCampaign.Url.Error
import ProbeCampaign.Url.Ipv4
import ProbeCampaign.Url.Ipv6
import ProbeCampaign.Url.Percent

/-!
# Hosts

`Host.parse` reads the host of a web URL: an IPv6 address in brackets, an IPv4
address when the last label is a number, a domain name otherwise. The hosts of
other schemes are only checked.
-/

namespace ProbeCampaign

/-- A host: a domain name in ASCII form or an address. -/
inductive Host where
  | domain (name : List Char)
  | ipv4 (address : Nat)
  | ipv6 (pieces : List Nat)
  deriving DecidableEq

namespace Host

/-- The written form of a host. -/
def render : Host → List Char
  | .domain name => name
  | .ipv4 address => Ipv4.render address
  | .ipv6 pieces => '[' :: (Ipv6.render pieces ++ [']'])

/-- The address between brackets. -/
def bracketed (cs : List Char) : Except UrlError Host :=
  if cs.getLast? = some ']' then
    match Ipv6.parse? (cs.drop 1).dropLast with
    | some pieces => .ok (.ipv6 pieces)
    | none => .error .ipv6
  else .error .ipv6

/-- The host of a web URL. -/
def parse (cs : List Char) : Except UrlError Host :=
  if cs.head? = some '[' then bracketed cs
  else
    match Domain.toAscii? (Percent.decode cs) with
    | none => .error .domain
    | some [] => .error .emptyHost
    | some name =>
      if Ipv4.endsInNumber name then
        match Ipv4.parse? name with
        | some address => .ok (.ipv4 address)
        | none => .error .ipv4
      else .ok (.domain name)

/-- A character that no host of another scheme holds. -/
def isForbidden (c : Char) : Bool :=
  ['\x00', '\t', '\n', '\r', ' ', '#', '/', ':', '<', '>', '?', '@', '[', '\\', ']', '^',
    '|'].contains c

/-- Checks the host of a scheme that gives it no meaning. -/
def parseOpaque (cs : List Char) : Except UrlError Unit :=
  if cs.head? = some '[' then (bracketed cs).map fun _ => ()
  else if cs.any isForbidden then .error .domainCharacter
  else .ok ()

end Host

end ProbeCampaign
