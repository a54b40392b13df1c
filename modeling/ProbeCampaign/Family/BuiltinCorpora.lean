import ProbeCampaign.Family

/-!
# The built-in basic corpora

For each header a blocking and an allowing response, one response for each
value with a defined meaning, and a few redirects.
-/

namespace ProbeCampaign

/-- A corpus of one header: a response for each value, one without the header,
and possibly one with several values joined. -/
def singleHeaderCorpus (label name deny allow : String) (values : List String)
    (joined : Option String) (redirects : List String) : BasicCorpus where
  label := label
  debug := [[(name, deny)], [(name, allow)]]
  basic := (values.map fun v => [(name, v)]) ++ [[]] ++
    joined.toList.map fun v => [(name, v)]
  redirects := redirects.map fun v => [(name, v)]

/-- The corpus with further basic responses. -/
def BasicCorpus.extend (c : BasicCorpus) (responses : List (List Header)) : BasicCorpus :=
  { c with basic := c.basic ++ responses }

/-- Framing by its own header. -/
def framingCorpus : BasicCorpus :=
  singleHeaderCorpus "XFO" "x-frame-options" "DENY" "SAMEORIGIN"
    ["DENY", "SAMEORIGIN", "INVALID", "ALLOWALL", "", "null", "*"]
    (some "DENY, INVALID, ALLOWALL") ["SAMEORIGIN", "INVALID"]

/-- One directive of the content security policy. -/
def policyCorpus (hosts : HostConfig) (label directive : String) : BasicCorpus :=
  let none := directive ++ " 'none'"
  let any := directive ++ " *"
  let self := directive ++ " 'self'"
  let origin := UrlForms.originSecure hosts
  singleHeaderCorpus label "Content-Security-Policy" none any
    [directive, none, any, self, directive ++ " " ++ origin, directive ++ " " ++ origin ++ "/",
      directive ++ " *." ++ hosts.baseHost, "", directive ++ "=*", "default-src *",
      directive ++ " http:", "null", "*"]
    (some (none ++ ", " ++ any ++ ", " ++ self)) [none, any]

/-- Both ways to control framing together. -/
def framingConflictCorpus (hosts : HostConfig) : BasicCorpus :=
  let policy := "Content-Security-Policy"
  let framing := "X-Frame-Options"
  let denyPolicy : Header := (policy, "frame-ancestors 'none'")
  let denyFraming : Header := (framing, "DENY")
  let allowPolicy : Header := (policy, "*")
  let allowFraming : Header := (framing, "INVALID")
  let somePolicy : Header := (policy, "frame-ancestors *." ++ hosts.baseHost)
  let someFraming : Header := (framing, "SAMEORIGIN")
  { label := "CSPvsXFO"
    debug := [[denyPolicy, denyFraming], [allowPolicy, allowFraming]]
    basic := [[denyPolicy, allowFraming], [denyPolicy, someFraming], [allowPolicy, someFraming],
      [denyFraming, allowPolicy], [denyFraming, somePolicy]]
    redirects := [[denyPolicy], [denyFraming]] }

/-- Use of a resource by other origins. -/
def resourcePolicyCorpus : BasicCorpus :=
  singleHeaderCorpus "CORP" "Cross-Origin-Resource-Policy" "same-origin" "cross-origin"
    ["unsafe-none", "same-origin", "same-site", "cross-origin", "", "null", "*"]
    (some "unsafe-none, same-site, cross-origin") ["same-origin", "same-site"]

/-- Embedding of resources of other origins. -/
def embedderPolicyCorpus : BasicCorpus :=
  singleHeaderCorpus "COEP" "Cross-Origin-Embedder-Policy" "require-corp" "unsafe-none"
    ["unsafe-none", "require-corp", "credentialless", "cross-origin", "", "null", "*"]
    (some "unsafe-none, credentialless, cross-origin") ["require-corp", "credentialless"]

/-- Windows shared with other origins. -/
def openerPolicyCorpus : BasicCorpus :=
  singleHeaderCorpus "COOP" "Cross-Origin-Opener-Policy" "same-origin" "unsafe-none"
    ["unsafe-none", "same-origin-allow-popups", "same-origin", "same-origin-plus-COEP", "", "null",
      "*"]
    (some "unsafe-none, same-origin, same-origin-plus-COEP")
    ["same-origin-allow-popups", "same-origin"]

/-- Sharing of resources. -/
def sharingCorpus (hosts : HostConfig) : BasicCorpus :=
  let origin := "Access-Control-Allow-Origin"
  let credentials := "Access-Control-Allow-Credentials"
  let site := UrlForms.originSecure hosts
  let test : Header := ("Test", "Test")
  let full : List Header := [(origin, site), (credentials, "true"),
    ("Access-Control-Allow-Methods", "TEST"), ("Access-Control-Allow-Headers", "Test"),
    ("Access-Control-Expose-Headers", "Test")]
  { label := "CORS"
    debug := [[(origin, "null")], full ++ [test]]
    basic := [[test, (origin, "http://sub." ++ hosts.baseHost)], [test, (credentials, "true")],
      [test, (origin, "*"), (credentials, "true")], test :: full]
    redirects := [[(origin, site)], [(origin, "*")]] }

/-- Encrypted connections only. -/
def transportSecurityCorpus : BasicCorpus :=
  let values := ["max-age=20", "max-age=20; includeSubDomains", "includeSubDomains", "",
    "max-age=20; includeSubDomains; preload", "max-age=0", "max-age=-5"]
  (singleHeaderCorpus "HSTS" "Strict-Transport-Security" "max-age=20"
    "max-age=20; includeSubDomains" (["*", "null"] ++ values) (some (", ".intercalate values))
    ["max-age=20", "max-age=20; includeSubDomains"]).extend
    [[("Strict-Transport-Security", "abc, max-age=20")]]

/-- Agents of their own for origins. -/
def originAgentCorpus : BasicCorpus :=
  let values := ["?1", "?0", "", "1", "0", "true", "false"]
  (singleHeaderCorpus "OAC" "origin-agent-cluster" "?1" "?0" (["*", "null"] ++ values)
    (some (", ".intercalate values)) ["?1", "?0"]).extend
    [[("origin-agent-cluster", "abc, ?1")]]

/-- Features that a page may use. -/
def permissionsCorpus (hosts : HostConfig) : BasicCorpus :=
  let origin := UrlForms.originSecure hosts
  let children := "*." ++ hosts.baseHost
  let selfChildren := "*.sub." ++ hosts.baseHost
  let only := fun v : String => "fullscreen=(" ++ v ++ ")"
  (singleHeaderCorpus "PP" "Permissions-Policy" "fullscreen=()" "fullscreen=(*)"
    ["*", "null", "fullscreen=", "fullscreen=*", "fullscreen=()", "fullscreen=(self)",
      only origin, only children, only selfChildren, "fullscreen=(self none)",
      "fullscreen=(self,none)", "fullscreen=(src)", only (origin ++ "/"), only (origin ++ ":443/")]
    none ["fullscreen=()", "fullscreen=(*)"]).extend
    (["fullscreen *", "fullscreen 'none'", "fullscreen 'self'", "fullscreen 'src'",
      "fullscreen " ++ origin, "fullscreen " ++ selfChildren, "fullscreen " ++ children].map
      fun v => [("Feature-Policy", v)])

/-- What a request tells about the page it comes from. -/
def referrerCorpus : BasicCorpus :=
  let values := ["no-referrer", "no-referrer-when-downgrade", "same-origin", "origin",
    "strict-origin", "origin-when-cross-origin", "strict-origin-when-cross-origin", "unsafe-url"]
  (singleHeaderCorpus "RP" "Referrer-Policy" "no-referrer" "unsafe-url"
    (["*", "null"] ++ values ++ [""]) (some (", ".intercalate values))
    ["no-referrer", "unsafe-url"]).extend
    [[("Referrer-Policy", "abc, strict-origin")]]

/-- Timing of a resource for other origins. -/
def timingCorpus (hosts : HostConfig) : BasicCorpus :=
  let name := "Timing-Allow-Origin"
  let origin := UrlForms.originSecure hosts
  let site := "sub." ++ hosts.baseHost
  (singleHeaderCorpus "TAO" name "null" "*"
    ["*", "null", origin, "http://" ++ site, "https://" ++ hosts.baseHost, origin ++ "/",
      origin ++ ":443", site]
    none ["*", "null"]).extend
    [[(name, "null"), (name, "*")], [(name, origin), (name, "*")]]

/-- All built-in basic corpora, in order. -/
def builtinCorpora (hosts : HostConfig) : List BasicCorpus :=
  [framingCorpus, policyCorpus hosts "CSP-FA" "frame-ancestors",
    policyCorpus hosts "CSP-SCRIPT" "script-src", policyCorpus hosts "CSP-IMG" "img-src",
    framingConflictCorpus hosts, resourcePolicyCorpus, embedderPolicyCorpus, openerPolicyCorpus,
    sharingCorpus hosts, transportSecurityCorpus, originAgentCorpus, permissionsCorpus hosts,
    referrerCorpus, timingCorpus hosts]

end ProbeCampaign
