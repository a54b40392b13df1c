import ProbeCampaign.Family

/-!
# The built-in families

The headers that are probed and their values: a few values that every header is
probed with, values from conformance suites and earlier studies, and edge cases
chosen by hand.
-/

namespace ProbeCampaign

/-- The values that most headers are probed with. -/
def commonValues : List String :=
  ["", "INVALID", "null", "*", urlPlaceholder]

/-- The values that the headers for sharing resources are probed with. -/
def sharingValues : List String :=
  ["", "INVALID", "null", "*", "Test", "true", "?1", "?0", "TEST", "test", "false", "https://",
    "//", urlPlaceholder]

/-- Former names of the content security policy. -/
def policyAltNames : List String :=
  ["x-content-security-policy", "x-webkit-csp", "x-webkit-content-security-policy"]

/-- Framing by its own header. -/
def framingFamily (hosts : HostConfig) : HeaderFamily where
  label := "XFO"
  headerName := "x-frame-options"
  altNames := ["frame-options", "x-frame-option", "x-frames-options", "content-security-policy",
    "x_frame_options", "xframeoptions"]
  blockValues := ["DENY"]
  allowValues := ["ALLOWALL"]
  partialValues := ["SAMEORIGIN"]
  legacyValues := ["ALLOW-FROM " ++ UrlForms.originSecure hosts]
  otherValues := UrlForms.expand hosts (commonValues ++ [
    "", "SAMEORIGIN", "  SAMEORIGIN ", "\"SAMEORIGIN,DENY\"",
    "  SAMEORIGIN,    DENY", "  DENY ", "ALLOWALL", "\"DENY\"",
    "ALLOW-FROM <!URL!>", "denY", "\"SAMEORIGIN\"", "sameOriGin", "DENY",
    ",SAMEORIGIN,,DENY,", "INVALID", "allowAll", "sameOrigin",
    "ALLOW-FROM=<!URL!>",
    "deny, deny", "allow-from <!URL!>; allow-from <!URL!>", "deny, sameorigin",
    "deny, allow-from <!URL!>", "RANDOMDIRECTIVE", "deny; deny",
    "deny; allow-from <!URL!>", "allowall", "allow-from <!URL!>, allow-from <!URL!>",
    "deny; sameorigin", "sameorigin, allow-from <!URL!>", "allow-from <!URL!>",
    "allow-from <!URL!>, deny", "sameorigin", "sameorigin, deny", "deny",
    "sameorigin, sameorigin", "sameorigin; deny", "allow-from <!URL!>, sameorigin",
    "sameorigin; sameorigin", "allow-from <!URL!>; deny"])
  baseResp := []

/-- Framing by the content security policy. -/
def frameAncestorsFamily (hosts : HostConfig) : HeaderFamily where
  label := "CSP-FA"
  headerName := "content-security-policy"
  altNames := policyAltNames
  blockValues := ["frame-ancestors 'none'"]
  allowValues := ["frame-ancestors *"]
  partialValues := ["frame-ancestors 'self'"]
  legacyValues := []
  otherValues := UrlForms.expand hosts (commonValues ++ [
    "frame-ancestors 'none'", "frame-ancestors 'self'", "frame-ancestors *",
    "frame-ancestors <!URL!>",
    "frame-ancestors https:;", "frame-ancestors http:;",
    "frame-ancestors <!URL!> <!URL!>;", "frame-ancestors <!URL!>;",
    "default-src 'none'", "self", "*", "frame-ancestors self", "frame-ancestors",
    "frame-ancestors none", "frame-src none", "frame-ancestors 'null'",
    "frame-ancestors null"])
  baseResp := []

/-- The headers of a response that shares its resource in every respect. -/
def sharingHeaders (hosts : HostConfig) : List Header := [
  ("Test", "Test"),
  ("access-control-allow-origin", UrlForms.originSecure hosts),
  ("access-control-allow-credentials", "true"),
  ("access-control-allow-methods", "TEST"),
  ("access-control-allow-headers", "Test"),
  ("access-control-expose-headers", "Test")]

/-- One header for sharing resources, beside the others at fixed values. -/
def sharingFamily (hosts : HostConfig) (label name : String)
    (block allow partly : List String) : HeaderFamily where
  label := label
  headerName := name
  altNames := []
  blockValues := block
  allowValues := allow
  partialValues := partly
  legacyValues := []
  otherValues := UrlForms.expand hosts sharingValues
  baseResp := (sharingHeaders hosts).filter (·.1 ≠ name)

/-- The five headers for sharing resources. -/
def sharingFamilies (hosts : HostConfig) : List HeaderFamily := [
  sharingFamily hosts "CORS-ACAO" "access-control-allow-origin" ["null"] ["*"]
    [UrlForms.originSecure hosts],
  sharingFamily hosts "CORS-ACAC" "access-control-allow-credentials" [] ["true"] [],
  sharingFamily hosts "CORS-ACAM" "access-control-allow-methods" [] ["*"] ["TEST"],
  sharingFamily hosts "CORS-ACAH" "access-control-allow-headers" [] ["*"] ["Test"],
  sharingFamily hosts "CORS-ACEH" "access-control-expose-headers" [] ["*"] ["Test"]]

/-- Use of a resource by other origins. -/
def resourcePolicyFamily (hosts : HostConfig) : HeaderFamily where
  label := "CORP"
  headerName := "cross-origin-resource-policy"
  altNames := ["from-origin", "x-cross-origin-resource-policy"]
  blockValues := [""]
  allowValues := ["cross-origin"]
  partialValues := ["same-site", "same-origin"]
  legacyValues := []
  otherValues := UrlForms.expand hosts (commonValues ++ [
    "same", "same, same-origin", "SAME-ORIGIN", "Same-Origin", "same-origin, <>",
    "same-origin, same-origin", urlPlaceholder,
    "unsafe-none"])
  baseResp := []

/-- Embedding of resources of other origins. -/
def embedderPolicyFamily (hosts : HostConfig) : HeaderFamily where
  label := "COEP"
  headerName := "cross-origin-embedder-policy"
  altNames := ["x-cross-origin-embedder-policy"]
  blockValues := ["require-corp"]
  allowValues := ["unsafe-none"]
  partialValues := ["credentialless"]
  legacyValues := []
  otherValues := UrlForms.expand hosts (commonValues ++ [
    "jibberish", "require%FFcorp", "require-corp;", "\x0brequire-corp\x0b",
    "\x0crequire-corp\x0c", "\rrequire-corp\r", "Require-corp",
    "\"require-corp\"", ":cmVxdWlyZS1jb3Jw:", "require-corp;\tfoo=bar",
    "require-corp require-corp", "require-corp,require-corp", "require-corp",
    " require-corp ", "\trequire-corp\t", " \trequire-corp", "require-corp\t ",
    "require-corp; foo=bar", "require-corp;require-corp",
    "require-corp; report-to=\"data:",
    "cross-origin", "same-origin"])
  baseResp := []

/-- Windows shared with other origins. -/
def openerPolicyFamily (hosts : HostConfig) : HeaderFamily where
  label := "COOP"
  headerName := "cross-origin-opener-policy"
  altNames := ["x-cross-origin-opener-policy"]
  blockValues := []
  allowValues := ["unsafe-none"]
  partialValues := ["same-origin", "same-origin-allow-popups"]
  legacyValues := []
  otherValues := UrlForms.expand hosts (commonValues ++ [
    "same-origin;", "\x0bsame-origin\x0b", "\x0csame-origin\x0c",
    "\rsame-origin\r", "Same-origin", "same-origin;\tfoo=bar",
    "same-origin ;foo=bar", "same-origin; foo=bar;", "\"same-origin\"",
    ":c2FtZS1vcmlnaW4=:", "?1", "1", "$same-origin", "same-origin same-origin",
    "same-origin\\,same-origin", "*same-origin ", "same%FForigin", " same-origin",
    "same-origin ", "\tsame-origin", "same-origin\t", "same-origin;same-origin",
    "same-origin; foo=bar",
    "cross-origin", "same-origin", "same-origin-plus-COEP"])
  baseResp := []

/-- One directive of the content security policy for the sources of a kind of
resource. -/
def sourceFamily (hosts : HostConfig) (label directive : String)
    (before after : List String) : HeaderFamily where
  label := label
  headerName := "content-security-policy"
  altNames := policyAltNames
  blockValues := [directive ++ " 'none'"]
  allowValues := [directive ++ " *"]
  partialValues := [directive ++ " 'self'"]
  legacyValues := []
  otherValues := UrlForms.expand hosts (commonValues ++ before ++
    ["default-src 'none'", "self", "*", directive ++ " self", directive, directive ++ " none",
      directive ++ " none", directive ++ " 'null'", directive ++ " null"] ++ after)
  baseResp := []

/-- Sources of scripts and of images. -/
def sourceFamilies (hosts : HostConfig) : List HeaderFamily := [
  sourceFamily hosts "CSP-SCRIPT" "script-src" []
    ["script-src-elem " ++ urlPlaceholder, "script-src-attr " ++ urlPlaceholder],
  sourceFamily hosts "CSP-IMG" "img-src"
    ["img-src 'none'", "img-src 'self'", "img-src *", "img-src " ++ urlPlaceholder]
    ["frame-src none"]]

/-- Encrypted connections only. -/
def transportSecurityFamily (hosts : HostConfig) : HeaderFamily where
  label := "HSTS"
  headerName := "strict-transport-security"
  altNames := ["x-strict-transport-security", "hsts"]
  blockValues := ["max-age=0"]
  allowValues := []
  partialValues := ["max-age=60", "max-age=20; includeSubDomains"]
  legacyValues := []
  otherValues := UrlForms.expand hosts (commonValues ++ [
    "max-age=60; max-age=120", "max-age=60; someDirective, max-age=60; someDirective",
    "max-age=60; preload", "max-age=0, max-age=60",
    "max-age=60, max-age=60; max-age=60; includeSubdomains",
    "max-age=60; includeSubDomains",
    "random, includeSubdomains; max-age=60; includeSubdomains",
    "max-age=60; max-age=0", "max-age=60, max-age=120", "max-age=60, max-age=60",
    "max-age=60; max-age=60, includeSubdomains",
    "max-age=60, includeSubdomains; max-age=60; includeSubdomains",
    "includeSubDomains", "max-age=60; max-age=60", "max-age=60,; includeSubdomains",
    "max-age=60; preload; preload", "max-age=60", "max-age=0",
    "max-age=60; includeSubDomains; preload",
    "max-age=60, x; max-age=60; includeSubdomains",
    "max-age=60; includeSubdomains; max-age=60, includeSubdomains",
    "max-age=60; includeSubDomains, max-age=60; includeSubDomains",
    "max-age=60, includeSubdomains", "max-age=60; someDirective; someDirective",
    "max-age=60, max-age=0", "max-age=0; max-age=60", "max-age=120",
    "max-age=60; includeSubDomains; includeSubDomains", "preload",
    "max-age=60; preload, max-age=60; preload",
    "x, max-age=60; max-age=60; includeSubdomains",
    "max-age=60; includeSubdomains, max-age=60", "max-age=60; ,",
    "includeSubDomains", "max-age=-5", "max-age=60; includeSubDomains; preload"])
  baseResp := []

/-- Features that a page may use. -/
def permissionsFamily (hosts : HostConfig) : HeaderFamily where
  label := "PP"
  headerName := "permissions-policy"
  altNames := ["x-permissions-policy", "feature-policy"]
  blockValues := ["fullscreen=()"]
  allowValues := ["fullscreen=(*)"]
  partialValues := ["fullscreen=(self)"]
  legacyValues := []
  otherValues := UrlForms.expand hosts (commonValues ++ [
    "fullscreen=", "fullscreen=*", "fullscreen=()", "fullscreen=(self)",
    "fullscreen=(<!URL!>)", "fullscreen=(self none)", "fullscreen=(self,none)",
    "fullscreen=(src)"])
  baseResp := []

/-- What a request tells about the page it comes from. -/
def referrerFamily (hosts : HostConfig) : HeaderFamily where
  label := "RP"
  headerName := "referrer-policy"
  altNames := ["x-referrer-policy", "referer-policy"]
  blockValues := ["no-referrer"]
  allowValues := ["unsafe-url"]
  partialValues := ["same-origin"]
  legacyValues := []
  otherValues := UrlForms.expand hosts (commonValues ++ [
    "no-referrer-when-downgrade", "origin", "strict-origin",
    "origin-when-cross-origin", "strict-origin-when-cross-origin"])
  baseResp := []

/-- Timing of a resource for other origins. -/
def timingFamily (hosts : HostConfig) : HeaderFamily where
  label := "TAO"
  headerName := "timing-allow-origin"
  altNames := ["x-timing-allow-origin"]
  blockValues := ["null"]
  allowValues := ["*"]
  partialValues := []
  legacyValues := []
  otherValues := UrlForms.expand hosts (commonValues ++ [
    "self", "'self'", "<!URL!> <!URL!>", "<!URL!>,<!URL!>"])
  baseResp := []

/-- Guessing of content types. -/
def contentTypeFamily (hosts : HostConfig) : HeaderFamily where
  label := "XCTO"
  headerName := "x-content-type-options"
  altNames := ["content-type-options"]
  blockValues := ["nosniff"]
  allowValues := []
  partialValues := []
  legacyValues := []
  otherValues := UrlForms.expand hosts [
    "", "INVALID", "nosniff", "no-sniff",
    "NOSNIFF", "nosniff,,@#$#%%&^&^*()()11!", "@#$#%%&^&^*()()11!,nosniff", "no", "",
    ",nosniff", "nosniff\x0c", "nosniff\x0b,nosniff", "'NosniFF'",
    "\"nosniFF\"",
    "SNIFF", "no", "always", "maybe"]
  baseResp := []

/-- All built-in families, in order. -/
def builtinFamilies (hosts : HostConfig) : List HeaderFamily :=
  [framingFamily hosts, frameAncestorsFamily hosts] ++ sharingFamilies hosts ++
  [resourcePolicyFamily hosts, embedderPolicyFamily hosts, openerPolicyFamily hosts] ++
  sourceFamilies hosts ++
  [transportSecurityFamily hosts, permissionsFamily hosts, referrerFamily hosts,
    timingFamily hosts, contentTypeFamily hosts]

/-- Both ways to control framing together, if the values of the policy are at
hand. -/
def builtinMultiFamilies (families : List HeaderFamily) : List MultiHeaderFamily :=
  match families.find? fun f => f.label == "CSP-FA" with
  | none => []
  | some policy => [{
      label := "CSPvsXFO"
      headers := [
        ("content-security-policy", policy.allValues),
        ("x-frame-options", ["DENY", "", "INVALID", "SAMEORIGIN"])]
      baseResp := [] }]

end ProbeCampaign
