import ProbeCampaign.Datum.Decode
import ProbeCampaign.Json.Parser
import ProbeCampaign.Json.Printer
import ProbeCampaign.Sha256
import ProbeCampaign.Text.Utf8

/-!
# Responses under test

A `ResponseSpec` is one HTTP response that browsers are confronted with: its
headers in order, its status code, the label of its corpus and its type. Two
responses are the same exactly when all four agree; `dedupKey` writes the four
into one byte sequence and `digest` hashes it.
-/

namespace ProbeCampaign

/-- The three sizes of test input: a minimal allow and deny pair, a small set of
well-defined responses, and the large set of malformed ones. -/
inductive RespType where
  | debug
  | basic
  | parsing
  deriving DecidableEq, Hashable

namespace RespType

/-- All types, smallest input first. -/
def all : List RespType := [.debug, .basic, .parsing]

/-- The name of a type. -/
def name : RespType → String
  | .debug => "debug"
  | .basic => "basic"
  | .parsing => "parsing"

/-- The type of a name. -/
def ofName? (s : String) : Option RespType :=
  all.find? (·.name == s)

theorem ofName?_name (t : RespType) : ofName? t.name = some t := by
  cases t with
  | debug => rfl
  | basic => rfl
  | parsing => rfl

/-- The place of a type among all types. -/
def rank : RespType → Nat
  | .debug => 0
  | .basic => 1
  | .parsing => 2

/-- The type that a datum names. -/
def ofDatum? (d : Datum) : Option RespType :=
  d.choice? >>= ofName?

end RespType

/-- The scheme that a test page is served over. -/
inductive Scheme where
  | http
  | https
  deriving DecidableEq

namespace Scheme

/-- The name of a scheme. -/
def name : Scheme → String
  | .http => "http"
  | .https => "https"

/-- The scheme of a name. -/
def ofName? (s : String) : Option Scheme :=
  [Scheme.http, .https].find? (·.name == s)

/-- Whether pages are served encrypted. -/
def isSecure : Scheme → Bool
  | .http => false
  | .https => true

/-- The scheme that a datum names. -/
def ofDatum? (d : Datum) : Option Scheme :=
  d.choice? >>= ofName?

end Scheme

/-- A header field: its name and its value. -/
abbrev Header := String × String

namespace Header

/-- A header as a list of two texts. -/
def toDatum (h : Header) : Datum :=
  .texts [h.1, h.2]

/-- The header that a list of two texts denotes. -/
def ofDatum? : Datum → Option Header :=
  Datum.pair? Datum.text? Datum.text?

/-- The JSON text of a header list. -/
def renderList (headers : List Header) : List Char :=
  Json.compact (.list (headers.map toDatum))

/-- The header list that a JSON text denotes. -/
def parseList? (cs : List Char) : Option (List Header) :=
  Json.parseChars? cs >>= Datum.list? ofDatum?

end Header

/-- One response under test. -/
structure ResponseSpec where
  headers : List Header
  statusCode : UInt16
  label : String
  respType : RespType
  deriving DecidableEq, Hashable

namespace ResponseSpec

/-- The byte sequence that stands for the response: the JSON text of the
headers, the two bytes of the status code, label and type, with a zero byte
between neighbours. -/
def dedupKey (s : ResponseSpec) : List UInt8 :=
  Utf8.bytes (Header.renderList s.headers) ++ 0 ::
    (UInt8.ofNat (s.statusCode.toNat / 256) :: UInt8.ofNat (s.statusCode.toNat % 256) :: 0 ::
      (Utf8.bytes s.label.toList ++ 0 :: Utf8.bytes s.respType.name.toList))

/-- The SHA-256 of the dedup key in hexadecimal. -/
def digest (s : ResponseSpec) : String :=
  String.ofList (Hex.ofBytes (Sha256.hash s.dedupKey))

/-- The fields of a response, in order. -/
def fields : List String := ["headers", "status_code", "label", "resp_type"]

/-- The response that a record denotes. -/
def ofDatum? (d : Datum) : Option ResponseSpec := do
  let r ← Record.of? fields d
  let headers ← r.required "headers" (Datum.list? Header.ofDatum?)
  let status ← r.required "status_code" (Datum.natOfBits? 16)
  let label ← r.required "label" Datum.text?
  let respType ← r.required "resp_type" RespType.ofDatum?
  pure ⟨headers, UInt16.ofNat status, label, respType⟩

/-- The record of a response. -/
def toDatum (s : ResponseSpec) : Datum :=
  .table [
    ("headers", .list (s.headers.map Header.toDatum)),
    ("status_code", .int s.statusCode.toNat),
    ("label", .text s.label),
    ("resp_type", .text s.respType.name)]

end ResponseSpec

end ProbeCampaign
