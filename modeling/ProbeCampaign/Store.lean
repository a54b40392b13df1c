import ProbeCampaign.Browser
import ProbeCampaign.Error
import ProbeCampaign.Json.Printer
import ProbeCampaign.Response
import ProbeCampaign.Result
import Std.Data.HashMap

/-!
# The store

A `Store` holds the responses, the browsers and the results of a campaign, each
with ids from one on in the order of arrival. Nothing in it is ever changed or
removed. A response is stored once: `upsert` of one that is there returns its
id, but still uses up an id, and so does registering a browser that is there.
A result is kept without the type of its response, and its outcome as JSON.
-/

namespace ProbeCampaign

/-- A response with its id, its digest and the time it was stored at. -/
structure StoredResponse where
  id : Int
  spec : ResponseSpec
  digest : String
  createdAt : Nat

/-- The record of a stored response. -/
def StoredResponse.toDatum (r : StoredResponse) : Datum :=
  .table [
    ("id", .int r.id),
    ("spec", r.spec.toDatum),
    ("digest", .text r.digest),
    ("created_at", .int r.createdAt)]

/-- The columns of a stored result. -/
structure ResultRow where
  id : Int
  testName : String
  testStatus : Int
  relationInfo : String
  orgScheme : String
  orgHost : String
  respScheme : String
  respHost : String
  outcome : Option String
  fullUrl : String
  browserId : Int
  responseId : Int

/-- The columns of a record that is stored under an id. -/
def ResultRecord.row (record : ResultRecord) (id : Int) : ResultRow where
  id := id
  testName := record.testName
  testStatus := record.testStatus
  relationInfo := record.relationInfo
  orgScheme := record.orgScheme
  orgHost := record.orgHost
  respScheme := record.respScheme
  respHost := record.respHost
  outcome := record.outcomeValue.map Json.render
  fullUrl := record.fullUrl
  browserId := record.browserId
  responseId := record.responseId

/-- Responses, browsers and results in the order of their ids. `responseIds` and
`browserIds` count the ids used up so far, and `byDigest` finds the id of a
response. -/
structure Store where
  responses : Array StoredResponse
  responseIds : Nat
  byDigest : Std.HashMap String Int
  browsers : List Browser
  browserIds : Nat
  results : Array ResultRow
  byDigest_eq : ∀ digest : String,
    byDigest[digest]? = (responses.toList.find? fun r => r.digest == digest).map (·.id)

namespace Store

/-- A store with nothing in it. -/
def empty : Store where
  responses := #[]
  responseIds := 0
  byDigest := ∅
  browsers := []
  browserIds := 0
  results := #[]
  byDigest_eq := by simp

/-- Adds a response that is not stored yet. -/
def add (s : Store) (now : Nat) (spec : ResponseSpec) (digest : String)
    (fresh : s.byDigest[digest]? = none) : Store :=
  let id : Int := s.responseIds + 1
  { s with
    responses := s.responses.push ⟨id, spec, digest, now⟩
    responseIds := s.responseIds + 1
    byDigest := s.byDigest.insert digest id
    byDigest_eq := by
      intro d
      have unused : s.responses.toList.find? (fun r => r.digest == digest) = none := by
        have h := s.byDigest_eq digest
        rw [fresh] at h
        simpa using h.symm
      rw [Std.HashMap.getElem?_insert, Array.toList_push, List.find?_append]
      by_cases h : digest = d
      · subst h
        simp [unused]
      · simp [h, s.byDigest_eq d] }

/-- Stores a response unless it is there. Returns its id and whether it is
new. -/
def upsert (s : Store) (now : Nat) (spec : ResponseSpec) : (Int × Bool) × Store :=
  let digest := spec.digest
  match h : s.byDigest[digest]? with
  | some id => ((id, false), { s with responseIds := s.responseIds + 1 })
  | none => ((s.responseIds + 1, true), s.add now spec digest h)

/-- The ids of the responses of a label and type, ascending. -/
def lookup (s : Store) (label : String) (respType : RespType) : List Int :=
  (s.responses.toList.filter fun r => r.spec.label = label ∧ r.spec.respType = respType).map (·.id)

/-- The response of an id. -/
def response? (s : Store) (id : Int) : Option StoredResponse :=
  s.responses.find? fun r => r.id = id

/-- The number of responses, of one label or type if given. -/
def count (s : Store) (label : Option String) (respType : Option RespType) : Nat :=
  s.responses.countP fun r =>
    label.all (· = r.spec.label) && respType.all (· = r.spec.respType)

/-- Registers a browser unless it is there. Returns its id and whether it is
new. The remark of a browser that is there stays. -/
def register (s : Store) (entry : BrowserEntry) : (Int × Bool) × Store :=
  match s.browsers.find? fun b => b.entry.key = entry.key with
  | some b => ((b.id, false), { s with browserIds := s.browserIds + 1 })
  | none =>
    let id : Int := s.browserIds + 1
    ((id, true),
      { s with browsers := s.browsers ++ [⟨id, entry⟩], browserIds := s.browserIds + 1 })

/-- The store as it is after opening: the placeholder browser is registered. -/
def opened (s : Store) : Store :=
  (s.register .unknown).2

/-- Opens a store. It is refused if the placeholder browser is registered under
another id than that of the placeholder. -/
def reopen (s : Store) : Except Failure Store :=
  let id := (s.register .unknown).1.1
  if id = unknownBrowserId then .ok s.opened
  else .error (.internal ("placeholder browser has id " ++ toString id ++ ", expected " ++
    toString unknownBrowserId))

/-- The browser of an id. -/
def browser? (s : Store) (id : Int) : Option Browser :=
  s.browsers.find? fun b => b.id = id

/-- Adds a result; its browser and its response have to be stored. Returns its
id. -/
def insertResult (s : Store) (record : ResultRecord) : Except StoreError (Int × Store) :=
  if (s.browser? record.browserId).isSome ∧ (s.response? record.responseId).isSome then
    let id : Int := s.results.size + 1
    .ok (id, { s with results := s.results.push (record.row id) })
  else .error .foreignKey

/-- A result that was refused among several: how many came before it, and why. -/
structure Refusal where
  position : Nat
  record : ResultRecord
  error : StoreError

/-- Adds results in order up to the first that is refused; those before it stay.
Returns their ids. -/
def insertResults (s : Store) : List ResultRecord → Except Refusal (List Int) × Store
  | [] => (.ok [], s)
  | record :: rest =>
    match s.insertResult record with
    | .error e => (.error ⟨0, record, e⟩, s)
    | .ok (id, s) =>
      match s.insertResults rest with
      | (.ok ids, s) => (.ok (id :: ids), s)
      | (.error r, s) => (.error { r with position := r.position + 1 }, s)

end Store

end ProbeCampaign
