import ProbeCampaign.Store

/-!
# Connections to a store

A `Connection` reaches a store that may be unavailable for single calls:
`upsertFails` and `lookupFails` say which calls fail, by their numbers. A
failing call leaves the store as it is.
-/

namespace ProbeCampaign

/-- A store, the time that new responses are stored at, and the calls made so
far. -/
structure Connection where
  store : Store
  now : Nat
  upserts : Nat
  lookups : Nat
  upsertFails : Nat → Bool
  lookupFails : Nat → Bool

namespace Connection

/-- A connection to a store on which no call fails. -/
def healthy (store : Store) (now : Nat) : Connection :=
  ⟨store, now, 0, 0, fun _ => false, fun _ => false⟩

/-- The connection on which the next calls of each kind fail, the given number
of them. -/
def disturbed (c : Connection) (upserts lookups : Nat) : Connection :=
  { c with
    upsertFails := fun k => c.upserts ≤ k && k < c.upserts + upserts
    lookupFails := fun k => c.lookups ≤ k && k < c.lookups + lookups }

/-- The failure of a call that does not reach the store. -/
def busy : Failure :=
  .storeUnavailable "busy"

/-- Stores a response unless it is there. -/
def upsert (c : Connection) (spec : ResponseSpec) : Except Failure (Int × Bool) × Connection :=
  if c.upsertFails c.upserts then (.error busy, { c with upserts := c.upserts + 1 })
  else
    let (result, store) := c.store.upsert c.now spec
    (.ok result, { c with store, upserts := c.upserts + 1 })

/-- The ids of the responses of a label and type. -/
def lookup (c : Connection) (label : String) (respType : RespType) :
    Except Failure (List Int) × Connection :=
  let called := { c with lookups := c.lookups + 1 }
  if c.lookupFails c.lookups then (.error busy, called)
  else (.ok (c.store.lookup label respType), called)

end Connection

end ProbeCampaign
