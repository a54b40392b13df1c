import Mathlib.Tactic
import ProbeCampaign.Proofs.Store.Snapshot

/-!
# Sessions with an index

While an index is in use, ids are requested from it and its connection changes: the store is written
to or opened again, and calls begin or cease to fail. What the index remembers of a key is what the
first request of that key found (`lookup_asked`). So every request is answered from the store as it
was at that moment, whatever happened since and whichever other keys were requested (`snapshot`).
-/

namespace ProbeCampaign.ResponseIndex

/-! ## Requests -/

/-- A request for ids, on the connection as it is at that moment. -/
structure Request where
  connection : Connection
  label : String
  respType : RespType

namespace Request

/-- What is asked for. -/
def key (r : Request) : String × RespType :=
  (r.label, r.respType)

/-- The ids that a lookup finds at that moment, none if it fails. -/
def found (r : Request) : List Int :=
  settle (r.connection.lookup r.label r.respType).1

/-- The first of some requests that asks for a key. -/
def first? (requests : List Request) (k : String × RespType) : Option Request :=
  requests.find? fun r => r.key = k

theorem first?_append (requests later : List Request) (k : String × RespType) :
    first? (requests ++ later) k = (first? requests k).or (first? later k) :=
  List.find?_append

theorem first?_cons_self (r : Request) (later : List Request) :
    first? (r :: later) r.key = some r :=
  List.find?_cons_of_pos (decide_eq_true rfl)

theorem first?_singleton_of_ne {r : Request} {k : String × RespType} (h : k ≠ r.key) :
    first? [r] k = none :=
  List.find?_cons_of_neg (by simpa using h.symm)

theorem first?_eq_none_iff {requests : List Request} {k : String × RespType} :
    first? requests k = none ↔ k ∉ requests.map key := by
  unfold first?
  rw [List.find?_eq_none, List.mem_map]
  simp

/-- Requests for other keys do not come into it. -/
theorem first?_filter (requests : List Request) (k : String × RespType) :
    first? (requests.filter (·.key = k)) k = first? requests k := by
  unfold first?
  rw [List.find?_filter]
  simp

end Request

open Request

/-- How a request is answered, and the index that remembers the answer. -/
def ask (index : ResponseIndex) (r : Request) : List Int × ResponseIndex :=
  let (ids, index, _) := index.ids r.connection r.label r.respType
  (ids, index)

/-- The index after some requests to a new one. -/
def asked (requests : List Request) : ResponseIndex :=
  requests.foldl (fun index r => (index.ask r).2) .empty

/-- A key that is remembered is answered from memory, and nothing changes. A new one takes one
lookup, and what that finds is remembered. -/
theorem ids_cases (index : ResponseIndex) (r : Request) :
    (∃ known, index.answers.lookup r.key = some known ∧
        index.ids r.connection r.label r.respType = (known, index, r.connection)) ∨
      (index.answers.lookup r.key = none ∧
        index.ids r.connection r.label r.respType =
          (r.found, ⟨(r.key, r.found) :: index.answers, index.storeLookups + 1⟩,
            (r.connection.lookup r.label r.respType).2)) := by
  unfold ids
  cases hknown : index.answers.lookup (r.label, r.respType) with
  | some known => exact Or.inl ⟨known, hknown, rfl⟩
  | none => exact Or.inr ⟨hknown, rfl⟩

/-- An answer that is remembered is given again. -/
theorem ask_fst (index : ResponseIndex) (r : Request) :
    (index.ask r).1 = (index.answers.lookup r.key).getD r.found := by
  unfold ask
  rcases ids_cases index r with ⟨known, hknown, heq⟩ | ⟨hnone, heq⟩
  · rw [heq, hknown]
    rfl
  · rw [heq, hnone]
    rfl

/-- A request is remembered under its own key, unless that key is remembered already. -/
theorem lookup_ask (index : ResponseIndex) (r : Request) (k : String × RespType) :
    (index.ask r).2.answers.lookup k =
      (index.answers.lookup k).or ((first? [r] k).map found) := by
  unfold ask
  by_cases hk : k = r.key
  · subst hk
    rw [first?_cons_self]
    rcases ids_cases index r with ⟨known, hknown, heq⟩ | ⟨hnone, heq⟩
    · rw [heq]
      dsimp only
      rw [hknown]
      rfl
    · rw [heq, hnone]
      exact List.lookup_cons_self
  · have hne : (k == r.key) = false := by simpa using hk
    rw [first?_singleton_of_ne hk, Option.map_none, Option.or_none]
    rcases ids_cases index r with ⟨known, -, heq⟩ | ⟨-, heq⟩
    · rw [heq]
    · rw [heq]
      dsimp only
      rw [List.lookup_cons, hne]

/-- A lookup is counted unless its answer is remembered. -/
theorem storeLookups_ask (index : ResponseIndex) (r : Request) :
    (index.ask r).2.storeLookups =
      if (index.answers.lookup r.key).isSome then index.storeLookups
      else index.storeLookups + 1 := by
  unfold ask
  rcases ids_cases index r with ⟨known, hknown, heq⟩ | ⟨hnone, heq⟩
  · rw [heq, hknown]
    rfl
  · rw [heq, hnone]
    rfl

theorem asked_concat (requests : List Request) (r : Request) :
    asked (requests ++ [r]) = ((asked requests).ask r).2 :=
  List.foldl_concat _ _ _ _

/-- What is remembered of a key is what the first request of it found. -/
theorem lookup_asked (requests : List Request) (k : String × RespType) :
    (asked requests).answers.lookup k = (first? requests k).map found := by
  induction requests using List.reverseRecOn with
  | nil => rfl
  | append_singleton requests r ih =>
    rw [asked_concat, lookup_ask, ih, first?_append, Option.map_or]

theorem isSome_lookup_asked {requests : List Request} {k : String × RespType} :
    ((asked requests).answers.lookup k).isSome ↔ k ∈ requests.map key := by
  rw [lookup_asked, Option.isSome_map, Option.isSome_iff_ne_none, ne_eq, first?_eq_none_iff, not_not]

/-- Every distinct key takes one lookup. -/
theorem storeLookups_asked (requests : List Request) :
    (asked requests).storeLookups = (requests.map key).toFinset.card := by
  induction requests using List.reverseRecOn with
  | nil => rfl
  | append_singleton requests r ih =>
    have hkeys : ((requests ++ [r]).map key).toFinset =
        insert r.key (requests.map key).toFinset := by simp
    rw [asked_concat, storeLookups_ask, ih, hkeys]
    by_cases hknown : r.key ∈ requests.map key
    · rw [if_pos (isSome_lookup_asked.2 hknown),
        Finset.insert_eq_of_mem (List.mem_toFinset.2 hknown)]
    · rw [if_neg fun h => hknown (isSome_lookup_asked.1 h),
        Finset.card_insert_of_notMem fun h => hknown (List.mem_toFinset.1 h)]

/-- A request is answered with what the first request of its key found, which may be this one. -/
theorem answer_asked (requests : List Request) (r : Request) :
    ((asked requests).ask r).1 = ((first? requests r.key).getD r).found := by
  rw [ask_fst, lookup_asked]
  cases first? requests r.key with
  | none => rfl
  | some q => rfl

/-! ## Events -/

/-- What happens while an index is in use: a request for ids, or any change of the connection; the
store may be written to or opened again, and calls may begin or cease to fail. -/
inductive Event where
  | request (label : String) (respType : RespType)
  | change (f : Connection → Connection)

/-- What an event asks for. -/
def Event.key? : Event → Option (String × RespType)
  | .request label respType => some (label, respType)
  | .change _ => none

/-- The keys that events ask for, in order. -/
def requested (events : List Event) : List (String × RespType) :=
  events.filterMap Event.key?

/-- An index in use, and the connection that it asks. -/
structure Session where
  index : ResponseIndex
  connection : Connection

namespace Session

/-- The request for ids at this moment. -/
def request (s : Session) (label : String) (respType : RespType) : Request :=
  ⟨s.connection, label, respType⟩

/-- How a request is answered at this moment. -/
def answer (s : Session) (label : String) (respType : RespType) : List Int :=
  (s.index.ids s.connection label respType).1

/-- The session after an event. -/
def next (s : Session) : Event → Session
  | .request label respType =>
    let (_, index, connection) := s.index.ids s.connection label respType
    ⟨index, connection⟩
  | .change f => { s with connection := f s.connection }

/-- The session after some events. -/
def run (s : Session) (events : List Event) : Session :=
  events.foldl next s

/-- The requests among some events, each with the connection of its moment. -/
def requests (s : Session) : List Event → List Request
  | [] => []
  | .request label respType :: rest =>
    s.request label respType :: (s.next (.request label respType)).requests rest
  | .change f :: rest => (s.next (.change f)).requests rest

/-- The requests of later events are made on what the earlier ones left. -/
theorem requests_append (s : Session) (events later : List Event) :
    s.requests (events ++ later) = s.requests events ++ (s.run events).requests later := by
  induction events generalizing s with
  | nil => rfl
  | cons event rest ih =>
    cases event with
    | request label respType => exact congrArg (_ :: ·) (ih _)
    | change f => exact ih _

/-- The requests of a session are those that its events make, in order. -/
theorem map_key_requests (s : Session) (events : List Event) :
    (s.requests events).map key = requested events := by
  induction events generalizing s with
  | nil => rfl
  | cons event rest ih =>
    cases event with
    | request label respType => exact congrArg (_ :: ·) (ih _)
    | change f => exact ih _

/-- The index of a session depends on the requests only. -/
theorem index_run (s : Session) (events : List Event) :
    (s.run events).index =
      (s.requests events).foldl (fun index r => (index.ask r).2) s.index := by
  induction events generalizing s with
  | nil => rfl
  | cons event rest ih =>
    cases event with
    | request label respType => exact ih _
    | change f => exact ih _

end Session

/-! ## Snapshots -/

/-- The session of a new index on a connection, after some events. -/
def after (c : Connection) (events : List Event) : Session :=
  Session.run ⟨.empty, c⟩ events

/-- The requests that such a session makes. -/
def requestsOf (c : Connection) (events : List Event) : List Request :=
  Session.requests ⟨.empty, c⟩ events

/-- What becomes of the outcome of a lookup: the ids found, ascending and each once, or none if it
failed. -/
def Settles : Except Failure (List Int) → List Int → Prop
  | .ok found, ids => ids.Pairwise (· < ·) ∧ ∀ id, id ∈ ids ↔ id ∈ found
  | .error _, ids => ids = []

/-- How the index of a session answers after some events. -/
structure IsSnapshot (c : Connection) (events : List Event) : Prop where
  /-- The first request of a key is answered with the outcome of a lookup at that moment. -/
  first : ∀ label respType, (label, respType) ∉ requested events →
    Settles ((after c events).connection.lookup label respType).1
      ((after c events).answer label respType)
  /-- It is answered like that ever after. -/
  kept : ∀ label respType, (label, respType) ∉ requested events → ∀ later,
    (after c (events ++ .request label respType :: later)).answer label respType =
      (after c events).answer label respType
  /-- The distinct keys are counted, those included whose lookup failed. -/
  counted : (after c events).index.storeLookups = (requested events).toFinset.card
  /-- Only the first request of a key reaches the store. -/
  lookups : ∀ label respType,
    (after c (events ++ [.request label respType])).connection =
      if (label, respType) ∈ requested events then (after c events).connection
      else ((after c events).connection.lookup label respType).2
  /-- An index that gets the requests of one key only, at the same moments, answers the same. -/
  apart : ∀ label respType,
    (after c events).answer label respType =
      ((asked ((requestsOf c events).filter (·.key = (label, respType)))).ask
        ((after c events).request label respType)).1

theorem settles_settle (outcome : Except Failure (List Int)) : Settles outcome (settle outcome) := by
  cases outcome with
  | error e => rfl
  | ok found =>
    have heq : settle (.ok found) = Distinct.distinct (fun a b : Int => decide (a ≤ b)) found := by
      unfold settle Distinct.distinct
      congr
    show (settle (.ok found)).Pairwise (· < ·) ∧ _
    rw [heq]
    refine ⟨?_, fun id => Distinct.mem_distinct⟩
    apply (Distinct.pairwise_distinct Distinct.isOrder_int found).imp
    intro a b hab
    exact lt_of_le_of_ne (of_decide_eq_true hab.1) hab.2

section Snapshot

variable (c : Connection) (events : List Event) (label : String) (respType : RespType)

theorem map_key_requestsOf : (requestsOf c events).map key = requested events :=
  Session.map_key_requests _ _

theorem index_after : (after c events).index = asked (requestsOf c events) :=
  Session.index_run _ _

theorem answer_after :
    (after c events).answer label respType =
      ((first? (requestsOf c events) (label, respType)).getD
        ((after c events).request label respType)).found := by
  show ((after c events).index.ask ((after c events).request label respType)).1 = _
  rw [index_after]
  exact answer_asked _ _

variable {label respType}

theorem first?_requestsOf (h : (label, respType) ∉ requested events) :
    first? (requestsOf c events) (label, respType) = none := by
  rw [first?_eq_none_iff, map_key_requestsOf]
  exact h

/-- A key without an earlier request is answered with what is found at that moment. -/
theorem answer_of_first (h : (label, respType) ∉ requested events) :
    (after c events).answer label respType =
      ((after c events).request label respType).found := by
  rw [answer_after, first?_requestsOf c events h]
  rfl

/-- Later requests of the key are answered with what was found at that moment. -/
theorem answer_of_later (h : (label, respType) ∉ requested events) (later : List Event) :
    (after c (events ++ .request label respType :: later)).answer label respType =
      ((after c events).request label respType).found := by
  have hfirst : first? (requestsOf c (events ++ .request label respType :: later))
      (label, respType) = some ((after c events).request label respType) := by
    have hsplit : requestsOf c (events ++ .request label respType :: later) =
        requestsOf c events ++ (after c events).requests (.request label respType :: later) :=
      Session.requests_append _ _ _
    rw [hsplit, first?_append, first?_requestsOf c events h, Option.none_or]
    exact first?_cons_self _ _
  rw [answer_after, hfirst]
  rfl

/-- Whatever happens to the store while an index is in use, the index answers each key as the store
did when it was requested first, and asks only once. -/
theorem snapshot : IsSnapshot c events where
  first label respType h := by
    rw [answer_of_first c events h]
    exact settles_settle _
  kept label respType h later := by
    rw [answer_of_later c events h, answer_of_first c events h]
  counted := by
    rw [index_after, storeLookups_asked, map_key_requestsOf]
  lookups label respType := by
    have hknown : ((after c events).index.answers.lookup (label, respType)).isSome ↔
        (label, respType) ∈ requested events := by
      rw [index_after, isSome_lookup_asked, map_key_requestsOf]
    have hnext : (after c (events ++ [.request label respType])).connection =
        ((after c events).index.ids (after c events).connection label respType).2.2 := by
      unfold after Session.run
      rw [List.foldl_concat]
      rfl
    rw [hnext]
    rcases ids_cases (after c events).index ((after c events).request label respType) with
      ⟨known, hsome, heq⟩ | ⟨hnone, heq⟩
    · rw [if_pos (hknown.1 (Option.isSome_iff_exists.2 ⟨known, hsome⟩))]
      exact congrArg (·.2.2) heq
    · have hnew : (label, respType) ∉ requested events := by
        intro hmem
        obtain ⟨known, hsome⟩ := Option.isSome_iff_exists.1 (hknown.2 hmem)
        exact absurd (hnone.symm.trans hsome) (Option.some_ne_none known).symm
      rw [if_neg hnew]
      exact congrArg (·.2.2) heq
  apart label respType := by
    have hkey : ((after c events).request label respType).key = (label, respType) := rfl
    rw [answer_after, answer_asked, hkey, first?_filter]

end Snapshot

end ProbeCampaign.ResponseIndex
