import Mathlib.Tactic
import ProbeCampaign.Proofs.Response.DedupKey
import ProbeCampaign.Proofs.Store.Numbering

/-!
# Reading responses

What the reads of a store answer, said by its rows: the ids of a label and type are ascending
(`pairwise_lookup`), a count is that of the rows that label and type select (`count_eq`), and an id
gives its row (`response?_eq_some_iff`). A row is kept in columns, from which it is read back as it was
(`ResponseRow.parse?_row`).
-/

namespace ProbeCampaign

/-! ## Columns -/

/-- The columns of a stored response: the headers in JSON, the type by its name. -/
structure ResponseRow where
  id : Int
  rawHeader : List UInt8
  statusCode : UInt16
  label : String
  respType : String
  digest : String
  createdAt : Nat

/-- The columns of a response. -/
def StoredResponse.row (r : StoredResponse) : ResponseRow :=
  ⟨r.id, Utf8.bytes (Header.renderList r.spec.headers), r.spec.statusCode, r.spec.label,
    r.spec.respType.name, r.digest, r.createdAt⟩

/-- The response of the columns, if headers and type can be read. -/
def ResponseRow.parse? (row : ResponseRow) : Option StoredResponse := do
  let text ← Utf8.decode? row.rawHeader
  let headers ← Header.parseList? text
  let respType ← RespType.ofName? row.respType
  pure ⟨row.id, ⟨headers, row.statusCode, row.label, respType⟩, row.digest, row.createdAt⟩

/-- A response is read back from its columns. -/
theorem ResponseRow.parse?_row (r : StoredResponse) : r.row.parse? = some r := by
  rw [ResponseRow.parse?, StoredResponse.row]
  dsimp only
  rw [Utf8.decode?_bytes, Option.bind_eq_bind, Option.bind_some, Header.parseList?_renderList,
    Option.bind_eq_bind, Option.bind_some, RespType.ofName?_name]
  rfl

namespace Store

/-! ## Reads -/

theorem pairwise_lookup {s : Store} (h : s.Numbered) (label : String) (respType : RespType) :
    (s.lookup label respType).Pairwise (· < ·) :=
  List.pairwise_map.2 (h.ascending.filter _)

/-- Whether a row has the label and the type, as far as they are given. -/
def Selects : Option String → Option RespType → StoredResponse → Bool
  | none, none, _ => true
  | some label, none, r => r.spec.label = label
  | none, some respType, r => r.spec.respType = respType
  | some label, some respType, r => r.spec.label = label ∧ r.spec.respType = respType

/-- A count is the number of the rows that it is about. -/
theorem count_eq (s : Store) (label : Option String) (respType : Option RespType) :
    s.count label respType = (s.responses.toList.filter (Selects label respType)).length := by
  have hselects : ∀ r : StoredResponse, (label.all (· = r.spec.label) &&
      respType.all (· = r.spec.respType)) = Selects label respType r := by
    intro r
    cases label with
    | none =>
      cases respType with
      | none => rfl
      | some t => simp [Selects, eq_comm]
    | some l =>
      cases respType with
      | none => simp [Selects, eq_comm]
      | some t => simp [Selects, eq_comm]
  unfold count
  rw [← Array.countP_toList, List.countP_eq_length_filter]
  congr 2
  exact funext hselects

theorem response?_eq_none_iff {s : Store} {id : Int} :
    s.response? id = none ↔ ∀ r ∈ s.responses.toList, r.id ≠ id := by
  unfold response?
  rw [← Array.find?_toList, List.find?_eq_none]
  simp

theorem mem_of_response? {s : Store} {id : Int} {r : StoredResponse} (h : s.response? id = some r) :
    r ∈ s.responses.toList ∧ r.id = id := by
  unfold response? at h
  rw [← Array.find?_toList] at h
  have hid := List.find?_some h
  exact ⟨List.mem_of_find?_eq_some h, of_decide_eq_true hid⟩

/-- The response of an id is the row with that id. -/
theorem response?_eq_some_iff {s : Store} (h : s.Numbered) {id : Int} {r : StoredResponse} :
    s.response? id = some r ↔ r ∈ s.responses.toList ∧ r.id = id := by
  constructor
  · exact mem_of_response?
  · rintro ⟨hr, rfl⟩
    cases hfound : s.response? r.id with
    | none => exact absurd rfl (response?_eq_none_iff.1 hfound r hr)
    | some r' =>
      obtain ⟨hr', hid⟩ := mem_of_response? hfound
      rw [h.eq_of_id_eq hr' hr hid]

end Store

end ProbeCampaign
