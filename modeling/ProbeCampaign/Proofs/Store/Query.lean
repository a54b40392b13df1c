import Mathlib.Tactic
import ProbeCampaign.Proofs.Fallible
import ProbeCampaign.Proofs.Json.Value
import ProbeCampaign.Proofs.Store.Run
import ProbeCampaign.Proofs.Store.Statement

/-!
# Queries and the log of results

A run inserts results, each under the id that it is answered (`log`). They are kept in this order, and
each of them refers to one response and one browser, which no operation takes away (`Extends`). So the
joined rows are those of the log (`joined_after`), and a query is a filter on the log (`query_log`):
within the limits of the engine it succeeds and finds each result once, with the type of the stored
response. An outcome is found as its JSON text is read, which is the outcome itself unless a double in
it is not read back (`query_double`).
-/

namespace ProbeCampaign

/-! ## Inserted results -/

/-- A result that was inserted and the id that was answered, with the response and the browser that it
refers to. -/
structure Inserted where
  record : ResultRecord
  id : Int
  response : StoredResponse
  browser : Browser

/-- What is read of the outcome of a stored result. -/
inductive OutcomeReadAs : Option Datum → Option Datum → Prop where
  | none : OutcomeReadAs none none
  | some {d d' : Datum} (h : Json.ReadAs Json.maxDepth d d') :
    OutcomeReadAs (some d) (some d'.canonical)

namespace Inserted

/-- The row of a result, joined with those that it refers to. -/
def joined (r : Inserted) : JoinedRow :=
  ⟨r.record.row r.id, r.response, r.browser⟩

/-- A filter selects a result by its status, the stored type of its response, and its browser. -/
def Selected (filter : ResultFilter) (r : Inserted) : Prop :=
  filter.Selects r.record.testStatus r.response.spec.respType r.record.browserId r.browser.entry.os

instance (filter : ResultFilter) : DecidablePred (Selected filter) :=
  fun _ => inferInstanceAs (Decidable (filter.Selects _ _ _ _))

/-- The record that is found of a result, with an outcome. -/
def found (r : Inserted) (outcomeValue : Option Datum) : ResultRecord :=
  { r.record with
    id := some r.id
    respType := r.response.spec.respType
    outcomeValue := outcomeValue }

/-- The outcome of a result is a value that a text can hold. -/
def HasValue (r : Inserted) : Prop :=
  ∀ d ∈ r.record.outcomeValue, Json.IsValue Json.maxDepth d

/-- An outcome that a text can hold is read for something. -/
theorem HasValue.exists_outcomeReadAs {r : Inserted} (h : r.HasValue) :
    ∃ outcome, OutcomeReadAs r.record.outcomeValue outcome := by
  unfold HasValue at h
  cases houtcome : r.record.outcomeValue with
  | none => exact ⟨none, .none⟩
  | some d =>
    obtain ⟨d', hread, -⟩ := (h d houtcome).exists_readAs
    exact ⟨some d'.canonical, .some hread⟩

/-- The outcome of a result is read as it was inserted: it is nested less deep than the limit, and the
doubles in it are read back. -/
def ReadsBack (r : Inserted) : Prop :=
  ∀ d ∈ r.record.outcomeValue, Json.Readable Json.maxDepth d ∧ d.canonical = d

/-- An outcome that reads back is read for itself. -/
theorem ReadsBack.outcomeReadAs {r : Inserted} (h : r.ReadsBack) :
    OutcomeReadAs r.record.outcomeValue r.record.outcomeValue := by
  unfold ReadsBack at h
  cases houtcome : r.record.outcomeValue with
  | none => exact .none
  | some d =>
    obtain ⟨hreadable, hcanonical⟩ := h d houtcome
    have hread := OutcomeReadAs.some hreadable
    rwa [hcanonical] at hread

/-- A joined row is read for the record, with the type of the stored response. -/
theorem parse_joined (r : Inserted) {outcomeValue : Option Datum}
    (h : OutcomeReadAs r.record.outcomeValue outcomeValue) :
    r.joined.parse = .ok (r.found outcomeValue) := by
  have houtcome : JoinedRow.readOutcome r.joined.result.outcome = .ok outcomeValue := by
    show JoinedRow.readOutcome (r.record.outcomeValue.map Json.render) = _
    generalize r.record.outcomeValue = outcome at h
    cases h with
    | none => rfl
    | some hread =>
      rw [Option.map_some, JoinedRow.readOutcome, Json.parse?, Json.render, String.toList_ofList,
        Json.parseChars?_compact_of_readAs hread]
  have htype : JoinedRow.readType r.joined.response.spec.respType.name =
      .ok r.response.spec.respType := by
    rw [JoinedRow.readType, RespType.ofName?_name]
    rfl
  rw [JoinedRow.parse, houtcome, htype]
  rfl

end Inserted

namespace Store

/-! ## Rows stay -/

/-- A store has all responses and browsers of another one, in their places. -/
structure Extends (s t : Store) : Prop where
  responses : s.responses.toList <+: t.responses.toList
  browsers : s.browsers <+: t.browsers

theorem Extends.response? {s t : Store} (h : s.Extends t) {id : Int} {r : StoredResponse}
    (hr : s.response? id = some r) : t.response? id = some r := by
  unfold Store.response? at hr ⊢
  rw [← Array.find?_toList] at hr ⊢
  exact h.responses.find?_eq_some hr

theorem Extends.browser? {s t : Store} (h : s.Extends t) {id : Int} {b : Browser}
    (hb : s.browser? id = some b) : t.browser? id = some b :=
  h.browsers.find?_eq_some hb

/-- A result is added if its response and its browser are there, else it is refused. -/
theorem insertResult_cases (s : Store) (record : ResultRecord) :
    (∃ response browser, s.response? record.responseId = some response ∧
        s.browser? record.browserId = some browser ∧
        s.insertResult record = .ok (s.results.size + 1,
          { s with results := s.results.push (record.row (s.results.size + 1)) })) ∨
      (s.response? record.responseId = none ∨ s.browser? record.browserId = none) ∧
        s.insertResult record = .error .foreignKey := by
  unfold insertResult
  cases hresponse : s.response? record.responseId with
  | none => exact Or.inr ⟨Or.inl rfl, if_neg fun h => absurd h.2 (by simp)⟩
  | some response =>
    cases hbrowser : s.browser? record.browserId with
    | none => exact Or.inr ⟨Or.inr rfl, if_neg fun h => absurd h.1 (by simp)⟩
    | some browser => exact Or.inl ⟨response, browser, rfl, rfl, if_pos ⟨rfl, rfl⟩⟩

/-- Registering finds a browser with the key, or it adds one at the end. -/
theorem register_cases (s : Store) (entry : BrowserEntry) :
    (∃ b ∈ s.browsers, b.entry.key = entry.key ∧
        s.register entry = ((b.id, false), { s with browserIds := s.browserIds + 1 })) ∨
      (∀ b ∈ s.browsers, b.entry.key ≠ entry.key) ∧
        s.register entry = (((s.browserIds : Int) + 1, true), { s with
          browsers := s.browsers ++ [⟨s.browserIds + 1, entry⟩]
          browserIds := s.browserIds + 1 }) := by
  unfold register
  split
  · next b hfound =>
    have hkey := List.find?_some hfound
    exact Or.inl ⟨b, List.mem_of_find?_eq_some hfound, of_decide_eq_true hkey, rfl⟩
  · next hnone =>
    refine Or.inr ⟨fun b hb hkey => ?_, rfl⟩
    exact List.find?_eq_none.1 hnone b hb (decide_eq_true hkey)

/-- Registering a browser leaves responses and results as they are. -/
theorem register_frame (s : Store) (entry : BrowserEntry) :
    (s.register entry).2.responses = s.responses ∧ (s.register entry).2.results = s.results := by
  rcases s.register_cases entry with ⟨b, -, -, heq⟩ | ⟨-, heq⟩
  · exact heq ▸ ⟨rfl, rfl⟩
  · exact heq ▸ ⟨rfl, rfl⟩

/-- Inserting a result leaves responses and browsers as they are. -/
theorem insertResult_frame (ops : List Operation) (record : ResultRecord) :
    (after (ops ++ [.insertResult record])).responses = (after ops).responses ∧
      (after (ops ++ [.insertResult record])).browsers = (after ops).browsers := by
  rw [after_concat, perform]
  rcases (after ops).insertResult_cases record with ⟨-, -, -, -, heq⟩ | ⟨-, heq⟩
  · rw [heq]
    exact ⟨rfl, rfl⟩
  · rw [heq]
    exact ⟨rfl, rfl⟩

theorem browsers_prefix_register (s : Store) (entry : BrowserEntry) :
    s.browsers <+: (s.register entry).2.browsers := by
  rcases s.register_cases entry with ⟨b, -, -, heq⟩ | ⟨-, heq⟩
  · rw [heq]
  · rw [heq]
    exact List.prefix_append _ _

/-- No operation takes a row away. -/
theorem extends_perform (s : Store) (op : Operation) : s.Extends (s.perform op).2 where
  responses := responses_prefix_perform s op
  browsers := by
    cases op with
    | upsert now spec =>
      show _ <+: (s.upsert now spec).2.browsers
      rw [(upsert_frame s now spec).1]
    | insertResult record =>
      unfold perform
      dsimp only
      rcases s.insertResult_cases record with ⟨-, -, -, -, heq⟩ | ⟨-, heq⟩
      · rw [heq]
      · rw [heq]
    | register entry => exact s.browsers_prefix_register entry
    | reopen => exact s.browsers_prefix_register .unknown
    | lookup | response | count => exact List.prefix_refl _

/-- The ids of the browsers are ascending, up to the number of ids used up. -/
theorem Reachable.browsers_ascending {s : Store} (h : Reachable s) :
    s.browsers.Pairwise (·.id < ·.id) ∧ ∀ b ∈ s.browsers, b.id ≤ s.browserIds := by
  induction h with
  | empty => exact ⟨.nil, fun b hb => absurd hb List.not_mem_nil⟩
  | @upsert s now spec _ ih =>
    obtain ⟨hbrowsers, hids, -⟩ := upsert_frame s now spec
    rw [hbrowsers, hids]
    exact ih
  | @register s entry _ ih =>
    obtain ⟨hascending, hused⟩ := ih
    rcases s.register_cases entry with ⟨b, -, -, heq⟩ | ⟨-, heq⟩
    · rw [heq]
      exact ⟨hascending, fun b hb => (hused b hb).trans (by simp)⟩
    · rw [heq]
      refine ⟨List.pairwise_append.2 ⟨hascending, List.pairwise_singleton _ _, ?_⟩, fun b hb => ?_⟩
      · intro b hb b' hb'
        rw [List.mem_singleton.1 hb']
        exact Int.lt_add_one_iff.2 (hused b hb)
      · rcases List.mem_append.1 hb with hb | hb
        · exact (hused b hb).trans (by simp)
        · rw [List.mem_singleton.1 hb]
          simp
  | @insertResult s t record id _ hinsert ih =>
    rcases s.insertResult_cases record with ⟨-, -, -, -, heq⟩ | ⟨-, heq⟩
    · rw [heq] at hinsert
      cases hinsert
      exact ih
    · rw [heq] at hinsert
      cases hinsert

/-! ## The log -/

/-- The result that an operation inserts after others, and the id that it is answered. -/
def inserts? (before : List Operation) : Operation → Option (ResultRecord × Int)
  | .insertResult record =>
    match answer before (.insertResult record) with
    | .inserted (.ok id) => some (record, id)
    | _ => none
  | _ => none

/-- What some operations insert after others. -/
def logAfter (before : List Operation) : List Operation → List (ResultRecord × Int)
  | [] => []
  | op :: rest => (inserts? before op).toList ++ logAfter (before ++ [op]) rest

/-- The results that a run inserts, with the ids that it is answered, in order. -/
def log (ops : List Operation) : List (ResultRecord × Int) :=
  logAfter [] ops

/-- The log of a longer run has one more entry at most. -/
theorem logAfter_concat (before ops : List Operation) (op : Operation) :
    logAfter before (ops ++ [op]) = logAfter before ops ++ (inserts? (before ++ ops) op).toList := by
  induction ops generalizing before with
  | nil => simp [logAfter]
  | cons first ops ih =>
    rw [List.cons_append, logAfter, ih, logAfter, List.append_assoc, List.append_assoc]
    rfl

theorem log_concat (ops : List Operation) (op : Operation) :
    log (ops ++ [op]) = log ops ++ (inserts? ops op).toList :=
  logAfter_concat [] ops op

/-- An operation inserts nothing and leaves the results as they are, or it adds one whose response and
browser are there. -/
theorem results_cases (ops : List Operation) (op : Operation) :
    (inserts? ops op = none ∧ (after (ops ++ [op])).results = (after ops).results) ∨
      ∃ record response browser, op = .insertResult record ∧
        (after ops).response? record.responseId = some response ∧
        (after ops).browser? record.browserId = some browser ∧
        inserts? ops op = some (record, ((after ops).results.size + 1 : Int)) ∧
        (after (ops ++ [op])).results =
          (after ops).results.push (record.row ((after ops).results.size + 1)) := by
  rw [after_concat]
  cases op with
  | insertResult record =>
    rw [inserts?, answer, perform]
    rcases (after ops).insertResult_cases record with
      ⟨response, browser, hresponse, hbrowser, heq⟩ | ⟨-, heq⟩
    · rw [heq]
      exact Or.inr ⟨record, response, browser, rfl, hresponse, hbrowser, rfl, rfl⟩
    · rw [heq]
      exact Or.inl ⟨rfl, rfl⟩
  | upsert now spec => exact Or.inl ⟨rfl, (upsert_frame _ now spec).2.2⟩
  | register entry => exact Or.inl ⟨rfl, (register_frame _ entry).2⟩
  | reopen => exact Or.inl ⟨rfl, (register_frame _ .unknown).2⟩
  | lookup | response | count => exact Or.inl ⟨rfl, rfl⟩

/-- The rows are what a run inserted, and the store holds them with those that they refer to. -/
structure Holding (ops : List Operation) (rows : List Inserted) : Prop where
  log : rows.map (fun r => (r.record, r.id)) = log ops
  results : (after ops).results.toList = rows.map fun r => r.record.row r.id
  ids : rows.map (·.id) = (List.range' 1 rows.length).map Int.ofNat
  response : ∀ r ∈ rows, (after ops).response? r.record.responseId = some r.response
  browser : ∀ r ∈ rows, (after ops).browser? r.record.browserId = some r.browser

theorem extends_after (ops : List Operation) (op : Operation) :
    (after ops).Extends (after (ops ++ [op])) := by
  rw [after_concat]
  exact extends_perform _ op

namespace Holding

variable {ops : List Operation} {op : Operation} {rows : List Inserted}

/-- An operation that inserts nothing leaves the rows as they are. -/
theorem same (h : Holding ops rows) (hnone : inserts? ops op = none)
    (hresults : (after (ops ++ [op])).results = (after ops).results) :
    Holding (ops ++ [op]) rows where
  log := by
    rw [log_concat, hnone, h.log]
    exact (List.append_nil _).symm
  results := by rw [hresults, h.results]
  ids := h.ids
  response := fun r hr => (extends_after ops op).response? (h.response r hr)
  browser := fun r hr => (extends_after ops op).browser? (h.browser r hr)

/-- The id of a result that is inserted is the number of the results, which is that of the rows. -/
theorem size_results (h : Holding ops rows) : (after ops).results.size = rows.length := by
  rw [← Array.length_toList, h.results, List.length_map]

/-- An operation that inserts a result adds its row. -/
theorem concat (h : Holding ops rows) {record : ResultRecord} {response : StoredResponse}
    {browser : Browser} (hresponse : (after ops).response? record.responseId = some response)
    (hbrowser : (after ops).browser? record.browserId = some browser)
    (hsome : inserts? ops op = some (record, ((after ops).results.size + 1 : Int)))
    (hresults : (after (ops ++ [op])).results =
      (after ops).results.push (record.row ((after ops).results.size + 1))) :
    Holding (ops ++ [op]) (rows ++ [⟨record, rows.length + 1, response, browser⟩]) := by
  have hextends := extends_after ops op
  rw [h.size_results] at hsome hresults
  constructor
  · rw [List.map_append, h.log, log_concat, hsome]
    rfl
  · rw [hresults, Array.toList_push, h.results, List.map_append]
    rfl
  · rw [List.map_append, h.ids, List.length_append, List.length_singleton, List.range'_1_concat,
      List.map_append, Nat.add_comm 1]
    rfl
  · intro r hr
    rcases List.mem_append.1 hr with hr | hr
    · exact hextends.response? (h.response r hr)
    · rw [List.mem_singleton.1 hr]
      exact hextends.response? hresponse
  · intro r hr
    rcases List.mem_append.1 hr with hr | hr
    · exact hextends.browser? (h.browser r hr)
    · rw [List.mem_singleton.1 hr]
      exact hextends.browser? hbrowser

/-- A result whose response and browser are there adds its row. -/
theorem insert (h : Holding ops rows) {record : ResultRecord} {response : StoredResponse}
    {browser : Browser} (hresponse : (after ops).response? record.responseId = some response)
    (hbrowser : (after ops).browser? record.browserId = some browser) :
    Holding (ops ++ [.insertResult record])
      (rows ++ [⟨record, rows.length + 1, response, browser⟩]) := by
  rcases (after ops).insertResult_cases record with ⟨-, -, -, -, heq⟩ | ⟨hmissing, -⟩
  · refine h.concat hresponse hbrowser ?_ ?_
    · rw [inserts?, answer, perform, heq]
    · rw [after_concat, perform, heq]
  · simp [hresponse, hbrowser] at hmissing

/-- A result that is refused adds none. -/
theorem refuse (h : Holding ops rows) {record : ResultRecord}
    (hmissing : (after ops).response? record.responseId = none) :
    Holding (ops ++ [.insertResult record]) rows := by
  rcases (after ops).insertResult_cases record with ⟨response, -, hresponse, -, -⟩ | ⟨-, heq⟩
  · rw [hmissing] at hresponse
    cases hresponse
  · refine h.same ?_ ?_
    · rw [inserts?, answer, perform, heq]
    · rw [after_concat, perform, heq]

end Holding

/-- Every run holds what it inserted. -/
theorem exists_holding (ops : List Operation) : ∃ rows, Holding ops rows := by
  induction ops using List.reverseRecOn with
  | nil => exact ⟨[], rfl, rfl, rfl, by simp, by simp⟩
  | append_singleton ops op ih =>
    obtain ⟨rows, h⟩ := ih
    rcases results_cases ops op with ⟨hnone, hresults⟩ |
      ⟨record, response, browser, -, hresponse, hbrowser, hsome, hresults⟩
    · exact ⟨rows, h.same hnone hresults⟩
    · exact ⟨_, h.concat hresponse hbrowser hsome hresults⟩

/-! ## Queries -/

/-- Where ids are distinct, an id selects what it finds. -/
theorem filter_id_eq {α : Type} {f : α → Int} {l : List α} (h : l.Pairwise (f · < f ·)) {id : Int}
    {a : α} (ha : l.find? (fun b => f b = id) = some a) : l.filter (fun b => f b = id) = [a] := by
  obtain ⟨hid, front, back, rfl, hfront⟩ := List.find?_eq_some_iff_append.1 ha
  refine List.filter_eq_cons_iff.2 ⟨front, back, rfl, fun b hb => ?_, hid, ?_⟩
  · simpa using hfront b hb
  · refine List.filter_eq_nil_iff.2 fun b hb => ?_
    have hlt : f a < f b := (List.pairwise_cons.1 (List.pairwise_append.1 h).2.1).1 b hb
    have ha : f a = id := of_decide_eq_true hid
    simp only [decide_eq_true_eq]
    omega

/-- Every result is joined with its response and its browser. -/
theorem joined_after {ops : List Operation} {rows : List Inserted} (h : Holding ops rows) :
    (after ops).joined = rows.map Inserted.joined := by
  have hreachable := reachable_after ops
  rw [joined, h.results, List.flatMap_map, List.map_eq_flatMap]
  refine List.flatMap_congr fun r hr => ?_
  have hresponse := h.response r hr
  have hbrowser := h.browser r hr
  rw [response?, ← Array.find?_toList] at hresponse
  rw [Array.toList_filter]
  show (List.filter (fun x : StoredResponse => x.id = r.record.responseId) _).flatMap _ = _
  rw [filter_id_eq hreachable.numbered.ascending hresponse, List.flatMap_singleton]
  show (List.filter (fun x : Browser => x.id = r.record.browserId) _).map _ = _
  rw [filter_id_eq hreachable.browsers_ascending.1 hbrowser]
  rfl

/-- What a query finds after a run: the results that the filter selects, each with an outcome that is
read for its own. -/
theorem query_after {ops : List Operation} {rows : List Inserted} (h : Holding ops rows)
    {filter : ResultFilter} (hlimits : filter.WithinLimits) (outcome : Inserted → Option Datum)
    (hread : ∀ r ∈ rows, r.Selected filter → OutcomeReadAs r.record.outcomeValue (outcome r)) :
    (after ops).query filter =
      .ok ((rows.filter fun r => r.Selected filter).map fun r => r.found (outcome r)) := by
  unfold query
  cases hstatement : Statement.ofFilter? filter with
  | none =>
    have hnone : rows.filter (fun r => r.Selected filter) = [] := by
      refine List.filter_eq_nil_iff.2 fun r _ hselected => ?_
      have hmem := (of_decide_eq_true hselected).browserId []
        (Statement.ofFilter?_eq_none_iff.1 hstatement)
      exact List.not_mem_nil hmem
    rw [hnone]
    rfl
  | some s =>
    have htaken : s.refusal? = none :=
      (Statement.refusal?_eq_none_iff_withinLimits hstatement).2 hlimits
    have hsame : ∀ r ∈ rows, (s.accepts ∘ Inserted.joined) r = decide (r.Selected filter) := by
      intro r _
      rw [Bool.eq_iff_iff, decide_eq_true_eq]
      exact Statement.accepts_iff hstatement r.joined
    dsimp only
    rw [htaken, joined_after h, List.filter_map, List.filter_congr hsame, List.mapM_map]
    refine Fallible.mapM_eq_ok fun r hr => ?_
    obtain ⟨hmem, hselected⟩ := List.mem_filter.1 hr
    exact r.parse_joined (hread r hmem (of_decide_eq_true hselected))

/-- A filter beyond the limits makes a query fail, unless it leaves no browser. -/
theorem exists_query_eq_error (s : Store) {filter : ResultFilter}
    (hlimits : ¬ filter.WithinLimits) (hbrowsers : filter.browserIds ≠ some []) :
    ∃ e, s.query filter = .error (.database e) := by
  unfold query
  cases hstatement : Statement.ofFilter? filter with
  | none => exact absurd (Statement.ofFilter?_eq_none_iff.1 hstatement) hbrowsers
  | some statement =>
    have hrefused : statement.refusal? ≠ none :=
      (Statement.refusal?_eq_none_iff_withinLimits hstatement).not.2 hlimits
    obtain ⟨e, he⟩ := Option.ne_none_iff_exists'.1 hrefused
    refine ⟨e, ?_⟩
    dsimp only
    rw [he]

/-- How the results of a run are found again. -/
structure FindsResults (ops : List Operation) (rows : List Inserted) : Prop where
  /-- The rows are the results that the run inserted, in order, with the ids that it was answered. -/
  inserted : rows.map (fun r => (r.record, r.id)) = log ops
  ascending : rows.Pairwise (·.id < ·.id)
  /-- They come with the stored responses and the registered browsers that they refer to. -/
  response : ∀ r ∈ rows, (after ops).response? r.record.responseId = some r.response
  browser : ∀ r ∈ rows, (after ops).browser? r.record.browserId = some r.browser
  /-- A query within the limits of the engine succeeds. It finds the rows that the filter selects, in
  order, with their outcomes as these are read. -/
  query : ∀ filter : ResultFilter, filter.WithinLimits →
    (∀ r ∈ rows, r.Selected filter → r.HasValue) →
    ∃ outcome : Inserted → Option Datum,
      (∀ r ∈ rows, r.Selected filter → OutcomeReadAs r.record.outcomeValue (outcome r)) ∧
      (after ops).query filter =
        .ok ((rows.filter fun r => r.Selected filter).map fun r => r.found (outcome r))
  /-- The outcomes are those that were inserted if all of them read back. -/
  kept : ∀ filter : ResultFilter, filter.WithinLimits →
    (∀ r ∈ rows, r.Selected filter → r.ReadsBack) →
    (after ops).query filter =
      .ok ((rows.filter fun r => r.Selected filter).map fun r => r.found r.record.outcomeValue)
  /-- Beyond the limits, the engine does not take a query. -/
  refused : ∀ filter : ResultFilter, ¬ filter.WithinLimits → filter.browserIds ≠ some [] →
    ∃ e, (after ops).query filter = .error (.database e)

/-- Queries after a run are filters on the results that it inserted. -/
theorem query_log (ops : List Operation) : ∃ rows, FindsResults ops rows := by
  obtain ⟨rows, h⟩ := exists_holding ops
  have hrange : (List.range' 1 rows.length).Pairwise (· < ·) := List.pairwise_lt_range'
  have hids : (rows.map (·.id)).Pairwise (· < ·) := by
    rw [h.ids]
    exact List.pairwise_map.2 (hrange.imp Int.ofNat_lt.2)
  refine ⟨rows, h.log, List.pairwise_map.1 hids, h.response, h.browser,
    fun filter hlimits hvalue => ?_, fun filter hlimits hread => ?_,
    fun filter => (after ops).exists_query_eq_error⟩
  · have hread : ∀ r ∈ rows, r.Selected filter →
        ∃ outcome, OutcomeReadAs r.record.outcomeValue outcome :=
      fun r hr hselected => (hvalue r hr hselected).exists_outcomeReadAs
    choose! outcome hread using hread
    exact ⟨outcome, hread, query_after h hlimits outcome hread⟩
  · exact query_after h hlimits _ fun r hr hselected => (hread r hr hselected).outcomeReadAs

/-- The rows are those that the store holds. -/
theorem FindsResults.rows_eq {ops : List Operation} {rows rows' : List Inserted}
    (h : FindsResults ops rows) (h' : Holding ops rows') : rows = rows' := by
  have hsame := h.inserted.trans h'.log.symm
  have hfound : ∀ r ∈ rows, ∀ r' ∈ rows', r.record = r'.record → r.id = r'.id → r = r' := by
    rintro ⟨record, id, response, browser⟩ hr ⟨record', id', response', browser'⟩ hr' heq hid
    obtain rfl : record = record' := heq
    obtain rfl : id = id' := hid
    have hresponse := h'.response _ hr'
    have hbrowser := h'.browser _ hr'
    dsimp only at hresponse hbrowser
    cases hresponse.symm.trans (h.response _ hr)
    cases hbrowser.symm.trans (h.browser _ hr)
    rfl
  clear h h'
  induction rows generalizing rows' with
  | nil => exact (List.map_eq_nil_iff.1 hsame.symm).symm
  | cons r rows ih =>
    obtain ⟨r', rows', rfl, heq, hrest⟩ := List.map_eq_cons_iff.1 hsame.symm
    obtain ⟨hrecord, hid⟩ := Prod.mk.inj heq
    rw [hfound r List.mem_cons_self r' List.mem_cons_self hrecord.symm hid.symm,
      ih hrest.symm fun a ha a' ha' =>
        hfound a (List.mem_cons_of_mem _ ha) a' (List.mem_cons_of_mem _ ha')]

/-! ## A run with two results -/

/-- The response that the results refer to. -/
def basicSpec : ResponseSpec :=
  ⟨[("X-Frame-Options", "DENY")], 200, "XFO", .basic⟩

/-- The browser that reports the second one. -/
def reporter : BrowserEntry :=
  ⟨"Chrome", "121", "Ubuntu", .real, .selenium, ""⟩

/-- A result of a browser, which says that its response is a debug response. -/
def debugRecord (browserId responseId : Int) (outcome : Option Datum) : ResultRecord :=
  ⟨none, "framing", 0, "iframe", "https", "a.test", "https", "b.test", responseId, .debug, browserId,
    "https://a.test/", outcome⟩

/-- What the results refer to is stored first. -/
def begun : List Operation :=
  [.upsert 5 basicSpec, .register reporter]

/-- A run that inserts a result of the unknown browser and one of the registered browser. A third one
refers to a response that is not there. -/
def twoResults (outcome : Datum) : List Operation :=
  begun ++ [.insertResult (debugRecord unknownBrowserId 1 none)] ++
    [.insertResult (debugRecord 2 1 (some outcome))] ++ [.insertResult (debugRecord 2 9 none)]

/-- A filter with a condition of every kind. -/
def everyCondition : ResultFilter :=
  ⟨some 0, [.debug, .parsing, .debug], true, some [unknownBrowserId, 2, 7], some "Ubuntu"⟩

theorem withinLimits_everyCondition : everyCondition.WithinLimits :=
  ⟨by decide, by decide⟩

/-- The response is stored under the first id, and there is no other one. -/
theorem responses_begun : ∃ response, (after begun).responses.toList = [response] ∧
    response.id = 1 ∧ response.spec = basicSpec := by
  rcases upsert_cases empty.opened 5 basicSpec with ⟨r, hr, -⟩ | ⟨-, fresh, heq⟩
  · exact absurd hr List.not_mem_nil
  · have hafter : after [.upsert 5 basicSpec] =
        empty.opened.add 5 basicSpec basicSpec.digest fresh := congrArg Prod.snd heq
    have hbegun : (after begun).responses = (after [.upsert 5 basicSpec]).responses :=
      (register_frame (after [.upsert 5 basicSpec]) reporter).1
    refine ⟨⟨1, basicSpec, basicSpec.digest, 5⟩, ?_, rfl, rfl⟩
    rw [hbegun, hafter, toList_responses_add]
    rfl

theorem browsers_begun :
    (after begun).browsers = [⟨unknownBrowserId, .unknown⟩, ⟨2, reporter⟩] := by
  obtain ⟨hbrowsers, hids, -⟩ := upsert_frame empty.opened 5 basicSpec
  show ((empty.opened.upsert 5 basicSpec).2.register reporter).2.browsers = _
  unfold register
  rw [hbrowsers, hids]
  rfl

/-- The row of the first result. -/
def firstRow (response : StoredResponse) : Inserted :=
  ⟨debugRecord unknownBrowserId 1 none, 1, response, ⟨unknownBrowserId, .unknown⟩⟩

/-- The row of the second one. -/
def secondRow (outcome : Datum) (response : StoredResponse) : Inserted :=
  ⟨debugRecord 2 1 (some outcome), 2, response, ⟨2, reporter⟩⟩

/-- The run inserts these two rows. -/
theorem holding_twoResults (outcome : Datum) : ∃ response : StoredResponse,
    response.spec = basicSpec ∧
      Holding (twoResults outcome) [firstRow response, secondRow outcome response] := by
  obtain ⟨response, hresponses, hid, hspec⟩ := responses_begun
  -- What is found after the run has begun is found until its end.
  have hfound : ∀ ops, (after ops).responses = (after begun).responses →
      (after ops).response? 1 = some response ∧ (after ops).response? 9 = none := by
    intro ops hsame
    simp [response?, ← Array.find?_toList, hsame, hresponses, hid]
  have hknown : ∀ ops, (after ops).browsers = (after begun).browsers →
      (after ops).browser? unknownBrowserId = some ⟨unknownBrowserId, .unknown⟩ ∧
        (after ops).browser? 2 = some ⟨2, reporter⟩ := by
    intro ops hsame
    rw [browser?, browser?, hsame, browsers_begun]
    exact ⟨rfl, rfl⟩
  obtain ⟨hresponses₁, hbrowsers₁⟩ := insertResult_frame begun (debugRecord unknownBrowserId 1 none)
  obtain ⟨hresponses₂, -⟩ := insertResult_frame
    (begun ++ [.insertResult (debugRecord unknownBrowserId 1 none)]) (debugRecord 2 1 (some outcome))
  have hstart : Holding begun [] := by
    refine ⟨rfl, ?_, rfl, by simp, by simp⟩
    show (after begun).results.toList = []
    rw [show (after begun).results = (after [.upsert 5 basicSpec]).results from
      (register_frame (after [.upsert 5 basicSpec]) reporter).2]
    exact congrArg Array.toList (upsert_frame empty.opened 5 basicSpec).2.2
  have hfirst : Holding (begun ++ [.insertResult (debugRecord unknownBrowserId 1 none)]) _ :=
    hstart.insert (hfound begun rfl).1 (hknown begun rfl).1
  have hsecond : Holding (_ ++ [.insertResult (debugRecord 2 1 (some outcome))]) _ :=
    hfirst.insert (hfound _ hresponses₁).1 (hknown _ hbrowsers₁).2
  exact ⟨response, hspec, hsecond.refuse (hfound _ (hresponses₂.trans hresponses₁)).2⟩

/-- The filter selects the second result, which is found with the type of the stored response. -/
theorem found_twoResults {response : StoredResponse} (hspec : response.spec = basicSpec)
    (outcome : Datum) (f : Inserted → Option Datum) :
    (([firstRow response, secondRow outcome response].filter fun r => r.Selected everyCondition).map
        fun r => r.found (f r)) =
      [{ debugRecord 2 1 (some outcome) with
        id := some 2, respType := .basic, outcomeValue := f (secondRow outcome response) }] := by
  have hfirst : ¬ (firstRow response).Selected everyCondition := fun h => h.known rfl rfl
  have hsecond : (secondRow outcome response).Selected everyCondition := by
    show everyCondition.Selects 0 response.spec.respType 2 "Ubuntu"
    rw [hspec]
    decide
  rw [List.filter_cons_of_neg (by simpa using hfirst),
    List.filter_cons_of_pos (by simpa using hsecond), List.filter_nil, List.map_singleton,
    Inserted.found, show (secondRow outcome response).response.spec = basicSpec from hspec]
  rfl

/-- The second result is found, as it was inserted but for the type, which is that of the stored
response. -/
theorem query_log_sample :
    (after (twoResults (.table [("loaded", .bool true)]))).query everyCondition =
      .ok [{ debugRecord 2 1 (some (.table [("loaded", .bool true)])) with
        id := some 2, respType := .basic }] := by
  obtain ⟨rows, h⟩ := query_log (twoResults (.table [("loaded", .bool true)]))
  obtain ⟨response, hspec, hholding⟩ := holding_twoResults (.table [("loaded", .bool true)])
  obtain rfl := h.rows_eq hholding
  have hreadable : Json.Readable Json.maxDepth (.table [("loaded", .bool true)]) :=
    .table fun e he => by
      rw [List.mem_singleton.1 he]
      exact Json.ReadAs.bool true
  have hkept := h.kept everyCondition withinLimits_everyCondition fun r hr _ d hd => by
    rcases List.mem_cons.1 hr with rfl | hr
    · cases hd
    · rw [List.mem_singleton.1 hr] at hd
      cases hd
      exact ⟨hreadable, rfl⟩
  rw [hkept, found_twoResults hspec]
  rfl

/-- A double that is not read back is found as its neighbour, and not as it was inserted. -/
theorem query_double :
    Json.parse? "30e22" = some (.real "3e23") ∧
      log (twoResults (.real "3e23")) =
        [(debugRecord unknownBrowserId 1 none, 1), (debugRecord 2 1 (some (.real "3e23")), 2)] ∧
      (after (twoResults (.real "3e23"))).query everyCondition =
        .ok [{ debugRecord 2 1 (some (.real "2.9999999999999997e23")) with
          id := some 2, respType := .basic }] ∧
      (after (twoResults (.real "3e23"))).query everyCondition ≠
        .ok [{ debugRecord 2 1 (some (.real "3e23")) with id := some 2, respType := .basic }] := by
  obtain ⟨response, hspec, hholding⟩ := holding_twoResults (.real "3e23")
  have hdouble : Json.parse? "30e22" = some (.real "3e23") := by rfl
  have hfound : (after (twoResults (.real "3e23"))).query everyCondition =
      .ok [{ debugRecord 2 1 (some (.real "2.9999999999999997e23")) with
        id := some 2, respType := .basic }] := by
    have hnumber : Json.readNumber "3e23".toList = some (.real "2.9999999999999997e23", []) := by
      rfl
    have hread := OutcomeReadAs.some (Json.ReadAs.real hnumber)
    have hquery := query_after hholding withinLimits_everyCondition
      (fun r => r.record.outcomeValue.map fun _ => .real "2.9999999999999997e23") fun r hr _ => by
        rcases List.mem_cons.1 hr with rfl | hr
        · exact .none
        · rw [List.mem_singleton.1 hr]
          exact hread
    rw [hquery, found_twoResults hspec]
    rfl
  refine ⟨hdouble, hholding.log.symm, hfound, ?_⟩
  rw [hfound]
  simp [debugRecord]

end Store

end ProbeCampaign
