import Mathlib.Tactic
import ProbeCampaign.Proofs.Distinct
import ProbeCampaign.Proofs.Store.Reading
import ProbeCampaign.Proofs.Store.Upsert

/-!
# Runs of store operations

A run makes operations one after the other on a store that is new at first (`after`, `answer`). Each
keeps the rows that are there (`responses_prefix_perform`), and what is stored after a run are the
responses that it upserted, in the order of their first occurrences (`logged`). From this follow the
answers of all operations on responses (`appendOnly`).
-/

namespace ProbeCampaign.Store

/-! ## Operations -/

/-- An operation on a store; an upsert comes with the time at which it is made. -/
inductive Operation where
  | upsert (now : Nat) (spec : ResponseSpec)
  | lookup (label : String) (respType : RespType)
  | response (id : Int)
  | count (label : Option String) (respType : Option RespType)
  | insertResult (record : ResultRecord)
  | register (entry : BrowserEntry)
  | reopen

/-- What an operation answers: the id of a response or browser and whether it is new, or what was
asked for, or whether a result was added. -/
inductive Answer where
  | entry (id : Int) (isNew : Bool)
  | ids (ids : List Int)
  | response (found : Option StoredResponse)
  | count (n : Nat)
  | inserted (outcome : Except StoreError Int)

/-- Makes an operation; a result that is refused leaves the store as it is. -/
def perform (s : Store) : Operation → Answer × Store
  | .upsert now spec =>
    let ((id, isNew), s) := s.upsert now spec
    (.entry id isNew, s)
  | .lookup label respType => (.ids (s.lookup label respType), s)
  | .response id => (.response (s.response? id), s)
  | .count label respType => (.count (s.count label respType), s)
  | .insertResult record =>
    match s.insertResult record with
    | .ok (id, s) => (.inserted (.ok id), s)
    | .error e => (.inserted (.error e), s)
  | .register entry =>
    let ((id, isNew), s) := s.register entry
    (.entry id isNew, s)
  | .reopen =>
    let ((id, isNew), s) := s.register .unknown
    (.entry id isNew, s)

/-- The store after some operations on a new one. -/
def after (ops : List Operation) : Store :=
  ops.foldl (fun s op => (s.perform op).2) empty.opened

/-- What an operation answers after others. -/
def answer (before : List Operation) (op : Operation) : Answer :=
  ((after before).perform op).1

/-- The response that an operation upserts. -/
def Operation.upserts? : Operation → Option ResponseSpec
  | .upsert _ spec => some spec
  | _ => none

theorem Operation.upserts?_eq_some {op : Operation} {spec : ResponseSpec}
    (h : op.upserts? = some spec) : ∃ now, op = .upsert now spec := by
  cases op with
  | upsert now s =>
    cases h
    exact ⟨now, rfl⟩
  | lookup | response | count | insertResult | register | reopen => cases h

/-- The responses that a run upserts, in order. -/
def upserted (ops : List Operation) : List ResponseSpec :=
  ops.filterMap Operation.upserts?

/-- A run makes an operation after others. -/
def Makes (ops before : List Operation) (op : Operation) : Prop :=
  before ++ [op] <+: ops

/-! ## One operation -/

theorem after_concat (ops : List Operation) (op : Operation) :
    after (ops ++ [op]) = ((after ops).perform op).2 :=
  List.foldl_concat _ _ _ _

theorem upserted_concat (ops : List Operation) (op : Operation) :
    upserted (ops ++ [op]) = upserted ops ++ op.upserts?.toList := by
  rw [upserted, List.filterMap_append, upserted]
  cases h : op.upserts? with
  | none => simp [h]
  | some spec => simp [h]

/-- Only upserts change the responses. -/
theorem responses_perform (s : Store) {op : Operation} (h : op.upserts? = none) :
    (s.perform op).2.responses = s.responses ∧ (s.perform op).2.responseIds = s.responseIds := by
  cases op with
  | upsert now spec => cases h
  | lookup label respType => exact ⟨rfl, rfl⟩
  | response id => exact ⟨rfl, rfl⟩
  | count label respType => exact ⟨rfl, rfl⟩
  | insertResult record =>
    unfold perform
    dsimp only
    split
    · next hok => exact responses_insertResult hok
    · exact ⟨rfl, rfl⟩
  | register entry => exact responses_register s entry
  | reopen => exact responses_register s .unknown

/-- No operation changes or removes a row. -/
theorem responses_prefix_perform (s : Store) (op : Operation) :
    s.responses.toList <+: (s.perform op).2.responses.toList := by
  cases op with
  | upsert now spec =>
    show _ <+: (s.upsert now spec).2.responses.toList
    rcases upsert_cases s now spec with ⟨r, -, -, heq⟩ | ⟨-, fresh, heq⟩
    · rw [heq]
    · rw [heq, toList_responses_add]
      exact List.prefix_append _ _
  | lookup | response | count | insertResult | register | reopen =>
    rw [(responses_perform s rfl).1]

/-- The responses of a run are the first of every longer run. -/
theorem responses_prefix_after {before ops : List Operation} (h : before <+: ops) :
    (after before).responses.toList <+: (after ops).responses.toList := by
  obtain ⟨rest, rfl⟩ := h
  induction rest using List.reverseRecOn with
  | nil => rw [List.append_nil]
  | append_singleton rest op ih =>
    rw [← List.append_assoc, after_concat]
    exact ih.trans (responses_prefix_perform _ op)

/-- Every operation leads to a reachable store. -/
theorem Reachable.perform {s : Store} (h : Reachable s) (op : Operation) :
    Reachable (s.perform op).2 := by
  cases op with
  | upsert now spec => exact h.upsert now spec
  | insertResult record =>
    unfold Store.perform
    dsimp only
    split
    · next hok => exact h.insertResult hok
    · exact h
  | register entry => exact h.register entry
  | reopen => exact h.register .unknown
  | lookup | response | count => exact h

theorem reachable_after (ops : List Operation) : Reachable (after ops) := by
  induction ops using List.reverseRecOn with
  | nil => exact Reachable.empty.register .unknown
  | append_singleton ops op ih =>
    rw [after_concat]
    exact ih.perform op

/-! ## Runs -/

/-- A row is that of the first upsert of its response. Its id counts the upserts up to that one. -/
def Created (ops : List Operation) (r : StoredResponse) : Prop :=
  ∃ before now, Makes ops before (.upsert now r.spec) ∧ r.spec ∉ upserted before ∧
    r = ⟨(upserted before).length + 1, r.spec, r.spec.digest, now⟩

theorem Created.concat {ops : List Operation} {r : StoredResponse} (h : Created ops r)
    (op : Operation) : Created (ops ++ [op]) r := by
  obtain ⟨before, now, hmakes, hrest⟩ := h
  exact ⟨before, now, hmakes.trans (List.prefix_append _ _), hrest⟩

/-- What is stored after a run are the responses that it upserted. -/
structure Logged (ops : List Operation) : Prop where
  used : (after ops).responseIds = (upserted ops).length
  specs : (after ops).specs = (upserted ops).eraseDups
  created : ∀ r ∈ (after ops).responses.toList, Created ops r

theorem Logged.mem_specs {ops : List Operation} (h : Logged ops) {spec : ResponseSpec} :
    spec ∈ (after ops).specs ↔ spec ∈ upserted ops := by
  rw [h.specs, List.mem_eraseDups]

theorem Logged.hashesApart {ops : List Operation} (h : Logged ops) {spec : ResponseSpec}
    (hashes : ResponseSpec.HashesApart (upserted ops ++ [spec])) :
    ResponseSpec.HashesApart (spec :: (after ops).specs) := by
  refine hashes.subset (List.cons_subset.2 ⟨by simp, fun s hs => ?_⟩)
  exact List.mem_append_left _ (h.mem_specs.1 hs)

/-- An upsert goes on with the log: it adds a row, or leaves the rows as they are if one of them has
the response. -/
theorem Logged.concat_upsert {ops : List Operation} (h : Logged ops) (now : Nat)
    {spec : ResponseSpec} (hashes : ResponseSpec.HashesApart (upserted ops ++ [spec])) :
    Logged (ops ++ [.upsert now spec]) := by
  have hsound := (reachable_after ops).sound
  have hupserted : upserted (ops ++ [.upsert now spec]) = upserted ops ++ [spec] :=
    upserted_concat ops _
  have hafter : after (ops ++ [.upsert now spec]) = ((after ops).upsert now spec).2 :=
    after_concat ops _
  have hused : (after (ops ++ [.upsert now spec])).responseIds =
      (upserted (ops ++ [.upsert now spec])).length := by
    rw [hafter, hupserted, responseIds_upsert, h.used, List.length_append, List.length_singleton]
  by_cases hspec : spec ∈ (after ops).specs
  -- An upsert of a response that is there leaves the rows as they are.
  · obtain ⟨r, -, -, heq⟩ := upsert_of_mem hsound (h.hashesApart hashes) hspec now
    refine ⟨hused, ?_, ?_⟩
    · rw [hafter, heq, hupserted, Distinct.eraseDups_concat_of_mem (h.mem_specs.1 hspec)]
      exact h.specs
    · rw [hafter, heq]
      exact fun r hr => (h.created r hr).concat _
  · obtain ⟨-, hrows⟩ := upsert_of_not_mem hsound (h.hashesApart hashes) hspec now
    have hnot : spec ∉ upserted ops := fun hin => hspec (h.mem_specs.2 hin)
    refine ⟨hused, ?_, fun r hr => ?_⟩
    · rw [hafter, Store.specs, hrows, List.map_append, hupserted,
        Distinct.eraseDups_concat_of_not_mem hnot, ← h.specs]
      rfl
    · rw [hafter, hrows, List.mem_append, List.mem_singleton] at hr
      rcases hr with hr | rfl
      · exact (h.created r hr).concat _
      · refine ⟨ops, now, List.prefix_refl _, hnot, ?_⟩
        rw [h.used]

/-- Any other operation leaves the responses as they are. -/
theorem Logged.concat_of_not_upsert {ops : List Operation} (h : Logged ops) {op : Operation}
    (hop : op.upserts? = none) : Logged (ops ++ [op]) := by
  have hupserted : upserted (ops ++ [op]) = upserted ops := by
    rw [upserted_concat, hop]
    exact List.append_nil _
  obtain ⟨hresponses, hids⟩ := responses_perform (after ops) hop
  refine ⟨?_, ?_, fun r hr => ?_⟩
  · rw [after_concat, hids, hupserted]
    exact h.used
  · rw [after_concat, Store.specs, hresponses, hupserted]
    exact h.specs
  · rw [after_concat, hresponses] at hr
    exact (h.created r hr).concat op

/-- Where SHA-256 has no collision, the responses are the log of the upserts. What was upserted
before the last of them has no collisions either. -/
theorem logged {ops : List Operation} (hashes : ResponseSpec.HashesApart (upserted ops)) :
    Logged ops := by
  induction ops using List.reverseRecOn with
  | nil => exact ⟨rfl, rfl, fun r hr => absurd hr List.not_mem_nil⟩
  | append_singleton ops op ih =>
    rw [upserted_concat] at hashes
    have hops := ih (hashes.subset (List.subset_append_left _ _))
    cases hop : op.upserts? with
    | none => exact hops.concat_of_not_upsert hop
    | some spec =>
      obtain ⟨now, rfl⟩ := Operation.upserts?_eq_some hop
      exact hops.concat_upsert now hashes

/-! ## Responses are only added -/

/-- A run upserts a response and is answered an id. -/
def Gives (ops : List Operation) (spec : ResponseSpec) (id : Int) : Prop :=
  ∃ before now isNew, Makes ops before (.upsert now spec) ∧
    answer before (.upsert now spec) = .entry id isNew

/-- How the responses of a run are stored and found again. -/
structure AppendOnly (ops : List Operation) : Prop where
  /-- Rows stay as they are, in their places. -/
  kept : ∀ before, before <+: ops →
    (after before).responses.toList <+: (after ops).responses.toList
  /-- Each response that was upserted has one row, and nothing else has one. -/
  rows : (after ops).specs = (upserted ops).eraseDups ∧ (after ops).specs.Nodup
  /-- The id of a row is the number of the upsert that created it, which was the first one of its
  response. -/
  created : ∀ r ∈ (after ops).responses.toList, Created ops r
  /-- Ids grow in the order of creation. -/
  ascending : (after ops).responses.toList.Pairwise (·.id < ·.id)
  /-- An upsert answers the id of the row of its response, and that it is new if there was no such
  row before. -/
  upsert : ∀ before now spec, Makes ops before (.upsert now spec) →
    ∃ r ∈ (after ops).responses.toList, r.spec = spec ∧
      answer before (.upsert now spec) = .entry r.id (decide (spec ∉ (after before).specs))
  /-- Upserts answer the same id for the same response only. -/
  same : ∀ spec id spec' id', Gives ops spec id → Gives ops spec' id' → (id = id' ↔ spec = spec')
  /-- A lookup answers the ids of the rows with the label and the type, strictly ascending. -/
  lookup : ∀ label respType, ∃ ids, answer ops (.lookup label respType) = .ids ids ∧
    ids.Pairwise (· < ·) ∧ ∀ id, id ∈ ids ↔ (after ops).Holds label respType id
  /-- A count is that of the rows with the label and the type, where they are given. -/
  count : ∀ label respType, answer ops (.count label respType) =
    .count ((after ops).responses.toList.filter (Selects label respType)).length
  /-- The id that an upsert answered gives its response, digest and columns included. -/
  found : ∀ spec id, Gives ops spec id →
    ∃ r, answer ops (.response id) = .response (some r) ∧ r.id = id ∧ r.spec = spec ∧
      r.digest = spec.digest ∧ r.row.parse? = some r
  /-- Another id gives no response. -/
  missing : ∀ id, (∀ spec, ¬ Gives ops spec id) → answer ops (.response id) = .response none

/-- An upsert is answered by the id of the row, which is one that is there or the one that it
adds. -/
theorem answer_upsert {before : List Operation} {spec : ResponseSpec}
    (hashes : ResponseSpec.HashesApart (upserted before ++ [spec])) (now : Nat) :
    ∃ r ∈ (after (before ++ [.upsert now spec])).responses.toList, r.spec = spec ∧
      answer before (.upsert now spec) = .entry r.id (decide (spec ∉ (after before).specs)) := by
  have hlogged : Logged before := logged (hashes.subset (List.subset_append_left _ _))
  have hsound := (reachable_after before).sound
  have hanswer : answer before (.upsert now spec) =
      .entry ((after before).upsert now spec).1.1 ((after before).upsert now spec).1.2 := rfl
  have hafter : after (before ++ [.upsert now spec]) = ((after before).upsert now spec).2 :=
    after_concat before _
  by_cases hspec : spec ∈ (after before).specs
  · obtain ⟨r, hr, hrspec, heq⟩ := upsert_of_mem hsound (hlogged.hashesApart hashes) hspec now
    refine ⟨r, ?_, hrspec, ?_⟩
    · rw [hafter, heq]
      exact hr
    · rw [hanswer, heq, decide_eq_false (not_not_intro hspec)]
  · obtain ⟨heq, hrows⟩ := upsert_of_not_mem hsound (hlogged.hashesApart hashes) hspec now
    refine ⟨⟨(after before).responseIds + 1, spec, spec.digest, now⟩, ?_, rfl, ?_⟩
    · rw [hafter, hrows]
      exact List.mem_append_right _ List.mem_cons_self
    · rw [hanswer, heq, decide_eq_true hspec]

section Run

variable {ops : List Operation} (hashes : ResponseSpec.HashesApart (upserted ops))

include hashes

/-- An upsert within a run is answered by a row that stays. -/
theorem answer_upsert_of_makes {before : List Operation} {now : Nat} {spec : ResponseSpec}
    (h : Makes ops before (.upsert now spec)) :
    ∃ r ∈ (after ops).responses.toList, r.spec = spec ∧
      answer before (.upsert now spec) = .entry r.id (decide (spec ∉ (after before).specs)) := by
  have hsub : upserted (before ++ [.upsert now spec]) ⊆ upserted ops :=
    (List.IsPrefix.filterMap Operation.upserts? h).subset
  rw [upserted_concat] at hsub
  obtain ⟨r, hr, hrest⟩ := answer_upsert (hashes.subset hsub) now
  exact ⟨r, (responses_prefix_after h).subset hr, hrest⟩

/-- The ids that upserts answer are those of the rows. -/
theorem gives_iff {spec : ResponseSpec} {id : Int} :
    Gives ops spec id ↔ ∃ r ∈ (after ops).responses.toList, r.spec = spec ∧ r.id = id := by
  constructor
  · rintro ⟨before, now, isNew, hmakes, hanswer⟩
    obtain ⟨r, hr, hspec, heq⟩ := answer_upsert_of_makes hashes hmakes
    rw [heq, Answer.entry.injEq] at hanswer
    exact ⟨r, hr, hspec, hanswer.1⟩
  · rintro ⟨r, hr, rfl, rfl⟩
    -- The upsert that created the row answered its id.
    obtain ⟨before, now, hmakes, -, -⟩ := (logged hashes).created r hr
    obtain ⟨r', hr', hspec, heq⟩ := answer_upsert_of_makes hashes hmakes
    rw [(reachable_after ops).sound.eq_of_spec_eq hr' hr hspec] at heq
    exact ⟨before, now, _, hmakes, heq⟩

theorem response_of_gives {spec : ResponseSpec} {id : Int} (h : Gives ops spec id) :
    ∃ r, answer ops (.response id) = .response (some r) ∧ r.id = id ∧ r.spec = spec ∧
      r.digest = spec.digest ∧ r.row.parse? = some r := by
  have hsound := (reachable_after ops).sound
  obtain ⟨r, hr, rfl, rfl⟩ := (gives_iff hashes).1 h
  refine ⟨r, ?_, rfl, rfl, hsound.digest r hr, ResponseRow.parse?_row r⟩
  exact congrArg Answer.response ((response?_eq_some_iff hsound.numbered).2 ⟨hr, rfl⟩)

/-- From a new store on, responses are only added, each once, and every operation finds them as they
were stored, as long as SHA-256 has no collision on what is upserted. -/
theorem appendOnly : AppendOnly ops where
  kept _ h := responses_prefix_after h
  rows := ⟨(logged hashes).specs, (reachable_after ops).sound.once⟩
  created := (logged hashes).created
  ascending := (reachable_after ops).numbered.ascending
  upsert _ _ _ h := answer_upsert_of_makes hashes h
  same spec id spec' id' h h' := by
    have hsound := (reachable_after ops).sound
    obtain ⟨r, hr, rfl, rfl⟩ := (gives_iff hashes).1 h
    obtain ⟨r', hr', rfl, rfl⟩ := (gives_iff hashes).1 h'
    constructor
    · intro hid
      rw [hsound.numbered.eq_of_id_eq hr hr' hid]
    · intro hspec
      rw [hsound.eq_of_spec_eq hr hr' hspec]
  lookup label respType := by
    refine ⟨_, rfl, pairwise_lookup (reachable_after ops).numbered label respType, fun id => ?_⟩
    exact mem_lookup
  count label respType := congrArg Answer.count (count_eq (after ops) label respType)
  found _ _ h := response_of_gives hashes h
  missing id hnone := by
    refine congrArg Answer.response (response?_eq_none_iff.2 fun r hr hid => ?_)
    exact hnone r.spec ((gives_iff hashes).2 ⟨r, hr, rfl, hid⟩)

end Run

/-- A run that upserts one response twice, opens the store again in between, and upserts another. -/
def sampleRun : List Operation := [
  .upsert 5 ⟨[("X-Frame-Options", "DENY")], 200, "XFO", .basic⟩,
  .reopen,
  .upsert 6 ⟨[("X-Frame-Options", "DENY")], 200, "XFO", .basic⟩,
  .upsert 7 ⟨[], 404, "XFO", .basic⟩]

/-- The other response is the second row, under the third id. -/
theorem appendOnly_sampleRun :
    ResponseSpec.HashesApart (upserted sampleRun) ∧
      (after sampleRun).specs =
        [⟨[("X-Frame-Options", "DENY")], 200, "XFO", .basic⟩, ⟨[], 404, "XFO", .basic⟩] ∧
      ∃ r ∈ (after sampleRun).responses.toList, r.id = 3 ∧ r.spec.statusCode = 404 := by
  have hdistinct : ResponseSpec.HashesApart (upserted sampleRun).eraseDups :=
    ResponseSpec.hashesApart_of_pairwise (by decide +kernel)
  have hhashes : ResponseSpec.HashesApart (upserted sampleRun) :=
    hdistinct.subset fun _ h => List.mem_eraseDups.2 h
  have hrun := appendOnly hhashes
  have hspecs : (after sampleRun).specs =
      [⟨[("X-Frame-Options", "DENY")], 200, "XFO", .basic⟩, ⟨[], 404, "XFO", .basic⟩] :=
    hrun.rows.1.trans (by decide)
  have hother : ⟨[], 404, "XFO", .basic⟩ ∈ (after sampleRun).specs := by
    rw [hspecs]
    decide
  obtain ⟨r, hr, hspec⟩ := mem_specs.1 hother
  refine ⟨hhashes, hspecs, r, hr, ?_, by rw [hspec]⟩
  obtain ⟨before, now, hmakes, -, heq⟩ := hrun.created r hr
  rw [hspec] at hmakes heq
  obtain ⟨rest, hrest⟩ := hmakes
  rcases before with _ | ⟨a, _ | ⟨b, _ | ⟨c, _ | ⟨d, before⟩⟩⟩⟩
  all_goals simp [sampleRun] at hrest
  obtain ⟨rfl, rfl, rfl, -, -⟩ := hrest
  rw [heq]
  rfl

end ProbeCampaign.Store
