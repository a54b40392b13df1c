import Mathlib.Tactic
import ProbeCampaign.Proofs.Distinct
import ProbeCampaign.Proofs.Plan.Blocks

/-!
# Plans with failures

A page that does not fit is left out of a plan, and so are the pages of a label whose lookup failed.
The first lookup of a label decides for the whole plan, so that no page is planned over some of its
schemes only (`plan_isolated`).
-/

namespace ProbeCampaign

/-! ## What lookups leave remembered -/

theorem Connection.lookup_snd (c : Connection) (label : String) (respType : RespType) :
    (c.lookup label respType).2 = { c with lookups := c.lookups + 1 } := by
  unfold Connection.lookup
  dsimp only
  split
  · rfl
  · rfl

namespace ResponseIndex

theorem settle_lookup (c : Connection) (label : String) (respType : RespType) :
    settle (c.lookup label respType).1 =
      if c.lookupFails c.lookups then [] else stored c.store label respType := by
  unfold Connection.lookup
  dsimp only
  split
  · rfl
  · rfl

/-- What an index holds after lookups of responses of a type: `log` has the labels that were looked
up on the connection `c₀`, in order, and whether the lookup failed. A failed one left an answer
without ids. -/
structure Remembers (c₀ : Connection) (mode : RespType) (log : List (String × Bool))
    (index : ResponseIndex) (c : Connection) : Prop where
  connection : c = { c₀ with lookups := c₀.lookups + log.length }
  answers : ∀ label, index.answers.lookup (label, mode) =
    (log.lookup label).map fun failed => if failed then [] else stored c₀.store label mode

theorem remembers_empty (c : Connection) (mode : RespType) : Remembers c mode [] .empty c :=
  ⟨rfl, fun _ => rfl⟩

section Step

variable {c₀ c : Connection} {mode : RespType} {log : List (String × Bool)} {index : ResponseIndex}
  {label : String}

/-- A label that was looked up is not looked up again. -/
theorem Remembers.ids_of_known (h : Remembers c₀ mode log index c) {failed : Bool}
    (hknown : log.lookup label = some failed) :
    index.ids c label mode = (if failed then [] else stored c₀.store label mode, index, c) := by
  unfold ids
  rw [h.answers, hknown]
  rfl

/-- A label that was not looked up takes one lookup. -/
theorem Remembers.ids_of_new (h : Remembers c₀ mode log index c) (hnew : log.lookup label = none) :
    ∃ index', index.ids c label mode =
        (if c.lookupFails c.lookups then [] else stored c₀.store label mode, index',
          { c with lookups := c.lookups + 1 }) ∧
      Remembers c₀ mode (log ++ [(label, c.lookupFails c.lookups)]) index'
        { c with lookups := c.lookups + 1 } := by
  have hstore : c.store = c₀.store := by rw [h.connection]
  refine ⟨⟨((label, mode), settle (c.lookup label mode).1) :: index.answers,
    index.storeLookups + 1⟩, ?_, ?_, fun other => ?_⟩
  · unfold ids
    rw [h.answers, hnew, ← Connection.lookup_snd c label mode, ← hstore, ← settle_lookup]
    rfl
  · rw [h.connection, List.length_append, List.length_singleton, Nat.add_assoc]
  · rw [List.lookup_cons, List.lookup_append, h.answers, settle_lookup, hstore]
    by_cases heq : other = label
    · subst heq
      rw [hnew, beq_self_eq_true, Option.none_or, List.lookup_cons_self]
      rfl
    · have hkey : ((other, mode) == (label, mode)) = false := by simpa using heq
      rw [hkey, List.lookup_cons, beq_eq_false_iff_ne.2 heq, List.lookup_nil, Option.or_none]

end Step

end ResponseIndex

namespace PlanRequest

open ResponseIndex

/-! ## The lookups of a plan -/

/-- The lookups that reach the connection while some steps are planned, in order: the labels, and
whether they fail. -/
def callsOf (r : PlanRequest) :
    List (Scheme × TestTemplate) → ResponseIndex → Connection → List (String × Bool)
  | [], _, _ => []
  | (_, t) :: rest, index, c =>
    let (_, index, called) := index.ids c t.label r.mode
    let later := r.callsOf rest index called
    if called.lookups = c.lookups then later else (t.label, c.lookupFails c.lookups) :: later

/-- The lookups that a plan makes. -/
def calls (r : PlanRequest) (c : Connection) : List (String × Bool) :=
  r.callsOf r.steps .empty c

/-- The first lookup of a label succeeds. -/
def Answered (r : PlanRequest) (c : Connection) (label : String) : Prop :=
  (r.calls c).lookup label = some false

instance (r : PlanRequest) (c : Connection) (label : String) : Decidable (r.Answered c label) :=
  inferInstanceAs (Decidable (_ = _))

/-- The ids that a label is planned for, given the lookups of the whole plan. -/
def recalled (s : Store) (mode : RespType) (log : List (String × Bool)) (label : String) :
    List Int :=
  if log.lookup label = some false then stored s label mode else []

/-- What the first lookup of a label found is not changed by later ones. -/
theorem recalled_append {log : List (String × Bool)} {label : String} {failed : Bool}
    (h : log.lookup label = some failed) (s : Store) (mode : RespType)
    (later : List (String × Bool)) :
    recalled s mode (log ++ later) label = if failed then [] else stored s label mode := by
  unfold recalled
  rw [List.lookup_append, h, Option.some_or]
  cases failed with
  | true => rfl
  | false => rfl

section Steps

variable {r : PlanRequest} {c₀ c : Connection} {log : List (String × Bool)} {index : ResponseIndex}
  {t : TestTemplate}

theorem callsOf_of_known (h : Remembers c₀ r.mode log index c) {failed : Bool}
    (hknown : log.lookup t.label = some failed) (scheme : Scheme)
    (rest : List (Scheme × TestTemplate)) :
    r.callsOf ((scheme, t) :: rest) index c = r.callsOf rest index c := by
  rw [callsOf, h.ids_of_known hknown]
  exact if_pos rfl

theorem callsOf_of_new {ids : List Int} {index' : ResponseIndex}
    (hids : index.ids c t.label r.mode = (ids, index', { c with lookups := c.lookups + 1 }))
    (scheme : Scheme) (rest : List (Scheme × TestTemplate)) :
    log ++ r.callsOf ((scheme, t) :: rest) index c =
      (log ++ [(t.label, c.lookupFails c.lookups)]) ++
        r.callsOf rest index' { c with lookups := c.lookups + 1 } := by
  rw [callsOf, hids, List.append_assoc]
  exact congrArg (log ++ ·) (if_neg (Nat.succ_ne_self _))

/-- Each step is planned for what the first lookup of its label found. -/
theorem planSteps_eq (h : Remembers c₀ r.mode log index c) (steps : List (Scheme × TestTemplate)) :
    r.planSteps steps index c =
      (steps.flatMap fun step => r.visits step.1 step.2
          (recalled c₀.store r.mode (log ++ r.callsOf steps index c) step.2.label),
        { c₀ with lookups := c₀.lookups + (log ++ r.callsOf steps index c).length }) := by
  -- The lookups made so far are the invariant.
  induction steps generalizing log index c with
  | nil =>
    rw [callsOf, List.append_nil, ← h.connection]
    rfl
  | cons step rest ih =>
    obtain ⟨scheme, t⟩ := step
    rw [List.flatMap_cons, planSteps]
    cases hknown : log.lookup t.label with
    | some failed =>
      rw [callsOf_of_known h hknown, recalled_append hknown, h.ids_of_known hknown]
      dsimp only
      rw [ih h]
    | none =>
      obtain ⟨index', hids, h'⟩ := h.ids_of_new hknown
      have hlast : (log ++ [(t.label, c.lookupFails c.lookups)]).lookup t.label =
          some (c.lookupFails c.lookups) := by
        rw [List.lookup_append, hknown, Option.none_or, List.lookup_cons_self]
      rw [callsOf_of_new hids, recalled_append hlast, hids]
      dsimp only
      rw [ih h']

/-- The lookups that a connection makes for the given labels. -/
def numbered (c : Connection) (labels : List String) : List (String × Bool) :=
  labels.mapIdx fun k label => (label, c.lookupFails (c.lookups + k))

/-- A label is found among the lookups if it was looked up. -/
theorem lookup_numbered_eq_none_iff {labels : List String} {label : String} :
    (numbered c labels).lookup label = none ↔ label ∉ labels := by
  unfold numbered
  rw [List.lookup_eq_none_iff]
  constructor
  · intro h hmem
    obtain ⟨k, hk, rfl⟩ := List.getElem_of_mem hmem
    exact absurd rfl (bne_iff_ne.1 (h _ (List.mem_mapIdx.2 ⟨k, hk, rfl⟩)))
  · intro h call hcall
    obtain ⟨k, hk, rfl⟩ := List.mem_mapIdx.1 hcall
    apply bne_iff_ne.2
    rintro rfl
    exact h (List.getElem_mem hk)

/-- Each label is looked up once, when the first of its pages is planned. -/
theorem callsOf_eq (seen : List String) (h : Remembers c₀ r.mode log index c)
    (hlog : log = numbered c₀ seen.eraseDups) (steps : List (Scheme × TestTemplate)) :
    log ++ r.callsOf steps index c =
      numbered c₀ (seen ++ steps.map (·.2.label)).eraseDups := by
  induction steps generalizing log index c seen with
  | nil => rw [callsOf, List.append_nil, List.map_nil, List.append_nil, hlog]
  | cons step rest ih =>
    obtain ⟨scheme, t⟩ := step
    rw [List.map_cons, List.append_cons]
    cases hknown : log.lookup t.label with
    | some failed =>
      have hmem : t.label ∈ seen := by
        by_contra hnot
        rw [← List.mem_eraseDups, ← lookup_numbered_eq_none_iff (c := c₀), ← hlog, hknown] at hnot
        cases hnot
      rw [callsOf_of_known h hknown]
      apply ih _ h
      rw [Distinct.eraseDups_concat_of_mem hmem, hlog]
    | none =>
      have hmem : t.label ∉ seen := by
        rw [← List.mem_eraseDups, ← lookup_numbered_eq_none_iff (c := c₀), ← hlog, hknown]
      obtain ⟨index', hids, h'⟩ := h.ids_of_new hknown
      rw [callsOf_of_new hids]
      apply ih _ h'
      rw [Distinct.eraseDups_concat_of_not_mem hmem, numbered, List.mapIdx_concat, ← numbered,
        ← hlog, h.connection, hlog, numbered, List.length_mapIdx]

end Steps

theorem calls_eq (r : PlanRequest) (c : Connection) :
    r.calls c = numbered c (r.steps.map (·.2.label)).eraseDups :=
  callsOf_eq [] (remembers_empty c r.mode) rfl r.steps

/-- A plan has the visits of the pages whose labels are found. -/
theorem plan_eq (r : PlanRequest) (c : Connection) :
    r.plan c =
      (⟨r.steps.flatMap fun step =>
          r.visits step.1 step.2 (recalled c.store r.mode (r.calls c) step.2.label), r.errors⟩,
        { c with lookups := c.lookups + (r.calls c).length }) := by
  unfold plan
  rw [planSteps_eq (remembers_empty c r.mode)]
  rfl

theorem plan_eq_of_serves {r : PlanRequest} {s : Store} {c : Connection}
    (hc : Connection.Serves s c) :
    (r.plan c).1.entries =
      r.steps.flatMap fun step => r.visits step.1 step.2 (stored s step.2.label r.mode) :=
  (planned_plan (Connection.answers_serves s) hc).eq_flatMap (fun key => stored s key.1 key.2)
    fun _ _ h => h

/-! ## What is left out -/

/-- The request with the pages that are planned: those that fit and whose label is found. -/
def remaining (r : PlanRequest) (c : Connection) : PlanRequest :=
  { r with templates := r.templates.filter fun t =>
      t.flaw? r.mode r.limits = none ∧ r.Answered c t.label }

/-- The table without the labels that were not found has the steps of the others. -/
theorem steps_remaining (r : PlanRequest) (c : Connection) :
    (r.remaining c).steps = r.steps.filter fun step => r.Answered c step.2.label := by
  have hpages : ∀ scheme, (r.remaining c).valid.filter (·.runsOver scheme) =
      (r.valid.filter (·.runsOver scheme)).filter fun t => r.Answered c t.label := by
    intro scheme
    unfold valid running remaining
    rw [List.filter_filter, List.filter_filter, List.filter_filter, List.filter_filter,
      List.filter_filter, List.filter_filter]
    apply List.filter_congr
    intro t _
    rw [Bool.eq_iff_iff]
    simp
    tauto
  unfold steps
  rw [List.filter_flatMap]
  apply List.flatMap_congr
  intro scheme _
  rw [hpages, List.filter_map]
  rfl

theorem visits_nil (r : PlanRequest) (scheme : Scheme) (t : TestTemplate) :
    r.visits scheme t [] = [] :=
  List.flatMap_eq_nil_iff.2 fun _ _ => rfl

theorem label_of_mem_visits {r : PlanRequest} {scheme : Scheme} {t : TestTemplate} {ids : List Int}
    {e : TestPlanEntry} (he : e ∈ r.visits scheme t ids) : e.label = t.label := by
  obtain ⟨b, x, popups, rfl⟩ := exists_visit_of_mem_visits he
  rfl

/-- What gives nothing may be left out. -/
theorem flatMap_ite_nil {α β : Type} (p : α → Prop) [DecidablePred p] (f : α → List β)
    (xs : List α) :
    (xs.flatMap fun x => if p x then f x else []) = (xs.filter fun x => p x).flatMap f := by
  induction xs with
  | nil => rfl
  | cons x xs ih =>
    rw [List.flatMap_cons, ih]
    by_cases hx : p x
    · rw [if_pos hx, List.filter_cons_of_pos (by simpa using hx), List.flatMap_cons]
    · rw [if_neg hx, List.filter_cons_of_neg (by simpa using hx), List.nil_append]

theorem recalled_calls (r : PlanRequest) (c : Connection) (label : String) :
    recalled c.store r.mode (r.calls c) label =
      if r.Answered c label then stored c.store label r.mode else [] :=
  rfl

/-- The visits are those of the steps whose labels are found. -/
theorem entries_eq (r : PlanRequest) (c : Connection) :
    (r.plan c).1.entries = (r.steps.filter fun step => r.Answered c step.2.label).flatMap
      fun step => r.visits step.1 step.2 (stored c.store step.2.label r.mode) := by
  rw [plan_eq, ← flatMap_ite_nil]
  apply List.flatMap_congr
  intro step _
  rw [recalled_calls]
  by_cases hfound : r.Answered c step.2.label
  · rw [if_pos hfound, if_pos hfound]
  · rw [if_neg hfound, if_neg hfound, visits_nil]

/-- The visits with a label are those of the steps with this label. -/
theorem filter_label_flatMap (r : PlanRequest) (ids : String → List Int) (label : String)
    (steps : List (Scheme × TestTemplate)) :
    (steps.flatMap fun step => r.visits step.1 step.2 (ids step.2.label)).filter
        (fun e => e.label = label) =
      (steps.filter fun step => step.2.label = label).flatMap
        fun step => r.visits step.1 step.2 (ids step.2.label) := by
  rw [List.filter_flatMap, ← flatMap_ite_nil]
  apply List.flatMap_congr
  intro step _
  by_cases hlabel : step.2.label = label
  · rw [if_pos hlabel, List.filter_eq_self]
    intro e he
    rw [label_of_mem_visits he]
    exact decide_eq_true hlabel
  · rw [if_neg hlabel, List.filter_eq_nil_iff]
    intro e he
    rw [label_of_mem_visits he]
    simpa using hlabel

/-- A plan has the visits of a label as if no lookup failed, or none of them. -/
theorem filter_label_entries (r : PlanRequest) (c : Connection) {s : Connection}
    (hs : Connection.Serves c.store s) (label : String) :
    (r.plan c).1.entries.filter (fun e => e.label = label) =
      if r.Answered c label then (r.plan s).1.entries.filter fun e => e.label = label else [] := by
  rw [entries_eq, plan_eq_of_serves hs, filter_label_flatMap r (stored c.store · r.mode),
    filter_label_flatMap r (stored c.store · r.mode), List.filter_filter]
  split
  · next hfound =>
    congr 1
    apply List.filter_congr
    intro step _
    rw [Bool.and_eq_left_iff_imp]
    intro hlabel
    rw [of_decide_eq_true hlabel]
    exact decide_eq_true hfound
  · next hfailed =>
    rw [List.flatMap_eq_nil_iff]
    intro step hstep
    obtain ⟨-, hboth⟩ := List.mem_filter.1 hstep
    rw [Bool.and_eq_true] at hboth
    exfalso
    rw [of_decide_eq_true hboth.1] at hboth
    exact hfailed (of_decide_eq_true hboth.2)

/-- There is one error for each page that runs and does not fit. -/
theorem forall₂_errors (r : PlanRequest) :
    List.Forall₂ (fun t e => e.file = t.file ∧ e.label = t.label ∧
        t.flaw? r.mode r.limits = some e.flaw)
      (r.templates.filter fun t => t.runsIn r.mode ∧ t.flaw? r.mode r.limits ≠ none) r.errors := by
  unfold errors running
  induction r.templates with
  | nil => exact .nil
  | cons t ts ih =>
    by_cases hruns : t.runsIn r.mode
    · cases hflaw : t.flaw? r.mode r.limits with
      | none => simpa [hruns, hflaw, TestTemplate.error?] using ih
      | some flaw => simpa [hruns, hflaw, TestTemplate.error?] using ih
    · simpa [hruns] using ih

/-- A page that does not fit and a lookup that fails change nothing about the rest of a plan. The plan
looks up each label once, in the order of its first page, and nothing else. -/
theorem plan_isolated (r : PlanRequest) (c : Connection) (now : Nat) :
    List.Forall₂ (fun t e => e.file = t.file ∧ e.label = t.label ∧
        t.flaw? r.mode r.limits = some e.flaw)
      (r.templates.filter fun t => t.runsIn r.mode ∧ t.flaw? r.mode r.limits ≠ none)
      (r.plan c).1.errors ∧
    (r.plan c).1.entries = ((r.remaining c).plan (Connection.healthy c.store now)).1.entries ∧
    (∀ label, (r.plan c).1.entries.filter (fun e => e.label = label) =
      if r.Answered c label then
        (r.plan (Connection.healthy c.store now)).1.entries.filter fun e => e.label = label
      else []) ∧
    r.calls c = (r.steps.map (·.2.label)).eraseDups.mapIdx
      (fun k label => (label, c.lookupFails (c.lookups + k))) ∧
    (r.plan c).2 = { c with lookups := c.lookups + (r.calls c).length } := by
  have hserves : Connection.Serves c.store (Connection.healthy c.store now) :=
    ⟨rfl, fun _ _ => rfl⟩
  refine ⟨r.forall₂_errors, ?_, r.filter_label_entries c hserves, r.calls_eq c,
    congrArg Prod.snd (r.plan_eq c)⟩
  rw [entries_eq, plan_eq_of_serves hserves, steps_remaining]
  rfl

end PlanRequest

end ProbeCampaign
