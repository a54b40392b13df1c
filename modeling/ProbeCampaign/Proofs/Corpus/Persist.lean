import Mathlib.Tactic
import ProbeCampaign.Corpus
import ProbeCampaign.Proofs.Distinct
import ProbeCampaign.Proofs.Store.Upsert

/-!
# Storing a corpus while calls fail

Each call to the store may fail, and a schedule of failures decides how many calls are made for each
response (`Through`) or that all attempts for one of them fail. Up to there the responses that are
not stored yet are added in order (`storeAll_of_through`), and storing the corpus again on a store
that does not fail adds the remaining ones (`persist_schedule`).
-/

namespace ProbeCampaign

/-! ## Responses that are added -/

/-- The responses of a list that a store does not hold. -/
def Store.unstored (s : Store) (specs : List ResponseSpec) : List ResponseSpec :=
  specs.filter fun spec => spec ∉ s.specs

/-- A store has got rows for some responses after those of another store, and differs in nothing
else but the ids used up. -/
structure Store.Gains (s : Store) (now : Nat) (news : List ResponseSpec) (t : Store) : Prop where
  rows : ∃ added, t.responses.toList = s.responses.toList ++ added ∧ added.map (·.spec) = news ∧
    ∀ r ∈ added, r.digest = r.spec.digest ∧ r.createdAt = now
  browsers : t.browsers = s.browsers
  browserIds : t.browserIds = s.browserIds
  results : t.results = s.results
  sound : t.Sound

namespace Store

theorem Gains.refl {s : Store} (h : s.Sound) (now : Nat) : s.Gains now [] s where
  rows := ⟨[], (List.append_nil _).symm, rfl, fun _ hr => absurd hr List.not_mem_nil⟩
  browsers := rfl
  browserIds := rfl
  results := rfl
  sound := h

/-- What is added in two steps is added in the order of the steps. -/
theorem Gains.trans {s t u : Store} {now : Nat} {xs ys : List ResponseSpec}
    (h : s.Gains now xs t) (h' : t.Gains now ys u) : s.Gains now (xs ++ ys) u where
  rows := by
    obtain ⟨added, hrows, rfl, hadded⟩ := h.rows
    obtain ⟨added', hrows', rfl, hadded'⟩ := h'.rows
    refine ⟨added ++ added', ?_, List.map_append, fun r hr => ?_⟩
    · rw [hrows', hrows, List.append_assoc]
    · rcases List.mem_append.1 hr with hr | hr
      · exact hadded r hr
      · exact hadded' r hr
  browsers := h'.browsers.trans h.browsers
  browserIds := h'.browserIds.trans h.browserIds
  results := h'.results.trans h.results
  sound := h'.sound

theorem Gains.specs {s t : Store} {now : Nat} {news : List ResponseSpec} (h : s.Gains now news t) :
    t.specs = s.specs ++ news := by
  obtain ⟨added, hrows, rfl, -⟩ := h.rows
  rw [Store.specs, hrows, List.map_append]
  rfl

theorem Gains.responses_eq {s t : Store} {now : Nat} (h : s.Gains now [] t) :
    t.responses = s.responses := by
  obtain ⟨added, hrows, hnone, -⟩ := h.rows
  rw [List.map_eq_nil_iff.1 hnone, List.append_nil] at hrows
  exact Array.toList_inj.1 hrows

/-- An upsert adds the response exactly if it is not there. -/
theorem gains_upsert {s : Store} (h : s.Sound) {spec : ResponseSpec}
    (hashes : ResponseSpec.HashesApart (spec :: s.specs)) (now : Nat) :
    (s.upsert now spec).1.2 = decide (spec ∉ s.specs) ∧
      s.Gains now (s.unstored [spec]) (s.upsert now spec).2 := by
  obtain ⟨hbrowsers, hids, hresults⟩ := upsert_frame s now spec
  have hsound := sound_upsert h now spec
  by_cases hspec : spec ∈ s.specs
  · have hnews : s.unstored [spec] = [] := List.filter_cons_of_neg (by simpa using hspec)
    obtain ⟨r, -, -, heq⟩ := upsert_of_mem h hashes hspec now
    rw [hnews]
    refine ⟨?_, ⟨[], ?_, rfl, fun _ hr => absurd hr List.not_mem_nil⟩, hbrowsers, hids, hresults,
      hsound⟩
    · rw [heq, decide_eq_false (not_not_intro hspec)]
    · rw [heq]
      exact (List.append_nil _).symm
  · have hnews : s.unstored [spec] = [spec] := List.filter_cons_of_pos (by simpa using hspec)
    obtain ⟨heq, hrows⟩ := upsert_of_not_mem h hashes hspec now
    rw [hnews]
    refine ⟨?_, ⟨_, hrows, rfl, fun r hr => ?_⟩, hbrowsers, hids, hresults, hsound⟩
    · rw [heq, decide_eq_true hspec]
    · rw [List.mem_singleton.1 hr]
      exact ⟨rfl, rfl⟩

theorem unstored_append (s : Store) (xs ys : List ResponseSpec) :
    s.unstored (xs ++ ys) = s.unstored xs ++ s.unstored ys :=
  List.filter_append xs ys

/-- What was stored is not missing any more. -/
theorem unstored_done {s t : Store} {done : List ResponseSpec}
    (hspecs : t.specs = s.specs ++ s.unstored done) : t.unstored done = [] := by
  rw [unstored, List.filter_eq_nil_iff]
  intro spec hspec
  rw [decide_eq_true_iff, not_not, hspecs, List.mem_append, unstored, List.mem_filter,
    decide_eq_true_iff]
  by_cases hmem : spec ∈ s.specs
  · exact Or.inl hmem
  · exact Or.inr ⟨hspec, hmem⟩

/-- Storing some of distinct responses leaves the others missing as before. -/
theorem unstored_rest {s t : Store} {done rest : List ResponseSpec} (hnodup : (done ++ rest).Nodup)
    (hspecs : t.specs = s.specs ++ s.unstored done) : t.unstored rest = s.unstored rest := by
  refine List.filter_congr fun spec hspec => decide_eq_decide.2 (not_congr ?_)
  have hnot : spec ∉ done := fun hin => List.disjoint_of_nodup_append hnodup hin hspec
  rw [hspecs, List.mem_append, unstored, List.mem_filter]
  constructor
  · rintro (hmem | ⟨hin, -⟩)
    · exact hmem
    · exact absurd hin hnot
  · exact fun hmem => Or.inl hmem

theorem Gains.specs_subset {s t : Store} {now : Nat} {xs : List ResponseSpec}
    (h : s.Gains now (s.unstored xs) t) : t.specs ⊆ xs ++ s.specs := by
  rw [h.specs]
  refine List.append_subset.2 ⟨List.subset_append_right _ _, fun spec hspec => ?_⟩
  exact List.mem_append_left _ (List.mem_of_mem_filter hspec)

theorem length_unstored_cons (s : Store) (spec : ResponseSpec) (rest : List ResponseSpec) :
    (s.unstored (spec :: rest)).length =
      if decide (spec ∉ s.specs) then (s.unstored rest).length + 1
      else (s.unstored rest).length := by
  rw [unstored, List.filter_cons]
  split
  · rfl
  · rfl

end Store

/-! ## Schedules of failures -/

namespace Corpus

/-- From a call on, the given number of calls fail, and the next one does not. -/
def Recovers (fails : Nat → Bool) (call failures : Nat) : Prop :=
  (∀ k < failures, fails (call + k) = true) ∧ fails (call + failures) = false

/-- Calls for responses one after the other, from one call up to another: for each response fewer
calls than the limit fail, then one succeeds. -/
inductive Through (fails : Nat → Bool) (limit : Nat) : Nat → List ResponseSpec → Nat → Prop
  | nil (call : Nat) : Through fails limit call [] call
  | cons {call failures last : Nat} {spec : ResponseSpec} {rest : List ResponseSpec} :
      Recovers fails call failures → failures < limit →
      Through fails limit (call + failures + 1) rest last →
      Through fails limit call (spec :: rest) last

/-- All attempts for a response fail, after the calls for the responses before it. -/
structure GivesUp (fails : Nat → Bool) (limit call : Nat) (done : List ResponseSpec) (last : Nat) :
    Prop where
  through : Through fails limit call done last
  failed : ∀ k < limit, fails (last + k) = true

/-- If some call succeeds, there is a first one that does. -/
theorem exists_recovers {fails : Nat → Bool} {call k : Nat} (hk : fails (call + k) = false) :
    ∃ failures ≤ k, Recovers fails call failures := by
  have hex : ∃ k, fails (call + k) = false := ⟨k, hk⟩
  refine ⟨Nat.find hex, Nat.find_min' hex hk, fun j hj => ?_, Nat.find_spec hex⟩
  have hmin := Nat.find_min hex hj
  simpa using hmin

/-- A schedule lets the calls for all responses through, or all attempts for one of them fail. -/
theorem through_or_givesUp (fails : Nat → Bool) (limit call : Nat) (specs : List ResponseSpec) :
    (∃ last, Through fails limit call specs last) ∨
      ∃ done spec rest last, specs = done ++ spec :: rest ∧
        GivesUp fails limit call done last := by
  induction specs generalizing call with
  | nil => exact Or.inl ⟨call, .nil call⟩
  | cons spec rest ih =>
    -- Either no attempt for the first response succeeds, or the first one that does is in time.
    by_cases hall : ∀ k < limit, fails (call + k) = true
    · exact Or.inr ⟨[], spec, rest, call, rfl, .nil call, hall⟩
    · push Not at hall
      obtain ⟨k, hk, hsucceeds⟩ := hall
      obtain ⟨failures, hle, hrecovers⟩ := exists_recovers (eq_false_of_ne_true hsucceeds)
      have hlt : failures < limit := by omega
      rcases ih (call + failures + 1) with ⟨last, hthrough⟩ | ⟨done, s, rest', last, rfl, hgives⟩
      · exact Or.inl ⟨last, hthrough.cons hrecovers hlt⟩
      · refine Or.inr ⟨spec :: done, s, rest', last, rfl, ?_, hgives.failed⟩
        exact hgives.through.cons hrecovers hlt

/-- Without failures each response takes one call. -/
theorem through_of_never (limit call : Nat) (hlimit : 0 < limit) (specs : List ResponseSpec) :
    Through (fun _ => false) limit call specs (call + specs.length) := by
  induction specs generalizing call with
  | nil => exact .nil call
  | cons spec rest ih =>
    have hrecovers : Recovers (fun _ => false) call 0 :=
      ⟨fun k hk => absurd hk (Nat.not_lt_zero k), rfl⟩
    have hrest := ih (call + 0 + 1)
    rw [show call + 0 + 1 + rest.length = call + (spec :: rest).length by
      rw [List.length_cons]; omega] at hrest
    exact hrest.cons hrecovers hlimit

end Corpus

namespace Connection

/-! ## Attempts -/

theorem upsert_of_fails {c : Connection} (h : c.upsertFails c.upserts = true)
    (spec : ResponseSpec) : c.upsert spec = (.error busy, { c with upserts := c.upserts + 1 }) :=
  if_pos h

theorem upsert_of_succeeds {c : Connection} (h : c.upsertFails c.upserts = false)
    (spec : ResponseSpec) :
    c.upsert spec = (.ok (c.store.upsert c.now spec).1,
      { c with store := (c.store.upsert c.now spec).2, upserts := c.upserts + 1 }) :=
  if_neg (ne_true_of_eq_false h)

end Connection

namespace Corpus

open Connection

/-- After a call that fails, one attempt less is left. -/
theorem attempt_succ_of_fails {c : Connection} (h : c.upsertFails c.upserts = true)
    (spec : ResponseSpec) (further : Nat) :
    attempt c spec (further + 1) = attempt { c with upserts := c.upserts + 1 } spec further := by
  rw [attempt, upsert_of_fails h]

/-- If every attempt fails, the last failure is that of the call, and nothing is stored. -/
theorem attempt_of_fails {c : Connection} {further : Nat}
    (h : ∀ k < further + 1, c.upsertFails (c.upserts + k) = true) (spec : ResponseSpec) :
    attempt c spec further = (.error busy, { c with upserts := c.upserts + (further + 1) }) := by
  have hfirst : c.upsertFails c.upserts = true := h 0 (Nat.succ_pos further)
  induction further generalizing c with
  | zero => exact upsert_of_fails hfirst spec
  | succ further ih =>
    have hlater : ∀ k < further + 1, c.upsertFails (c.upserts + 1 + k) = true := by
      intro k hk
      rw [Nat.add_assoc, Nat.add_comm 1 k]
      exact h (k + 1) (Nat.succ_lt_succ hk)
    rw [attempt_succ_of_fails hfirst,
      ih (c := { c with upserts := c.upserts + 1 }) hlater (hlater 0 (Nat.succ_pos further)),
      Nat.add_assoc, Nat.add_comm 1 (further + 1)]

/-- If the failures end in time, the response is upserted by the first call that succeeds. -/
theorem attempt_of_recovers {c : Connection} {failures further : Nat}
    (h : Recovers c.upsertFails c.upserts failures) (hle : failures ≤ further)
    (spec : ResponseSpec) :
    attempt c spec further = (.ok (c.store.upsert c.now spec).1,
      { c with
        store := (c.store.upsert c.now spec).2
        upserts := c.upserts + failures + 1 }) := by
  induction failures generalizing c further with
  | zero =>
    have hsucceeds := upsert_of_succeeds h.2 spec
    cases further with
    | zero => exact hsucceeds
    | succ further => rw [attempt, hsucceeds]
  | succ failures ih =>
    obtain ⟨further, rfl⟩ := Nat.exists_eq_add_of_le' (Nat.one_le_of_lt hle)
    have hlater : Recovers c.upsertFails (c.upserts + 1) failures := by
      refine ⟨fun k hk => ?_, ?_⟩
      · rw [Nat.add_assoc, Nat.add_comm 1 k]
        exact h.1 (k + 1) (Nat.succ_lt_succ hk)
      · rw [Nat.add_assoc, Nat.add_comm 1 failures]
        exact h.2
    rw [attempt_succ_of_fails (h.1 0 (Nat.succ_pos failures)),
      ih (c := { c with upserts := c.upserts + 1 }) hlater (Nat.le_of_succ_le_succ hle),
      Nat.add_assoc c.upserts, Nat.add_comm 1 failures]

/-! ## One response after the other -/

/-- The loop leaves out what it has seen before. Those are the responses before, so each one passed
joins them. -/
theorem distinctFrom_eq {seen : Std.HashSet ResponseSpec} {xs : List ResponseSpec}
    (h : ∀ spec, seen.contains spec = true ↔ spec ∈ xs) (specs : List ResponseSpec) :
    xs.eraseDups ++ distinctFrom seen specs = (xs ++ specs).eraseDups := by
  induction specs generalizing seen xs with
  | nil => rw [distinctFrom, List.append_nil, List.append_nil]
  | cons spec rest ih =>
    rw [List.append_cons, distinctFrom]
    by_cases hspec : spec ∈ xs
    · rw [if_pos ((h spec).2 hspec), ← Distinct.eraseDups_concat_of_mem hspec]
      refine ih fun s => ?_
      rw [h s, List.mem_append, List.mem_singleton, or_iff_left_of_imp]
      exact fun heq => heq ▸ hspec
    · rw [if_neg fun hseen => hspec ((h spec).1 hseen), List.append_cons,
        ← Distinct.eraseDups_concat_of_not_mem hspec]
      refine ih fun s => ?_
      rw [Std.HashSet.contains_insert, Bool.or_eq_true, h s, List.mem_append, List.mem_singleton,
        beq_iff_eq, or_comm, eq_comm]

/-- The distinct responses are those that are left without repetitions. -/
theorem distinct_eq (specs : List ResponseSpec) : distinct specs = specs.eraseDups := by
  have h := @distinctFrom_eq ∅ [] (by simp) specs
  rwa [List.eraseDups_nil, List.nil_append, List.nil_append] at h

/-- If each response gets through, all are stored, by as many calls as the schedule says. The first
one gains its row, or it has one, and for the others nothing else changes. -/
theorem storeAll_of_through {fails : Nat → Bool} {limit call last : Nat}
    {specs : List ResponseSpec} (hthrough : Through fails limit call specs last) {c : Connection}
    (hfails : c.upsertFails = fails) (hcall : c.upserts = call) (h : c.store.Sound)
    (hashes : ResponseSpec.HashesApart (specs ++ c.store.specs)) (hnodup : specs.Nodup) :
    ∃ t, storeAll (limit - 1) specs c =
        (.ok (c.store.unstored specs).length, { c with store := t, upserts := last }) ∧
      c.store.Gains c.now (c.store.unstored specs) t := by
  induction hthrough generalizing c with
  | nil call =>
    subst hcall
    exact ⟨c.store, rfl, .refl h c.now⟩
  | @cons call failures last spec rest hrecovers hlt hrest ih =>
    subst hfails hcall
    obtain ⟨hnew, hgains⟩ := Store.gains_upsert h
      (hashes.subset (List.cons_subset_cons spec (List.subset_append_right rest _))) c.now
    have hattempt := attempt_of_recovers hrecovers (Nat.le_sub_one_of_lt hlt) spec
    have hsub : rest ++ (c.store.upsert c.now spec).2.specs ⊆ spec :: rest ++ c.store.specs := by
      refine List.append_subset.2 ⟨fun s hs => ?_, fun s hs => ?_⟩
      · exact List.mem_append_left _ (List.mem_cons_of_mem spec hs)
      · rcases List.mem_append.1 (hgains.specs_subset hs) with hs | hs
        · exact List.mem_append_left _ (List.mem_singleton.1 hs ▸ List.mem_cons_self)
        · exact List.mem_append_right _ hs
    obtain ⟨t, hstore, hgains'⟩ := ih
      (c := { c with
        store := (c.store.upsert c.now spec).2
        upserts := c.upserts + failures + 1 })
      rfl rfl hgains.sound (hashes.subset hsub) hnodup.of_cons
    have hrest : (c.store.upsert c.now spec).2.unstored rest = c.store.unstored rest :=
      @Store.unstored_rest _ _ [spec] rest hnodup hgains.specs
    dsimp only at hstore hgains'
    rw [hrest] at hstore hgains'
    have hsplit : c.store.unstored (spec :: rest) =
        c.store.unstored [spec] ++ c.store.unstored rest := c.store.unstored_append [spec] rest
    refine ⟨t, ?_, hsplit ▸ hgains.trans hgains'⟩
    rw [storeAll, hattempt]
    dsimp only
    rw [hstore, hnew, Store.length_unstored_cons]

/-- A failure ends the calls, so later responses do not count. -/
theorem storeAll_append_error {further created : Nat} {done rest : List ResponseSpec}
    {c c₁ c₂ : Connection} {e : Failure} (hdone : storeAll further done c = (.ok created, c₁))
    (hrest : storeAll further rest c₁ = (.error e, c₂)) :
    storeAll further (done ++ rest) c = (.error e, c₂) := by
  induction done generalizing c created with
  | nil =>
    cases hdone
    exact hrest
  | cons spec done ih =>
    rw [storeAll] at hdone
    rw [List.cons_append, storeAll]
    rcases hattempt : attempt c spec further with ⟨_ | ⟨id, isNew⟩, c'⟩
    · rw [hattempt] at hdone
      cases hdone
    · rw [hattempt] at hdone
      dsimp only at hdone ⊢
      rcases hstore : storeAll further done c' with ⟨_ | created', c''⟩
      · rw [hstore] at hdone
        cases hdone
      · rw [hstore] at hdone
        cases hdone
        rw [ih hstore]

/-- If one gives up, those before it are stored and none after it is tried. -/
theorem storeAll_of_givesUp {limit last : Nat} {done : List ResponseSpec} {c : Connection}
    (hgives : GivesUp c.upsertFails limit c.upserts done last) (hlimit : 0 < limit)
    (h : c.store.Sound) (hashes : ResponseSpec.HashesApart (done ++ c.store.specs))
    (hnodup : done.Nodup) (spec : ResponseSpec) (rest : List ResponseSpec) :
    ∃ t, storeAll (limit - 1) (done ++ spec :: rest) c =
        (.error busy, { c with store := t, upserts := last + limit }) ∧
      c.store.Gains c.now (c.store.unstored done) t := by
  obtain ⟨t, hdone, hgains⟩ := storeAll_of_through hgives.through rfl rfl h hashes hnodup
  refine ⟨t, storeAll_append_error hdone ?_, hgains⟩
  have hlast : limit - 1 + 1 = limit := Nat.sub_add_cancel hlimit
  have hattempt := @attempt_of_fails { c with store := t, upserts := last } (limit - 1)
    (by rw [hlast]; exact hgives.failed) spec
  rw [storeAll, hattempt, hlast]

/-! ## A whole corpus -/

theorem attempts_pos (config : CampaignConfig) : 0 < attempts config :=
  lt_of_lt_of_le Nat.zero_lt_one (Nat.le_max_right _ _)

/-- How a corpus is stored on a connection. -/
structure Persisted (config : CampaignConfig) (label : String) (specs : List ResponseSpec)
    (c : Connection) : Prop where
  /-- The schedule lets all distinct responses through, or it makes all attempts for one fail. -/
  decided : (∃ last, Through c.upsertFails (attempts config) c.upserts specs.eraseDups last) ∨
    ∃ done spec rest last, specs.eraseDups = done ++ spec :: rest ∧
      GivesUp c.upsertFails (attempts config) c.upserts done last
  /-- If all get through, the missing ones are added and counted. -/
  completed : ∀ last, Through c.upsertFails (attempts config) c.upserts specs.eraseDups last →
    ∃ t, persist config label specs c =
        (.ok ⟨label, specs.length, specs.eraseDups.length,
          (c.store.unstored specs.eraseDups).length⟩, { c with store := t, upserts := last }) ∧
      c.store.Gains c.now (c.store.unstored specs.eraseDups) t
  /-- If all attempts for one fail, the missing ones before it are added, and no call is made
  for those after it. -/
  exhausted : ∀ done spec rest last, specs.eraseDups = done ++ spec :: rest →
    GivesUp c.upsertFails (attempts config) c.upserts done last →
    ∃ t, persist config label specs c =
        (.error (.upsertExhausted label (attempts config) busy),
          { c with store := t, upserts := last + attempts config }) ∧
      c.store.Gains c.now (c.store.unstored done) t
  /-- Storing the corpus again without failures ends with the responses, in the order of their ids,
  that storing it once would have ended with. -/
  repaired : ∀ now now' t t',
    (persist config label specs (healthy (persist config label specs c).2.store now)).2.store = t →
    (persist config label specs (healthy c.store now')).2.store = t' →
    t.Sound ∧ t'.Sound ∧ t.specs = t'.specs

theorem mem_of_eraseDups_eq {specs done rest : List ResponseSpec} {spec : ResponseSpec}
    (h : specs.eraseDups = done ++ rest) (hspec : spec ∈ done) : spec ∈ specs := by
  rw [← List.mem_eraseDups, h]
  exact List.mem_append_left _ hspec

section Persist

variable (config : CampaignConfig) (label : String) {specs : List ResponseSpec} {c : Connection}

/-- If each response gets through, the report counts all of them and those that are new. -/
theorem persist_of_through (h : c.store.Sound)
    (hashes : ResponseSpec.HashesApart (specs ++ c.store.specs)) {last : Nat}
    (hthrough : Through c.upsertFails (attempts config) c.upserts specs.eraseDups last) :
    ∃ t, persist config label specs c =
        (.ok ⟨label, specs.length, specs.eraseDups.length,
          (c.store.unstored specs.eraseDups).length⟩, { c with store := t, upserts := last }) ∧
      c.store.Gains c.now (c.store.unstored specs.eraseDups) t := by
  have hsub : specs.eraseDups ++ c.store.specs ⊆ specs ++ c.store.specs :=
    List.append_subset.2 ⟨fun s hs => List.mem_append_left _ (List.mem_eraseDups.1 hs),
      List.subset_append_right _ _⟩
  obtain ⟨t, hstore, hgains⟩ := storeAll_of_through hthrough rfl rfl h (hashes.subset hsub)
    (Distinct.nodup_eraseDups specs)
  refine ⟨t, ?_, hgains⟩
  rw [persist, distinct_eq, hstore]

/-- If one gives up, its failure is reported, with the number of attempts. -/
theorem persist_of_givesUp (h : c.store.Sound)
    (hashes : ResponseSpec.HashesApart (specs ++ c.store.specs)) {done rest : List ResponseSpec}
    {spec : ResponseSpec} {last : Nat} (hspecs : specs.eraseDups = done ++ spec :: rest)
    (hgives : GivesUp c.upsertFails (attempts config) c.upserts done last) :
    ∃ t, persist config label specs c =
        (.error (.upsertExhausted label (attempts config) busy),
          { c with store := t, upserts := last + attempts config }) ∧
      c.store.Gains c.now (c.store.unstored done) t := by
  have hsub : done ++ c.store.specs ⊆ specs ++ c.store.specs :=
    List.append_subset.2 ⟨fun s hs => List.mem_append_left _ (mem_of_eraseDups_eq hspecs hs),
      List.subset_append_right _ _⟩
  have hnodup : (done ++ spec :: rest).Nodup := hspecs ▸ Distinct.nodup_eraseDups specs
  obtain ⟨t, hstore, hgains⟩ := storeAll_of_givesUp hgives (attempts_pos config) h
    (hashes.subset hsub) hnodup.of_append_left spec rest
  refine ⟨t, ?_, hgains⟩
  rw [persist, distinct_eq, hspecs, hstore]

/-- Storing a corpus succeeds only if all its responses get through: then the missing ones are added
and reported. -/
theorem persist_ok (h : c.store.Sound) (hashes : ResponseSpec.HashesApart (specs ++ c.store.specs))
    {report : CorpusReport} {c' : Connection}
    (hok : persist config label specs c = (.ok report, c')) :
    report = ⟨label, specs.length, specs.eraseDups.length,
        (c.store.unstored specs.eraseDups).length⟩ ∧
      c'.now = c.now ∧ c.store.Gains c.now (c.store.unstored specs.eraseDups) c'.store := by
  rcases through_or_givesUp c.upsertFails (attempts config) c.upserts specs.eraseDups with
    ⟨last, hthrough⟩ | ⟨done, spec, rest, last, hspecs, hgives⟩
  · obtain ⟨t, heq, hgains⟩ := persist_of_through config label h hashes hthrough
    rw [hok] at heq
    cases heq
    exact ⟨rfl, rfl, hgains⟩
  · obtain ⟨t, heq, -⟩ := persist_of_givesUp config label h hashes hspecs hgives
    rw [hok] at heq
    cases heq

/-- Whatever fails, the first ones of the distinct responses are stored. -/
theorem exists_stored (h : c.store.Sound)
    (hashes : ResponseSpec.HashesApart (specs ++ c.store.specs)) :
    ∃ done rest, specs.eraseDups = done ++ rest ∧
      c.store.Gains c.now (c.store.unstored done) (persist config label specs c).2.store := by
  rcases through_or_givesUp c.upsertFails (attempts config) c.upserts specs.eraseDups with
    ⟨last, hthrough⟩ | ⟨done, spec, rest, last, hspecs, hgives⟩
  · obtain ⟨t, heq, hgains⟩ := persist_of_through config label h hashes hthrough
    rw [heq]
    exact ⟨specs.eraseDups, [], (List.append_nil _).symm, hgains⟩
  · obtain ⟨t, heq, hgains⟩ := persist_of_givesUp config label h hashes hspecs hgives
    rw [heq]
    exact ⟨done, spec :: rest, hspecs, hgains⟩

/-- A run without failures adds what is missing. -/
theorem gains_persist_healthy {s : Store} (h : s.Sound)
    (hashes : ResponseSpec.HashesApart (specs ++ s.specs)) (now : Nat) :
    s.Gains now (s.unstored specs.eraseDups)
      (persist config label specs (healthy s now)).2.store := by
  have hthrough := through_of_never (attempts config) 0 (attempts_pos config) specs.eraseDups
  obtain ⟨t, heq, hgains⟩ :=
    persist_of_through config label (c := healthy s now) h hashes hthrough
  rw [heq]
  exact hgains

/-- A corpus is stored up to the first response for which all attempts fail, and storing it again
adds the others, as long as SHA-256 has no collision on what is stored. -/
theorem persist_schedule (h : c.store.Sound)
    (hashes : ResponseSpec.HashesApart (specs ++ c.store.specs)) :
    Persisted config label specs c where
  decided := through_or_givesUp _ _ _ _
  completed _ hthrough := persist_of_through config label h hashes hthrough
  exhausted _ _ _ _ hspecs hgives := persist_of_givesUp config label h hashes hspecs hgives
  repaired now now' t t' ht ht' := by
    obtain ⟨done, rest, hspecs, hgains⟩ := exists_stored config label h hashes
    have hnodup : (done ++ rest).Nodup := hspecs ▸ Distinct.nodup_eraseDups specs
    generalize (persist config label specs c).2.store = s at hgains ht
    have hashes' : ResponseSpec.HashesApart (specs ++ s.specs) := by
      refine hashes.subset (List.append_subset.2 ⟨List.subset_append_left _ _, fun r hr => ?_⟩)
      rcases List.mem_append.1 (hgains.specs_subset hr) with hr | hr
      · exact List.mem_append_left _ (mem_of_eraseDups_eq hspecs hr)
      · exact List.mem_append_right _ hr
    have hagain := gains_persist_healthy config label hgains.sound hashes' now
    have honce := gains_persist_healthy config label h hashes now'
    rw [ht] at hagain
    rw [ht'] at honce
    refine ⟨hagain.sound, honce.sound, ?_⟩
    -- What the first run left out is what the second one adds.
    rw [hagain.specs, honce.specs, hspecs, Store.unstored_append, Store.unstored_append,
      Store.unstored_done hgains.specs, Store.unstored_rest hnodup hgains.specs, hgains.specs,
      List.nil_append, List.append_assoc]

end Persist

/-- A new store on which the first call fails, and all calls from the third on. -/
def flaky : Connection :=
  { healthy .empty 0 with upsertFails := fun k => k = 0 || 2 ≤ k }

/-- Two attempts for each response. -/
def flakyConfig : CampaignConfig :=
  { CampaignConfig.default "" with corpus := { CorpusPolicy.default with upsertRetries := 2 } }

/-- A response that allows or denies framing. -/
def framing (value : String) : ResponseSpec :=
  ⟨[("X-Frame-Options", value)], 200, "XFO", .basic⟩

/-- The first response is stored at the second attempt, and the other one is given up. -/
theorem persist_schedule_flaky :
    flaky.store.Sound ∧
      ResponseSpec.HashesApart
        ([framing "SAMEORIGIN", framing "SAMEORIGIN", framing "DENY"] ++ flaky.store.specs) ∧
      ∃ t, persist flakyConfig "XFO"
            [framing "SAMEORIGIN", framing "SAMEORIGIN", framing "DENY"] flaky =
          (.error (.upsertExhausted "XFO" 2 busy), { flaky with store := t, upserts := 4 }) ∧
        t.specs = [framing "SAMEORIGIN"] := by
  have hsound : flaky.store.Sound := Store.sound_empty
  have hdistinct : ResponseSpec.HashesApart [framing "SAMEORIGIN", framing "DENY"] :=
    ResponseSpec.hashesApart_of_pairwise (by decide +kernel)
  have hashes : ResponseSpec.HashesApart
      ([framing "SAMEORIGIN", framing "SAMEORIGIN", framing "DENY"] ++ flaky.store.specs) :=
    hdistinct.subset (by simp [flaky, healthy, Store.specs, Store.empty])
  have hrecovers : Recovers flaky.upsertFails 0 1 := ⟨by decide, by decide⟩
  have hgives : GivesUp flaky.upsertFails 2 0 [framing "SAMEORIGIN"] 2 :=
    ⟨.cons hrecovers (by decide) (.nil 2), by decide⟩
  obtain ⟨t, heq, hgains⟩ := (persist_schedule flakyConfig "XFO" hsound hashes).exhausted
    [framing "SAMEORIGIN"] (framing "DENY") [] 2 (by decide) hgives
  refine ⟨hsound, hashes, t, heq, ?_⟩
  rw [hgains.specs]
  rfl

end Corpus

end ProbeCampaign
