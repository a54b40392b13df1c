import Mathlib.Logic.Relation
import Mathlib.Tactic
import ProbeCampaign.Proofs.Corpus.Persist

/-!
# Corpora stored at the same time

Several runs store their corpora on one store, and their calls come in any order. A `Builder` is a
run between two calls; left alone it does what `persist` does (`steps_persist`). Whatever the order,
each call adds the row of its response or finds it, so what all runs count together is what was
added (`Progress.step`), and in the end each response has one row that every run was told of
(`builders_settle`).
-/

namespace ProbeCampaign.Corpus

open Relation

/-! ## Runs between calls -/

/-- A corpus that is stored: its label and its responses as they were generated. -/
structure Job where
  config : CampaignConfig
  label : String
  generated : List ResponseSpec

/-- A run that stores a corpus: the responses with the ids that it was told of, how many of them it
counted as new, and those that it has still to store. -/
structure Builder where
  job : Job
  received : List (ResponseSpec × Int)
  created : Nat
  pending : List ResponseSpec

namespace Builder

/-- A run before its first call. -/
def start (job : Job) : Builder :=
  ⟨job, [], 0, distinct job.generated⟩

/-- A run after the call for a response. -/
def receive (b : Builder) (spec : ResponseSpec) (rest : List ResponseSpec) (result : Int × Bool) :
    Builder where
  job := b.job
  received := b.received ++ [(spec, result.1)]
  created := if result.2 then b.created + 1 else b.created
  pending := rest

/-- What a run reports in the end. -/
def report (b : Builder) : CorpusReport :=
  ⟨b.job.label, b.job.generated.length, (distinct b.job.generated).length, b.created⟩

end Builder

/-- Runs that share a connection. -/
structure Site where
  builders : List Builder
  connection : Connection

namespace Site

/-- No run has a call left. -/
def Done (x : Site) : Prop :=
  ∀ b ∈ x.builders, b.pending = []

/-- The calls that are left. -/
def left (x : Site) : Nat :=
  (x.builders.map fun b => b.pending.length).sum

/-- How many rows all runs count as theirs. -/
def created (x : Site) : Nat :=
  (x.builders.map (·.created)).sum

end Site

/-- One of the runs makes its next call, and it does not fail; or time passes. -/
inductive Step : Site → Site → Prop
  | call (front back : List Builder) {b : Builder} {spec : ResponseSpec}
      {rest : List ResponseSpec} {c c' : Connection} {result : Int × Bool} :
      b.pending = spec :: rest → c.upsert spec = (.ok result, c') →
      Step ⟨front ++ b :: back, c⟩ ⟨front ++ b.receive spec rest result :: back, c'⟩
  | wait {bs : List Builder} {c : Connection} (now : Nat) : Step ⟨bs, c⟩ ⟨bs, { c with now }⟩

/-- Any number of steps. -/
abbrev Steps : Site → Site → Prop :=
  ReflTransGen Step

/-! ## A run alone -/

theorem attempt_of_succeeds {c : Connection} (h : c.upsertFails c.upserts = false)
    (spec : ResponseSpec) (further : Nat) : attempt c spec further = c.upsert spec := by
  have hupsert := Connection.upsert_of_succeeds h spec
  cases further with
  | zero => rfl
  | succ further => rw [attempt, hupsert]

/-- The calls of one run are those of `storeAll`, in the same order. -/
theorem steps_storeAll {c : Connection} (hnever : ∀ k, c.upsertFails k = false) (b : Builder)
    (further : Nat) : ∃ created c' received,
      storeAll further b.pending c = (.ok created, c') ∧
      Steps ⟨[b], c⟩ ⟨[⟨b.job, received, b.created + created, []⟩], c'⟩ := by
  obtain ⟨job, received, created, pending⟩ := b
  dsimp only
  induction pending generalizing c received created with
  | nil => exact ⟨0, c, received, rfl, .refl⟩
  | cons spec rest ih =>
    have hupsert := Connection.upsert_of_succeeds (hnever c.upserts) spec
    have hattempt := attempt_of_succeeds (hnever c.upserts) spec further
    rw [hupsert] at hattempt
    generalize hresult : (c.store.upsert c.now spec).1 = result at hupsert hattempt
    obtain ⟨id, isNew⟩ := result
    obtain ⟨n, c', received', hstore, hsteps⟩ := ih
      (c := { c with store := (c.store.upsert c.now spec).2, upserts := c.upserts + 1 }) hnever
      (received ++ [(spec, id)]) (if isNew then created + 1 else created)
    have hstep := Step.call [] [] (b := ⟨job, received, created, spec :: rest⟩) rfl hupsert
    refine ⟨if isNew then n + 1 else n, c', received', ?_, ?_⟩
    · rw [storeAll, hattempt]
      dsimp only
      rw [hstore]
    · have hcount : (if isNew then created + 1 else created) + n =
          created + (if isNew then n + 1 else n) := by
        split <;> omega
      rw [← hcount]
      exact .head hstep hsteps

/-- A run that is alone does what `persist` does. -/
theorem steps_persist {c : Connection} (hnever : ∀ k, c.upsertFails k = false) (job : Job) :
    ∃ b c', b.job = job ∧ Steps ⟨[.start job], c⟩ ⟨[b], c'⟩ ∧ Site.Done ⟨[b], c'⟩ ∧
      persist job.config job.label job.generated c = (.ok b.report, c') := by
  obtain ⟨created, c', received, hstore, hsteps⟩ :=
    steps_storeAll hnever (.start job) (attempts job.config - 1)
  refine ⟨_, c', rfl, hsteps, fun b hb => ?_, ?_⟩
  · rw [List.mem_singleton.1 hb]
  · have hall : storeAll (attempts job.config - 1) (distinct job.generated) c =
        (.ok created, c') := hstore
    rw [persist, hall]
    simp [Builder.report, Builder.start]

/-! ## What one step preserves -/

/-- How far runs have come that started for some jobs on a store. Their rows come after those that
were there, and all the runs together count each of them once; what a run was told of is there. -/
structure Progress (jobs : List Job) (s : Store) (x : Site) : Prop where
  sound : x.connection.store.Sound
  started : x.builders.map (·.job) = jobs
  rows : ∃ added, x.connection.store.responses.toList = s.responses.toList ++ added ∧
    added.length = x.created ∧ ∀ r ∈ added, r.spec ∈ jobs.flatMap (·.generated)
  order : ∀ b ∈ x.builders, b.received.map (·.1) ++ b.pending = distinct b.job.generated
  told : ∀ b ∈ x.builders, ∀ p ∈ b.received,
    ∃ r ∈ x.connection.store.responses.toList, r.spec = p.1 ∧ r.id = p.2

/-- No run has made progress before the first step. -/
theorem progress_start {s : Store} (h : s.Sound) {c : Connection} (hstore : c.store = s)
    (jobs : List Job) : Progress jobs s ⟨jobs.map .start, c⟩ where
  sound := hstore ▸ h
  started := by simp [Builder.start, Function.comp_def]
  rows := by
    refine ⟨[], ?_, ?_, fun r hr => absurd hr List.not_mem_nil⟩
    · simp [hstore]
    · simp [Site.created, Builder.start, Function.comp_def]
  order b hb := by
    obtain ⟨job, -, rfl⟩ := List.mem_map.1 hb
    rfl
  told b hb p hp := by
    obtain ⟨job, -, rfl⟩ := List.mem_map.1 hb
    exact absurd hp List.not_mem_nil

theorem created_append (front back : List Builder) (b : Builder) (c : Connection) :
    Site.created ⟨front ++ b :: back, c⟩ =
      b.created + ((front.map (·.created)).sum + (back.map (·.created)).sum) := by
  simp [Site.created]
  omega

/-- A call gives the id of a row of the response, which it adds unless it is there. -/
theorem exists_row_upsert {s : Store} (h : s.Sound) {spec : ResponseSpec}
    (hashes : ResponseSpec.HashesApart (spec :: s.specs)) (now : Nat) :
    ∃ added, (s.upsert now spec).2.responses.toList = s.responses.toList ++ added ∧
      added.length = (if (s.upsert now spec).1.2 then 1 else 0) ∧ (∀ r ∈ added, r.spec = spec) ∧
      ∃ r ∈ (s.upsert now spec).2.responses.toList, r.spec = spec ∧ r.id = (s.upsert now spec).1.1 := by
  by_cases hspec : spec ∈ s.specs
  · obtain ⟨r, hr, hrspec, heq⟩ := Store.upsert_of_mem h hashes hspec now
    rw [heq]
    exact ⟨[], (List.append_nil _).symm, rfl, by simp, r, hr, hrspec, rfl⟩
  · obtain ⟨heq, hrows⟩ := Store.upsert_of_not_mem h hashes hspec now
    rw [hrows, heq]
    exact ⟨_, rfl, rfl, by simp, _, List.mem_append_right _ (List.mem_singleton_self _), rfl, rfl⟩

/-- A call that succeeds is an upsert of the store. -/
theorem of_upsert_ok {c c' : Connection} {spec : ResponseSpec} {result : Int × Bool}
    (h : c.upsert spec = (.ok result, c')) :
    (c.store.upsert c.now spec).1 = result ∧ (c.store.upsert c.now spec).2 = c'.store := by
  unfold Connection.upsert at h
  split at h
  · cases h
  · cases h
    exact ⟨rfl, rfl⟩

/-- Everything that is stored comes from the store at the start or from one of the jobs. -/
theorem Progress.specs_subset {jobs : List Job} {s : Store} {x : Site} (h : Progress jobs s x) :
    x.connection.store.specs ⊆ jobs.flatMap (·.generated) ++ s.specs := by
  obtain ⟨added, hrows, -, hadded⟩ := h.rows
  intro spec hspec
  obtain ⟨r, hr, rfl⟩ := Store.mem_specs.1 hspec
  rw [hrows] at hr
  rcases List.mem_append.1 hr with hr | hr
  · exact List.mem_append_right _ (Store.mem_specs.2 ⟨r, hr, rfl⟩)
  · exact List.mem_append_left _ (hadded r hr)

/-- Whatever run makes the next call, all of them stay as far as their calls got them. It is the one
that made the call, or it is as it was. -/
theorem Progress.step {jobs : List Job} {s : Store} {x y : Site} (h : Progress jobs s x)
    (hashes : ResponseSpec.HashesApart (jobs.flatMap (·.generated) ++ s.specs)) (hstep : Step x y) :
    Progress jobs s y := by
  cases hstep with
  | wait now => exact ⟨h.sound, h.started, h.rows, h.order, h.told⟩
  | @call front back b spec rest c c' result hpending hupsert =>
    have hb : b ∈ front ++ b :: back := by simp
    have hspec : spec ∈ b.job.generated := by
      have hmem : spec ∈ distinct b.job.generated := by
        rw [← h.order b hb, hpending]
        simp
      rwa [distinct_eq, List.mem_eraseDups] at hmem
    have hjobs : spec ∈ jobs.flatMap (·.generated) :=
      List.mem_flatMap.2 ⟨b.job, h.started ▸ List.mem_map_of_mem hb, hspec⟩
    have hknown : ResponseSpec.HashesApart (spec :: c.store.specs) :=
      hashes.subset (List.cons_subset.2 ⟨List.mem_append_left _ hjobs, h.specs_subset⟩)
    obtain ⟨added, hrows, hlength, hadded, hrow⟩ := exists_row_upsert h.sound hknown c.now
    have hsound := Store.sound_upsert h.sound c.now spec
    obtain ⟨hresult, hstore⟩ := of_upsert_ok hupsert
    rw [hresult] at hlength hrow
    rw [hstore] at hrows hrow hsound
    obtain ⟨before, hbefore, hcount, horigin⟩ := h.rows
    have hcases : ∀ b' ∈ front ++ b.receive spec rest result :: back,
        b' = b.receive spec rest result ∨ b' ∈ front ++ b :: back := by
      intro b' hb'
      simp only [List.mem_append, List.mem_cons] at hb' ⊢
      tauto
    refine ⟨hsound, ?_, ⟨before ++ added, ?_, ?_, ?_⟩, ?_, ?_⟩
    · simpa [Builder.receive] using h.started
    · rw [hrows, hbefore, List.append_assoc]
    · have hcounted : (b.receive spec rest result).created =
          if result.2 then b.created + 1 else b.created := rfl
      rw [created_append] at hcount ⊢
      rw [List.length_append, hcount, hlength, hcounted]
      split <;> omega
    · intro r hr
      rcases List.mem_append.1 hr with hr | hr
      · exact horigin r hr
      · rw [hadded r hr]
        exact hjobs
    · intro b' hb'
      rcases hcases b' hb' with rfl | hb'
      · have horder := h.order b hb
        rw [hpending] at horder
        simpa [Builder.receive] using horder
      · exact h.order b' hb'
    · have hkept : ∀ p ∈ (front ++ b :: back).flatMap (·.received),
          ∃ r ∈ c'.store.responses.toList, r.spec = p.1 ∧ r.id = p.2 := by
        intro p hp
        obtain ⟨b', hb', hp⟩ := List.mem_flatMap.1 hp
        obtain ⟨r, hr, hspec, hid⟩ := h.told b' hb' p hp
        refine ⟨r, ?_, hspec, hid⟩
        rw [hrows]
        exact List.mem_append_left _ hr
      intro b' hb' p hp
      rcases hcases b' hb' with rfl | hb'
      · rcases List.mem_append.1 hp with hp | hp
        · exact hkept p (List.mem_flatMap.2 ⟨b, hb, hp⟩)
        · rw [List.mem_singleton.1 hp]
          exact hrow
      · exact hkept p (List.mem_flatMap.2 ⟨b', hb', hp⟩)

/-- The run lemma: whatever the order of the calls, every step keeps what has been said. -/
theorem Progress.steps {jobs : List Job} {s : Store} {x y : Site} (h : Progress jobs s x)
    (hashes : ResponseSpec.HashesApart (jobs.flatMap (·.generated) ++ s.specs))
    (hsteps : Steps x y) : Progress jobs s y := by
  induction hsteps with
  | refl => exact h
  | tail _ hstep ih => exact ih.step hashes hstep

/-! ## No order blocks a run -/

/-- Every call brings the runs nearer to their end. -/
theorem left_call (front back : List Builder) {b : Builder} {spec : ResponseSpec}
    {rest : List ResponseSpec} (h : b.pending = spec :: rest) (result : Int × Bool)
    (c c' : Connection) :
    Site.left ⟨front ++ b :: back, c⟩ =
      Site.left ⟨front ++ b.receive spec rest result :: back, c'⟩ + 1 := by
  simp [Site.left, Builder.receive, h]
  omega

/-- Where no call fails, runs that have begun can be brought to an end. -/
theorem exists_done {x : Site} (hnever : ∀ k, x.connection.upsertFails k = false) :
    ∃ y, Steps x y ∧ y.Done := by
  induction hleft : x.left generalizing x with
  | zero =>
    refine ⟨x, .refl, fun b hb => ?_⟩
    have hlength : b.pending.length = 0 :=
      List.sum_eq_zero_iff.1 hleft _ (List.mem_map_of_mem hb)
    exact List.length_eq_zero_iff.1 hlength
  | succ n ih =>
    obtain ⟨builders, c⟩ := x
    have hsome : ∃ b ∈ builders, b.pending ≠ [] := by
      by_contra hnone
      push Not at hnone
      have hzero : Site.left ⟨builders, c⟩ = 0 := by
        refine List.sum_eq_zero_iff.2 fun k hk => ?_
        obtain ⟨b, hb, rfl⟩ := List.mem_map.1 hk
        simp [hnone b hb]
      omega
    obtain ⟨b, hb, hpending⟩ := hsome
    obtain ⟨spec, rest, hpending⟩ := List.exists_cons_of_ne_nil hpending
    obtain ⟨front, back, rfl⟩ := List.append_of_mem hb
    have hupsert := Connection.upsert_of_succeeds (hnever c.upserts) spec
    have hcount := left_call front back hpending (c.store.upsert c.now spec).1 c
      { c with store := (c.store.upsert c.now spec).2, upserts := c.upserts + 1 }
    obtain ⟨y, hsteps, hdone⟩ := ih
      (x := ⟨front ++ b.receive spec rest (c.store.upsert c.now spec).1 :: back,
        { c with store := (c.store.upsert c.now spec).2, upserts := c.upserts + 1 }⟩)
      hnever (by omega)
    exact ⟨y, .head (.call front back hpending hupsert) hsteps, hdone⟩

/-! ## The end of all runs -/

/-- How runs end that stored the corpora of some jobs at the same time. -/
structure Together (jobs : List Job) (s : Store) (x : Site) : Prop where
  /-- Each response of the store and of the jobs is there once, and none else. -/
  once : x.connection.store.specs.Nodup
  mem : ∀ spec, spec ∈ x.connection.store.specs ↔
    spec ∈ s.specs ∨ ∃ job ∈ jobs, spec ∈ job.generated
  /-- The rows that were there stay, and the runs together count those that were added. -/
  counted : ∃ added, x.connection.store.responses.toList = s.responses.toList ++ added ∧
    added.length = x.created
  /-- Each run was told of all its distinct responses, with the ids of their rows. -/
  told : x.builders.map (·.job) = jobs ∧
    ∀ b ∈ x.builders, b.received.map (·.1) = distinct b.job.generated ∧
      ∀ p ∈ b.received, ∃ r ∈ x.connection.store.responses.toList, r.spec = p.1 ∧ r.id = p.2
  /-- All runs were told of the same ids. -/
  agreed : ∀ b ∈ x.builders, ∀ b' ∈ x.builders, ∀ spec id id',
    (spec, id) ∈ b.received → (spec, id') ∈ b'.received → id = id'
  /-- Alone on the store each run is what `persist` does, and finds as many distinct responses. -/
  alone : ∀ b ∈ x.builders, ∀ now, ∃ b' c',
    Steps ⟨[.start b.job], .healthy s now⟩ ⟨[b'], c'⟩ ∧ Site.Done ⟨[b'], c'⟩ ∧
      persist b.job.config b.job.label b.job.generated (.healthy s now) = (.ok b'.report, c') ∧
      b.report = { b'.report with created := b.created }

/-- Runs that store corpora at the same time lose no response, store none twice and count each new
one once, as long as SHA-256 has no collision on what is stored. -/
theorem builders_settle {jobs : List Job} {c : Connection} {x : Site} (h : c.store.Sound)
    (hashes : ResponseSpec.HashesApart (jobs.flatMap (·.generated) ++ c.store.specs))
    (hsteps : Steps ⟨jobs.map .start, c⟩ x) (hdone : x.Done) : Together jobs c.store x := by
  have hprogress := (progress_start h rfl jobs).steps hashes hsteps
  obtain ⟨added, hrows, hcount, hadded⟩ := hprogress.rows
  have hreceived : ∀ b ∈ x.builders, b.received.map (·.1) = distinct b.job.generated := by
    intro b hb
    rw [← hprogress.order b hb, hdone b hb, List.append_nil]
  refine ⟨hprogress.sound.once, fun spec => ⟨fun hspec => ?_, ?_⟩, ⟨added, hrows, hcount⟩,
    ⟨hprogress.started, fun b hb => ⟨hreceived b hb, hprogress.told b hb⟩⟩,
    fun b hb b' hb' spec id id' hid hid' => ?_, fun b hb now => ?_⟩
  · rcases List.mem_append.1 (hprogress.specs_subset hspec) with hspec | hspec
    · exact .inr (List.mem_flatMap.1 hspec)
    · exact .inl hspec
  · rintro (hspec | ⟨job, hjob, hspec⟩)
    · obtain ⟨r, hr, rfl⟩ := Store.mem_specs.1 hspec
      refine Store.mem_specs.2 ⟨r, ?_, rfl⟩
      rw [hrows]
      exact List.mem_append_left _ hr
    · rw [← hprogress.started] at hjob
      obtain ⟨b, hb, rfl⟩ := List.mem_map.1 hjob
      have hmem : spec ∈ b.received.map (·.1) := by
        rw [hreceived b hb, distinct_eq]
        exact List.mem_eraseDups.2 hspec
      obtain ⟨p, hp, rfl⟩ := List.mem_map.1 hmem
      obtain ⟨r, hr, hrspec, -⟩ := hprogress.told b hb p hp
      exact Store.mem_specs.2 ⟨r, hr, hrspec⟩
  · obtain ⟨r, hr, hrspec, rfl⟩ := hprogress.told b hb _ hid
    obtain ⟨r', hr', hrspec', rfl⟩ := hprogress.told b' hb' _ hid'
    rw [hprogress.sound.eq_of_spec_eq hr hr' (hrspec.trans hrspec'.symm)]
  · obtain ⟨b', c', hjob, halone, hend, hpersist⟩ :=
      steps_persist (c := .healthy c.store now) (fun _ => rfl) b.job
    refine ⟨b', c', halone, hend, hpersist, ?_⟩
    rw [Builder.report, Builder.report, hjob]

/-- Two responses in one order. -/
def oneWay : Job :=
  ⟨flakyConfig, "XFO", [framing "SAMEORIGIN", framing "DENY"]⟩

/-- The same responses in the other order. -/
def otherWay : Job :=
  ⟨flakyConfig, "XFO", [framing "DENY", framing "SAMEORIGIN"]⟩

/-- Each of two runs stores its first response before it asks for that of the other. -/
theorem builders_settle_crossed :
    (Connection.healthy .empty 0).store.Sound ∧
      ResponseSpec.HashesApart
        ([oneWay, otherWay].flatMap (·.generated) ++ (Connection.healthy .empty 0).store.specs) ∧
      ∃ x, Steps ⟨[oneWay, otherWay].map .start, .healthy .empty 0⟩ x ∧ x.Done ∧
        Together [oneWay, otherWay] .empty x := by
  have hsound : (Connection.healthy .empty 0).store.Sound := Store.sound_empty
  have hdistinct : ResponseSpec.HashesApart [framing "SAMEORIGIN", framing "DENY"] :=
    ResponseSpec.hashesApart_of_pairwise (by decide +kernel)
  have hashes : ResponseSpec.HashesApart
      ([oneWay, otherWay].flatMap (·.generated) ++ (Connection.healthy .empty 0).store.specs) :=
    hdistinct.subset
      (by simp [oneWay, otherWay, Connection.healthy, Store.specs, Store.empty])
  have hone : (Builder.start oneWay).pending = [framing "SAMEORIGIN", framing "DENY"] := by
    rw [Builder.start, distinct_eq]
    decide
  have hother : (Builder.start otherWay).pending = [framing "DENY", framing "SAMEORIGIN"] := by
    rw [Builder.start, distinct_eq]
    decide
  have hsteps : ∃ x, Steps ⟨[oneWay, otherWay].map .start, .healthy .empty 0⟩ x ∧ x.Done := by
    refine ⟨_, .head (.call [] _ hone (Connection.upsert_of_succeeds rfl _))
      (.head (.call [_] [] hother (Connection.upsert_of_succeeds rfl _))
      (.head (.call [_] [] rfl (Connection.upsert_of_succeeds rfl _))
      (.single (.call [] _ rfl (Connection.upsert_of_succeeds rfl _))))), fun b hb => ?_⟩
    rcases List.mem_cons.1 hb with rfl | hb
    · rfl
    · rw [List.mem_singleton.1 hb]
      rfl
  obtain ⟨x, hsteps, hdone⟩ := hsteps
  exact ⟨hsound, hashes, x, hsteps, hdone, builders_settle hsound hashes hsteps hdone⟩

end ProbeCampaign.Corpus
