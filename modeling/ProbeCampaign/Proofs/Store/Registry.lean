import Mathlib.Tactic
import ProbeCampaign.Proofs.Store.Query

/-!
# Browsers, and results that refer to them

A run registers browsers, the placeholder browser first and again whenever the store is opened. What
is registered after it are the first registrations of each browser, under the number of the
registration (`enrols_after`), so the placeholder keeps its id and the store can always be opened
(`reopen_after`). A result is inserted only if its browser and its response are there; a list of
results is inserted up to the first one of which they are not (`insertResults_eq`).
-/

namespace ProbeCampaign.Store

/-! ## Registrations -/

/-- The browser that an operation registers. Opening a store registers the placeholder. -/
def Operation.registers? : Operation → Option BrowserEntry
  | .register entry => some entry
  | .reopen => some .unknown
  | _ => none

/-- The browsers that a run registers, in order, beginning with that of the first opening. -/
def registered (ops : List Operation) : List BrowserEntry :=
  .unknown :: ops.filterMap Operation.registers?

theorem registered_concat (ops : List Operation) (op : Operation) :
    registered (ops ++ [op]) = registered ops ++ op.registers?.toList := by
  rw [registered, List.filterMap_append, registered]
  cases h : op.registers? with
  | none => simp [h]
  | some entry => simp [h]

/-- A row is that of the first registration of its browser, with the remark given then. Its id counts
the registrations up to that one. -/
def Enrolled (entries : List BrowserEntry) (b : Browser) : Prop :=
  ∃ before later, entries = before ++ b.entry :: later ∧ (∀ e ∈ before, e.key ≠ b.entry.key) ∧
    b.id = before.length + 1

/-- A browser is enrolled by the last registration or before, but only the first one of its key
enrols it. -/
theorem enrolled_concat_iff {entries : List BrowserEntry} {entry : BrowserEntry} {b : Browser} :
    Enrolled (entries ++ [entry]) b ↔
      Enrolled entries b ∨
        (∀ e ∈ entries, e.key ≠ entry.key) ∧ b = ⟨(entries.length : Int) + 1, entry⟩ := by
  constructor
  · rintro ⟨before, later, heq, hfirst, hid⟩
    rcases List.eq_nil_or_concat later with rfl | ⟨later, last, rfl⟩
    · obtain ⟨rfl, hentry⟩ := List.append_inj' heq rfl
      obtain rfl : entry = b.entry := List.singleton_inj.1 hentry
      exact Or.inr ⟨hfirst, by rw [← hid]⟩
    · rw [List.concat_eq_append, ← List.cons_append, ← List.append_assoc] at heq
      obtain ⟨rfl, -⟩ := List.append_inj' heq rfl
      exact Or.inl ⟨before, later, rfl, hfirst, hid⟩
  · rintro (⟨before, later, rfl, hfirst, hid⟩ | ⟨hfirst, rfl⟩)
    · exact ⟨before, later ++ [entry], by simp, hfirst, hid⟩
    · exact ⟨entries, [], rfl, hfirst, rfl⟩

/-- The rows of a store are those of some registrations, one for each browser. -/
structure Enrols (s : Store) (entries : List BrowserEntry) : Prop where
  used : s.browserIds = entries.length
  once : s.browsers.Pairwise fun a b => a.entry.key ≠ b.entry.key
  rows : ∀ b, b ∈ s.browsers ↔ Enrolled entries b
  found : ∀ e ∈ entries, ∃ b ∈ s.browsers, b.entry.key = e.key

/-- At the start nothing is enrolled. -/
theorem enrols_empty : empty.Enrols [] where
  used := rfl
  once := .nil
  rows b := by
    constructor
    · exact fun hb => absurd hb List.not_mem_nil
    · rintro ⟨before, later, heq, -⟩
      exact absurd heq.symm (by simp)
  found _ he := absurd he List.not_mem_nil

/-- A browser that has a row is answered its id, and nothing else changes. -/
theorem Enrols.register_of_mem {s : Store} {entries : List BrowserEntry} (h : s.Enrols entries)
    {b : Browser} (hb : b ∈ s.browsers) {entry : BrowserEntry} (hkey : b.entry.key = entry.key) :
    s.register entry = ((b.id, false), { s with browserIds := s.browserIds + 1 }) := by
  rcases s.register_cases entry with ⟨b', hb', hkey', heq⟩ | ⟨hnone, -⟩
  · obtain rfl : b' = b := by
      by_contra hne
      have hsymm : Std.Symm fun a c : Browser => a.entry.key ≠ c.entry.key := ⟨fun _ _ => Ne.symm⟩
      exact h.once.forall hb' hb hne (hkey'.trans hkey.symm)
    exact heq
  · exact absurd hkey (hnone b hb)

/-- Another one gets the last row, under the number of the registration. -/
theorem Enrols.register_of_not_mem {s : Store} {entries : List BrowserEntry} (h : s.Enrols entries)
    {entry : BrowserEntry} (hnone : ∀ b ∈ s.browsers, b.entry.key ≠ entry.key) :
    s.register entry = (((entries.length : Int) + 1, true), { s with
      browsers := s.browsers ++ [⟨(entries.length : Int) + 1, entry⟩]
      browserIds := s.browserIds + 1 }) := by
  rcases s.register_cases entry with ⟨b, hb, hkey, -⟩ | ⟨-, heq⟩
  · exact absurd hkey (hnone b hb)
  · rw [heq, h.used]

/-- A registration enrols the browser or finds it enrolled. The rows stay, as this is not the first
registration then. -/
theorem Enrols.register {s : Store} {entries : List BrowserEntry} (h : s.Enrols entries)
    (entry : BrowserEntry) : (s.register entry).2.Enrols (entries ++ [entry]) := by
  by_cases hknown : ∃ b ∈ s.browsers, b.entry.key = entry.key
  · obtain ⟨b, hb, hkey⟩ := hknown
    rw [h.register_of_mem hb hkey]
    refine ⟨by simp [h.used], h.once, fun c => ?_, fun e he => ?_⟩
    · obtain ⟨before, later, rfl, -⟩ := (h.rows b).1 hb
      rw [enrolled_concat_iff, ← h.rows]
      refine (or_iff_left fun hnew => ?_).symm
      exact hnew.1 b.entry (by simp) hkey
    · rcases List.mem_append.1 he with he | he
      · exact h.found e he
      · rw [List.mem_singleton.1 he]
        exact ⟨b, hb, hkey⟩
  · push Not at hknown
    rw [h.register_of_not_mem hknown]
    have hfirst : ∀ e ∈ entries, e.key ≠ entry.key := by
      intro e he hkey
      obtain ⟨b, hb, hbe⟩ := h.found e he
      exact hknown b hb (hbe.trans hkey)
    refine ⟨by simp [h.used], ?_, fun c => ?_, fun e he => ?_⟩
    · refine List.pairwise_append.2 ⟨h.once, List.pairwise_singleton _ _, fun b hb c hc => ?_⟩
      rw [List.mem_singleton.1 hc]
      exact hknown b hb
    · rw [List.mem_append, List.mem_singleton, enrolled_concat_iff, ← h.rows]
      exact or_congr_right (and_iff_right hfirst).symm
    · rcases List.mem_append.1 he with he | he
      · obtain ⟨b, hb, hkey⟩ := h.found e he
        exact ⟨b, List.mem_append_left _ hb, hkey⟩
      · rw [List.mem_singleton.1 he]
        exact ⟨_, List.mem_append_right _ (List.mem_singleton_self _), rfl⟩

/-! ## Runs -/

theorem perform_of_registers (s : Store) {op : Operation} {entry : BrowserEntry}
    (h : op.registers? = some entry) :
    s.perform op =
      (.entry (s.register entry).1.1 (s.register entry).1.2, (s.register entry).2) := by
  cases op with
  | register e =>
    cases h
    rfl
  | reopen =>
    cases h
    rfl
  | upsert | lookup | response | count | insertResult => cases h

/-- Only registrations change the browsers. -/
theorem browsers_perform (s : Store) {op : Operation} (h : op.registers? = none) :
    (s.perform op).2.browsers = s.browsers ∧ (s.perform op).2.browserIds = s.browserIds := by
  cases op with
  | register | reopen => cases h
  | upsert now spec =>
    obtain ⟨hbrowsers, hids, -⟩ := upsert_frame s now spec
    exact ⟨hbrowsers, hids⟩
  | insertResult record =>
    unfold perform
    dsimp only
    rcases s.insertResult_cases record with ⟨-, -, -, -, heq⟩ | ⟨-, heq⟩
    · rw [heq]
      exact ⟨rfl, rfl⟩
    · rw [heq]
      exact ⟨rfl, rfl⟩
  | lookup | response | count => exact ⟨rfl, rfl⟩

/-- The browsers after a run are those that it registered first. -/
theorem enrols_after (ops : List Operation) : (after ops).Enrols (registered ops) := by
  induction ops using List.reverseRecOn with
  | nil => exact enrols_empty.register .unknown
  | append_singleton ops op ih =>
    rw [after_concat, registered_concat]
    cases hop : op.registers? with
    | some entry =>
      rw [perform_of_registers _ hop]
      exact ih.register entry
    | none =>
      obtain ⟨hbrowsers, hids⟩ := browsers_perform (after ops) hop
      rw [Option.toList_none, List.append_nil]
      exact ⟨hids.trans ih.used, by rw [hbrowsers]; exact ih.once,
        by rw [hbrowsers]; exact ih.rows, by rw [hbrowsers]; exact ih.found⟩

theorem browsers_prefix_after {before ops : List Operation} (h : before <+: ops) :
    (after before).browsers <+: (after ops).browsers := by
  obtain ⟨rest, rfl⟩ := h
  induction rest using List.reverseRecOn with
  | nil => rw [List.append_nil]
  | append_singleton rest op ih =>
    rw [← List.append_assoc]
    exact ih.trans (extends_after (before ++ rest) op).browsers

/-- The first opening makes the first row. -/
theorem unknown_mem_browsers (ops : List Operation) :
    ⟨unknownBrowserId, .unknown⟩ ∈ (after ops).browsers := by
  rw [(enrols_after ops).rows]
  exact ⟨[], _, rfl, fun e he => absurd he List.not_mem_nil, rfl⟩

/-- A store can be opened at any time. -/
theorem reopen_after (ops : List Operation) :
    (after ops).reopen = .ok (after (ops ++ [.reopen])) := by
  have hregister := (enrols_after ops).register_of_mem (unknown_mem_browsers ops) rfl
  rw [after_concat, reopen, hregister]
  exact if_pos rfl

theorem mem_of_browser? {s : Store} {id : Int} {b : Browser} (h : s.browser? id = some b) :
    b ∈ s.browsers ∧ b.id = id := by
  rw [browser?] at h
  exact ⟨List.mem_of_find?_eq_some h, by simpa using List.find?_some h⟩

theorem browser?_eq_none_iff {s : Store} {id : Int} :
    s.browser? id = none ↔ ∀ b ∈ s.browsers, b.id ≠ id := by
  rw [browser?, List.find?_eq_none]
  simp

/-! ## Results -/

/-- The browser and the response that a record refers to are stored. -/
structure Knows (s : Store) (record : ResultRecord) : Prop where
  browser : ∃ b ∈ s.browsers, b.id = record.browserId
  response : ∃ r ∈ s.responses.toList, r.id = record.responseId

/-- The store with further results, under the ids that follow those in use. -/
def withResults (s : Store) (records : List ResultRecord) : Store :=
  { s with
    results := s.results ++
      (records.zipIdx (s.results.size + 1)).map fun entry => entry.1.row entry.2 }

/-- The next ids of results. -/
def nextResults (s : Store) (count : Nat) : List Int :=
  (List.range' (s.results.size + 1) count).map Int.ofNat

theorem withResults_nil (s : Store) : s.withResults [] = s := by
  simp [withResults]

theorem withResults_cons (s : Store) (record : ResultRecord) (records : List ResultRecord) :
    (s.withResults [record]).withResults records = s.withResults (record :: records) := by
  simp [withResults]

theorem nextResults_succ (s : Store) (record : ResultRecord) (count : Nat) :
    s.nextResults (count + 1) =
      ((s.results.size : Int) + 1) :: (s.withResults [record]).nextResults count := by
  have hsize : (s.withResults [record]).results.size = s.results.size + 1 := by simp [withResults]
  rw [nextResults, nextResults, hsize, List.range'_succ, List.map_cons]
  rfl

/-- A result is added if the store knows what it refers to. -/
theorem insertResult_of_knows {s : Store} {record : ResultRecord} (h : s.Knows record) :
    s.insertResult record = .ok ((s.results.size : Int) + 1, s.withResults [record]) := by
  rcases s.insertResult_cases record with ⟨-, -, -, -, heq⟩ | ⟨hnone, -⟩
  · rw [heq]
    simp [withResults]
  · obtain ⟨b, hb, hbid⟩ := h.browser
    obtain ⟨r, hr, hrid⟩ := h.response
    rcases hnone with hnone | hnone
    · exact absurd hrid (response?_eq_none_iff.1 hnone r hr)
    · exact absurd hbid (browser?_eq_none_iff.1 hnone b hb)

theorem insertResult_of_not_knows {s : Store} {record : ResultRecord} (h : ¬ s.Knows record) :
    s.insertResult record = .error .foreignKey := by
  rcases s.insertResult_cases record with ⟨r, b, hresponse, hbrowser, -⟩ | ⟨-, heq⟩
  · obtain ⟨hr, hrid⟩ := mem_of_response? hresponse
    exact absurd ⟨⟨b, mem_of_browser? hbrowser⟩, ⟨r, hr, hrid⟩⟩ h
  · exact heq

/-- Results do not change which browsers and responses are there. -/
theorem knows_withResults {s : Store} {records : List ResultRecord} {record : ResultRecord} :
    (s.withResults records).Knows record ↔ s.Knows record :=
  ⟨fun h => ⟨h.browser, h.response⟩, fun h => ⟨h.browser, h.response⟩⟩

/-- What inserting records comes to when the given ones are inserted and the others are not. -/
def insertedUpTo (s : Store) (done : List ResultRecord) :
    List ResultRecord → Except Refusal (List Int) × Store
  | [] => (.ok (s.nextResults done.length), s.withResults done)
  | record :: _ => (.error ⟨done.length, record, .foreignKey⟩, s.withResults done)

/-- Once a record is added, the others are tried on top of it. -/
theorem insertResults_cons_of_knows {s : Store} {record : ResultRecord} (h : s.Knows record)
    {records done rest : List ResultRecord}
    (hrest : (s.withResults [record]).insertResults records =
      (s.withResults [record]).insertedUpTo done rest) :
    s.insertResults (record :: records) = s.insertedUpTo (record :: done) rest := by
  rw [insertResults, insertResult_of_knows h]
  dsimp only
  rw [hrest]
  cases rest with
  | nil =>
    rw [insertedUpTo, insertedUpTo, withResults_cons, List.length_cons, s.nextResults_succ record]
  | cons refused rest => rw [insertedUpTo, insertedUpTo, withResults_cons, List.length_cons]

/-- Records are inserted one after the other, up to the first one that is refused. -/
theorem insertResults_eq (s : Store) (records : List ResultRecord) :
    ∃ done rest, records = done ++ rest ∧ (∀ r ∈ done, s.Knows r) ∧
      (∀ r ∈ rest.head?, ¬ s.Knows r) ∧ s.insertResults records = s.insertedUpTo done rest := by
  induction records generalizing s with
  | nil =>
    refine ⟨[], [], rfl, fun r hr => absurd hr List.not_mem_nil, fun r hr => absurd hr (by simp), ?_⟩
    rw [insertResults, insertedUpTo, withResults_nil]
    rfl
  | cons record records ih =>
    by_cases h : s.Knows record
    · obtain ⟨done, rest, rfl, hdone, hrest, heq⟩ := ih (s.withResults [record])
      refine ⟨record :: done, rest, rfl, List.forall_mem_cons.2 ⟨h, fun r hr => ?_⟩, fun r hr => ?_,
        insertResults_cons_of_knows h heq⟩
      · exact knows_withResults.1 (hdone r hr)
      · exact fun hr' => hrest r hr (knows_withResults.2 hr')
    · refine ⟨[], record :: records, rfl, fun r hr => absurd hr List.not_mem_nil, fun r hr => ?_, ?_⟩
      · obtain rfl : record = r := Option.some.inj hr
        exact h
      · rw [insertResults, insertResult_of_not_knows h, insertedUpTo, withResults_nil]
        rfl

/-! ## Browsers and results of a run -/

/-- How the browsers of a run are registered, and how its results refer to them. -/
structure Registry (ops : List Operation) : Prop where
  /-- The placeholder browser has its id. -/
  placeholder : (after ops).browser? unknownBrowserId = some ⟨unknownBrowserId, .unknown⟩
  /-- The store can be opened, at first and at any time later. -/
  opens : empty.reopen = .ok (after []) ∧
    ∀ before, before <+: ops → (after before).reopen = .ok (after (before ++ [.reopen]))
  /-- Each browser has one row, which stays as it is: that of its first registration. -/
  once : (after ops).browsers.Pairwise fun a b => a.entry.key ≠ b.entry.key
  kept : ∀ before, before <+: ops → (after before).browsers <+: (after ops).browsers
  rows : ∀ b, b ∈ (after ops).browsers ↔ Enrolled (registered ops) b
  /-- A registration of a browser that has a row is answered its id, and the row stays. -/
  known : ∀ before op entry b, Makes ops before op → op.registers? = some entry →
    b ∈ (after before).browsers → b.entry.key = entry.key →
      answer before op = .entry b.id false ∧
        (after (before ++ [op])).browsers = (after before).browsers
  /-- The first registration of a browser is answered the number of registrations so far. -/
  new : ∀ before op entry, Makes ops before op → op.registers? = some entry →
    (∀ b ∈ (after before).browsers, b.entry.key ≠ entry.key) →
      answer before op = .entry (registered (before ++ [op])).length true ∧
        (after (before ++ [op])).browsers =
          (after before).browsers ++ [⟨(registered (before ++ [op])).length, entry⟩]
  /-- The browser and the response of a stored result are there. -/
  refers : ∀ row ∈ (after ops).results.toList, (∃ b ∈ (after ops).browsers, b.id = row.browserId) ∧
    ∃ r ∈ (after ops).responses.toList, r.id = row.responseId
  /-- A result is inserted under the next id if its browser and its response are there. -/
  inserted : ∀ record, (after ops).Knows record →
    (after ops).perform (.insertResult record) =
      (.inserted (.ok ((after ops).results.size + 1)), (after ops).withResults [record])
  /-- Otherwise it is refused, and the store stays as it is. -/
  refused : ∀ record, ¬ (after ops).Knows record →
    (after ops).perform (.insertResult record) = (.inserted (.error .foreignKey), after ops)
  /-- Of several records those before the first that is refused are inserted, and no others. -/
  stops : ∀ records, ∃ done rest, records = done ++ rest ∧ (∀ r ∈ done, (after ops).Knows r) ∧
    (∀ r ∈ rest.head?, ¬ (after ops).Knows r) ∧
    (after ops).insertResults records = (after ops).insertedUpTo done rest

/-- The unknown browser is there from the start. -/
theorem browser?_unknown (ops : List Operation) :
    (after ops).browser? unknownBrowserId = some ⟨unknownBrowserId, .unknown⟩ := by
  have hmem := unknown_mem_browsers ops
  cases hfound : (after ops).browser? unknownBrowserId with
  | none => exact absurd rfl (browser?_eq_none_iff.1 hfound _ hmem)
  | some b =>
    obtain ⟨hb, hid⟩ := mem_of_browser? hfound
    have hnodup : ((after ops).browsers.map (·.id)).Nodup := by
      rw [List.Nodup, List.pairwise_map]
      exact (reachable_after ops).browsers_ascending.1.imp fun hlt => hlt.ne
    rw [List.inj_on_of_nodup_map hnodup hb hmem hid]

/-- Every result refers to a browser and a response that are there. -/
theorem knows_of_mem_results {ops : List Operation} {row : ResultRow}
    (h : row ∈ (after ops).results.toList) :
    (∃ b ∈ (after ops).browsers, b.id = row.browserId) ∧
      ∃ r ∈ (after ops).responses.toList, r.id = row.responseId := by
  obtain ⟨rows, hholding⟩ := exists_holding ops
  rw [hholding.results] at h
  obtain ⟨r, hr, rfl⟩ := List.mem_map.1 h
  exact ⟨⟨r.browser, mem_of_browser? (hholding.browser r hr)⟩,
    ⟨r.response, mem_of_response? (hholding.response r hr)⟩⟩

/-- After any run the placeholder browser has its id and the store can be opened, each browser is
registered once under the number of its first registration, and every result refers to a browser and
a response that are there, as one that does not is refused without a trace. -/
theorem registry (ops : List Operation) : Registry ops where
  placeholder := browser?_unknown ops
  opens := ⟨rfl, fun before _ => reopen_after before⟩
  once := (enrols_after ops).once
  kept _ h := browsers_prefix_after h
  rows := (enrols_after ops).rows
  known before op entry b _ hop hb hkey := by
    have hregister := (enrols_after before).register_of_mem hb hkey
    rw [answer, after_concat, perform_of_registers _ hop, hregister]
    exact ⟨rfl, rfl⟩
  new before op entry _ hop hnone := by
    have hregister := (enrols_after before).register_of_not_mem hnone
    rw [answer, after_concat, perform_of_registers _ hop, hregister, registered_concat, hop]
    simp
  refers _ h := knows_of_mem_results h
  inserted record h := by
    rw [perform, insertResult_of_knows h]
  refused record h := by
    rw [perform, insertResult_of_not_knows h]
  stops := insertResults_eq (after ops)

end ProbeCampaign.Store
