import Mathlib.Data.String.Basic
import Mathlib.Tactic
import ProbeCampaign.Datum

/-!
# Ascending tables

An entry that is put into an ascending table is found by its key, and every other key is found as
before; the table stays ascending. So a table has the entries that were put into an empty one, as
long as no key comes twice (`perm_ofKeyed`, `lookup_ofKeyed`), and it is the same table again when
its own entries are put into an empty one (`foldl_insertEntry`).
-/

namespace ProbeCampaign.Datum

variable {α : Type}

/-- Every key is before those that come after it. -/
def Ascends (entries : List (String × α)) : Prop :=
  entries.Pairwise fun a b => a.1 < b.1

/-! ## Lookups -/

theorem lookup_cons_of_ne {k k' : String} (h : k ≠ k') (v : α) (entries : List (String × α)) :
    ((k', v) :: entries).lookup k = entries.lookup k := by
  rw [List.lookup_cons, beq_eq_false_iff_ne.2 h]

/-- What was inserted is found under its key. -/
theorem lookup_insertEntry_self (key : String) (value : α) (entries : List (String × α)) :
    (insertEntry key value entries).lookup key = some value := by
  induction entries with
  | nil => simp [insertEntry]
  | cons e entries ih =>
    obtain ⟨k, v⟩ := e
    unfold insertEntry
    split_ifs with hlt heq
    · simp
    · simp
    · rw [lookup_cons_of_ne heq, ih]

/-- What stands under another key is found as before. -/
theorem lookup_insertEntry_of_ne {k key : String} (h : k ≠ key) (value : α)
    (entries : List (String × α)) : (insertEntry key value entries).lookup k = entries.lookup k := by
  induction entries with
  | nil => exact lookup_cons_of_ne h value []
  | cons e entries ih =>
    obtain ⟨k', v⟩ := e
    unfold insertEntry
    split_ifs with hlt heq
    · exact lookup_cons_of_ne h value _
    · subst heq
      rw [lookup_cons_of_ne h, lookup_cons_of_ne h]
    · rw [List.lookup_cons, List.lookup_cons, ih]

/-! ## Order -/

/-- Inserting brings in one entry and no other. -/
theorem mem_insertEntry {key : String} {value : α} {entries : List (String × α)}
    {e : String × α} (h : e ∈ insertEntry key value entries) :
    e = (key, value) ∨ e ∈ entries := by
  induction entries with
  | nil => simpa [insertEntry] using h
  | cons e' entries ih =>
    obtain ⟨k', v⟩ := e'
    unfold insertEntry at h
    split_ifs at h with hlt heq
    · simpa using h
    · rcases List.mem_cons.1 h with h | h
      · exact .inl h
      · exact .inr (List.mem_cons_of_mem _ h)
    · rcases List.mem_cons.1 h with rfl | h
      · exact .inr List.mem_cons_self
      · exact (ih h).imp_right (List.mem_cons_of_mem _)

/-- An entry is inserted where its key belongs. -/
theorem Ascends.insertEntry {entries : List (String × α)} (h : Ascends entries) (key : String)
    (value : α) : Ascends (insertEntry key value entries) := by
  induction entries with
  | nil => exact List.pairwise_singleton _ _
  | cons e entries ih =>
    obtain ⟨k', v⟩ := e
    obtain ⟨hhead, htail⟩ := List.pairwise_cons.1 h
    unfold Datum.insertEntry
    split_ifs with hlt heq
    · refine List.pairwise_cons.2 ⟨fun b hb => ?_, h⟩
      rcases List.mem_cons.1 hb with rfl | hb
      · exact hlt
      · exact lt_trans hlt (hhead b hb)
    · subst heq
      exact List.pairwise_cons.2 ⟨hhead, htail⟩
    · refine List.pairwise_cons.2 ⟨fun b hb => ?_, ih htail⟩
      rcases mem_insertEntry hb with rfl | hb
      · exact lt_of_le_of_ne (not_lt.1 hlt) (Ne.symm heq)
      · exact hhead b hb

/-! ## Entry by entry -/

/-- An entry behind all others is put behind them. -/
theorem insertEntry_of_forall_lt {key : String} {entries : List (String × α)}
    (h : ∀ e ∈ entries, e.1 < key) (value : α) :
    insertEntry key value entries = entries ++ [(key, value)] := by
  induction entries with
  | nil => rfl
  | cons e entries ih =>
    obtain ⟨hlt, hall⟩ := List.forall_mem_cons.1 h
    rw [insertEntry, if_neg (lt_asymm hlt), if_neg (ne_of_gt hlt), ih hall]
    rfl

/-- A new key is put somewhere between the others. -/
theorem perm_insertEntry {key : String} {entries : List (String × α)}
    (h : key ∉ entries.map (·.1)) (value : α) :
    (insertEntry key value entries).Perm ((key, value) :: entries) := by
  induction entries with
  | nil => exact .refl _
  | cons e entries ih =>
    rw [List.map_cons, List.mem_cons, not_or] at h
    unfold insertEntry
    split_ifs with hlt heq
    · exact .refl _
    · exact absurd heq h.1
    · exact ((ih h.2).cons e).trans (.swap _ _ _)

/-- The entries of an ascending table, put into an empty one, give it back. -/
theorem foldl_insertEntry {entries : List (String × α)} (h : Ascends entries) :
    entries.foldl (fun acc e => insertEntry e.1 e.2 acc) [] = entries := by
  induction entries using List.reverseRecOn with
  | nil => rfl
  | append_singleton entries e ih =>
    obtain ⟨hentries, -, hlast⟩ := List.pairwise_append.1 h
    rw [List.foldl_append, ih hentries, List.foldl_cons, List.foldl_nil]
    exact insertEntry_of_forall_lt (fun a ha => hlast a ha e (List.mem_singleton_self e)) e.2

/-! ## Tables by another key

The entries come with keys of some type `ι`, which are different as texts. -/

section Keyed

variable {ι : Type} {key : ι → String}

/-- A table with an entry for each of some keys, the last of repeated ones kept. -/
def ofKeyed (key : ι → String) (entries : List (ι × α)) : List (String × α) :=
  entries.foldl (fun acc e => insertEntry (key e.1) e.2 acc) []

theorem ofKeyed_concat (entries : List (ι × α)) (e : ι × α) :
    ofKeyed key (entries ++ [e]) = insertEntry (key e.1) e.2 (ofKeyed key entries) := by
  simp [ofKeyed]

/-- Entries that are collected one by one stand in the order of their keys. -/
theorem ascends_ofKeyed (key : ι → String) (entries : List (ι × α)) :
    Ascends (ofKeyed key entries) := by
  induction entries using List.reverseRecOn with
  | nil => exact .nil
  | append_singleton entries e ih =>
    rw [ofKeyed_concat]
    exact ih.insertEntry _ _

/-- Of different keys each has its entry in the table. -/
theorem perm_ofKeyed (hkey : key.Injective) {entries : List (ι × α)}
    (h : (entries.map (·.1)).Nodup) :
    (ofKeyed key entries).Perm (entries.map fun e => (key e.1, e.2)) := by
  induction entries using List.reverseRecOn with
  | nil => exact .refl _
  | append_singleton entries e ih =>
    rw [List.map_append, List.nodup_append] at h
    obtain ⟨hentries, -, hnew⟩ := h
    have hperm := ih hentries
    have hfresh : key e.1 ∉ (ofKeyed key entries).map (·.1) := by
      rw [(hperm.map _).mem_iff, List.map_map, List.mem_map]
      rintro ⟨e', he', heq⟩
      exact hnew e'.1 (List.mem_map_of_mem he') e.1 (by simp) (hkey heq)
    rw [ofKeyed_concat, List.map_append, List.map_singleton]
    exact (perm_insertEntry hfresh e.2).trans
      ((hperm.cons _).trans (List.perm_append_singleton _ _).symm)

/-- Where the keys differ, an entry is found under its key whatever was collected before it. -/
theorem lookup_ofKeyed [BEq ι] [LawfulBEq ι] (hkey : key.Injective) {entries : List (ι × α)}
    (h : (entries.map (·.1)).Nodup) (i : ι) :
    (ofKeyed key entries).lookup (key i) = entries.lookup i := by
  induction entries using List.reverseRecOn with
  | nil => rfl
  | append_singleton entries e ih =>
    obtain ⟨j, v⟩ := e
    rw [List.map_append, List.nodup_append] at h
    obtain ⟨hentries, -, hnew⟩ := h
    rw [ofKeyed_concat, List.lookup_append]
    by_cases hi : i = j
    · subst hi
      have hnone : entries.lookup i = none := by
        rw [List.lookup_eq_none_iff]
        intro p hp
        have hne := hnew p.1 (List.mem_map_of_mem hp) i (by simp)
        simpa using hne.symm
      simp [lookup_insertEntry_self, hnone]
    · rw [lookup_insertEntry_of_ne (fun heq => hi (hkey heq)), ih hentries]
      simp [List.lookup_cons, beq_eq_false_iff_ne.2 hi]

end Keyed

end ProbeCampaign.Datum
