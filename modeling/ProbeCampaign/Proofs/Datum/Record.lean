import Mathlib.Tactic
import ProbeCampaign.Datum.Decode
import ProbeCampaign.Proofs.Datum.Entries

/-!
# Records read from data

A table without repeated keys is a record (`Record.of?_table`), and each field is what its key has
in the table. Lists and tables are read item by item (`list?_map`, `entries?_map`); in which order
the entries of a map are given makes no difference (`foldl_insertEntry_of_perm`).
-/

namespace ProbeCampaign

/-- A list whose elements are all read back is read back. -/
theorem mapM_map_eq_some {α β : Type} {f : α → β} {g : β → Option α} {xs : List α}
    (h : ∀ x ∈ xs, g (f x) = some x) : (xs.map f).mapM g = some xs := by
  induction xs with
  | nil => rfl
  | cons x xs ih =>
    obtain ⟨hx, hxs⟩ := List.forall_mem_cons.1 h
    rw [List.map_cons, List.mapM_cons, hx, ih hxs]
    rfl

namespace Datum

theorem bool?_bool (b : Bool) : bool? (.bool b) = some b :=
  rfl

theorem text?_text (s : String) : text? (.text s) = some s :=
  rfl

theorem natOfBits?_int {bits n : Nat} (h : n < capacity bits) :
    natOfBits? bits (.int n) = some n := by
  rw [natOfBits?, if_pos ⟨Int.natCast_nonneg n, Int.ofNat_lt.2 h⟩, Int.toNat_natCast]

theorem list?_map {α : Type} {item? : Datum → Option α} {f : α → Datum} {xs : List α}
    (h : ∀ x ∈ xs, item? (f x) = some x) : list? item? (.list (xs.map f)) = some xs :=
  mapM_map_eq_some h

/-- A table whose values are all read back is read back. -/
theorem entries?_map {α : Type} {value? : Datum → Option α} {f : α → Datum}
    {entries : List (String × α)} (h : ∀ e ∈ entries, value? (f e.2) = some e.2) :
    entries? value? (.table (entries.map fun e => (e.1, f e.2))) = some entries := by
  refine mapM_map_eq_some fun e he => ?_
  dsimp only
  rw [h e he]
  rfl

theorem Ascends.nodup {α : Type} {entries : List (String × α)} (h : Ascends entries) :
    (entries.map (·.1)).Nodup :=
  List.pairwise_map.2 (h.imp fun hlt => ne_of_lt hlt)

/-- The entries of an ascending table, put into an empty one in any order, give it back. -/
theorem foldl_insertEntry_of_perm {α : Type} {entries entries' : List (String × α)}
    (h : Ascends entries) (hperm : entries'.Perm entries) :
    entries'.foldl (fun acc e => insertEntry e.1 e.2 acc) [] = entries := by
  have hkeys : (entries'.map (·.1)).Nodup := (hperm.map _).nodup_iff.2 h.nodup
  have hsame : (ofKeyed id entries').Perm entries := by
    have hself := perm_ofKeyed (α := α) Function.injective_id hkeys
    exact (hself.trans (List.Perm.of_eq (List.map_id' entries'))).trans hperm
  exact List.Perm.eq_of_pairwise (fun a b _ _ hab hba => absurd hba (lt_asymm hab))
    (ascends_ofKeyed id entries') h hsame

/-- A map is read from its entries in any order. -/
theorem map?_of_perm {α : Type} {value? : Datum → Option α} {f : α → Datum}
    {entries entries' : List (String × α)} (h : Ascends entries) (hperm : entries'.Perm entries)
    (hread : ∀ e ∈ entries, value? (f e.2) = some e.2) :
    map? value? (.table (entries'.map fun e => (e.1, f e.2))) = some entries := by
  rw [map?, entries?_map fun e he => hread e (hperm.mem_iff.1 he), Option.map_some]
  exact congrArg some (foldl_insertEntry_of_perm h hperm)

end Datum

namespace Record

/-- A table is a record if no key comes twice. -/
theorem of?_table (names : List String) {entries : List (String × Datum)}
    (h : (entries.map (·.1)).Nodup) : of? names (.table entries) = some ⟨entries, false⟩ := by
  have hrepeats : repeats names entries = false := by
    rw [repeats, List.any_eq_false]
    intro name _
    have hcount : entries.countP (fun e => e.1 == name) ≤ 1 := by
      have hone := List.nodup_iff_count_le_one.1 h name
      rwa [List.count, List.countP_map] at hone
    simpa using hcount
  rw [of?, hrepeats, if_neg Bool.false_ne_true]

section Fields

variable {α : Type} {r : Record} {name : String} {d : Datum} {read? : Datum → Option α} {a : α}
  (h : r.get? name = some d) (hd : read? d = some a)

include h hd

/-- A field that is given is read. -/
theorem required_eq_some : r.required name read? = some a := by
  rw [required, h, ← hd]
  rfl

/-- No default takes the place of a field that is given. -/
theorem defaulted_eq_some (fallback : α) : r.defaulted name read? fallback = some a := by
  rw [defaulted, h]
  exact hd

end Fields

end Record

end ProbeCampaign
