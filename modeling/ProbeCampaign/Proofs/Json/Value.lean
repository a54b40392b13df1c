import Mathlib.Tactic
import ProbeCampaign.Proofs.Json.Double
import ProbeCampaign.Proofs.Json.ReadBack

/-!
# Values of JSON texts

A value that a text can hold (`IsValue`) is always read from the text that is written of it, but the
doubles in it may come out as others (`IsValue.exists_readAs`).
-/

namespace ProbeCampaign.Json

/-- A value that a JSON text can hold, nested at most as deep: its integers fit 64 bits, and its other
numbers are doubles. -/
inductive IsValue : Nat → Datum → Prop where
  | null {depth : Nat} : IsValue depth .null
  | bool {depth : Nat} (b : Bool) : IsValue depth (.bool b)
  | int {depth : Nat} {n : Int} (hlo : -(capacity 63 : Int) ≤ n) (hhi : n < capacity 64) :
    IsValue depth (.int n)
  | real {depth : Nat} {x : Double} (hx : x.Finite) (negative : Bool) :
    IsValue depth (x.datum negative)
  | text {depth : Nat} (s : String) : IsValue depth (.text s)
  | list {depth : Nat} {items : List Datum} (h : ∀ d ∈ items, IsValue depth d) :
    IsValue (depth + 1) (.list items)
  | table {depth : Nat} {entries : List (String × Datum)} (h : ∀ e ∈ entries, IsValue depth e.2) :
    IsValue (depth + 1) (.table entries)

/-- Every value is read as one of the same shape. -/
theorem IsValue.exists_readAs {depth : Nat} {d : Datum} (h : IsValue depth d) :
    ∃ d', ReadAs depth d d' ∧ IsValue depth d' := by
  induction h with
  | null => exact ⟨.null, .null, .null⟩
  | bool b => exact ⟨.bool b, .bool b, .bool b⟩
  | int hlo hhi => exact ⟨.int _, .int hlo hhi, .int hlo hhi⟩
  | real hx negative =>
    obtain ⟨y, hy, hread⟩ := Double.readNumber_numeral hx negative
    refine ⟨y.datum negative, .real ?_, .real hy negative⟩
    rwa [String.toList_ofList]
  | text s => exact ⟨.text s, .text s, .text s⟩
  | @list depth items _ ih =>
    choose! f hread hvalue using ih
    refine ⟨.list (items.map f), ?_, .list (List.forall_mem_map.2 hvalue)⟩
    have hitems : ∀ i ∈ items.map fun d => (d, f d), ReadAs depth i.1 i.2 :=
      List.forall_mem_map.2 hread
    simpa [Function.comp_def] using ReadAs.list _ hitems
  | @table depth entries _ ih =>
    choose! f hread hvalue using ih
    refine ⟨.table (entries.map fun e => (e.1, f e)), ?_, .table (List.forall_mem_map.2 hvalue)⟩
    have hentries : ∀ e ∈ entries.map fun e => (e.1, e.2, f e), ReadAs depth e.2.1 e.2.2 :=
      List.forall_mem_map.2 hread
    simpa [Function.comp_def] using ReadAs.table _ hentries

end ProbeCampaign.Json
