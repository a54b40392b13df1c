import Mathlib.Algebra.Order.Floor.Div
import Mathlib.Tactic
import ProbeCampaign.Proofs.Plan.Runs

/-!
# Ids in as few runs as possible

A cut of a list of ids is a way to divide it into gap-free runs of bounded length. `chunk` gives a
cut, its sums stay within signed integers of 64 bits (`chunk?_eq`, `size?_eq`), and as it ends a run
only where it has to (`neighbours_chunk`), no cut has fewer runs (`length_chunk_le`).
-/

namespace ProbeCampaign.IdRange

/-- A division of a list of ids into gap-free runs of at most `maxRun` ids. -/
structure IsCut (maxRun : Nat) (ids : List Int) (runs : List (List Int)) : Prop where
  flatten : runs.flatten = ids
  gapFree : ∀ run ∈ runs, run.IsChain fun i j => j = i + 1
  bounded : ∀ run ∈ runs, run.length ≤ maxRun

/-! ## Cuts of the ids that follow -/

theorem IsCut.tail {maxRun : Nat} {ids run : List Int} {runs : List (List Int)}
    (h : IsCut maxRun (run ++ ids) (run :: runs)) : IsCut maxRun ids runs where
  flatten := by simpa using h.flatten
  gapFree := fun p hp => h.gapFree p (List.mem_cons_of_mem run hp)
  bounded := fun p hp => h.bounded p (List.mem_cons_of_mem run hp)

/-- A cut without its first id. -/
theorem IsCut.drop_head {maxRun : Nat} {i : Int} {ids : List Int} {runs : List (List Int)}
    (h : IsCut maxRun (i :: ids) runs) :
    ∃ runs', IsCut maxRun ids runs' ∧ runs'.length = runs.length := by
  induction runs with
  | nil => exact absurd h.flatten (List.cons_ne_nil i ids).symm
  | cons run runs ih =>
    cases run with
    | nil =>
      have hrest : IsCut maxRun ([] ++ i :: ids) ([] :: runs) := h
      obtain ⟨runs', hcut, hlength⟩ := ih hrest.tail
      refine ⟨[] :: runs', ⟨hcut.flatten, ?_, ?_⟩, congrArg Nat.succ hlength⟩
      · exact List.forall_mem_cons.2 ⟨List.isChain_nil, hcut.gapFree⟩
      · exact List.forall_mem_cons.2 ⟨Nat.zero_le maxRun, hcut.bounded⟩
    | cons j run =>
      obtain ⟨hgapFree, hgapFrees⟩ := List.forall_mem_cons.1 h.gapFree
      obtain ⟨hbounded, hboundeds⟩ := List.forall_mem_cons.1 h.bounded
      refine ⟨run :: runs, ⟨?_, ?_, ?_⟩, rfl⟩
      · exact (List.cons.inj h.flatten).2
      · exact List.forall_mem_cons.2 ⟨(List.isChain_cons.1 hgapFree).2, hgapFrees⟩
      · exact List.forall_mem_cons.2 ⟨(Nat.le_succ _).trans hbounded, hboundeds⟩

/-- A cut of ids divides those behind any of them, into as many runs. -/
theorem IsCut.drop_append {maxRun : Nat} {before ids : List Int} {runs : List (List Int)}
    (h : IsCut maxRun (before ++ ids) runs) :
    ∃ runs', IsCut maxRun ids runs' ∧ runs'.length = runs.length := by
  induction before generalizing runs with
  | nil => exact ⟨runs, h, rfl⟩
  | cons i before ih =>
    obtain ⟨runs', hcut, hlength⟩ := h.drop_head
    obtain ⟨runs'', hcut', hlength'⟩ := ih hcut
    exact ⟨runs'', hcut', hlength'.trans hlength⟩

/-- Where ids cannot be in one run with the id after them, a cut needs one run more than for the ids
that follow. -/
theorem IsCut.exists_shorter {maxRun : Nat} {before rest : List Int} {id : Int}
    {runs : List (List Int)} (h : IsCut maxRun (before ++ id :: rest) runs)
    (hclosed : (before ++ [id]).IsChain (fun i j => j = i + 1) → maxRun < (before ++ [id]).length) :
    ∃ runs', IsCut maxRun (id :: rest) runs' ∧ runs'.length < runs.length := by
  cases runs with
  | nil => exact absurd h.flatten.symm (by simp)
  | cons run runs =>
    have hflatten : run ++ runs.flatten = before ++ id :: rest := h.flatten
    rcases List.append_eq_append_iff.1 hflatten with ⟨more, rfl, htail⟩ | ⟨more, rfl, htail⟩
    -- The first run ends before the id, so that the others divide what follows.
    · rw [List.append_assoc] at h
      obtain ⟨runs', hcut, hlength⟩ := h.tail.drop_append
      exact ⟨runs', hcut, hlength.trans_lt (Nat.lt_succ_self _)⟩
    · cases more with
      | nil =>
        rw [List.append_nil] at h
        exact ⟨runs, h.tail, Nat.lt_succ_self _⟩
      | cons j more =>
        obtain ⟨rfl, -⟩ := List.cons.inj htail
        have hsplit : before ++ id :: more = before ++ [id] ++ more := by simp
        have hgapFree := h.gapFree _ List.mem_cons_self
        have hbounded := h.bounded _ List.mem_cons_self
        rw [hsplit] at hgapFree hbounded
        have hlong := hclosed hgapFree.left_of_append
        rw [List.length_append] at hbounded
        omega

/-! ## Runs that are closed -/

/-- A run in the making cannot have the next id where the loop closes it. -/
theorem IsRun.closed {maxRun count : Nat} {start previous id : Int}
    (h : IsRun maxRun start previous count) (hnext : ¬ (id = previous + 1 ∧ count < maxRun))
    (hgapFree : ((⟨start, previous⟩ : IdRange).ids ++ [id]).IsChain fun i j => j = i + 1) :
    maxRun < ((⟨start, previous⟩ : IdRange).ids ++ [id]).length := by
  have hordered := h.ordered
  have hids := ids_succ (show start ≤ previous - 1 + 1 by omega)
  rw [Int.sub_add_cancel] at hids
  rw [List.length_append, h.length_ids, List.length_singleton]
  rw [hids, List.append_assoc] at hgapFree
  have hsucc : id = previous + 1 := (List.isChain_append_cons_cons.1 hgapFree).2.1
  have hfull : ¬ count < maxRun := fun hcount => hnext ⟨hsucc, hcount⟩
  omega

/-- The runs from a run in the making on are as few as a cut can have. -/
theorem length_extendRun_le {maxRun : Nat} (hmax : 1 ≤ maxRun) (rest : List Int)
    {start previous : Int} {count : Nat} (hrun : IsRun maxRun start previous count)
    (hids : HasSuccessors (previous :: rest)) {runs : List (List Int)}
    (hcut : IsCut maxRun ((⟨start, previous⟩ : IdRange).ids ++ rest) runs) :
    (extendRun maxRun start previous count rest).length ≤ runs.length := by
  -- An id that extends the run leaves the list as it is; one that does not costs each cut a run.
  induction rest generalizing start previous count runs with
  | nil =>
    rw [extendRun, List.length_singleton, Nat.one_le_iff_ne_zero]
    intro hnil
    have hlength := hrun.length_ids
    have hcounted := hrun.counted
    have hordered := hrun.ordered
    rw [← List.append_nil (⟨start, previous⟩ : IdRange).ids, ← hcut.flatten,
      List.length_eq_zero_iff.1 hnil, List.flatten_nil, List.length_nil] at hlength
    omega
  | cons id rest ih =>
    rw [extendRun_cons hids]
    by_cases hnext : id = previous + 1 ∧ count < maxRun
    · rw [if_pos hnext]
      obtain ⟨rfl, hcount⟩ := hnext
      apply ih (hrun.extend hcount) hids.tail
      rwa [hrun.ids_extend, List.append_assoc]
    · rw [if_neg hnext, List.length_cons]
      obtain ⟨runs', hcut', hlength⟩ := hcut.exists_shorter (hrun.closed hnext)
      have hle := ih (IsRun.single hmax id) hids.tail (by rwa [ids_singleton])
      omega

/-- The first range starts where the run in the making does. -/
theorem head?_extendRun (maxRun : Nat) (rest : List Int) (start previous : Int) (count : Nat) :
    (extendRun maxRun start previous count rest).head?.map (·.first) = some start := by
  induction rest generalizing previous count with
  | nil => rfl
  | cons id rest ih =>
    rw [extendRun]
    split
    · exact ih id (count + 1)
    · rfl

/-- A run is full unless the next one starts with another id than its successor. -/
theorem neighbours_extendRun {maxRun : Nat} (hmax : 1 ≤ maxRun) (rest : List Int)
    {start previous : Int} {count : Nat} (hrun : IsRun maxRun start previous count)
    (hids : HasSuccessors (previous :: rest)) :
    (extendRun maxRun start previous count rest).IsChain fun r s =>
      s.first ≠ r.last + 1 ∨ r.ids.length = maxRun := by
  induction rest generalizing start previous count with
  | nil => exact List.isChain_singleton _
  | cons id rest ih =>
    rw [extendRun_cons hids]
    by_cases hnext : id = previous + 1 ∧ count < maxRun
    · rw [if_pos hnext]
      obtain ⟨rfl, hcount⟩ := hnext
      exact ih (hrun.extend hcount) hids.tail
    · rw [if_neg hnext]
      refine List.isChain_cons.2 ⟨fun s hs => ?_, ih (IsRun.single hmax id) hids.tail⟩
      have hfirst := head?_extendRun maxRun rest id id 1
      rw [Option.mem_def.1 hs] at hfirst
      obtain rfl : s.first = id := Option.some.inj hfirst
      -- The loop closes a run for one of two reasons.
      by_cases hsucc : s.first = previous + 1
      · have hfull : ¬ count < maxRun := fun hcount => hnext ⟨hsucc, hcount⟩
        have hbounded := hrun.bounded
        exact Or.inr (hrun.length_ids.trans (by omega))
      · exact Or.inl hsucc

/-! ## Sums in signed integers of 64 bits -/

/-- `extendRun` with sums that must be signed integers of 64 bits. -/
def extendRun? (maxRun : Nat) (start previous : Int) (count : Nat) :
    List Int → Option (List IdRange)
  | [] => some [⟨start, previous⟩]
  | id :: rest => do
    let next ← Option.guard fitsInt64 (previous + 1)
    if id = next ∧ count < maxRun then
      let longer ← Option.guard fitsInt64 (count + 1)
      extendRun? maxRun start id longer.toNat rest
    else
      let others ← extendRun? maxRun id id 1 rest
      pure (⟨start, previous⟩ :: others)

/-- `chunk` with sums that must be signed integers of 64 bits. -/
def chunk? (ids : List Int) (maxRun : Nat) : Option (List IdRange) :=
  match ids with
  | [] => some []
  | first :: rest => extendRun? (max maxRun 1) first first 1 rest

/-- The number of ids with sums that must be signed integers of 64 bits. -/
def size? (r : IdRange) : Option Nat := do
  let distance ← Option.guard fitsInt64 (r.last - r.first)
  let number ← Option.guard fitsInt64 (distance + 1)
  pure (number % (capacity 64 : Int)).toNat

/-- Counting up to the number of ids stays below the largest integer. -/
theorem extendRun?_eq {maxRun : Nat} (rest : List Int) {start previous : Int} {count : Nat}
    (hids : HasSuccessors (previous :: rest)) (hlength : count + rest.length < capacity 63) :
    extendRun? maxRun start previous count rest =
      some (extendRun maxRun start previous count rest) := by
  induction rest generalizing start previous count with
  | nil => rfl
  | cons id rest ih =>
    rw [List.length_cons] at hlength
    have hlonger : fitsInt64 ((count : Int) + 1) = true := by
      rw [Decimal.fitsInt64_iff]
      omega
    rw [extendRun_cons hids, extendRun?, Option.guard_pos hids.succ_fits, Option.bind_eq_bind,
      Option.bind_some]
    by_cases hnext : id = previous + 1 ∧ count < maxRun
    · rw [if_pos hnext, if_pos hnext, Option.guard_pos hlonger]
      exact ih hids.tail (by omega)
    · rw [if_neg hnext, if_neg hnext, ih hids.tail (by omega)]
      rfl

/-- Where successors fit, the checked loop makes the same ranges. -/
theorem chunk?_eq {ids : List Int} (hids : HasSuccessors ids) (hlength : ids.length < capacity 63)
    (maxRun : Nat) : chunk? ids maxRun = some (chunk ids maxRun) := by
  cases ids with
  | nil => rfl
  | cons first rest =>
    rw [List.length_cons] at hlength
    exact extendRun?_eq rest hids (by omega)

/-- Where the number of ids fits, the checked size is the size. -/
theorem size?_eq {r : IdRange} (horder : r.first ≤ r.last) (hlength : r.ids.length < capacity 63) :
    r.size? = some r.size := by
  rw [length_ids] at hlength
  have hdistance : fitsInt64 (r.last - r.first) = true := by
    rw [Decimal.fitsInt64_iff]
    omega
  have hnumber : fitsInt64 (r.last - r.first + 1) = true := by
    rw [Decimal.fitsInt64_iff]
    omega
  rw [size?, Option.guard_pos hdistance, Option.bind_eq_bind, Option.bind_some,
    Option.guard_pos hnumber]
  rfl

/-! ## Cutting a list -/

theorem isChain_ids (r : IdRange) : r.ids.IsChain fun i j => j = i + 1 := by
  unfold ids
  rw [List.isChain_map, List.isChain_range]
  intro k _
  omega

section Chunk

variable {ids : List Int} (hids : HasSuccessors ids) (maxRun : Nat)
include hids

theorem isCut_chunk : IsCut (max maxRun 1) ids ((chunk ids maxRun).map IdRange.ids) where
  flatten := flatMap_ids_chunk hids maxRun
  gapFree := List.forall_mem_map.2 fun r _ => r.isChain_ids
  bounded := List.forall_mem_map.2 fun _ hr => (mem_chunk hids maxRun hr).2

/-- No cut has fewer runs. -/
theorem length_chunk_le {runs : List (List Int)} (hcut : IsCut (max maxRun 1) ids runs) :
    (chunk ids maxRun).length ≤ runs.length := by
  cases ids with
  | nil => exact Nat.zero_le _
  | cons first rest =>
    have hmax : 1 ≤ max maxRun 1 := le_max_right maxRun 1
    apply length_extendRun_le hmax rest (IsRun.single hmax first) hids
    rwa [ids_singleton]

/-- A range ends in front of a gap, or it is full. -/
theorem neighbours_chunk : (chunk ids maxRun).IsChain fun r s =>
    s.first ≠ r.last + 1 ∨ r.ids.length = max maxRun 1 := by
  cases ids with
  | nil => exact List.isChain_nil
  | cons first rest =>
    have hmax : 1 ≤ max maxRun 1 := le_max_right maxRun 1
    exact neighbours_extendRun hmax rest (IsRun.single hmax first) hids

theorem length_ids_le {r : IdRange} (hr : r ∈ chunk ids maxRun) : r.ids.length ≤ ids.length := by
  have hsublist := List.sublist_flatten_of_mem (List.mem_map_of_mem (f := IdRange.ids) hr)
  rw [(isCut_chunk hids maxRun).flatten] at hsublist
  exact hsublist.length_le

/-- The runs of an ascending list are ascending. -/
theorem ascending_chunk (hsorted : ids.Pairwise (· < ·)) :
    (chunk ids maxRun).Pairwise fun r s => r.last < s.first := by
  rw [← flatMap_ids_chunk hids maxRun, List.pairwise_flatMap] at hsorted
  refine hsorted.2.imp_of_mem fun {r s} hr hs hlt => hlt _ (mem_ids.2 ?_) _ (mem_ids.2 ?_)
  · exact ⟨(mem_chunk hids maxRun hr).1, le_refl _⟩
  · exact ⟨le_refl _, (mem_chunk hids maxRun hs).1⟩

/-- Neighbouring runs of an ascending list have a gap between them unless the first of them is
full. -/
theorem separated_chunk (hsorted : ids.Pairwise (· < ·)) : (chunk ids maxRun).IsChain fun r s =>
    r.last + 1 < s.first ∨ r.ids.length = max maxRun 1 := by
  have hneighbours := neighbours_chunk hids maxRun
  have hascending := (ascending_chunk hids maxRun hsorted).isChain
  rw [List.isChain_iff_getElem] at hneighbours hascending ⊢
  intro k hk
  have hlt := hascending k hk
  rcases hneighbours k hk with hgap | hfull
  · exact Or.inl (by omega)
  · exact Or.inr hfull

end Chunk

/-! ## Ids without gaps -/

/-- Where every id is the successor of the one before, the loop closes full runs only. -/
theorem length_extendRun_of_gapFree {maxRun : Nat} (hmax : 1 ≤ maxRun) (rest : List Int)
    {start previous : Int} {count : Nat} (hrun : IsRun maxRun start previous count)
    (hids : HasSuccessors (previous :: rest))
    (hgapFree : (previous :: rest).IsChain fun i j => j = i + 1) :
    (extendRun maxRun start previous count rest).length = (count + rest.length) ⌈/⌉ maxRun := by
  have hbounded := hrun.bounded
  induction rest generalizing start previous count with
  | nil =>
    have hcounted := hrun.counted
    have hordered := hrun.ordered
    have hone : (count + maxRun - 1) / maxRun = 1 :=
      Nat.div_eq_of_lt_le (by omega) (by omega)
    exact hone.symm
  | cons id rest ih =>
    obtain ⟨rfl, hrest⟩ := List.isChain_cons_cons.1 hgapFree
    rw [extendRun_cons hids, List.length_cons]
    by_cases hcount : count < maxRun
    · rw [if_pos ⟨rfl, hcount⟩, ih (hrun.extend hcount) hids.tail hrest hcount]
      congr 1
      omega
    · have hfull : count = maxRun := by omega
      have hsum :
          maxRun + (rest.length + 1) + maxRun - 1 = 1 + rest.length + maxRun - 1 + maxRun := by
        omega
      rw [if_neg fun hnext => hcount hnext.2, List.length_cons,
        ih (IsRun.single hmax _) hids.tail hrest hmax, hfull, Nat.ceilDiv_eq_add_pred_div,
        Nat.ceilDiv_eq_add_pred_div, hsum, Nat.add_div_right _ hmax]

/-- Ids without gaps take as many ranges as their number needs. -/
theorem length_chunk_of_gapFree {ids : List Int} (hids : HasSuccessors ids)
    (hgapFree : ids.IsChain fun i j => j = i + 1) (maxRun : Nat) :
    (chunk ids maxRun).length = ids.length ⌈/⌉ max maxRun 1 := by
  cases ids with
  | nil => exact (zero_ceilDiv _).symm
  | cons first rest =>
    have hmax : 1 ≤ max maxRun 1 := le_max_right maxRun 1
    rw [chunk, length_extendRun_of_gapFree hmax rest (IsRun.single hmax first) hids hgapFree,
      List.length_cons, Nat.add_comm]

/-- Cutting ids is exact and optimal, and no sum in it leaves the signed integers of 64 bits. The
ids may be in any order; the runs of ascending ids are ascending too. -/
theorem chunk_exact {ids : List Int} (maxRun : Nat) (hlength : ids.length < capacity 63)
    (hfits : ∀ i ∈ ids, fitsInt64 i = true) (hlargest : (capacity 63 : Int) - 1 ∉ ids.dropLast) :
    (chunk ids maxRun).flatMap IdRange.ids = ids ∧
    (∀ r ∈ chunk ids maxRun, 1 ≤ r.ids.length ∧ r.ids.length ≤ max maxRun 1 ∧
      r.size = r.ids.length ∧ r.size? = some r.size) ∧
    chunk? ids maxRun = some (chunk ids maxRun) ∧
    (∀ runs, IsCut (max maxRun 1) ids runs → (chunk ids maxRun).length ≤ runs.length) ∧
    (ids.Pairwise (· < ·) →
      ((chunk ids maxRun).Pairwise fun r s => r.last < s.first) ∧
      (chunk ids maxRun).IsChain fun r s =>
        r.last + 1 < s.first ∨ r.ids.length = max maxRun 1) := by
  have hids : HasSuccessors ids := ⟨hfits, hlargest⟩
  have hcapacity : capacity 63 < capacity 64 := by decide
  refine ⟨flatMap_ids_chunk hids maxRun, fun r hr => ?_, chunk?_eq hids hlength maxRun,
    fun runs hcut => length_chunk_le hids maxRun hcut, fun hsorted => ?_⟩
  · obtain ⟨horder, hbounded⟩ := mem_chunk hids maxRun hr
    have hshort : r.ids.length < capacity 63 := (length_ids_le hids maxRun hr).trans_lt hlength
    exact ⟨one_le_length_ids horder, hbounded, size_eq (hshort.trans hcapacity) horder,
      size?_eq horder hshort⟩
  · exact ⟨ascending_chunk hids maxRun hsorted, separated_chunk hids maxRun hsorted⟩

/-- Ascending ids on both sides of zero and up to the largest one. -/
def topmost : List Int :=
  [-2, -1, 0, 9223372036854775805, 9223372036854775806, 9223372036854775807]

/-- Ids in no order, one of them twice. -/
def shuffled : List Int :=
  [3, 1, 2, 2, 9223372036854775807]

/-- Runs of two ids: three ids need two of them, on either side of the gap. -/
theorem chunk_exact_topmost :
    (topmost.length < capacity 63 ∧ (∀ i ∈ topmost, fitsInt64 i = true) ∧
      (capacity 63 : Int) - 1 ∉ topmost.dropLast ∧ topmost.Pairwise (· < ·)) ∧
    chunk? topmost 2 = some [⟨-2, -1⟩, ⟨0, 0⟩, ⟨9223372036854775805, 9223372036854775806⟩,
      ⟨9223372036854775807, 9223372036854775807⟩] ∧
    ((chunk topmost 2).Pairwise fun r s => r.last < s.first) ∧
    (∀ runs, IsCut 2 topmost runs → 4 ≤ runs.length) ∧
    (chunk shuffled 2).flatMap IdRange.ids = shuffled := by
  have hlength : topmost.length < capacity 63 := by decide
  have hfits : ∀ i ∈ topmost, fitsInt64 i = true := by decide
  have hlargest : (capacity 63 : Int) - 1 ∉ topmost.dropLast := by decide
  have hsorted : topmost.Pairwise (· < ·) := by decide
  obtain ⟨-, -, hchunk, hfewest, hascending⟩ := chunk_exact 2 hlength hfits hlargest
  have hcover : (chunk shuffled 2).flatMap IdRange.ids = shuffled :=
    (chunk_exact 2 (by decide) (by decide) (by decide)).1
  exact ⟨⟨hlength, hfits, hlargest, hsorted⟩, hchunk, (hascending hsorted).1, hfewest, hcover⟩

end ProbeCampaign.IdRange
