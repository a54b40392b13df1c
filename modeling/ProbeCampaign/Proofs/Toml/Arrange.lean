import ProbeCampaign.Proofs.Toml.Block

/-!
# The order of a TOML document

In a document the entries of a table without a header come first (`arrange`). Only the order of the
entries changes: every key has what it had (`lookup_arrange`), and a table without tables in it is
as it was (`arrange_table`).
-/

namespace ProbeCampaign.Toml

mutual

/-- The datum with the entries of every table in the order that they are written in. -/
def arrange : Datum → Datum
  | .list items => .list (arrangeItems items)
  | .table entries => .table (own entries ++ arrangeHeaded entries)
  | d => d

/-- The items, each arranged. -/
def arrangeItems : List Datum → List Datum
  | [] => []
  | d :: ds => arrange d :: arrangeItems ds

/-- The entries with a header, each arranged. -/
def arrangeHeaded : List (String × Datum) → List (String × Datum)
  | [] => []
  | (k, d) :: rest =>
    if hasHeader d then (k, arrange d) :: arrangeHeaded rest else arrangeHeaded rest

end

theorem arrangeItems_eq (ds : List Datum) : arrangeItems ds = ds.map arrange := by
  induction ds with
  | nil => rfl
  | cons d ds ih => rw [arrangeItems, ih, List.map_cons]

/-- What has a header of its own is arranged behind all else. -/
theorem arrangeHeaded_eq (entries : List (String × Datum)) :
    arrangeHeaded entries =
      (entries.filter fun e => hasHeader e.2).map fun e => (e.1, arrange e.2) := by
  induction entries with
  | nil => rfl
  | cons e entries ih =>
    obtain ⟨k, d⟩ := e
    rw [arrangeHeaded, ih]
    cases hheader : hasHeader d with
    | true => simp [hheader]
    | false => simp [hheader]

/-- A table without tables in it is written in its own order. -/
theorem arrange_table {entries : List (String × Datum)}
    (h : ∀ e ∈ entries, hasHeader e.2 = false) : arrange (.table entries) = .table entries := by
  have hown : own entries = entries :=
    List.filter_eq_self.2 fun e he => by simp [h e he]
  have hheaded : entries.filter (fun e => hasHeader e.2) = [] :=
    List.filter_eq_nil_iff.2 fun e he => by simp [h e he]
  rw [arrange, hown, arrangeHeaded_eq, hheaded, List.map_nil, List.append_nil]

theorem arrange_list {items : List Datum} (h : ∀ d ∈ items, arrange d = d) :
    arrange (.list items) = .list items := by
  rw [arrange, arrangeItems_eq, List.map_congr_left h, List.map_id']

/-- Every key has what it had, arranged if it has a header. -/
theorem lookup_arrange {entries : List (String × Datum)} (h : (entries.map (·.1)).Nodup)
    (k : String) :
    (own entries ++ arrangeHeaded entries).lookup k =
      (entries.lookup k).map fun d => if hasHeader d then arrange d else d := by
  rw [List.lookup_append]
  induction entries with
  | nil => rfl
  | cons e entries ih =>
    obtain ⟨k', d⟩ := e
    obtain ⟨hk', hkeys⟩ := List.nodup_cons.1 h
    have hih := ih hkeys
    cases hheader : hasHeader d with
    | false =>
      have hown : own ((k', d) :: entries) = (k', d) :: own entries := by
        simp [own, hheader]
      rw [hown, arrangeHeaded, hheader, if_neg Bool.false_ne_true, List.lookup_cons,
        List.lookup_cons]
      cases k == k' with
      | true => simp [hheader]
      | false => exact hih
    | true =>
      have hown : own ((k', d) :: entries) = own entries := by
        simp [own, hheader]
      rw [hown, arrangeHeaded, hheader, if_pos rfl, List.lookup_cons, List.lookup_cons]
      cases hk : k == k' with
      | true =>
        have hnone : (own entries).lookup k = none := by
          rw [List.lookup_eq_none_iff]
          intro e he
          have hne : k ≠ e.1 := by
            rintro rfl
            exact hk' (List.mem_map.2 ⟨e, (List.mem_filter.1 he).1, beq_iff_eq.1 hk⟩)
          simpa using hne
        rw [hnone]
        simp [hheader]
      | false => exact hih

theorem filter_not_append_perm {α : Type} (p : α → Bool) (xs : List α) :
    (xs.filter (fun x => !p x) ++ xs.filter p).Perm xs := by
  simpa using List.filter_append_perm (fun x => !p x) xs

theorem nodup_arrange {entries : List (String × Datum)} (h : (entries.map (·.1)).Nodup) :
    ((own entries ++ arrangeHeaded entries).map (·.1)).Nodup := by
  have hkeys := ((filter_not_append_perm (fun e => hasHeader e.2) entries).map (·.1)).nodup_iff.2 h
  rw [arrangeHeaded_eq, List.map_append, List.map_map]
  rwa [List.map_append] at hkeys

/-- A map whose values keep their order is written in some order. -/
theorem exists_perm_arrange {α : Type} {f : α → Datum} {entries : List (String × α)}
    (h : ∀ e ∈ entries, arrange (f e.2) = f e.2) :
    ∃ entries' : List (String × α), entries'.Perm entries ∧
      arrange (.table (entries.map fun e => (e.1, f e.2))) =
        .table (entries'.map fun e => (e.1, f e.2)) := by
  refine ⟨_, filter_not_append_perm (fun e => hasHeader (f e.2)) entries, ?_⟩
  have hheaded : ∀ e ∈ entries.filter (fun e => hasHeader (f e.2)),
      (e.1, arrange (f e.2)) = (e.1, f e.2) := fun e he => by
    rw [h e (List.mem_filter.1 he).1]
  rw [arrange, own, arrangeHeaded_eq, List.filter_map, List.filter_map, List.map_map,
    List.map_append]
  congr 2
  exact List.map_congr_left hheaded

/-! ## Tables without tables in them -/

/-- A table of plain values under different keys. -/
inductive Flat : Datum → Prop where
  | table {entries : List (String × Datum)} (hkeys : (entries.map (·.1)).Nodup)
    (h : ∀ e ∈ entries, Plain (depthLimit - 1) e.2) : Flat (.table entries)

theorem Flat.arrange {d : Datum} (h : Flat d) : arrange d = d := by
  obtain ⟨-, hplain⟩ := h
  exact arrange_table fun e he => (hplain e he).hasHeader

theorem Flat.writable {d : Datum} (h : Flat d) (depth : Nat) : Writable (depth + 1) d := by
  obtain ⟨hkeys, hplain⟩ := h
  exact .table hkeys fun e he => .plain (hplain e he)

theorem exists_entries {items : List Datum} (h : ∀ d ∈ items, Flat d) :
    ∃ tables : List (List (String × Datum)), items = tables.map .table ∧
      ∀ es ∈ tables, (es.map (·.1)).Nodup ∧ ∀ e ∈ es, Plain (depthLimit - 1) e.2 := by
  induction items with
  | nil => exact ⟨[], rfl, fun es hes => absurd hes List.not_mem_nil⟩
  | cons d items ih =>
    obtain ⟨hd, hitems⟩ := List.forall_mem_cons.1 h
    obtain ⟨tables, rfl, hall⟩ := ih hitems
    obtain ⟨hkeys, hplain⟩ := hd
    exact ⟨_ :: tables, rfl, List.forall_mem_cons.2 ⟨⟨hkeys, hplain⟩, hall⟩⟩

/-- A list of such tables is a plain value if it is empty, and has headers otherwise. -/
theorem writable_flats {items : List Datum} (h : ∀ d ∈ items, Flat d) (depth : Nat) :
    Writable (depth + 1) (.list items) := by
  obtain ⟨tables, rfl, hall⟩ := exists_entries h
  by_cases hne : tables = []
  · subst hne
    have hempty : Plain (depthLimit - 2 + 1) (.list []) :=
      .list fun d hd => absurd hd List.not_mem_nil
    exact .plain hempty
  · exact .tables hne (fun es hes => (hall es hes).1)
      fun es hes e he => .plain ((hall es hes).2 e he)

theorem arrange_flats {items : List Datum} (h : ∀ d ∈ items, Flat d) :
    arrange (.list items) = .list items :=
  arrange_list fun d hd => (h d hd).arrange

end ProbeCampaign.Toml
