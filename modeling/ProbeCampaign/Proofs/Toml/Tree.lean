import ProbeCampaign.Proofs.Toml.Arrange

/-!
# TOML documents read back

The blocks of a document are added to its tree one after the other (`addSections_lines`). A block
inside the table of a key changes that table only (`add_under`), so the blocks of a datum put one
node under its key, whether the table is implied or has a header (`exists_node`). What is written is
therefore read back but for the order of the entries (`parseChars?_render?`): those without a header
come first.
-/

namespace ProbeCampaign.Toml

/-! ## Changing one entry -/

section Alter

variable {k : String} {es : Entries} (h : k ∉ es.map (·.1)) (f : Option Node → Option Node)

include h

/-- Under a new key a node is added at the end. -/
theorem alter_of_not_mem : alter k f es = (f none).map fun n => es ++ [(k, n)] := by
  induction es with
  | nil => rfl
  | cons e es ih =>
    obtain ⟨k', n⟩ := e
    rw [List.map_cons, List.mem_cons, not_or] at h
    rw [alter, if_neg (Ne.symm h.1), ih h.2, Option.map_map]
    rfl

/-- The last node is altered where it stands. -/
theorem alter_last (n : Node) :
    alter k f (es ++ [(k, n)]) = (f (some n)).map fun n' => es ++ [(k, n')] := by
  induction es with
  | nil =>
    rw [List.nil_append, alter, if_pos rfl]
    rfl
  | cons e es ih =>
    obtain ⟨k', n'⟩ := e
    rw [List.map_cons, List.mem_cons, not_or] at h
    rw [List.cons_append, alter, if_neg (Ne.symm h.1), ih h.2, Option.map_map]
    rfl

end Alter

/-- So is the last item of a list. -/
theorem alterLast_append {α : Type} (f : α → Option α) (items : List α) (a : α) :
    alterLast f (items ++ [a]) = (f a).map fun a' => items ++ [a'] := by
  induction items with
  | nil => rfl
  | cons b items ih =>
    obtain ⟨c, rest, heq⟩ := List.exists_cons_of_ne_nil (l := items ++ [a]) (by simp)
    rw [List.cons_append, heq, alterLast, ← heq, ih, Option.map_map]
    · rfl
    · simp

/-! ## Sections -/

namespace Block

/-- Adds a block to a tree. -/
def add (b : Block) : Entries → Option Entries :=
  (if b.isItem then openItem else openTable) (fill (assignments b.entries)) (splitKey b.path).1
    (splitKey b.path).2

end Block

/-- Adds blocks one after the other. -/
def addAll (blocks : List Block) (es : Entries) : Option Entries :=
  blocks.foldlM (fun es b => b.add es) es

/-- The next line is no assignment. -/
def StartsSection (ls : List Line) : Prop :=
  ∀ parts d, ls.head? ≠ some (.assignment parts d)

/-- The lines of blocks start with a header. -/
theorem startsSection_lines (blocks : List Block) :
    StartsSection (blocks.flatMap Block.lines) := by
  intro parts d h
  cases blocks with
  | nil => cases h
  | cons b blocks =>
    rw [List.flatMap_cons, Block.lines, header] at h
    cases hitem : b.isItem with
    | true =>
      rw [hitem] at h
      cases h
    | false =>
      rw [hitem] at h
      cases h

/-- A header ends the assignments of a table. -/
theorem fill_assignments_append (entries : List (String × Datum)) {rest : List Line}
    (h : StartsSection rest) (es : Entries) :
    fill (assignments entries ++ rest) es = fill (assignments entries) es := by
  unfold assignments
  generalize own entries = os
  induction os generalizing es with
  | nil =>
    cases rest with
    | nil => rfl
    | cons l rest =>
      cases l with
      | assignment parts d => exact absurd rfl (h parts d)
      | tableHeader parts => rfl
      | itemHeader parts => rfl
  | cons e os ih =>
    rw [List.map_cons, List.cons_append, fill, fill, funext ih]

/-- Assignments before the first header are no part of the sections. -/
theorem addSections_assignments (entries : List (String × Datum)) (rest : List Line) :
    addSections (assignments entries ++ rest) = addSections rest := by
  unfold assignments
  funext es
  induction own entries with
  | nil => rfl
  | cons e os ih =>
    rw [List.map_cons, List.cons_append, addSections]
    exact ih

/-- The lines of blocks add the blocks. -/
theorem addSections_lines (blocks : List Block) (es : Entries) :
    addSections (blocks.flatMap Block.lines) es = addAll blocks es := by
  induction blocks generalizing es with
  | nil => rfl
  | cons b blocks ih =>
    have hfill : fill (assignments b.entries ++ blocks.flatMap Block.lines) =
        fill (assignments b.entries) :=
      funext (fill_assignments_append b.entries (startsSection_lines blocks))
    have hrest : addSections (blocks.flatMap Block.lines) = addAll blocks := funext ih
    rw [List.flatMap_cons, addAll, List.foldlM_cons, Block.lines, header, Block.add]
    cases b.isItem with
    | true =>
      rw [if_pos rfl, if_pos rfl, List.cons_append, addSections, hfill, addSections_assignments,
        hrest]
      rfl
    | false =>
      rw [if_neg Bool.false_ne_true, if_neg Bool.false_ne_true, List.cons_append, addSections,
        hfill, addSections_assignments, hrest]
      rfl

/-- The entries of a table without a header, as nodes. -/
def ownNodes (entries : List (String × Datum)) : Entries :=
  (own entries).map fun e => (e.1, .value e.2)

/-- Assignments of new keys are added one after the other. -/
theorem fill_assignments_from {os : List (String × Datum)} (es : Entries)
    (h : (es.map (·.1) ++ os.map (·.1)).Nodup) :
    fill (os.map fun e => .assignment [e.1] e.2) es =
      some (es ++ os.map fun e => (e.1, .value e.2)) := by
  induction os generalizing es with
  | nil =>
    rw [List.map_nil, List.map_nil, List.append_nil]
    rfl
  | cons e os ih =>
    have hnew : e.1 ∉ es.map (·.1) := fun hmem =>
      (List.disjoint_of_nodup_append h) hmem List.mem_cons_self
    have hassign : assign [] e.1 e.2 es = some (es ++ [(e.1, .value e.2)]) :=
      alter_of_not_mem hnew _
    have hrest : ((es ++ [(e.1, Node.value e.2)]).map (·.1) ++ os.map (·.1)).Nodup := by
      simpa using h
    rw [List.map_cons, fill]
    show (assign [] e.1 e.2 es >>= _) = _
    rw [hassign, Option.bind_eq_bind, Option.bind_some, ih _ hrest, List.append_assoc]
    rfl

theorem nodup_own {entries : List (String × Datum)} (h : (entries.map (·.1)).Nodup) :
    ((own entries).map (·.1)).Nodup :=
  h.sublist (List.filter_sublist.map _)

theorem fill_assignments {entries : List (String × Datum)} (h : (entries.map (·.1)).Nodup) :
    fill (assignments entries) [] = some (ownNodes entries) :=
  fill_assignments_from [] (nodup_own h)

/-! ## Blocks inside a table -/

/-- A block under a key is added within the table of the key. -/
theorem add_under {b : Block} (hne : b.path ≠ []) (k : String) :
    (b.under k).add = within b.add [k] := by
  obtain ⟨isItem, path, entries⟩ := b
  obtain ⟨p, path, rfl⟩ := List.exists_cons_of_ne_nil hne
  funext es
  cases isItem with
  | true => simp [Block.add, Block.under, splitKey, openItem, within]
  | false => simp [Block.add, Block.under, splitKey, openTable, within]

/-- Blocks inside the table of a key are added to the entries of that table. -/
theorem addAll_under {k : String} {w : Entries → Entries}
    (hw : ∀ f es, within f [k] (w es) = (f es).map w) {blocks : List Block}
    (hne : ∀ b ∈ blocks, b.path ≠ []) (es : Entries) :
    addAll (blocks.map (·.under k)) (w es) = (addAll blocks es).map w := by
  induction blocks generalizing es with
  | nil => rfl
  | cons b blocks ih =>
    obtain ⟨hb, hblocks⟩ := List.forall_mem_cons.1 hne
    rw [addAll, addAll, List.map_cons, List.foldlM_cons, List.foldlM_cons, add_under hb, hw]
    cases b.add es with
    | none => rfl
    | some es' => exact ih hblocks es'

/-- The first of such blocks makes the table if there is none. -/
theorem addAll_under_new {k : String} {acc : Entries} {w : Entries → Entries}
    (hnew : ∀ f, within f [k] acc = (f []).map w)
    (hw : ∀ f es, within f [k] (w es) = (f es).map w) {blocks : List Block}
    (hblocks : blocks ≠ []) (hne : ∀ b ∈ blocks, b.path ≠ []) :
    addAll (blocks.map (·.under k)) acc = (addAll blocks []).map w := by
  obtain ⟨b, blocks, rfl⟩ := List.exists_cons_of_ne_nil hblocks
  obtain ⟨hb, hrest⟩ := List.forall_mem_cons.1 hne
  rw [addAll, addAll, List.map_cons, List.foldlM_cons, List.foldlM_cons, add_under hb, hnew]
  cases b.add [] with
  | none => rfl
  | some es => exact addAll_under hw hrest es

section Within

variable {k : String} {acc : Entries} (h : k ∉ acc.map (·.1)) (f : Entries → Option Entries)

include h

theorem within_new :
    within f [k] acc = (f []).map fun es => acc ++ [(k, .table .implied es)] := by
  rw [within, alter_of_not_mem h]
  show ((f []).map _).map _ = _
  rw [Option.map_map]
  rfl

theorem within_table (origin : Origin) (es : Entries) :
    within f [k] (acc ++ [(k, .table origin es)]) =
      (f es).map fun es' => acc ++ [(k, .table origin es')] := by
  rw [within, alter_last h]
  show ((f es).map _).map _ = _
  rw [Option.map_map]
  rfl

theorem within_tables (items : List Entries) (es : Entries) :
    within f [k] (acc ++ [(k, .tables (items ++ [es]))]) =
      (f es).map fun es' => acc ++ [(k, .tables (items ++ [es']))] := by
  rw [within, alter_last h]
  show ((alterLast f (items ++ [es])).map _).map _ = _
  rw [alterLast_append, Option.map_map, Option.map_map]
  rfl

end Within

/-! ## The nodes of a document -/

theorem entriesToData_append (es es' : Entries) :
    entriesToData (es ++ es') = entriesToData es ++ entriesToData es' := by
  induction es with
  | nil => rfl
  | cons e es ih =>
    obtain ⟨k, n⟩ := e
    rw [List.cons_append, entriesToData, entriesToData, ih, List.cons_append]

/-- The nodes of a table's own values are read for them. -/
theorem entriesToData_ownNodes (entries : List (String × Datum)) :
    entriesToData (ownNodes entries) = own entries := by
  unfold ownNodes
  induction own entries with
  | nil => rfl
  | cons e os ih =>
    rw [List.map_cons, entriesToData, ih, Node.toDatum]

/-- The blocks of a datum put a node under a key that is new. -/
structure Places (d : Datum) (n : Node) : Prop where
  toDatum : n.toDatum = arrange d
  blocks : tableBlocks d ≠ []
  add : ∀ k acc, k ∉ acc.map (·.1) →
    addAll ((tableBlocks d).map (·.under k)) acc = some (acc ++ [(k, n)])

/-- The blocks of the entries of a table put nodes behind those without a header. -/
structure PlacesHeaded (entries : List (String × Datum)) (ns : Entries) : Prop where
  toData : entriesToData ns = arrangeHeaded entries
  add : ∀ acc, (∀ e ∈ entries, hasHeader e.2 = true → e.1 ∉ acc.map (·.1)) →
    addAll (entryBlocks entries) acc = some (acc ++ ns)

/-- Every entry with a header gets its node. What the later blocks are added to has the nodes of the
earlier ones, under other keys. -/
theorem exists_placesHeaded {entries : List (String × Datum)}
    (hkeys : (entries.map (·.1)).Nodup)
    (h : ∀ e ∈ entries, hasHeader e.2 = true → ∃ n, Places e.2 n) :
    ∃ ns, PlacesHeaded entries ns := by
  induction entries with
  | nil => exact ⟨[], rfl, fun acc _ => by rw [List.append_nil]; rfl⟩
  | cons e entries ih =>
    obtain ⟨k, d⟩ := e
    obtain ⟨hk, hkeys⟩ := List.nodup_cons.1 hkeys
    obtain ⟨hd, hentries⟩ := List.forall_mem_cons.1 h
    obtain ⟨ns, htoData, hadd⟩ := ih hkeys hentries
    cases hheader : hasHeader d with
    | false =>
      refine ⟨ns, ?_, fun acc hacc => ?_⟩
      · rw [arrangeHeaded, hheader, if_neg Bool.false_ne_true, htoData]
      · rw [entryBlocks, hheader, if_neg Bool.false_ne_true, List.nil_append]
        exact hadd acc (List.forall_mem_cons.1 hacc).2
    | true =>
      obtain ⟨n, hn⟩ := hd hheader
      refine ⟨(k, n) :: ns, ?_, fun acc hacc => ?_⟩
      · rw [arrangeHeaded, hheader, if_pos rfl, entriesToData, htoData, hn.toDatum]
      · obtain ⟨hknew, hnew⟩ := List.forall_mem_cons.1 hacc
        rw [entryBlocks, hheader, if_pos rfl, addAll, List.foldlM_append]
        show (addAll _ acc >>= _) = _
        rw [hn.add k acc (hknew hheader), Option.bind_eq_bind, Option.bind_some]
        show addAll (entryBlocks entries) _ = _
        rw [hadd, List.append_assoc]
        · rfl
        · intro e he hheader
          have hne : e.1 ≠ k := by
            rintro rfl
            exact hk (List.mem_map.2 ⟨e, he, rfl⟩)
          simpa [hne] using hnew e he hheader

/-- The blocks of the entries are added to the values of the table. -/
theorem PlacesHeaded.add_ownNodes {entries : List (String × Datum)} {ns : Entries}
    (h : PlacesHeaded entries ns) (hkeys : (entries.map (·.1)).Nodup) :
    addAll (entryBlocks entries) (ownNodes entries) = some (ownNodes entries ++ ns) := by
  refine h.add _ fun e he hheader hmem => ?_
  obtain ⟨e', he', heq⟩ := List.mem_map.1 hmem
  obtain ⟨o, ho, rfl⟩ := List.mem_map.1 he'
  obtain ⟨hoin, howner⟩ := List.mem_filter.1 ho
  have hsame : o = e := List.inj_on_of_nodup_map hkeys hoin he heq
  rw [hsame, hheader] at howner
  exact absurd howner Bool.false_ne_true

theorem toData_append_ownNodes {entries : List (String × Datum)} {ns : Entries}
    (h : PlacesHeaded entries ns) :
    entriesToData (ownNodes entries ++ ns) = own entries ++ arrangeHeaded entries := by
  rw [entriesToData_append, entriesToData_ownNodes, h.toData]

/-- The blocks of a table are placed as one node. A table that holds nothing but tables has no block
of its own: the first of them implies it. -/
theorem places_table {entries : List (String × Datum)} {ns : Entries}
    (h : PlacesHeaded entries ns) (hkeys : (entries.map (·.1)).Nodup)
    (hblocks : own entries = [] → entries ≠ [] → entryBlocks entries ≠ []) :
    ∃ n, Places (.table entries) n := by
  by_cases hown : (own entries).isEmpty ∧ !entries.isEmpty
  · have htable : tableBlocks (.table entries) = entryBlocks entries := by
      rw [tableBlocks, if_pos hown]
    have hnone : own entries = [] := List.isEmpty_iff.1 hown.1
    have hsome : entries ≠ [] := by
      simpa using hown.2
    refine ⟨.table .implied ns, ?_, ?_, fun k acc hk => ?_⟩
    · rw [Node.toDatum, arrange, h.toData, hnone, List.nil_append]
    · rw [htable]
      exact hblocks hnone hsome
    · rw [htable, addAll_under_new (within_new hk) (fun f es => within_table hk f .implied es)
        (hblocks hnone hsome) (path_ne_nil entries), h.add [] (fun _ _ _ => List.not_mem_nil)]
      rfl
  · have htable : tableBlocks (.table entries) = ⟨false, [], entries⟩ :: entryBlocks entries := by
      rw [tableBlocks, if_neg hown]
    refine ⟨.table .header (ownNodes entries ++ ns), ?_, ?_, fun k acc hk => ?_⟩
    · rw [Node.toDatum, arrange, toData_append_ownNodes h]
    · rw [htable]
      exact List.cons_ne_nil _ _
    · have hopen : (Block.under k ⟨false, [], entries⟩).add acc =
          some (acc ++ [(k, .table .header (ownNodes entries))]) := by
        show alter k _ acc = _
        rw [alter_of_not_mem hk]
        show ((fill (assignments entries) []).map _).map _ = _
        rw [fill_assignments hkeys]
        rfl
      have hinner := addAll_under (w := fun es => acc ++ [(k, .table .header es)])
        (fun f es => within_table hk f .header es) (path_ne_nil entries) (ownNodes entries)
      rw [h.add_ownNodes hkeys] at hinner
      rw [htable, List.map_cons, addAll, List.foldlM_cons, hopen]
      exact hinner

/-! ### Lists of tables -/

/-- The entries with a list of tables behind the others, if there is an item. -/
def listed (k : String) (acc : Entries) (items : List Entries) : Entries :=
  if items.isEmpty then acc else acc ++ [(k, .tables items)]

theorem listed_concat (k : String) (acc : Entries) (items : List Entries) (es : Entries) :
    listed k acc (items ++ [es]) = acc ++ [(k, .tables (items ++ [es]))] := by
  rw [listed, if_neg (by simp)]

/-- The header of an item adds the item. -/
theorem add_item {k : String} {acc : Entries} (hk : k ∉ acc.map (·.1)) (items : List Entries)
    {entries : List (String × Datum)} (hkeys : (entries.map (·.1)).Nodup) :
    (Block.under k ⟨true, [], entries⟩).add (listed k acc items) =
      some (listed k acc (items ++ [ownNodes entries])) := by
  show alter k _ (listed k acc items) = _
  rw [listed_concat, listed]
  split
  · next hnone =>
    rw [alter_of_not_mem hk, List.isEmpty_iff.1 hnone]
    show ((fill (assignments entries) []).map _).map _ = _
    rw [fill_assignments hkeys]
    rfl
  · rw [alter_last hk]
    show ((fill (assignments entries) []).map _).map _ = _
    rw [fill_assignments hkeys]
    rfl

/-- The items of a list are placed one by one. The tables of an item are added to the last item that
there is, so each is complete before the next one begins. -/
theorem exists_itemNodes {items : List (List (String × Datum))}
    (hkeys : ∀ es ∈ items, (es.map (·.1)).Nodup)
    (h : ∀ es ∈ items, ∃ ns, PlacesHeaded es ns) :
    ∃ nodes, itemsToData nodes = arrangeItems (items.map .table) ∧
      ∀ k acc, k ∉ acc.map (·.1) → ∀ before,
        addAll ((itemBlocks (items.map .table)).map (·.under k)) (listed k acc before) =
          some (listed k acc (before ++ nodes)) := by
  induction items with
  | nil => exact ⟨[], rfl, fun k acc _ before => by rw [List.append_nil]; rfl⟩
  | cons es items ih =>
    obtain ⟨hkeyses, hkeys⟩ := List.forall_mem_cons.1 hkeys
    obtain ⟨⟨ns, hns⟩, hitems⟩ := List.forall_mem_cons.1 h
    obtain ⟨nodes, hdata, hadd⟩ := ih hkeys hitems
    refine ⟨(ownNodes es ++ ns) :: nodes, ?_, fun k acc hk before => ?_⟩
    · rw [itemsToData, hdata, toData_append_ownNodes hns, List.map_cons, arrangeItems, arrange]
    · have hinner := addAll_under (w := fun es' => acc ++ [(k, .tables (before ++ [es']))])
        (fun f es' => within_tables hk f before es') (path_ne_nil es) (ownNodes es)
      rw [hns.add_ownNodes hkeyses, Option.map_some, ← listed_concat, ← listed_concat] at hinner
      have hrest := hadd k acc hk (before ++ [ownNodes es ++ ns])
      rw [List.append_assoc, List.singleton_append] at hrest
      rw [List.map_cons, itemBlocks, List.map_cons, List.map_append, addAll, List.foldlM_cons,
        add_item hk before hkeyses, Option.bind_eq_bind, Option.bind_some, List.foldlM_append]
      show (addAll _ _ >>= _) = _
      rw [hinner]
      exact hrest

/-- The blocks of a list of tables are placed as one node. -/
theorem places_tables {items : List (List (String × Datum))} (hne : items ≠ [])
    (hkeys : ∀ es ∈ items, (es.map (·.1)).Nodup)
    (h : ∀ es ∈ items, ∃ ns, PlacesHeaded es ns) :
    ∃ n, Places (.list (items.map .table)) n := by
  obtain ⟨nodes, hdata, hadd⟩ := exists_itemNodes hkeys h
  obtain ⟨es, rest, rfl⟩ := List.exists_cons_of_ne_nil hne
  refine ⟨.tables nodes, ?_, ?_, fun k acc hk => ?_⟩
  · rw [Node.toDatum, arrange, hdata]
  · rw [tableBlocks, List.map_cons, itemBlocks]
    exact List.cons_ne_nil _ _
  · have hsome : nodes.isEmpty = false := by
      cases nodes with
      | nil =>
        rw [List.map_cons, arrangeItems] at hdata
        cases hdata
      | cons node nodes => rfl
    have hall := hadd k acc hk []
    have hlisted : listed k acc nodes = acc ++ [(k, .tables nodes)] := by
      rw [listed, hsome, if_neg Bool.false_ne_true]
    rw [List.nil_append, hlisted] at hall
    rw [tableBlocks]
    exact hall

/-! ## Whole documents -/

/-- A table that holds nothing but tables is written with them. -/
theorem entryBlocks_ne_nil {entries : List (String × Datum)} (hown : own entries = [])
    (hne : entries ≠ []) (h : ∀ e ∈ entries, hasHeader e.2 = true → tableBlocks e.2 ≠ []) :
    entryBlocks entries ≠ [] := by
  obtain ⟨e, entries, rfl⟩ := List.exists_cons_of_ne_nil hne
  obtain ⟨k, d⟩ := e
  have hheader : hasHeader d = true := by
    have hall := List.filter_eq_nil_iff.1 hown (k, d) List.mem_cons_self
    simpa using hall
  have hblocks := h _ List.mem_cons_self hheader
  rw [entryBlocks, hheader, if_pos rfl]
  intro hnil
  exact hblocks (List.map_eq_nil_iff.1 (List.append_eq_nil_iff.1 hnil).1)

/-- A datum with a header puts one node under its key. -/
theorem exists_node {depth : Nat} {d : Datum} (h : Writable depth d)
    (hheader : hasHeader d = true) : ∃ n, Places d n := by
  induction h with
  | plain h =>
    rw [h.hasHeader] at hheader
    cases hheader
  | @table depth entries hkeys h ih =>
    obtain ⟨ns, hns⟩ := exists_placesHeaded hkeys ih
    refine places_table hns hkeys fun hown hne => entryBlocks_ne_nil hown hne ?_
    intro e he hheader
    obtain ⟨n, hn⟩ := ih e he hheader
    exact hn.blocks
  | @tables depth items hne hkeys h ih =>
    exact places_tables hne hkeys fun es hes =>
      exists_placesHeaded (hkeys es hes) (ih es hes)

/-- What is written is read back: the entries without a header first, then those with one. -/
theorem parseChars?_render? {entries : List (String × Datum)} (hkeys : (entries.map (·.1)).Nodup)
    (h : ∀ e ∈ entries, Writable depthLimit e.2) :
    ∃ text, render? entries = some text ∧
      parseChars? text.toList = some (arrange (.table entries)) := by
  obtain ⟨cs, hrender, hlists⟩ := exists_render? h
  obtain ⟨ns, hns⟩ := exists_placesHeaded hkeys fun e he => exists_node (h e he)
  refine ⟨_, hrender, ?_⟩
  have hfill : fill (assignments entries ++ (entryBlocks entries).flatMap Block.lines) [] =
      some (ownNodes entries) := by
    rw [fill_assignments_append _ (startsSection_lines _), fill_assignments hkeys]
  rw [String.toList_ofList, parseChars?, hlists.skipMark, hlists.lines?_eq (Nat.lt_succ_self _),
    Option.bind_eq_bind, Option.bind_some, hfill, Option.bind_eq_bind, Option.bind_some,
    addSections_assignments, addSections_lines, hns.add_ownNodes hkeys, Option.bind_some,
    toData_append_ownNodes hns, arrange]
  rfl

end ProbeCampaign.Toml
