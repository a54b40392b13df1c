import ProbeCampaign.Proofs.Toml.Line

/-!
# The blocks of a TOML document

A document is written as the entries of its own and a block for each table and each item of a list
of tables (`exists_render?`). A block is told from the place of its table: putting it under a key
says where the table is.
-/

namespace ProbeCampaign.Toml

/-- The entries without a header. -/
def own (entries : List (String × Datum)) : List (String × Datum) :=
  entries.filter fun e => !hasHeader e.2

/-- The lines of the entries without a header. -/
def assignments (entries : List (String × Datum)) : List Line :=
  (own entries).map fun e => .assignment [e.1] e.2

/-- A table with a header: whether it is an item of a list of tables, where it is, and what is in
it. -/
structure Block where
  isItem : Bool
  path : List String
  entries : List (String × Datum)

namespace Block

/-- The block inside the table of a key. -/
def under (k : String) (b : Block) : Block :=
  { b with path := k :: b.path }

/-- The text of a block inside the table of a path. -/
def text? (path : List String) (b : Block) : Option (List Char) :=
  (body? b.entries).map (headerText b.isItem (path ++ b.path) ++ ·)

theorem text?_under (path : List String) (k : String) :
    text? path ∘ under k = text? (path ++ [k]) := by
  funext b
  simp [text?, under]

/-- The lines of a block. -/
def lines (b : Block) : List Line :=
  header b.isItem b.path :: assignments b.entries

end Block

mutual

/-- The blocks of a datum with a header. -/
def tableBlocks : Datum → List Block
  | .table entries =>
    if (own entries).isEmpty ∧ !entries.isEmpty then entryBlocks entries
    else ⟨false, [], entries⟩ :: entryBlocks entries
  | .list items => itemBlocks items
  | _ => []

/-- The blocks of the entries of a table. -/
def entryBlocks : List (String × Datum) → List Block
  | [] => []
  | (k, d) :: rest =>
    (if hasHeader d then (tableBlocks d).map (·.under k) else []) ++ entryBlocks rest

/-- The blocks of the items of a list of tables. -/
def itemBlocks : List Datum → List Block
  | [] => []
  | .table entries :: rest => ⟨true, [], entries⟩ :: (entryBlocks entries ++ itemBlocks rest)
  | _ :: rest => itemBlocks rest

end

/-- A block of entries is one of a datum among them, under its key. -/
theorem exists_of_mem_entryBlocks {entries : List (String × Datum)} {b : Block}
    (h : b ∈ entryBlocks entries) :
    ∃ e ∈ entries, ∃ inner ∈ tableBlocks e.2, b = inner.under e.1 := by
  induction entries with
  | nil => exact absurd h List.not_mem_nil
  | cons e entries ih =>
    obtain ⟨k, d⟩ := e
    rw [entryBlocks, List.mem_append] at h
    rcases h with h | h
    · split at h
      · obtain ⟨inner, hinner, rfl⟩ := List.mem_map.1 h
        exact ⟨_, List.mem_cons_self, inner, hinner, rfl⟩
      · exact absurd h List.not_mem_nil
    · obtain ⟨e, he, hb⟩ := ih h
      exact ⟨e, List.mem_cons_of_mem _ he, hb⟩

/-- Every table in a table is under a key. -/
theorem path_ne_nil (entries : List (String × Datum)) : ∀ b ∈ entryBlocks entries, b.path ≠ [] := by
  intro b hb
  obtain ⟨e, -, inner, -, rfl⟩ := exists_of_mem_entryBlocks hb
  exact List.cons_ne_nil _ _

/-! ## The text of a document -/

/-- The line of an entry. -/
def entryText? (e : String × Datum) : Option (List Char) :=
  (valueText? e.2).map (assignmentText e.1)

/-- The body of a table has the lines of what it holds itself. -/
theorem body?_eq (entries : List (String × Datum)) :
    body? entries = ((own entries).mapM entryText?).map List.flatten := by
  have hline : (fun (e : String × Datum) => do
      let t ← valueText? e.2
      pure (keyPart e.1 ++ " = ".toList ++ t ++ ['\n'])) = entryText? := by
    funext e
    rw [entryText?]
    cases valueText? e.2 with
    | none => rfl
    | some t => rfl
  rw [← hline, own]
  exact (map_eq_pure_bind _ _).symm

/-- The body of a table is empty if there is no entry for it. -/
theorem isEmpty_of_body? {entries : List (String × Datum)} {text : List Char}
    (h : body? entries = some text) : text.isEmpty = (own entries).isEmpty := by
  rw [body?_eq] at h
  obtain ⟨texts, htexts, rfl⟩ := Option.map_eq_some_iff.1 h
  cases hown : own entries with
  | nil =>
    rw [hown] at htexts
    cases htexts
    rfl
  | cons e rest =>
    rw [hown, List.mapM_cons] at htexts
    obtain ⟨t, ht, htexts⟩ := Option.bind_eq_some_iff.1 htexts
    obtain ⟨rest', -, heq⟩ := Option.bind_eq_some_iff.1 htexts
    obtain ⟨value, -, rfl⟩ := Option.map_eq_some_iff.1 ht
    rw [← Option.some.inj heq]
    simp [assignmentText]

mutual

/-- A table is written block by block. -/
theorem tableBlocks?_eq (path : List String) : (d : Datum) →
    tableBlocks? path d = (tableBlocks d).mapM (Block.text? path)
  | .table entries => by
    rw [tableBlocks?, tableBlocks, entryBlocks?_eq path entries]
    cases hbody : body? entries with
    | none =>
      have hown : ¬ ((own entries).isEmpty ∧ !entries.isEmpty) := by
        rintro ⟨hown, -⟩
        rw [body?_eq, List.isEmpty_iff.1 hown] at hbody
        cases hbody
      rw [if_neg hown, List.mapM_cons, Block.text?, hbody]
      rfl
    | some text =>
      rw [Option.bind_eq_bind, Option.bind_some, isEmpty_of_body? hbody]
      split_ifs
      · exact bind_pure _
      · rw [List.mapM_cons, Block.text?, hbody, List.append_nil]
        rfl
  | .list items => by rw [tableBlocks?, tableBlocks, itemBlocks?_eq path items]
  | .null | .bool _ | .int _ | .real _ | .text _ => rfl

/-- So are its entries. -/
theorem entryBlocks?_eq (path : List String) : (es : List (String × Datum)) →
    entryBlocks? path es = (entryBlocks es).mapM (Block.text? path)
  | [] => rfl
  | (k, d) :: rest => by
    rw [entryBlocks?, entryBlocks, tableBlocks?_eq (path ++ [k]) d, entryBlocks?_eq path rest,
      List.mapM_append]
    split
    · rw [List.mapM_map, Block.text?_under]
    · rfl

/-- So are the items of a list of tables. -/
theorem itemBlocks?_eq (path : List String) : (ds : List Datum) →
    itemBlocks? path ds = (itemBlocks ds).mapM (Block.text? path)
  | [] => rfl
  | .table entries :: rest => by
    rw [itemBlocks?, itemBlocks, entryBlocks?_eq path entries, itemBlocks?_eq path rest,
      List.mapM_cons, List.mapM_append, Block.text?, List.append_nil]
    cases body? entries with
    | none => rfl
    | some text =>
      simp only [Option.map_some, Option.bind_eq_bind, Option.bind_some, Option.bind_assoc,
        Option.pure_def, headerText, if_true]
  | .null :: rest | .bool _ :: rest | .int _ :: rest | .real _ :: rest | .text _ :: rest
  | .list _ :: rest => by
    rw [itemBlocks?, itemBlocks, itemBlocks?_eq path rest]
    all_goals exact fun _ heq => Datum.noConfusion heq

end

/-! ## What can be written -/

/-- A datum that has a text: a plain value, or a table or a list of tables, nested at most `depth`
deep, where no key comes twice in a table. -/
inductive Writable : Nat → Datum → Prop where
  | plain {depth : Nat} {d : Datum} (h : Plain (depthLimit - 1) d) : Writable depth d
  | table {depth : Nat} {entries : List (String × Datum)} (hkeys : (entries.map (·.1)).Nodup)
    (h : ∀ e ∈ entries, Writable depth e.2) : Writable (depth + 1) (.table entries)
  | tables {depth : Nat} {items : List (List (String × Datum))} (hne : items ≠ [])
    (hkeys : ∀ es ∈ items, (es.map (·.1)).Nodup)
    (h : ∀ es ∈ items, ∀ e ∈ es, Writable depth e.2) :
    Writable (depth + 1) (.list (items.map .table))

/-- What is written in one line has no header. -/
theorem Plain.hasHeader {depth : Nat} {d : Datum} (h : Plain depth d) : hasHeader d = false := by
  cases h with
  | bool b => rfl
  | int h => rfl
  | text s => rfl
  | @list depth items h =>
    cases items with
    | nil => rfl
    | cons d items =>
      have hd : isTable d = false := by
        cases h d List.mem_cons_self <;> rfl
      rw [Toml.hasHeader, List.all_cons, hd, Bool.false_and]

theorem hasHeader_tables {items : List (List (String × Datum))} (hne : items ≠ []) :
    hasHeader (.list (items.map .table)) = true := by
  obtain ⟨es, items, rfl⟩ := List.exists_cons_of_ne_nil hne
  rw [List.map_cons, hasHeader, ← List.map_cons, List.all_map, List.all_eq_true]
  exact fun _ _ => rfl

/-- What has no header is plain. -/
theorem Writable.plain_of_own {depth : Nat} {entries : List (String × Datum)}
    (h : ∀ e ∈ entries, Writable depth e.2) : ∀ e ∈ own entries, Plain (depthLimit - 1) e.2 := by
  intro e he
  obtain ⟨hmem, hheader⟩ := List.mem_filter.1 he
  rw [Bool.not_eq_true'] at hheader
  have hwritable := h e hmem
  generalize e.2 = d at hheader hwritable
  cases hwritable with
  | plain h => exact h
  | table hkeys h => exact absurd hheader.symm Bool.false_ne_true
  | tables hne hkeys h =>
    rw [hasHeader_tables hne] at hheader
    exact absurd hheader.symm Bool.false_ne_true

/-- A block whose lines are read back, less than `depth` keys below its table. -/
structure Block.IsSound (depth : Nat) (b : Block) : Prop where
  path : b.path.length < depth
  keys : (b.entries.map (·.1)).Nodup
  plain : ∀ e ∈ own b.entries, Plain (depthLimit - 1) e.2

/-- The blocks of entries are sound one level below, under the keys of the entries. -/
theorem isSound_entryBlocks {depth : Nat} {entries : List (String × Datum)}
    (h : ∀ e ∈ entries, ∀ b ∈ tableBlocks e.2, b.IsSound depth) :
    ∀ b ∈ entryBlocks entries, b.IsSound (depth + 1) := by
  intro b hb
  obtain ⟨e, he, inner, hinner, rfl⟩ := exists_of_mem_entryBlocks hb
  have hsound := h e he inner hinner
  exact ⟨Nat.succ_lt_succ hsound.path, hsound.keys, hsound.plain⟩

/-- The blocks of items are sound if their tables are. -/
theorem isSound_itemBlocks {depth : Nat} {items : List (List (String × Datum))}
    (hkeys : ∀ es ∈ items, (es.map (·.1)).Nodup)
    (hplain : ∀ es ∈ items, ∀ e ∈ own es, Plain (depthLimit - 1) e.2)
    (h : ∀ es ∈ items, ∀ e ∈ es, ∀ b ∈ tableBlocks e.2, b.IsSound depth) :
    ∀ b ∈ itemBlocks (items.map .table), b.IsSound (depth + 1) := by
  induction items with
  | nil => exact fun b hb => absurd hb List.not_mem_nil
  | cons es items ih =>
    obtain ⟨hkeyses, hkeys⟩ := List.forall_mem_cons.1 hkeys
    obtain ⟨hplaines, hplain⟩ := List.forall_mem_cons.1 hplain
    obtain ⟨hes, hitems⟩ := List.forall_mem_cons.1 h
    intro b hb
    rw [List.map_cons, itemBlocks, List.mem_cons, List.mem_append] at hb
    rcases hb with rfl | hb | hb
    · exact ⟨Nat.succ_pos _, hkeyses, hplaines⟩
    · exact isSound_entryBlocks hes b hb
    · exact ih hkeys hplain hitems b hb

/-- What is written in one line has no block. -/
theorem Plain.tableBlocks {depth : Nat} {d : Datum} (h : Plain depth d) : tableBlocks d = [] := by
  cases h with
  | bool b => rfl
  | int h => rfl
  | text s => rfl
  | @list depth items h =>
    rw [Toml.tableBlocks]
    induction items with
    | nil => rfl
    | cons d items ih =>
      obtain ⟨hd, hitems⟩ := List.forall_mem_cons.1 h
      cases hd <;> exact ih hitems

/-- Whatever can be written has sound blocks: their paths are short enough, and their values
plain. -/
theorem isSound_tableBlocks {depth : Nat} {d : Datum} (h : Writable depth d) :
    ∀ b ∈ tableBlocks d, b.IsSound depth := by
  induction h with
  | plain h =>
    rw [h.tableBlocks]
    exact fun b hb => absurd hb List.not_mem_nil
  | @table depth entries hkeys h ih =>
    intro b hb
    have hinner := isSound_entryBlocks ih
    rw [tableBlocks] at hb
    split at hb
    · exact hinner b hb
    · rcases List.mem_cons.1 hb with rfl | hb
      · exact ⟨Nat.succ_pos _, hkeys, Writable.plain_of_own h⟩
      · exact hinner b hb
  | @tables depth items _ hkeys h ih =>
    rw [tableBlocks]
    exact isSound_itemBlocks hkeys (fun es hes => Writable.plain_of_own (h es hes)) ih

/-! ## Documents -/

/-- The body of a table has a text, which is read for its lines. -/
theorem exists_body? {entries : List (String × Datum)}
    (h : ∀ e ∈ own entries, Plain (depthLimit - 1) e.2) :
    ∃ cs, body? entries = some cs ∧ Lists cs (assignments entries) := by
  rw [body?_eq, assignments]
  generalize own entries = es at h
  induction es with
  | nil => exact ⟨[], rfl, .nil⟩
  | cons e es ih =>
    obtain ⟨he, hes⟩ := List.forall_mem_cons.1 h
    obtain ⟨value, hvalue, hdenotes⟩ := exists_denotes he
    obtain ⟨cs, hcs, hlists⟩ := ih hes
    obtain ⟨texts, htexts, rfl⟩ := Option.map_eq_some_iff.1 hcs
    refine ⟨(assignmentText e.1 value :: texts).flatten, ?_, .assignment hdenotes hlists⟩
    rw [List.mapM_cons, entryText?, hvalue, htexts]
    rfl

theorem Block.IsSound.exists_text? {b : Block} (h : b.IsSound (depthLimit + 1))
    (hne : b.path ≠ []) : ∃ cs, b.text? [] = some cs ∧ Lists cs b.lines := by
  obtain ⟨cs, hcs, hlists⟩ := exists_body? h.plain
  refine ⟨_, by rw [text?, hcs]; rfl, ?_⟩
  exact .header b.isItem hne (Nat.lt_succ_iff.1 h.path) hlists

/-- Texts with an empty line between are read as the lines of all. -/
theorem Lists.joinWith {texts : List (List Char)} {ls : List (List Line)}
    (h : List.Forall₂ Lists texts ls) : Lists (joinWith ['\n'] texts) ls.flatten := by
  induction h with
  | nil => exact .nil
  | @cons t l texts ls ht hall ih =>
    cases hall with
    | nil =>
      rw [Toml.joinWith, List.intercalate_singleton]
      simpa using ht
    | @cons t' l' texts ls ht' hall =>
      rw [Toml.joinWith, List.intercalate_cons_cons, List.append_assoc]
      exact ht.append (.blank ih)

/-- Sound blocks have texts, which are read for their lines. -/
theorem exists_texts {blocks : List Block}
    (hne : ∀ b ∈ blocks, b.path ≠ []) (h : ∀ b ∈ blocks, b.IsSound (depthLimit + 1)) :
    ∃ texts, blocks.mapM (Block.text? []) = some texts ∧
      List.Forall₂ Lists texts (blocks.map Block.lines) := by
  induction blocks with
  | nil => exact ⟨[], rfl, .nil⟩
  | cons b blocks ih =>
    obtain ⟨hneb, hne⟩ := List.forall_mem_cons.1 hne
    obtain ⟨hb, hblocks⟩ := List.forall_mem_cons.1 h
    obtain ⟨text, htext, hlists⟩ := hb.exists_text? hneb
    obtain ⟨texts, htexts, hall⟩ := ih hne hblocks
    refine ⟨text :: texts, ?_, .cons hlists hall⟩
    rw [List.mapM_cons, htext, htexts]
    rfl

/-- A document has a text, and the text is read as its lines. -/
theorem exists_render? {entries : List (String × Datum)}
    (h : ∀ e ∈ entries, Writable depthLimit e.2) :
    ∃ cs, render? entries = some (String.ofList cs) ∧
      Lists cs (assignments entries ++ (entryBlocks entries).flatMap Block.lines) := by
  obtain ⟨body, hbody, hlists⟩ := exists_body? (Writable.plain_of_own h)
  obtain ⟨texts, htexts, hall⟩ := exists_texts (path_ne_nil entries)
    (isSound_entryBlocks fun e he => isSound_tableBlocks (h e he))
  have hempty := isEmpty_of_body? hbody
  refine ⟨joinWith ['\n'] (if body.isEmpty then texts else body :: texts), ?_, ?_⟩
  · rw [render?, hbody, entryBlocks?_eq, htexts]
    rfl
  · rw [List.flatMap_def]
    split
    · next hnone =>
      rw [hnone] at hempty
      rw [assignments, List.isEmpty_iff.1 hempty.symm]
      exact .joinWith hall
    · exact Lists.joinWith (.cons hlists hall)

end ProbeCampaign.Toml
