import Mathlib.Tactic
import ProbeCampaign.Json.Parser
import ProbeCampaign.Json.Printer
import ProbeCampaign.Proofs.Json.Number

/-!
# JSON texts read back

A text between quotation marks is read back whatever characters it holds (`readText_escape`), and
without any control character (`mem_compact_list`). So every value is read back from what either
writer makes of it (`parseChars?_compact`, `parseChars?_pretty`), as long as its integers fit 64 bits
and it nests no deeper than the reader goes.
-/

namespace ProbeCampaign.Hex

theorem value?_digit {n : Nat} (h : n < 16) : value? (digit n) = some n := by
  interval_cases n <;> rfl

theorem toNat_digit {n : Nat} (h : n < 16) : 32 ≤ (digit n).toNat := by
  interval_cases n <;> decide

end ProbeCampaign.Hex

namespace ProbeCampaign.Json

/-! ## Texts -/

/-- Puts a character in front of a text that was read. -/
def consRead (c : Char) (read : List Char × List Char) : List Char × List Char :=
  (c :: read.1, read.2)

/-- An escaped character is read for what it stands for. -/
theorem readText_unescape {e c : Char} (hu : e ≠ 'u') (h : unescape? e = some c)
    (rest : List Char) : readText ('\\' :: e :: rest) = (readText rest).map (consRead c) := by
  rw [readText]
  · rw [h]
    rfl
  · intro _ _ _ _ _ heq
    exact absurd heq hu

/-- A character that needs no escape is read as it is. -/
theorem readText_plain {c : Char} (hquote : c ≠ '"') (hback : c ≠ '\\') (h : 32 ≤ c.toNat)
    (rest : List Char) : readText (c :: rest) = (readText rest).map (consRead c) := by
  rw [readText]
  · rw [if_neg (by rw [not_or]; exact ⟨hback, by omega⟩)]
    rfl
  · exact hquote
  · intro _ _ _ _ _ heq
    exact absurd heq hback
  · intro _ _ heq
    exact absurd heq hback

/-- A control character is written with its code point. -/
theorem readText_unit {c : Char} (h : c.toNat < 32) (rest : List Char) :
    readText ('\\' :: 'u' :: '0' :: '0' :: Hex.digit (c.toNat / 16) :: Hex.digit (c.toNat % 16) ::
      rest) = (readText rest).map (consRead c) := by
  have hunit : hexUnit? '0' '0' (Hex.digit (c.toNat / 16)) (Hex.digit (c.toNat % 16)) =
      some c.toNat := by
    have hzero : Hex.value? '0' = some 0 := rfl
    simp only [hexUnit?, Hex.number?, List.foldl_cons, List.foldl_nil, hzero,
      Hex.value?_digit (show c.toNat / 16 < 16 by omega),
      Hex.value?_digit (show c.toNat % 16 < 16 by omega)]
    show some (16 * (16 * (16 * (16 * 0 + 0) + 0) + c.toNat / 16) + c.toNat % 16) = some c.toNat
    rw [show 16 * (16 * (16 * (16 * 0 + 0) + 0) + c.toNat / 16) + c.toNat % 16 = c.toNat by omega]
  rw [readText, hunit]
  dsimp only
  rw [if_neg (by omega), scalar?, if_pos (by omega), Char.ofNat_toNat]
  rfl

/-- However a character is written, it is read back. -/
theorem readText_escape_append (c : Char) (rest : List Char) :
    readText (escape c ++ rest) = (readText rest).map (consRead c) := by
  unfold escape
  split_ifs with h1 h2 h3 h4 h5 h6 h7 h8
  on_goal 8 => exact readText_unit h8 rest
  on_goal 8 => exact readText_plain h1 h2 (by omega) rest
  all_goals
    subst c
    exact readText_unescape (by decide) rfl rest

/-- The inside of a text is read back up to the closing quotation mark. -/
theorem readText_escape (cs rest : List Char) :
    readText (cs.flatMap escape ++ '"' :: rest) = some (cs, rest) := by
  induction cs with
  | nil => rfl
  | cons c cs ih =>
    rw [List.flatMap_cons, List.append_assoc, readText_escape_append, ih]
    rfl

/-! ## No control characters -/

/-- A written text holds no control characters. -/
theorem mem_escape {c d : Char} (h : d ∈ escape c) : 32 ≤ d.toNat := by
  unfold escape at h
  split_ifs at h with h1 h2 h3 h4 h5 h6 h7 h8
  on_goal 8 =>
    simp only [List.mem_cons, List.not_mem_nil, or_false] at h
    rcases h with rfl | rfl | rfl | rfl | rfl | rfl
    · decide
    · decide
    · decide
    · decide
    · exact Hex.toNat_digit (by omega)
    · exact Hex.toNat_digit (by omega)
  on_goal 8 =>
    rw [List.mem_singleton.1 h]
    omega
  all_goals
    fin_cases h <;> decide

/-- No control character is in a quoted text. -/
theorem mem_quote {s : String} {d : Char} (h : d ∈ quote s) : 32 ≤ d.toNat := by
  rcases List.mem_cons.1 h with rfl | h
  · decide
  · rcases List.mem_append.1 h with h | h
    · obtain ⟨c, -, hd⟩ := List.mem_flatMap.1 h
      exact mem_escape hd
    · rw [List.mem_singleton.1 h]
      decide

/-- Items are written one after the other with commas in front, up to the bracket. -/
theorem compactItems_eq (ds : List Datum) :
    compactItems ds = (ds.flatMap fun d => ',' :: compact d) ++ [']'] := by
  induction ds with
  | nil => rfl
  | cons d ds ih =>
    rw [compactItems, ih, List.flatMap_cons, List.append_assoc, List.cons_append]

/-- No control character is in a list, if none is in its items. -/
theorem mem_compact_list {ds : List Datum} (h : ∀ d ∈ ds, ∀ c ∈ compact d, 32 ≤ c.toNat) :
    ∀ c ∈ compact (.list ds), 32 ≤ c.toNat := by
  cases ds with
  | nil =>
    intro c hc
    fin_cases hc <;> decide
  | cons d ds =>
    obtain ⟨hd, hds⟩ := List.forall_mem_cons.1 h
    intro c hc
    rw [compact, compactItems_eq] at hc
    rcases List.mem_cons.1 hc with rfl | hc
    · decide
    · rcases List.mem_append.1 hc with hc | hc
      · exact hd c hc
      · rcases List.mem_append.1 hc with hc | hc
        · obtain ⟨e, he, hce⟩ := List.mem_flatMap.1 hc
          rcases List.mem_cons.1 hce with rfl | hce
          · decide
          · exact hds e he c hce
        · rw [List.mem_singleton.1 hc]
          decide

/-! ## Layouts

Both writers put the same marks between the same parts. They differ only in the blanks, so what
they write is read back for one reason. -/

/-- The blanks of a writer: in front of the items and the closing bracket of a level, and after a
colon. -/
structure Layout where
  before : Nat → List Char
  gap : List Char
  isBlank_before : ∀ level, ∀ c ∈ before level, isBlank c = true
  isBlank_gap : ∀ c ∈ gap, isBlank c = true

namespace Layout

/-- No blanks at all. -/
def dense : Layout where
  before _ := []
  gap := []
  isBlank_before := by simp
  isBlank_gap := by simp

/-- One item a line and a blank after a colon. -/
def lines : Layout where
  before := newline
  gap := [' ']
  isBlank_before := by
    intro level c hc
    rcases List.mem_cons.1 hc with rfl | hc
    · rfl
    · rw [List.eq_of_mem_replicate hc]
      rfl
  isBlank_gap := by
    intro c hc
    rw [List.mem_singleton.1 hc]
    rfl

mutual

/-- The text of a datum inside `level` brackets. -/
def write (w : Layout) (level : Nat) : Datum → List Char
  | .list [] => ['[', ']']
  | .list (d :: ds) =>
    '[' :: (w.before (level + 1) ++ w.write (level + 1) d ++ w.writeItems level ds)
  | .table [] => ['{', '}']
  | .table ((k, d) :: rest) =>
    '{' :: (w.before (level + 1) ++ quote k ++ ':' ::
      (w.gap ++ w.write (level + 1) d ++ w.writeEntries level rest))
  | .null => compact .null
  | .bool b => compact (.bool b)
  | .int n => compact (.int n)
  | .real literal => compact (.real literal)
  | .text s => compact (.text s)

/-- The items after the first and the closing bracket. -/
def writeItems (w : Layout) (level : Nat) : List Datum → List Char
  | [] => w.before level ++ [']']
  | d :: ds => ',' :: (w.before (level + 1) ++ w.write (level + 1) d ++ w.writeItems level ds)

/-- The entries after the first and the closing brace. -/
def writeEntries (w : Layout) (level : Nat) : List (String × Datum) → List Char
  | [] => w.before level ++ ['}']
  | (k, d) :: rest =>
    ',' :: (w.before (level + 1) ++ quote k ++ ':' ::
      (w.gap ++ w.write (level + 1) d ++ w.writeEntries level rest))

end

@[simp] theorem before_dense (level : Nat) : dense.before level = [] := rfl

@[simp] theorem gap_dense : dense.gap = [] := rfl

@[simp] theorem before_lines (level : Nat) : lines.before level = newline level := rfl

@[simp] theorem gap_lines : lines.gap = [' '] := rfl

mutual

/-- The dense layout is the compact one. -/
theorem write_dense (level : Nat) : (d : Datum) → dense.write level d = compact d
  | .list [] => rfl
  | .list (d :: ds) => by
    simp [write, compact, write_dense (level + 1) d, writeItems_dense level ds]
  | .table [] => rfl
  | .table ((k, d) :: rest) => by
    simp [write, compact, write_dense (level + 1) d, writeEntries_dense level rest]
  | .null | .bool _ | .int _ | .real _ | .text _ => rfl

theorem writeItems_dense (level : Nat) : (ds : List Datum) →
    dense.writeItems level ds = compactItems ds
  | [] => rfl
  | d :: ds => by
    simp [writeItems, compactItems, write_dense (level + 1) d, writeItems_dense level ds]

theorem writeEntries_dense (level : Nat) : (es : List (String × Datum)) →
    dense.writeEntries level es = compactEntries es
  | [] => rfl
  | (k, d) :: rest => by
    simp [writeEntries, compactEntries, write_dense (level + 1) d, writeEntries_dense level rest]

end

mutual

/-- The layout over several lines is the indented one. -/
theorem write_lines (level : Nat) : (d : Datum) → lines.write level d = prettyAt level d
  | .list [] => rfl
  | .list (d :: ds) => by
    simp [write, prettyAt, write_lines (level + 1) d, writeItems_lines level ds]
  | .table [] => rfl
  | .table ((k, d) :: rest) => by
    simp [write, prettyAt, write_lines (level + 1) d, writeEntries_lines level rest]
  | .null | .bool _ | .int _ | .real _ | .text _ => rfl

theorem writeItems_lines (level : Nat) : (ds : List Datum) →
    lines.writeItems level ds = prettyItems level ds
  | [] => rfl
  | d :: ds => by
    simp [writeItems, prettyItems, write_lines (level + 1) d, writeItems_lines level ds]

theorem writeEntries_lines (level : Nat) : (es : List (String × Datum)) →
    lines.writeEntries level es = prettyEntries level es
  | [] => rfl
  | (k, d) :: rest => by
    simp [writeEntries, prettyEntries, write_lines (level + 1) d, writeEntries_lines level rest]

end

end Layout

/-! ## Blanks -/

theorem skipBlanks_cons {c : Char} (h : isBlank c = false) (cs : List Char) :
    skipBlanks (c :: cs) = c :: cs :=
  List.dropWhile_cons_of_neg (by simp [h])

/-- Blanks in front of a text are skipped. -/
theorem skipBlanks_append {bs : List Char} (h : ∀ c ∈ bs, isBlank c = true) (cs : List Char) :
    skipBlanks (bs ++ cs) = skipBlanks cs := by
  induction bs with
  | nil => rfl
  | cons b bs ih =>
    obtain ⟨hb, hbs⟩ := List.forall_mem_cons.1 h
    rw [List.cons_append, skipBlanks, List.dropWhile_cons_of_pos hb]
    exact ih hbs

/-- No number goes on with a blank. -/
theorem endsNumber_blanks {bs : List Char} (h : ∀ c ∈ bs, isBlank c = true) {cs : List Char}
    (hcs : EndsNumber cs) : EndsNumber (bs ++ cs) := by
  cases bs with
  | nil => exact hcs
  | cons b bs =>
    have hb : isBlank b = true := h b List.mem_cons_self
    simp only [isBlank, Bool.or_eq_true, beq_iff_eq] at hb
    refine endsNumber_cons ?_ (bs ++ cs)
    rcases hb with ((rfl | rfl) | rfl) | rfl
    · decide
    · decide
    · decide
    · decide

/-! ## Values -/

/-- A value whose text is read as another one. They differ at most in the numbers that are kept as
texts, and nest at most `depth` deep. -/
inductive ReadAs : Nat → Datum → Datum → Prop where
  | null {depth : Nat} : ReadAs depth .null .null
  | bool {depth : Nat} (b : Bool) : ReadAs depth (.bool b) (.bool b)
  | int {depth : Nat} {n : Int} (hlo : -(capacity 63 : Int) ≤ n) (hhi : n < capacity 64) :
    ReadAs depth (.int n) (.int n)
  | real {depth : Nat} {literal literal' : String}
    (h : readNumber literal.toList = some (.real literal', [])) :
    ReadAs depth (.real literal) (.real literal')
  | text {depth : Nat} (s : String) : ReadAs depth (.text s) (.text s)
  | list {depth : Nat} (items : List (Datum × Datum)) (h : ∀ i ∈ items, ReadAs depth i.1 i.2) :
    ReadAs (depth + 1) (.list (items.map fun i => i.1)) (.list (items.map fun i => i.2))
  | table {depth : Nat} (entries : List (String × Datum × Datum))
    (h : ∀ e ∈ entries, ReadAs depth e.2.1 e.2.2) :
    ReadAs (depth + 1) (.table (entries.map fun e => (e.1, e.2.1)))
      (.table (entries.map fun e => (e.1, e.2.2)))

/-- A value whose text is read as that value: its numbers are, and it nests at most `depth` deep. -/
def Readable (depth : Nat) (d : Datum) : Prop :=
  ReadAs depth d d

theorem Readable.text {depth : Nat} (s : String) : Readable depth (.text s) :=
  ReadAs.text s

theorem Readable.list {depth : Nat} {items : List Datum} (h : ∀ d ∈ items, Readable depth d) :
    Readable (depth + 1) (.list items) := by
  have hall : ∀ i ∈ items.map fun d => (d, d), ReadAs depth i.1 i.2 := List.forall_mem_map.2 h
  simpa [Readable, Function.comp_def] using ReadAs.list _ hall

theorem Readable.table {depth : Nat} {entries : List (String × Datum)}
    (h : ∀ e ∈ entries, Readable depth e.2) : Readable (depth + 1) (.table entries) := by
  have hall : ∀ e ∈ entries.map fun e => (e.1, e.2, e.2), ReadAs depth e.2.1 e.2.2 :=
    List.forall_mem_map.2 h
  simpa [Readable, Function.comp_def] using ReadAs.table _ hall

/-- A text is read as a value whatever comes after it. Twice its length is enough fuel. -/
structure Denotes (depth : Nat) (cs : List Char) (d : Datum) : Prop where
  head : ∃ c tail, cs = c :: tail ∧ isBlank c = false ∧ c ≠ ']'
  read : ∀ n rest, 2 * cs.length ≤ n → EndsNumber rest →
    readValue n depth (cs ++ rest) = some (d, rest)

theorem Denotes.skipBlanks {depth : Nat} {cs : List Char} {d : Datum} (h : Denotes depth cs d)
    (rest : List Char) : Json.skipBlanks (cs ++ rest) = cs ++ rest := by
  obtain ⟨c, tail, rfl, hblank, -⟩ := h.head
  exact skipBlanks_cons hblank _

/-- A value is read by its first character, and that leaves fuel for what is inside it. -/
theorem denotes_of_head {depth : Nat} {c : Char} {tail : List Char} {d : Datum}
    (hblank : isBlank c = false) (hclose : c ≠ ']')
    (h : ∀ n rest, 2 * tail.length < n → EndsNumber rest →
      readValue (n + 1) depth (c :: (tail ++ rest)) = some (d, rest)) :
    Denotes depth (c :: tail) d where
  head := ⟨c, tail, rfl, hblank, hclose⟩
  read n rest hn hrest := by
    rw [List.length_cons] at hn
    obtain ⟨n, rfl⟩ : ∃ m, n = m + 1 := ⟨n - 1, by omega⟩
    exact h n rest (by omega) hrest

theorem denotes_null (depth : Nat) : Denotes depth (compact .null) .null :=
  denotes_of_head rfl (by decide) fun _ _ _ _ => rfl

theorem denotes_bool (depth : Nat) (b : Bool) : Denotes depth (compact (.bool b)) (.bool b) := by
  cases b with
  | true => exact denotes_of_head rfl (by decide) fun _ _ _ _ => rfl
  | false => exact denotes_of_head rfl (by decide) fun _ _ _ _ => rfl

theorem denotes_text (depth : Nat) (s : String) : Denotes depth (quote s) (.text s) := by
  refine denotes_of_head rfl (by decide) fun n rest _ _ => ?_
  rw [List.append_assoc, readValue]
  simp [readText_escape]

/-- No other value starts like a number. -/
theorem denotes_number {depth : Nat} {cs : List Char} {d : Datum}
    (h : readNumber cs = some (d, [])) : Denotes depth cs d := by
  obtain ⟨c, tail, rfl, hstart⟩ := startsNumber_of_readNumber h
  have hother : ∀ x : Char, ¬ StartsNumber x → c ≠ x := by
    rintro x hx rfl
    exact hx hstart
  have hblank : isBlank c = false := by
    simp [isBlank, hother ' ' (by decide), hother '\n' (by decide), hother '\t' (by decide),
      hother '\r' (by decide)]
  refine denotes_of_head hblank (hother ']' (by decide)) fun n rest _ hrest => ?_
  rw [readValue]
  · exact readNumber_append h hrest
  all_goals
    intro _ heq
    exact hother _ (by decide) (List.cons.inj heq).1

/-! ### Lists and tables -/

section Layout

variable {w : Layout} {depth level : Nat}

theorem endsNumber_writeItems (w : Layout) (level : Nat) (ds : List Datum) (rest : List Char) :
    EndsNumber (w.writeItems level ds ++ rest) := by
  cases ds with
  | nil =>
    rw [Layout.writeItems, List.append_assoc]
    exact endsNumber_blanks (w.isBlank_before level) (endsNumber_cons (by decide) rest)
  | cons d ds => exact endsNumber_cons (by decide) _

theorem endsNumber_writeEntries (w : Layout) (level : Nat) (es : List (String × Datum))
    (rest : List Char) : EndsNumber (w.writeEntries level es ++ rest) := by
  cases es with
  | nil =>
    rw [Layout.writeEntries, List.append_assoc]
    exact endsNumber_blanks (w.isBlank_before level) (endsNumber_cons (by decide) rest)
  | cons e es => exact endsNumber_cons (by decide) _

/-- Items are read up to the closing bracket. Each of them and each comma leaves enough fuel for
those after it. -/
theorem readItems_write {i : Datum × Datum} {items : List (Datum × Datum)}
    (h : ∀ x ∈ i :: items, Denotes depth (w.write (level + 1) x.1) x.2) {n : Nat} (rest : List Char)
    (hn : 2 * ((w.write (level + 1) i.1).length +
      (w.writeItems level (items.map fun x => x.1)).length) ≤ n) :
    readItems n depth
        (w.write (level + 1) i.1 ++ (w.writeItems level (items.map fun x => x.1) ++ rest)) =
      some (i.2 :: items.map fun x => x.2, rest) := by
  induction items generalizing i n with
  | nil =>
    simp only [List.map_nil, Layout.writeItems, List.length_append, List.length_singleton] at hn ⊢
    obtain ⟨n, rfl⟩ : ∃ m, n = m + 1 := ⟨n - 1, by omega⟩
    have hends := endsNumber_writeItems w level [] rest
    rw [Layout.writeItems, List.append_assoc] at hends
    rw [List.append_assoc, readItems, (h i List.mem_cons_self).read n _ (by omega) hends]
    dsimp only
    rw [skipBlanks_append (w.isBlank_before level)]
    rfl
  | cons j items ih =>
    obtain ⟨hi, hitems⟩ := List.forall_mem_cons.1 h
    have hends := endsNumber_writeItems w level (j.1 :: items.map fun x => x.1) rest
    simp only [List.map_cons, Layout.writeItems, List.length_append, List.length_cons,
      List.cons_append, List.append_assoc] at hn hends ⊢
    obtain ⟨n, rfl⟩ : ∃ m, n = m + 1 := ⟨n - 1, by omega⟩
    rw [readItems, hi.read n _ (by omega) hends]
    show (readItems n depth (skipBlanks _)).map _ = _
    rw [skipBlanks_append (w.isBlank_before (level + 1)),
      (hitems j List.mem_cons_self).skipBlanks, ih hitems (by omega)]
    rfl

/-- A list is read back from its items. It is not taken for an empty one, as no item starts with a
closing bracket. -/
theorem denotes_list {items : List (Datum × Datum)}
    (h : ∀ x ∈ items, Denotes depth (w.write (level + 1) x.1) x.2) :
    Denotes (depth + 1) (w.write level (.list (items.map fun x => x.1)))
      (.list (items.map fun x => x.2)) := by
  cases items with
  | nil => exact denotes_of_head rfl (by decide) fun _ _ _ _ => rfl
  | cons i items =>
    rw [List.map_cons, List.map_cons]
    refine denotes_of_head rfl (by decide) fun n rest hn _ => ?_
    have hfirst := h i List.mem_cons_self
    simp only [List.length_append] at hn
    have hitems := readItems_write h rest (n := n) (by omega)
    have hskip : skipBlanks (w.before (level + 1) ++ w.write (level + 1) i.1 ++
          w.writeItems level (items.map fun x => x.1) ++ rest) =
        w.write (level + 1) i.1 ++ (w.writeItems level (items.map fun x => x.1) ++ rest) := by
      rw [List.append_assoc, List.append_assoc, skipBlanks_append (w.isBlank_before (level + 1)),
        hfirst.skipBlanks]
    obtain ⟨c, tail, hc, -, hclose⟩ := hfirst.head
    rw [readValue]
    dsimp only
    rw [hskip]
    rw [hc, List.cons_append] at hitems ⊢
    split
    · next heq => exact absurd (List.cons.inj heq).1 hclose
    · rw [hitems]
      rfl

/-- A key and its value are read, up to what comes after the value. -/
theorem readEntries_key {n : Nat} {k : String} {d d' : Datum} {rest : List Char}
    (h : Denotes depth (w.write (level + 1) d) d') (hn : 2 * (w.write (level + 1) d).length ≤ n)
    (hrest : EndsNumber rest) :
    readEntries (n + 1) depth (quote k ++ ':' :: (w.gap ++ (w.write (level + 1) d ++ rest))) =
      match skipBlanks rest with
      | ',' :: rest => (readEntries n depth (skipBlanks rest)).map fun (es, r) => ((k, d') :: es, r)
      | '}' :: rest => some ([(k, d')], rest)
      | _ => none := by
  rw [quote, List.cons_append, List.append_assoc, List.cons_append, List.nil_append, readEntries,
    readText_escape]
  have hcolon : ∀ cs, skipBlanks (':' :: cs) = ':' :: cs := fun cs => skipBlanks_cons rfl cs
  have hkey : String.ofList k.toList = k := String.ofList_toList
  simp only [hcolon, skipBlanks_append w.isBlank_gap, h.skipBlanks, h.read n rest hn hrest]
  generalize String.ofList k.toList = key at hkey ⊢
  subst hkey
  rfl

theorem skipBlanks_quote (k : String) (rest : List Char) :
    skipBlanks (quote k ++ rest) = quote k ++ rest :=
  skipBlanks_cons rfl _

/-- Entries are read up to the closing brace. -/
theorem readEntries_write {e : String × Datum × Datum} {entries : List (String × Datum × Datum)}
    (h : ∀ x ∈ e :: entries, Denotes depth (w.write (level + 1) x.2.1) x.2.2) {n : Nat}
    (rest : List Char)
    (hn : 2 * ((w.write (level + 1) e.2.1).length +
      (w.writeEntries level (entries.map fun x => (x.1, x.2.1))).length) ≤ n) :
    readEntries n depth (quote e.1 ++ ':' :: (w.gap ++ (w.write (level + 1) e.2.1 ++
        (w.writeEntries level (entries.map fun x => (x.1, x.2.1)) ++ rest)))) =
      some ((e.1, e.2.2) :: entries.map fun x => (x.1, x.2.2), rest) := by
  induction entries generalizing e n with
  | nil =>
    have hends := endsNumber_writeEntries w level [] rest
    simp only [List.map_nil, Layout.writeEntries, List.length_append, List.length_singleton,
      List.append_assoc] at hn hends ⊢
    obtain ⟨n, rfl⟩ : ∃ m, n = m + 1 := ⟨n - 1, by omega⟩
    rw [readEntries_key (h e List.mem_cons_self) (by omega) hends,
      skipBlanks_append (w.isBlank_before level)]
    rfl
  | cons f entries ih =>
    obtain ⟨he, hentries⟩ := List.forall_mem_cons.1 h
    have hends := endsNumber_writeEntries w level
      ((f.1, f.2.1) :: entries.map fun x => (x.1, x.2.1)) rest
    simp only [List.map_cons, Layout.writeEntries, List.length_append, List.length_cons,
      List.cons_append, List.append_assoc] at hn hends ⊢
    obtain ⟨n, rfl⟩ : ∃ m, n = m + 1 := ⟨n - 1, by omega⟩
    rw [readEntries_key he (by omega) hends]
    show (readEntries n depth (skipBlanks _)).map _ = _
    rw [skipBlanks_append (w.isBlank_before (level + 1)), skipBlanks_quote, ih hentries (by omega)]
    rfl

/-- A table is read back from its entries. -/
theorem denotes_table {entries : List (String × Datum × Datum)}
    (h : ∀ e ∈ entries, Denotes depth (w.write (level + 1) e.2.1) e.2.2) :
    Denotes (depth + 1) (w.write level (.table (entries.map fun e => (e.1, e.2.1))))
      (.table (entries.map fun e => (e.1, e.2.2))) := by
  cases entries with
  | nil => exact denotes_of_head rfl (by decide) fun _ _ _ _ => rfl
  | cons e entries =>
    rw [List.map_cons, List.map_cons]
    refine denotes_of_head rfl (by decide) fun n rest hn _ => ?_
    simp only [List.length_append, List.length_cons] at hn
    have hentries := readEntries_write h rest (n := n) (by omega)
    simp only [List.append_assoc, List.cons_append]
    rw [readValue]
    dsimp only
    rw [skipBlanks_append (w.isBlank_before (level + 1)), skipBlanks_quote]
    show (readEntries n depth (quote e.1 ++ _)).map _ = _
    rw [hentries]
    rfl

/-- Whatever the layout, a text denotes the value that it is read as. -/
theorem denotes_write {d d' : Datum} (h : ReadAs depth d d') (w : Layout) (level : Nat) :
    Denotes depth (w.write level d) d' := by
  induction h generalizing level with
  | null => exact denotes_null _
  | bool b => exact denotes_bool _ b
  | int hlo hhi => exact denotes_number (readNumber_integer hlo hhi)
  | real h => exact denotes_number h
  | text s => exact denotes_text _ s
  | list items h ih => exact denotes_list fun i hi => ih i hi (level + 1)
  | table entries h ih => exact denotes_table fun e he => ih e he (level + 1)

end Layout

/-! ## Whole texts -/

/-- A text that denotes a value is parsed as that value. -/
theorem Denotes.parseChars? {cs : List Char} {d : Datum} (h : Denotes maxDepth cs d) :
    Json.parseChars? cs = some d := by
  have hskip := h.skipBlanks []
  have hread := h.read (2 * cs.length + 2) [] (by omega) endsNumber_nil
  rw [List.append_nil] at hskip hread
  rw [Json.parseChars?, hskip, hread]
  rfl

theorem parseChars?_compact_of_readAs {d d' : Datum} (h : ReadAs maxDepth d d') :
    parseChars? (compact d) = some d' := by
  rw [← Layout.write_dense 0 d]
  exact (denotes_write h .dense 0).parseChars?

/-- What is written without blanks is read back. -/
theorem parseChars?_compact {d : Datum} (h : Readable maxDepth d) :
    parseChars? (compact d) = some d :=
  parseChars?_compact_of_readAs h

/-- What is written on lines is read back. -/
theorem parseChars?_pretty {d : Datum} (h : Readable maxDepth d) :
    parseChars? (pretty d) = some d := by
  rw [pretty, ← Layout.write_lines 0 d]
  exact (denotes_write h .lines 0).parseChars?

end ProbeCampaign.Json
