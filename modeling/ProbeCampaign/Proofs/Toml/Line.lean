import ProbeCampaign.Proofs.Toml.Value

/-!
# TOML lines read back

A key of no more parts than the reader takes is read back (`key?_key`), and so are the three lines
of a document: an assignment (`line?_assignment`) and the two headers (`line?_header`). A text of
such lines and of empty ones is read as its lines (`Lists.lines?_eq`).
-/

namespace ProbeCampaign.Toml

/-! ## Keys -/

/-- A text that goes on with no key: neither the part nor the key does. -/
structure EndsKey (rest : List Char) : Prop where
  bare : ∀ c ∈ rest.head?, isBare c = false
  dot : (skipBlanks rest).head? ≠ some '.'

theorem IsKeyStart.ne {c x : Char} (h : IsKeyStart c) (hx : ¬ IsKeyStart x) : c ≠ x := by
  rintro rfl
  exact hx h

theorem IsKeyStart.isBlank {c : Char} (h : IsKeyStart c) : isBlank c = false := by
  simp [Toml.isBlank, h.ne (x := ' ') (by decide), h.ne (x := '\t') (by decide)]

theorem skipBlanks_keyPart (s : String) (rest : List Char) :
    skipBlanks (keyPart s ++ rest) = keyPart s ++ rest := by
  obtain ⟨c, tail, heq, hc⟩ := head?_keyPart s
  rw [heq]
  exact skipBlanks_cons hc.isBlank _

theorem key_singleton (part : String) : key [part] = keyPart part := by
  rw [key, List.map_singleton, joinWith, List.intercalate_singleton]

theorem key_cons_cons (part next : String) (parts : List String) :
    key (part :: next :: parts) = keyPart part ++ '.' :: key (next :: parts) := by
  rw [key, key, List.map_cons, List.map_cons, joinWith, List.intercalate_cons_cons,
    List.append_assoc]
  rfl

/-- A path starts with a character of a key. -/
theorem head?_key {path : List String} (hne : path ≠ []) :
    ∃ c tail, key path = c :: tail ∧ IsKeyStart c := by
  obtain ⟨part, parts, rfl⟩ := List.exists_cons_of_ne_nil hne
  obtain ⟨c, tail, heq, hc⟩ := head?_keyPart part
  cases parts with
  | nil => exact ⟨c, tail, by rw [key_singleton, heq], hc⟩
  | cons next parts => exact ⟨c, _, by rw [key_cons_cons, heq, List.cons_append], hc⟩

/-- A key is read back with the blanks after it. -/
theorem key?_key {parts : List String} (hne : parts ≠ []) {n : Nat} (hn : parts.length ≤ n)
    {rest : List Char} (h : EndsKey rest) :
    key? n (key parts ++ rest) = some (parts, skipBlanks rest) := by
  induction parts generalizing n with
  | nil => exact absurd rfl hne
  | cons part parts ih =>
    rw [List.length_cons] at hn
    obtain ⟨n, rfl⟩ : ∃ m, n = m + 1 := ⟨n - 1, by omega⟩
    cases parts with
    | nil =>
      rw [key_singleton, key?, skipBlanks_keyPart, keyPart?_keyPart part h.bare,
        Option.bind_eq_bind, Option.bind_some]
      dsimp only
      split
      · next heq => exact absurd (congrArg List.head? heq) h.dot
      · rfl
    | cons next parts =>
      rw [key_cons_cons, List.append_assoc, List.cons_append, key?, skipBlanks_keyPart,
        keyPart?_keyPart part (by simp; decide), Option.bind_eq_bind, Option.bind_some]
      dsimp only
      rw [skipBlanks_cons rfl]
      show (key? n (key (next :: parts) ++ rest)).map _ = _
      rw [ih (List.cons_ne_nil _ _) (by omega)]
      rfl

/-! ## Lines -/

/-- The line that gives a key its value. -/
def assignmentText (k : String) (value : List Char) : List Char :=
  keyPart k ++ " = ".toList ++ value ++ ['\n']

/-- The line above the entries of a table, or of an item of a list of tables. -/
def headerText (isItem : Bool) (path : List String) : List Char :=
  if isItem then "[[".toList ++ key path ++ "]]\n".toList else '[' :: (key path ++ [']', '\n'])

/-- The line that a header is read as. -/
def header (isItem : Bool) (path : List String) : Line :=
  if isItem then .itemHeader path else .tableHeader path

/-- An assignment is read from its line. -/
theorem line?_assignment (k : String) {value : List Char} {d : Datum}
    (h : Denotes (depthLimit - 1) value d) (rest : List Char) :
    line? (assignmentText k value ++ rest) = some (.assignment [k] d, rest) := by
  have htext : assignmentText k value ++ rest =
      key [k] ++ (' ' :: '=' :: ' ' :: (value ++ '\n' :: rest)) := by
    simp [assignmentText, key_singleton]
  have hends : EndsKey (' ' :: '=' :: ' ' :: (value ++ '\n' :: rest)) :=
    ⟨by simp; decide, show some '=' ≠ some '.' by decide⟩
  have hkey := key?_key (List.cons_ne_nil k []) (n := depthLimit) (Nat.le_add_left 1 79) hends
  have hvalue := h.read (2 * (' ' :: (value ++ '\n' :: rest)).length + 2) ('\n' :: rest)
    (by simp; omega) (endsValue_cons (.inl rfl) rest)
  obtain ⟨c, tail, hc, hstart⟩ := head?_key (List.cons_ne_nil k [])
  have hbracket : ∀ more, key [k] ++ (' ' :: '=' :: ' ' :: (value ++ '\n' :: rest)) ≠
      '[' :: more := by
    intro more heq
    rw [hc] at heq
    exact hstart.ne (by decide) (List.cons.inj heq).1
  rw [htext]
  unfold line?
  split
  · next heq => exact absurd heq (hbracket _)
  · next heq => exact absurd heq (hbracket _)
  · obtain ⟨x, more, rfl, hx⟩ := h.head
    rw [hkey, Option.bind_eq_bind, Option.bind_some]
    show (value? _ _ (skipBlanks (x :: (more ++ '\n' :: rest))) >>= _) = _
    rw [skipBlanks_cons hx.1]
    show (value? _ _ (x :: more ++ '\n' :: rest) >>= _) = _
    rw [hvalue]
    rfl

theorem endsKey_bracket (rest : List Char) : EndsKey (']' :: rest) :=
  ⟨by simp; decide, show some ']' ≠ some '.' by decide⟩

/-- A header is read from its line. -/
theorem line?_header (isItem : Bool) {path : List String} (hne : path ≠ [])
    (hn : path.length ≤ depthLimit) (rest : List Char) :
    line? (headerText isItem path ++ rest) = some (header isItem path, rest) := by
  cases isItem with
  | true =>
    have hkey := key?_key hne hn (endsKey_bracket (']' :: '\n' :: rest))
    have htext : headerText true path ++ rest =
        '[' :: '[' :: (key path ++ ']' :: ']' :: '\n' :: rest) := by
      simp [headerText]
    rw [htext, line?, hkey]
    rfl
  | false =>
    have hkey := key?_key hne hn (endsKey_bracket ('\n' :: rest))
    have htext : headerText false path ++ rest = '[' :: (key path ++ ']' :: '\n' :: rest) := by
      simp [headerText]
    obtain ⟨c, tail, hc, hstart⟩ := head?_key hne
    rw [htext, line?, hkey]
    · rfl
    · intro more heq
      rw [hc] at heq
      exact hstart.ne (by decide) (List.cons.inj heq).1

/-! ## Documents -/

/-- A character that a line starts with. -/
def IsLineStart (c : Char) : Prop :=
  c = '[' ∨ IsKeyStart c

instance (c : Char) : Decidable (IsLineStart c) :=
  inferInstanceAs (Decidable (_ ∨ _))

theorem IsLineStart.ne {c x : Char} (h : IsLineStart c) (hx : ¬ IsLineStart x) : c ≠ x := by
  rintro rfl
  exact hx h

theorem IsLineStart.isStart {c : Char} (h : IsLineStart c) : IsStart c := by
  refine ⟨?_, h.ne (by decide), h.ne (by decide), h.ne (by decide), h.ne (by decide)⟩
  simp [isBlank, h.ne (x := ' ') (by decide), h.ne (x := '\t') (by decide)]

/-- A text of lines, some of them empty, is read as the others. -/
inductive Lists : List Char → List Line → Prop where
  | nil : Lists [] []
  | blank {cs : List Char} {ls : List Line} (h : Lists cs ls) : Lists ('\n' :: cs) ls
  | line {t cs : List Char} {l : Line} {ls : List Line}
    (hstart : ∃ c tail, t = c :: tail ∧ IsLineStart c)
    (hline : ∀ rest, line? (t ++ rest) = some (l, rest)) (h : Lists cs ls) :
    Lists (t ++ cs) (l :: ls)

/-- Lines may be read one text after the other. -/
theorem Lists.append {cs cs' : List Char} {ls ls' : List Line} (h : Lists cs ls)
    (h' : Lists cs' ls') : Lists (cs ++ cs') (ls ++ ls') := by
  induction h with
  | nil => exact h'
  | blank _ ih => exact .blank ih
  | line hstart hline _ ih =>
    rw [List.append_assoc]
    exact .line hstart hline ih

theorem Lists.assignment {k : String} {value : List Char} {d : Datum}
    (h : Denotes (depthLimit - 1) value d) {cs : List Char} {ls : List Line} (hcs : Lists cs ls) :
    Lists (assignmentText k value ++ cs) (.assignment [k] d :: ls) := by
  obtain ⟨c, tail, hc, hstart⟩ := head?_keyPart k
  refine .line ⟨c, tail ++ " = ".toList ++ value ++ ['\n'], ?_, .inr hstart⟩
    (line?_assignment k h) hcs
  rw [assignmentText, hc]
  rfl

theorem Lists.header (isItem : Bool) {path : List String} (hne : path ≠ [])
    (hn : path.length ≤ depthLimit) {cs : List Char} {ls : List Line} (hcs : Lists cs ls) :
    Lists (headerText isItem path ++ cs) (header isItem path :: ls) := by
  refine .line ?_ (line?_header isItem hne hn) hcs
  cases isItem with
  | true => exact ⟨'[', _, rfl, .inl rfl⟩
  | false => exact ⟨'[', _, rfl, .inl rfl⟩

/-- A text that lists some lines is read for them, if there is fuel for each of its characters. -/
theorem Lists.lines?_eq {cs : List Char} {ls : List Line} (h : Lists cs ls) {n : Nat}
    (hn : cs.length < n) : lines? n cs = some ls := by
  induction h generalizing n with
  | nil =>
    obtain ⟨n, rfl⟩ : ∃ m, n = m + 1 := ⟨n - 1, by omega⟩
    rfl
  | blank _ ih =>
    rw [List.length_cons] at hn
    obtain ⟨n, rfl⟩ : ∃ m, n = m + 1 := ⟨n - 1, by omega⟩
    have hlines := ih (n := n + 1) (by omega)
    rw [lines?] at hlines ⊢
    rwa [List.length_cons, skipLines_newline]
  | @line t cs l ls hstart hline _ ih =>
    obtain ⟨c, tail, rfl, hstart⟩ := hstart
    rw [List.length_append, List.length_cons] at hn
    obtain ⟨n, rfl⟩ : ∃ m, n = m + 1 := ⟨n - 1, by omega⟩
    have hskip : skipLines (c :: tail ++ cs).length (c :: tail ++ cs) = c :: tail ++ cs :=
      hstart.isStart.skipLines _ _
    rw [lines?, hskip]
    split
    · next heq => cases heq
    · rw [hline, Option.bind_eq_bind, Option.bind_some]
      dsimp only
      rw [ih (by omega)]
      rfl

/-- No line starts with a byte order mark. -/
theorem Lists.skipMark {cs : List Char} {ls : List Line} (h : Lists cs ls) : skipMark cs = cs := by
  cases h with
  | nil => rfl
  | blank _ => rfl
  | line hstart _ _ =>
    obtain ⟨c, tail, rfl, hstart⟩ := hstart
    rw [List.cons_append, Toml.skipMark]
    intro rest heq
    exact hstart.ne (by decide) (List.cons.inj heq).1

end ProbeCampaign.Toml
