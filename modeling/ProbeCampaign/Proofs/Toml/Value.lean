import ProbeCampaign.Proofs.Text.Decimal
import ProbeCampaign.Proofs.Toml.Text

/-!
# TOML values read back

An integer of 64 bits is no date, no time and no number with a fraction, so it is read back from its
decimal form (`number?_ofInt`). With texts and truth values it makes up the plain values, and so do
lists of plain values (`Plain`). Each of them is read back, whichever lines its items stand on
(`exists_denotes`).
-/

namespace ProbeCampaign.Toml

/-- A text that goes on with no value: the line, the item or the list ends. -/
def EndsValue (rest : List Char) : Prop :=
  ∀ c ∈ rest.head?, c = '\n' ∨ c = ',' ∨ c = ']'

theorem endsValue_cons {c : Char} (h : c = '\n' ∨ c = ',' ∨ c = ']') (rest : List Char) :
    EndsValue (c :: rest) := by
  simpa [EndsValue] using h

theorem EndsValue.ne {rest : List Char} (h : EndsValue rest) {c : Char}
    (hc : c ∉ ['\n', ',', ']']) : rest.head? ≠ some c := by
  intro heq
  simpa using hc (by simpa using h c heq)

/-! ## Integers -/

section Digits

variable {ds rest : List Char}

theorem EndsValue.isDigit (hrest : EndsValue rest) :
    ∀ c ∈ rest.head?, Decimal.isDigit c = false := by
  intro c hc
  rcases hrest c hc with rfl | rfl | rfl <;> rfl

/-- Digits in front of another mark are no integer that a value ends. -/
theorem ne_of_endsValue (hds : ∀ c ∈ ds, Decimal.isDigit c = true) (hrest : EndsValue rest)
    (front : List Char) {tail : List Char} {c : Char}
    (hfront : ∀ x ∈ front, Decimal.isDigit x = true) (hdigit : Decimal.isDigit c = false)
    (hc : c ∉ ['\n', ',', ']']) :
    ds ++ rest ≠ front ++ c :: tail := by
  intro heq
  have htake := Text.takeWhile_run hrest.isDigit hds
  rw [heq, Text.takeWhile_run (by simpa using hdigit) hfront] at htake
  subst htake
  exact hrest.ne hc (by rw [List.append_cancel_left heq]; rfl)

/-- Digits are read up to what ends a value. -/
theorem digitRun?_append (hne : ds ≠ []) (hds : ∀ c ∈ ds, Decimal.isDigit c = true)
    (hrest : EndsValue rest) : digitRun? Decimal.isDigit (ds ++ rest) = some (ds, rest) := by
  have hmore : ∀ ds : List Char, (∀ c ∈ ds, Decimal.isDigit c = true) →
      digitRun?.more Decimal.isDigit (ds ++ rest) = (ds, rest) := by
    intro ds hds
    induction ds with
    | nil =>
      cases rest with
      | nil => rfl
      | cons c rest =>
        rcases hrest c rfl with rfl | rfl | rfl <;> rfl
    | cons d ds ih =>
      obtain ⟨hd, hds⟩ := List.forall_mem_cons.1 hds
      rw [List.cons_append, digitRun?.more]
      · rw [if_pos hd, ih hds]
        rfl
      · rintro c tail rfl
        exact absurd hd (by decide)
  obtain ⟨d, ds, rfl⟩ := List.exists_cons_of_ne_nil hne
  obtain ⟨hd, hds⟩ := List.forall_mem_cons.1 hds
  rw [List.cons_append, digitRun?, if_pos hd, hmore ds hds]
  rfl

/-- Digits alone are no date. -/
theorem date?_eq_none (hds : ∀ c ∈ ds, Decimal.isDigit c = true) (hrest : EndsValue rest) :
    date? (ds ++ rest) = none := by
  unfold date?
  split
  · next a b c d tail heq =>
    rw [if_neg]
    intro hall
    exact ne_of_endsValue hds hrest [a, b, c, d] (List.all_eq_true.1 hall) rfl
      (by decide) heq
  · rfl

/-- Nor are they a time of day. -/
theorem time?_eq_none (hds : ∀ c ∈ ds, Decimal.isDigit c = true) (hrest : EndsValue rest) :
    time? (ds ++ rest) = none := by
  have htwo : ∀ r, twoDigits? 0 23 (ds ++ rest) = some r → char? ':' r.2 = none := by
    intro r h
    unfold twoDigits? at h
    split at h
    · next a b tail heq =>
      dsimp only at h
      split_ifs at h with hdigits hrange
      rw [← Option.some.inj h]
      dsimp only
      unfold char?
      split
      · next x tail' =>
        rw [if_neg]
        rintro rfl
        rw [Bool.and_eq_true] at hdigits
        exact ne_of_endsValue hds hrest [a, b] (by simp [hdigits]) rfl (by decide) heq
      · rfl
    · cases h
  unfold time?
  cases hread : twoDigits? 0 23 (ds ++ rest) with
  | none => rfl
  | some r =>
    have hcolon := htwo r hread
    obtain ⟨hour, tail⟩ := r
    dsimp only at hcolon
    rw [Option.bind_eq_bind, Option.bind_some]
    dsimp only
    rw [hcolon]
    rfl

end Digits

/-- No date and no time starts with a sign. -/
theorem dateTime?_minus (cs : List Char) : date? ('-' :: cs) = none ∧ time? ('-' :: cs) = none := by
  constructor
  · unfold date?
    split
    · next heq =>
      rw [if_neg]
      rw [← (List.cons.inj heq).1]
      simp [Decimal.isDigit]
    · rfl
  · have htwo : twoDigits? 0 23 ('-' :: cs) = none := by
      cases cs with
      | nil => rfl
      | cons b cs => rfl
    rw [time?, htwo]
    rfl

theorem ofNat_append_ne (n : Nat) {rest : List Char} (hrest : EndsValue rest) {c : Char}
    (hdigit : Decimal.isDigit c = false) (hc : c ∉ ['\n', ',', ']']) (tail : List Char) :
    Decimal.ofNat n ++ rest ≠ c :: tail :=
  ne_of_endsValue (Decimal.all_isDigit_ofNat n) hrest [] (by simp) hdigit hc

/-- The digits of a natural number, up to what follows them. -/
theorem wholeDigits?_ofNat (n : Nat) {rest : List Char} (hrest : EndsValue rest) :
    wholeDigits? (Decimal.ofNat n ++ rest) = some (Decimal.ofNat n, rest) := by
  by_cases hzero : n = 0
  · have hdigits : Decimal.ofNat 0 = ['0'] := by decide +kernel
    rw [hzero, hdigits]
    rfl
  · have hhead := Decimal.head?_ofNat hzero
    rw [← digitRun?_append (Decimal.ofNat_ne_nil n) (Decimal.all_isDigit_ofNat n) hrest]
    obtain ⟨d, ds, hds⟩ := List.exists_cons_of_ne_nil (Decimal.ofNat_ne_nil n)
    rw [hds] at hhead ⊢
    rw [List.cons_append, wholeDigits?]
    intro tail heq
    exact hhead (congrArg some (List.cons.inj heq).1)

section Signed

variable {cs rest : List Char} {negative : Bool} {n : Nat}
  (hsign : sign cs = (negative, Decimal.ofNat n ++ rest)) (hrest : EndsValue rest)

include hsign hrest

/-- Nor are they a number with a fraction or an exponent. -/
theorem real?_eq_none : real? cs = none := by
  have hexponent : exponent? rest = none := by
    cases rest with
    | nil => rfl
    | cons c rest => rcases hrest c rfl with rfl | rfl | rfl <;> rfl
  have hpoint : ∀ tail, rest ≠ '.' :: tail := by
    rintro tail rfl
    exact hrest.ne (by decide) rfl
  unfold real?
  rw [hsign]
  dsimp only
  split
  · next heq => exact absurd heq (ofNat_append_ne n hrest rfl (by decide) _)
  · next heq => exact absurd heq (ofNat_append_ne n hrest rfl (by decide) _)
  · rw [wholeDigits?_ofNat n hrest, Option.bind_eq_bind, Option.bind_some]
    dsimp only
    rw [hexponent]
    dsimp only
    split
    · exact absurd rfl (hpoint _)
    · rfl

/-- They are an integer unless a base is given. -/
theorem integer?_eq (hbase : ∀ tail, ∀ c ∈ ['x', 'o', 'b'], cs ≠ '0' :: c :: tail) :
    integer? cs = (within64 (if negative then -n else n)).map (·, rest) := by
  unfold integer?
  split
  · exact absurd rfl (hbase _ 'x' (by decide))
  · exact absurd rfl (hbase _ 'o' (by decide))
  · exact absurd rfl (hbase _ 'b' (by decide))
  · rw [hsign]
    dsimp only
    rw [wholeDigits?_ofNat n hrest, Option.bind_eq_bind, Option.bind_some, Decimal.value_ofNat]

/-- So they are read as an integer. -/
theorem number?_eq (hdate : date? cs = none) (htime : time? cs = none)
    (hbase : ∀ tail, ∀ c ∈ ['x', 'o', 'b'], cs ≠ '0' :: c :: tail) :
    number? cs = (within64 (if negative then -n else n)).map (·, rest) := by
  have hnone : dateTime? cs = none := by
    unfold dateTime?
    rw [hdate, htime]
    rfl
  rw [number?, hnone, real?_eq_none hsign hrest, integer?_eq hsign hrest hbase]
  rfl

end Signed

/-- An integer of 64 bits is read back from its decimal form. -/
theorem number?_ofInt {n : Int} (hn : fitsInt64 n = true) {rest : List Char}
    (hrest : EndsValue rest) : number? (Decimal.ofInt n ++ rest) = some (.int n, rest) := by
  cases n with
  | ofNat k =>
    have hdigits := Decimal.all_isDigit_ofNat k
    have hsign : sign (Decimal.ofNat k ++ rest) = (false, Decimal.ofNat k ++ rest) := by
      unfold sign
      split
      · next heq => exact absurd heq (ofNat_append_ne k hrest rfl (by decide) _)
      · next heq => exact absurd heq (ofNat_append_ne k hrest rfl (by decide) _)
      · rfl
    have hbase : ∀ tail, ∀ c ∈ ['x', 'o', 'b'], Decimal.ofNat k ++ rest ≠ '0' :: c :: tail := by
      intro tail c hc
      refine ne_of_endsValue hdigits hrest ['0'] (List.forall_mem_singleton.2 rfl) ?_ ?_
      · fin_cases hc <;> rfl
      · fin_cases hc <;> decide
    rw [Decimal.ofInt, number?_eq hsign hrest (date?_eq_none hdigits hrest)
      (time?_eq_none hdigits hrest) hbase, if_neg Bool.false_ne_true, within64]
    rw [Int.ofNat_eq_natCast] at hn ⊢
    rw [if_pos hn]
    rfl
  | negSucc k =>
    have hsign : sign ('-' :: (Decimal.ofNat (k + 1) ++ rest)) =
        (true, Decimal.ofNat (k + 1) ++ rest) := rfl
    obtain ⟨hdate, htime⟩ := dateTime?_minus (Decimal.ofNat (k + 1) ++ rest)
    rw [Decimal.ofInt, List.cons_append, number?_eq hsign hrest hdate htime (by simp), if_pos rfl,
      within64]
    have hminus : Int.negSucc k = -((k + 1 : Nat) : Int) := rfl
    rw [hminus] at hn ⊢
    rw [if_pos hn]
    rfl

/-! ## Lines that are skipped -/

/-- A character that a value or a line may start with: it is not skipped, and no list ends. -/
def IsStart (c : Char) : Prop :=
  isBlank c = false ∧ c ≠ '#' ∧ c ≠ '\n' ∧ c ≠ '\r' ∧ c ≠ ']'

instance (c : Char) : Decidable (IsStart c) :=
  inferInstanceAs (Decidable (_ ∧ _ ∧ _ ∧ _ ∧ _))

/-- There is nothing to skip before a value. -/
theorem IsStart.skipLines {c : Char} (h : IsStart c) (n : Nat) (cs : List Char) :
    skipLines n (c :: cs) = c :: cs := by
  obtain ⟨hblank, hcomment, hfeed, hreturn, -⟩ := h
  have hskip : skipComment (c :: cs) = c :: cs := by
    unfold skipComment
    split
    · next heq => exact absurd (List.cons.inj heq).1 hcomment
    · rfl
  cases n with
  | zero => rfl
  | succ n =>
    rw [Toml.skipLines, skipBlanks_cons hblank, hskip,
      newline?_eq_none (by simpa using ⟨hfeed, hreturn⟩)]

theorem skipLines_newline (n : Nat) (cs : List Char) :
    skipLines (n + 1) ('\n' :: cs) = skipLines n cs :=
  rfl

theorem skipLines_blanks {bs : List Char} (h : ∀ c ∈ bs, isBlank c = true) (n : Nat)
    (cs : List Char) : skipLines (n + 1) (bs ++ cs) = skipLines (n + 1) cs := by
  have hskip : skipBlanks (bs ++ cs) = skipBlanks cs := List.dropWhile_append_of_pos h
  rw [skipLines, skipLines, hskip]

/-! ## Plain values -/

/-- A truth value, an integer of 64 bits or a text, or a list of such, nested at most `depth`
deep. -/
inductive Plain : Nat → Datum → Prop where
  | bool {depth : Nat} (b : Bool) : Plain depth (.bool b)
  | int {depth : Nat} {n : Int} (h : fitsInt64 n = true) : Plain depth (.int n)
  | text {depth : Nat} (s : String) : Plain depth (.text s)
  | list {depth : Nat} {items : List Datum} (h : ∀ d ∈ items, Plain depth d) :
    Plain (depth + 1) (.list items)

/-- A text is read as a value up to the end of the value. Twice its length is enough fuel. -/
structure Denotes (depth : Nat) (cs : List Char) (d : Datum) : Prop where
  head : ∃ c tail, cs = c :: tail ∧ IsStart c
  read : ∀ n rest, 2 * cs.length ≤ n → EndsValue rest →
    value? n depth (cs ++ rest) = some (d, rest)

/-- A value is read by its first character, and that leaves fuel for what is inside it. -/
theorem denotes_of_head {depth : Nat} {c : Char} {tail : List Char} {d : Datum} (hstart : IsStart c)
    (h : ∀ n rest, 2 * tail.length < n → EndsValue rest →
      value? (n + 1) depth (c :: (tail ++ rest)) = some (d, rest)) :
    Denotes depth (c :: tail) d where
  head := ⟨c, tail, rfl, hstart⟩
  read n rest hn hrest := by
    rw [List.length_cons] at hn
    obtain ⟨n, rfl⟩ : ∃ m, n = m + 1 := ⟨n - 1, by omega⟩
    exact h n rest (by omega) hrest

/-- A text starts with a mark. -/
theorem head?_text (s : String) : ∃ c tail, text s = c :: tail ∧ (c = '"' ∨ c = '\'') := by
  unfold text
  cases TextForm.of (Shape.of s.toList) with
  | basic => exact ⟨_, _, rfl, .inl rfl⟩
  | literal => exact ⟨_, _, rfl, .inr rfl⟩
  | multiBasic => exact ⟨_, _, rfl, .inl rfl⟩
  | multiLiteral => exact ⟨_, _, rfl, .inr rfl⟩

/-- A text is read back, in whatever form it is written. -/
theorem denotes_text (depth : Nat) (s : String) : Denotes depth (text s) (.text s) := by
  have hread : ∀ rest, EndsValue rest → text? (text s ++ rest) = some (s.toList, rest) :=
    fun rest hrest => text?_text s (hrest.ne (by decide)) (hrest.ne (by decide))
  obtain ⟨c, tail, htext, hmark⟩ := head?_text s
  rw [htext] at hread ⊢
  refine denotes_of_head ?_ fun n rest _ hrest => ?_
  · rcases hmark with rfl | rfl <;> decide
  · have hvalue : value? (n + 1) depth (c :: (tail ++ rest)) =
        (text? (c :: (tail ++ rest))).map fun r => (.text (String.ofList r.1), r.2) := by
      rcases hmark with rfl | rfl
      · rw [value?]
      · rw [value?]
    rw [hvalue, ← List.cons_append, hread rest hrest, Option.map_some, String.ofList_toList]

/-- Both truth values are read back. -/
theorem denotes_bool (depth : Nat) : Denotes depth ['t', 'r', 'u', 'e'] (.bool true) ∧
    Denotes depth ['f', 'a', 'l', 's', 'e'] (.bool false) := by
  constructor
  · exact denotes_of_head (by decide) fun n rest _ _ => by
      rw [List.cons_append, List.cons_append, List.cons_append, List.nil_append, value?]
  · exact denotes_of_head (by decide) fun n rest _ _ => by
      rw [List.cons_append, List.cons_append, List.cons_append, List.cons_append, List.nil_append,
        value?]

/-- An integer starts with a digit or its sign. -/
theorem head?_ofInt (n : Int) :
    ∃ c tail, Decimal.ofInt n = c :: tail ∧ (Decimal.isDigit c = true ∨ c = '-') := by
  cases n with
  | ofNat k =>
    obtain ⟨c, tail, heq⟩ := List.exists_cons_of_ne_nil (Decimal.ofNat_ne_nil k)
    exact ⟨c, tail, heq, .inl (Decimal.all_isDigit_ofNat k c (heq ▸ List.mem_cons_self))⟩
  | negSucc k => exact ⟨_, _, rfl, .inr rfl⟩

/-- An integer of 64 bits is read back. -/
theorem denotes_int (depth : Nat) {n : Int} (h : fitsInt64 n = true) :
    Denotes depth (Decimal.ofInt n) (.int n) := by
  have hread : ∀ rest, EndsValue rest → number? (Decimal.ofInt n ++ rest) = some (.int n, rest) :=
    fun rest hrest => number?_ofInt h hrest
  obtain ⟨c, tail, hdigits, hc⟩ := head?_ofInt n
  have hother : ∀ x, Decimal.isDigit x = false → x ≠ '-' → c ≠ x := by
    rintro x hx hminus rfl
    rcases hc with hc | hc
    · rw [hx] at hc
      exact absurd hc Bool.false_ne_true
    · exact hminus hc
  rw [hdigits] at hread ⊢
  refine denotes_of_head ?_ fun k rest _ hrest => ?_
  · refine ⟨?_, hother '#' rfl (by decide), hother '\n' rfl (by decide),
      hother '\r' rfl (by decide), hother ']' rfl (by decide)⟩
    simp [isBlank, hother ' ' rfl (by decide), hother '\t' rfl (by decide)]
  · rw [value?]
    · exact hread rest hrest
    all_goals
      intro _ heq
      exact hother _ rfl (by decide) (List.cons.inj heq).1

/-! ### Lists -/

theorem skipLines_comma (n : Nat) (cs : List Char) : skipLines n (',' :: cs) = ',' :: cs :=
  IsStart.skipLines (by decide) n cs

theorem skipLines_close (n : Nat) (cs : List Char) : skipLines n (']' :: cs) = ']' :: cs := by
  cases n with
  | zero => rfl
  | succ n => rfl

/-- An item is read if what stands in front of it is skipped. -/
theorem items?_item {depth : Nat} {t : List Char} {d : Datum} (h : Denotes depth t d) {n : Nat}
    (hn : 2 * t.length ≤ n) {cs rest : List Char} (hrest : EndsValue rest)
    (hskip : skipLines cs.length cs = t ++ rest) :
    items? (n + 1) depth cs =
      match skipLines rest.length rest with
      | ',' :: rest' => (items? n depth rest').map fun r => (d :: r.1, r.2)
      | ']' :: rest' => some ([d], rest')
      | _ => none := by
  obtain ⟨c, tail, rfl, -, -, -, -, hclose⟩ := h.head
  rw [items?, hskip]
  split
  · next heq => exact absurd (List.cons.inj heq).1 hclose
  · rw [h.read n rest hn hrest]
    rfl

/-- The line of an item. -/
def itemLine (t : List Char) : List Char :=
  "\n    ".toList ++ t ++ [',']

/-- A line break and the blanks in front of an item are skipped. -/
theorem skipLines_itemLine {t : List Char} (h : ∃ c tail, t = c :: tail ∧ IsStart c)
    (more : List Char) :
    skipLines (itemLine t ++ more).length (itemLine t ++ more) = t ++ ',' :: more := by
  obtain ⟨c, tail, rfl, hstart⟩ := h
  have htext : itemLine (c :: tail) ++ more =
      '\n' :: ([' ', ' ', ' ', ' '] ++ c :: (tail ++ ',' :: more)) := by
    simp [itemLine]
  rw [htext, List.length_cons, skipLines_newline, List.length_append, List.length_cons,
    List.length_cons, List.length_cons, List.length_cons, Nat.succ_add,
    skipLines_blanks (List.all_eq_true.1 rfl), hstart.skipLines]
  rfl

/-- Items on lines of their own are read up to the closing bracket. -/
theorem items?_lines {depth : Nat} {texts : List (List Char)} {items : List Datum}
    (h : List.Forall₂ (Denotes depth) texts items) {n : Nat} (rest : List Char)
    (hn : 2 * (texts.flatMap itemLine).length < n) :
    items? n depth (texts.flatMap itemLine ++ '\n' :: ']' :: rest) = some (items, rest) := by
  induction h generalizing n with
  | nil =>
    obtain ⟨n, rfl⟩ : ∃ m, n = m + 1 := ⟨n - 1, by omega⟩
    rw [items?]
    rfl
  | @cons t d texts items hd _ ih =>
    obtain ⟨n, rfl⟩ : ∃ m, n = m + 1 := ⟨n - 1, by omega⟩
    have hline : (itemLine t).length = t.length + 6 := by
      simp [itemLine]
    rw [List.flatMap_cons, List.length_append, hline] at hn
    rw [List.flatMap_cons, List.append_assoc,
      items?_item hd (by omega) (endsValue_cons (.inr (.inl rfl)) _) (skipLines_itemLine hd.head _),
      skipLines_comma]
    show (items? n depth _).map _ = _
    rw [ih (by omega)]
    rfl

/-- A list is read back from its items. A single item stands in the line of the brackets, several
stand on lines of their own. -/
theorem denotes_brackets {depth : Nat} {texts : List (List Char)} {items : List Datum}
    (h : List.Forall₂ (Denotes depth) texts items) :
    Denotes (depth + 1) (brackets texts) (.list items) := by
  have hvalue : ∀ n cs, value? (n + 1) (depth + 1) ('[' :: cs) =
      (items? n depth cs).map fun r => (.list r.1, r.2) := fun n cs => by
    rw [value?]
  unfold brackets
  split
  · cases h
    refine denotes_of_head (by decide) fun n rest hn _ => ?_
    obtain ⟨n, rfl⟩ : ∃ m, n = m + 1 := ⟨n - 1, by omega⟩
    rw [hvalue, items?]
    rfl
  · next t =>
    obtain ⟨d, items, hd, hnil, rfl⟩ := List.forall₂_cons_left_iff.1 h
    cases hnil
    obtain ⟨c, tail, rfl, hstart⟩ := hd.head
    refine denotes_of_head (by decide) fun n rest hn _ => ?_
    rw [List.length_append, List.length_singleton] at hn
    obtain ⟨n, rfl⟩ : ∃ m, n = m + 1 := ⟨n - 1, by omega⟩
    have hskip : skipLines (c :: tail ++ [']'] ++ rest).length (c :: tail ++ [']'] ++ rest) =
        c :: tail ++ ']' :: rest := by
      rw [List.append_assoc]
      exact hstart.skipLines _ _
    rw [hvalue, items?_item hd (by omega) (endsValue_cons (.inr (.inr rfl)) rest) hskip,
      skipLines_close]
    rfl
  · show Denotes (depth + 1) ('[' :: (texts.flatMap itemLine ++ ['\n', ']'])) (.list items)
    refine denotes_of_head (by decide) fun n rest hn _ => ?_
    rw [List.length_append] at hn
    rw [hvalue, List.append_assoc]
    show (items? n depth (texts.flatMap itemLine ++ '\n' :: ']' :: rest)).map _ = _
    rw [items?_lines h rest (by omega)]
    rfl

/-- Items that have texts have them all. -/
theorem exists_valueTexts? {depth : Nat} {items : List Datum}
    (h : ∀ d ∈ items, ∃ cs, valueText? d = some cs ∧ Denotes depth cs d) :
    ∃ texts, valueTexts? items = some texts ∧ List.Forall₂ (Denotes depth) texts items := by
  induction items with
  | nil => exact ⟨[], by rw [valueTexts?], .nil⟩
  | cons d items ih =>
    obtain ⟨⟨t, ht, hd⟩, hitems⟩ := List.forall_mem_cons.1 h
    obtain ⟨texts, htexts, hall⟩ := ih hitems
    refine ⟨t :: texts, ?_, .cons hd hall⟩
    rw [valueTexts?, ht, htexts]
    rfl

/-- A plain value has a text, and is read back from it. -/
theorem exists_denotes {depth : Nat} {d : Datum} (h : Plain depth d) :
    ∃ cs, valueText? d = some cs ∧ Denotes depth cs d := by
  induction h with
  | @bool depth b =>
    cases b with
    | true => exact ⟨_, rfl, (denotes_bool depth).1⟩
    | false => exact ⟨_, rfl, (denotes_bool depth).2⟩
  | @int depth n h => exact ⟨_, by rw [valueText?, if_pos h], denotes_int depth h⟩
  | @text depth s => exact ⟨_, by rw [valueText?], denotes_text depth s⟩
  | @list depth items _ ih =>
    obtain ⟨texts, htexts, hall⟩ := exists_valueTexts? ih
    exact ⟨brackets texts, by rw [valueText?, htexts]; rfl, denotes_brackets hall⟩

end ProbeCampaign.Toml
