import Mathlib.Tactic
import ProbeCampaign.Proofs.Text.Split
import ProbeCampaign.Toml.Parser
import ProbeCampaign.Toml.Printer

/-!
# TOML texts and keys read back

A text is written in one of four forms, and each is read back: on one line with escapes
(`basic?_flatMap_escape`) or without (`literal?_append`), over several lines with escapes
(`readsLines_escapeLines`) or without (`readsLines_literal`). Over several lines the marks are read
in runs, of which the last may belong to the fence. The form that is chosen fits the text
(`text?_text`), and so does the form of a key (`keyPart?_keyPart`).
-/

namespace ProbeCampaign.Hex

theorem value?_upperDigit {n : Nat} (h : n < 16) : value? (upperDigit n) = some n := by
  interval_cases n <;> rfl

end ProbeCampaign.Hex

namespace ProbeCampaign.Toml

/-! ## Escapes -/

/-- A byte is read from two digits. -/
theorem codePoint?_byte {c : Char} (h : c.toNat < 256) :
    codePoint? ['0', '0', Hex.upperDigit (c.toNat / 16), Hex.upperDigit (c.toNat % 16)] =
      some c := by
  have hzero : Hex.value? '0' = some 0 := rfl
  have hnumber : Hex.number? ['0', '0', Hex.upperDigit (c.toNat / 16),
      Hex.upperDigit (c.toNat % 16)] = some c.toNat := by
    simp only [Hex.number?, List.foldl_cons, List.foldl_nil, hzero,
      Hex.value?_upperDigit (show c.toNat / 16 < 16 by omega),
      Hex.value?_upperDigit (show c.toNat % 16 < 16 by omega)]
    show some (16 * (16 * (16 * (16 * 0 + 0) + 0) + c.toNat / 16) + c.toNat % 16) = some c.toNat
    rw [show 16 * (16 * (16 * (16 * 0 + 0) + 0) + c.toNat / 16) + c.toNat % 16 = c.toNat by omega]
  rw [codePoint?, hnumber, Option.bind_eq_bind, Option.bind_some, if_pos (.inl (by omega)),
    Char.ofNat_toNat]
  rfl

/-- An escape: what comes after the backslash stands for the character and goes on in its line. -/
structure IsEscape (c : Char) (e : List Char) : Prop where
  read : ∀ rest, escape? (e ++ rest) = some (c, rest)
  head : ∃ x tail, e = x :: tail ∧ isBlank x = false ∧ x ≠ '\n' ∧ x ≠ '\r'

/-- A character stands for itself or is escaped. -/
theorem escape_cases (c : Char) :
    (escape c = [c] ∧ c ≠ '"' ∧ c ≠ '\\' ∧ c ≠ '\n' ∧ isPlain c = true) ∨
      ∃ e, escape c = '\\' :: e ∧ IsEscape c e := by
  unfold escape
  split_ifs with h1 h2 h3 h4 h5 h6 h7 h8
  on_goal 8 =>
    refine .inr ⟨_, rfl, fun rest => ?_, _, _, rfl, by decide, by decide, by decide⟩
    have hcode := codePoint?_byte (c := c) (by omega)
    rw [List.cons_append, List.cons_append, List.cons_append, List.cons_append, List.cons_append,
      List.nil_append, escape?, hcode]
    rfl
  on_goal 8 =>
    refine .inl ⟨rfl, h6, h7, h3, ?_⟩
    have hplain : 32 ≤ c.toNat ∧ c.toNat ≠ 127 := by omega
    simp [isPlain, hplain]
  all_goals
    subst c
    exact .inr ⟨_, rfl, fun rest => rfl, _, _, rfl, by decide, by decide, by decide⟩

/-- A character of a text in one line is read however it is written. -/
theorem basic?_escape (fuel : Nat) (c : Char) (rest : List Char) :
    basic? (fuel + 1) (escape c ++ rest) = (basic? fuel rest).map (consTo c) := by
  rcases escape_cases c with ⟨heq, hquote, hback, -, hplain⟩ | ⟨e, heq, hread, -⟩
  · rw [heq, List.singleton_append, basic?, if_neg hquote, if_neg hback, if_pos hplain]
  · rw [heq, List.cons_append, basic?, if_neg (by decide), if_pos rfl, hread]
    rfl

theorem one_le_length_escape (c : Char) : 1 ≤ (escape c).length := by
  rcases escape_cases c with ⟨heq, -⟩ | ⟨e, heq, -⟩
  · rw [heq, List.length_singleton]
  · rw [heq, List.length_cons]
    omega

theorem length_le_flatMap_escape (cs : List Char) : cs.length ≤ (cs.flatMap escape).length := by
  induction cs with
  | nil => rfl
  | cons c cs ih =>
    have hone := one_le_length_escape c
    rw [List.flatMap_cons, List.length_append, List.length_cons]
    omega

/-! ## Blanks and line breaks -/

theorem skipBlanks_cons {c : Char} (h : isBlank c = false) (cs : List Char) :
    skipBlanks (c :: cs) = c :: cs :=
  List.dropWhile_cons_of_neg (by simp [h])

theorem newline?_eq_none {cs : List Char} (h : ∀ c ∈ cs.head?, c ≠ '\n' ∧ c ≠ '\r') :
    newline? cs = none := by
  unfold newline?
  split
  · exact absurd rfl (h '\n' rfl).1
  · exact absurd rfl (h '\r' rfl).2
  · rfl

theorem ne_of_isPlain {c : Char} (h : isPlain c = true) : c ≠ '\n' ∧ c ≠ '\r' := by
  constructor
  · rintro rfl
    exact absurd h (by decide)
  · rintro rfl
    exact absurd h (by decide)

/-! ## Texts on one line -/

/-- A text with escapes is read up to its quotation mark. -/
theorem basic?_flatMap_escape (cs rest : List Char) {fuel : Nat} (h : cs.length < fuel) :
    basic? fuel (cs.flatMap escape ++ '"' :: rest) = some (cs, rest) := by
  induction cs generalizing fuel with
  | nil =>
    obtain ⟨n, rfl⟩ : ∃ n, fuel = n + 1 := ⟨fuel - 1, by omega⟩
    rfl
  | cons c cs ih =>
    rw [List.length_cons] at h
    obtain ⟨n, rfl⟩ : ∃ n, fuel = n + 1 := ⟨fuel - 1, by omega⟩
    rw [List.flatMap_cons, List.append_assoc, basic?_escape, ih (by omega)]
    rfl

/-- A text without escapes is read up to its apostrophe. -/
theorem literal?_append {cs : List Char} (h : ∀ c ∈ cs, isPlain c = true ∧ c ≠ '\'')
    (rest : List Char) : literal? (cs ++ '\'' :: rest) = some (cs, rest) := by
  induction cs with
  | nil => rfl
  | cons c cs ih =>
    obtain ⟨⟨hplain, hmark⟩, hcs⟩ := List.forall_mem_cons.1 h
    rw [List.cons_append, literal?, if_neg hmark, if_pos hplain, ih hcs]
    rfl

/-! ## Texts over several lines -/

/-- An induction along the runs of a mark, cut after every third mark. -/
theorem runs_induction (mark : Char) {P : List Char → Prop}
    (stop : ∀ n ≤ 2, P (List.replicate n mark))
    (third : ∀ cs, P cs → P (mark :: mark :: mark :: cs))
    (step : ∀ n ≤ 2, ∀ c ≠ mark, ∀ cs, P cs → P (List.replicate n mark ++ c :: cs)) :
    ∀ cs, P cs
  | [] => stop 0 (by omega)
  | [c] => by
    by_cases hc : c = mark
    · subst hc
      exact stop 1 (by omega)
    · exact step 0 (by omega) c hc [] (stop 0 (by omega))
  | [c, d] => by
    by_cases hc : c = mark
    · by_cases hd : d = mark
      · subst hc hd
        exact stop 2 (by omega)
      · subst hc
        exact step 1 (by omega) d hd [] (stop 0 (by omega))
    · exact step 0 (by omega) c hc [d] (runs_induction _ stop third step [d])
  | c :: d :: e :: cs => by
    by_cases hc : c = mark
    · by_cases hd : d = mark
      · by_cases he : e = mark
        · subst hc hd he
          exact third cs (runs_induction _ stop third step cs)
        · subst hc hd
          exact step 2 (by omega) e he cs (runs_induction _ stop third step cs)
      · subst hc
        exact step 1 (by omega) d hd (e :: cs) (runs_induction _ stop third step (e :: cs))
    · exact step 0 (by omega) c hc (d :: e :: cs)
        (runs_induction _ stop third step (d :: e :: cs))

theorem takeWhile_replicate {mark : Char} {rest : List Char} (h : rest.head? ≠ some mark)
    (n : Nat) :
    (List.replicate n mark ++ rest).takeWhile (· = mark) = List.replicate n mark := by
  refine Text.takeWhile_run (fun c hc => decide_eq_false ?_) (by simp)
  rintro rfl
  exact h hc

/-- The fuel that a text over several lines needs is its length. -/
def ReadsLines (mark : Char) (text : List Char) (r : List Char × List Char) : Prop :=
  ∀ fuel, r.1.length < fuel → multiline? mark fuel text = some r

/-- The fence ends the text, with at most two marks in front of it. -/
theorem readsLines_fence {mark : Char} {n : Nat} (hn : n ≤ 2) {rest : List Char}
    (h : rest.head? ≠ some mark) :
    ReadsLines mark (List.replicate n mark ++ (mark :: mark :: mark :: rest))
      (List.replicate n mark, rest) := by
  intro fuel hfuel
  obtain ⟨m, rfl⟩ : ∃ m, fuel = m + 1 := ⟨fuel - 1, by omega⟩
  have htext : List.replicate n mark ++ (mark :: mark :: mark :: rest) =
      List.replicate (n + 3) mark ++ rest := by
    rw [List.replicate_add, List.append_assoc]
    rfl
  have hrun : quoteRun mark (List.replicate (n + 3) mark ++ rest) = (n, some rest) := by
    have hmin : min (n + 3 - 3) 2 = n := by omega
    unfold quoteRun
    rw [takeWhile_replicate h, List.length_replicate]
    dsimp only
    rw [if_neg (by omega), hmin,
      show (List.replicate (n + 3) mark ++ rest).drop (n + 3) = rest from
        List.drop_left' List.length_replicate]
  rw [htext]
  rw [List.replicate_succ, List.cons_append] at hrun ⊢
  rw [multiline?, if_pos rfl, hrun]

/-- At most two marks in front of another character belong to the text. -/
theorem ReadsLines.run {mark c : Char} {text : List Char} {r : List Char × List Char}
    (h : ReadsLines mark (c :: text) r) (hc : c ≠ mark) {n : Nat} (hn : n ≤ 2) :
    ReadsLines mark (List.replicate n mark ++ c :: text) (List.replicate n mark ++ r.1, r.2) := by
  intro fuel hfuel
  rw [List.length_append, List.length_replicate] at hfuel
  cases n with
  | zero => exact h fuel (by omega)
  | succ n =>
    obtain ⟨m, rfl⟩ : ∃ m, fuel = m + 1 := ⟨fuel - 1, by omega⟩
    have hrun : quoteRun mark (List.replicate (n + 1) mark ++ c :: text) = (n + 1, none) := by
      unfold quoteRun
      rw [takeWhile_replicate (by simpa using hc), List.length_replicate]
      dsimp only
      rw [if_pos (by omega)]
    have hdrop : (List.replicate (n + 1) mark ++ c :: text).drop (n + 1) = c :: text :=
      List.drop_left' List.length_replicate
    rw [List.replicate_succ, List.cons_append] at hrun hdrop ⊢
    rw [multiline?, if_pos rfl, hrun]
    dsimp only
    rw [hdrop, h m (by omega)]
    rfl

/-- A character that is read in one step. -/
theorem ReadsLines.step {mark c : Char} {e text : List Char} {r : List Char × List Char}
    (h : ReadsLines mark text r)
    (hstep : ∀ fuel, multiline? mark (fuel + 1) (e ++ text) =
      (multiline? mark fuel text).map (consTo c)) :
    ReadsLines mark (e ++ text) (consTo c r) := by
  intro fuel hfuel
  rw [consTo, List.length_cons] at hfuel
  obtain ⟨m, rfl⟩ : ∃ m, fuel = m + 1 := ⟨fuel - 1, by omega⟩
  rw [hstep, h m (by omega)]
  rfl

theorem multiline?_newline {mark : Char} (h : mark ≠ '\n') (fuel : Nat) (text : List Char) :
    multiline? mark (fuel + 1) ('\n' :: text) = (multiline? mark fuel text).map (consTo '\n') := by
  rw [multiline?, if_neg h.symm, if_neg (fun hback => absurd hback.1 (by decide))]
  rfl

/-- A plain character is read for itself. -/
theorem multiline?_plain {mark c : Char} (hc : c ≠ mark) (hback : ¬(c = '\\' ∧ mark = '"'))
    (hplain : isPlain c = true) (fuel : Nat) (text : List Char) :
    multiline? mark (fuel + 1) (c :: text) = (multiline? mark fuel text).map (consTo c) := by
  have hnewline : newline? (c :: text) = none :=
    newline?_eq_none (by simpa using ne_of_isPlain hplain)
  rw [multiline?, if_neg hc, if_neg hback, hnewline]
  dsimp only
  rw [if_pos hplain]

/-- An escape is read for its character. -/
theorem multiline?_isEscape {c : Char} {e : List Char} (h : IsEscape c e) (fuel : Nat)
    (text : List Char) :
    multiline? '"' (fuel + 1) ('\\' :: (e ++ text)) =
      (multiline? '"' fuel text).map (consTo c) := by
  obtain ⟨x, tail, rfl, hblank, hfeed, hreturn⟩ := h.head
  have hcontinued : continued? (x :: tail ++ text) = none := by
    rw [List.cons_append, continued?, skipBlanks_cons hblank,
      newline?_eq_none (by simpa using ⟨hfeed, hreturn⟩)]
    rfl
  rw [multiline?, if_neg (by decide), if_pos ⟨rfl, rfl⟩, hcontinued]
  dsimp only
  rw [h.read]
  rfl

/-- A character of a text in several lines is read however it is written. -/
theorem multiline?_escape {c : Char} (hquote : c ≠ '"') (fuel : Nat) (text : List Char) :
    multiline? '"' (fuel + 1) (escape c ++ text) = (multiline? '"' fuel text).map (consTo c) := by
  rcases escape_cases c with ⟨heq, -, hback, -, hplain⟩ | ⟨e, heq, hescape⟩
  · rw [heq]
    exact multiline?_plain hquote (fun h => hback h.1) hplain fuel text
  · rw [heq]
    exact multiline?_isEscape hescape fuel text

/-- Up to two marks in a row are written as they are. -/
theorem escapeLines_replicate (n : Nat) (hn : n ≤ 2) (cs : List Char) :
    escapeLines 0 (List.replicate n '"' ++ cs) = List.replicate n '"' ++ escapeLines n cs := by
  interval_cases n
  · rfl
  · rfl
  · rfl

/-- A character that is no quotation mark ends the run of those before it. -/
theorem escapeLines_cons {c : Char} (hc : c ≠ '"') (run : Nat) (cs : List Char) :
    escapeLines run (c :: cs) = (if c = '\n' then ['\n'] else escape c) ++ escapeLines 0 cs := by
  rw [escapeLines, if_neg hc]
  split_ifs with hfeed
  · rfl
  · rfl

/-- A text over several lines with escapes is read up to its fence. -/
theorem readsLines_escapeLines (cs : List Char) {rest : List Char}
    (h : rest.head? ≠ some '"') :
    ReadsLines '"' (escapeLines 0 cs ++ ('"' :: '"' :: '"' :: rest)) (cs, rest) := by
  induction cs using runs_induction '"' with
  | stop n hn =>
    have hrun := escapeLines_replicate n hn []
    rw [List.append_nil, escapeLines, List.append_nil] at hrun
    rw [hrun]
    exact readsLines_fence hn h
  | third cs ih =>
    -- The third mark is escaped, so a backslash ends the run of the first two.
    have hquote : IsEscape '"' ['"'] :=
      ⟨fun rest => rfl, _, _, rfl, by decide, by decide, by decide⟩
    exact ReadsLines.run (n := 2) (ih.step (e := ['\\', '"']) fun fuel =>
      multiline?_isEscape hquote fuel _) (by decide) le_rfl
  | step n hn c hc cs ih =>
    rw [escapeLines_replicate n hn, escapeLines_cons hc, List.append_assoc, List.append_assoc]
    have hread : ReadsLines '"' ((if c = '\n' then ['\n'] else escape c) ++
        (escapeLines 0 cs ++ ('"' :: '"' :: '"' :: rest))) (c :: cs, rest) := by
      split_ifs with hfeed
      · subst hfeed
        exact ih.step fun fuel => multiline?_newline (by decide) fuel _
      · exact ih.step fun fuel => multiline?_escape hc fuel _
    have hhead : ∃ x tail, (if c = '\n' then ['\n'] else escape c) = x :: tail ∧ x ≠ '"' := by
      split_ifs with hfeed
      · exact ⟨_, _, rfl, by decide⟩
      · rcases escape_cases c with ⟨heq, -⟩ | ⟨e, heq, -⟩
        · exact ⟨_, _, heq, hc⟩
        · exact ⟨_, _, heq, by decide⟩
    obtain ⟨x, tail, hx, hmark⟩ := hhead
    rw [hx, List.cons_append] at hread ⊢
    exact hread.run hmark hn

/-- A text over several lines without escapes is read up to its fence. -/
theorem readsLines_literal (cs : List Char) {rest : List Char} (h : rest.head? ≠ some '\'')
    (hplain : ∀ c ∈ cs, isPlain c = true ∨ c = '\n')
    (hruns : ¬ List.replicate 3 '\'' <:+: cs) :
    ReadsLines '\'' (cs ++ ('\'' :: '\'' :: '\'' :: rest)) (cs, rest) := by
  induction cs using runs_induction '\'' with
  | stop n hn => exact readsLines_fence hn h
  | third cs ih => exact absurd ⟨[], cs, rfl⟩ hruns
  | step n hn c hc cs ih =>
    obtain ⟨hplainc, hcs⟩ := List.forall_mem_cons.1 fun x hx =>
      hplain x (List.mem_append_right _ hx)
    have hread := ih hcs fun hthree =>
      hruns (hthree.trans ((List.suffix_cons c cs).isInfix.trans (List.suffix_append _ _).isInfix))
    have hstep : ReadsLines '\'' (c :: (cs ++ ('\'' :: '\'' :: '\'' :: rest))) (c :: cs, rest) := by
      rcases hplainc with hplainc | rfl
      · exact hread.step (e := [c]) fun fuel =>
          multiline?_plain hc (fun hback => absurd hback.2 (by decide)) hplainc fuel _
      · exact hread.step (e := ['\n']) fun fuel => multiline?_newline (by decide) fuel _
    rw [List.append_assoc]
    exact hstep.run hc hn

/-- A text does not get shorter when it is escaped. -/
theorem length_le_escapeLines (run : Nat) (cs : List Char) :
    cs.length ≤ (escapeLines run cs).length := by
  induction cs generalizing run with
  | nil => exact le_rfl
  | cons c cs ih =>
    have hrest := ih 0
    have hnext := ih (run + 1)
    have hone := one_le_length_escape c
    unfold escapeLines
    split_ifs
    all_goals
      simp only [List.length_cons, List.length_append]
      omega

/-! ## Runs of marks -/

/-- The longest run and the run right before, after another character. -/
def runStep (mark : Char) (state : Nat × Nat) (c : Char) : Nat × Nat :=
  if c = mark then (max state.1 (state.2 + 1), state.2 + 1) else (state.1, 0)

theorem longestRun_eq (mark : Char) (cs : List Char) :
    longestRun mark cs = (cs.foldl (runStep mark) (0, 0)).1 :=
  rfl

/-- The longest run is never forgotten. -/
theorem le_foldl_runStep (mark : Char) (cs : List Char) (state : Nat × Nat) :
    state.1 ≤ (cs.foldl (runStep mark) state).1 := by
  induction cs generalizing state with
  | nil => exact le_rfl
  | cons c cs ih =>
    refine le_trans ?_ (ih (runStep mark state c))
    unfold runStep
    split_ifs
    · exact le_max_left _ _
    · exact le_rfl

/-- A run of marks makes it as long at least. -/
theorem le_foldl_runStep_replicate (mark : Char) (n : Nat) (state : Nat × Nat) :
    n ≠ 0 → state.2 + n ≤ ((List.replicate n mark).foldl (runStep mark) state).1 := by
  induction n generalizing state with
  | zero => exact fun h => absurd rfl h
  | succ n ih =>
    intro _
    rw [List.replicate_succ, List.foldl_cons, runStep, if_pos rfl]
    by_cases hn : n = 0
    · subst hn
      exact le_max_right _ _
    · have hrest := ih (max state.1 (state.2 + 1), state.2 + 1) hn
      dsimp only at hrest
      omega

/-- No run is longer than the longest. -/
theorem le_longestRun {mark : Char} {n : Nat} {cs : List Char}
    (h : List.replicate n mark <:+: cs) : n ≤ longestRun mark cs := by
  by_cases hn : n = 0
  · omega
  · obtain ⟨front, back, rfl⟩ := h
    rw [longestRun_eq, List.foldl_append, List.foldl_append]
    refine le_trans ?_ (le_foldl_runStep mark back _)
    exact le_trans (Nat.le_add_left n _) (le_foldl_runStep_replicate mark n _ hn)

/-- Without any run the mark does not occur. -/
theorem ne_of_longestRun {mark : Char} {cs : List Char} (h : longestRun mark cs = 0) :
    ∀ c ∈ cs, c ≠ mark := by
  rintro c hc rfl
  obtain ⟨front, back, rfl⟩ := List.append_of_mem hc
  have hone : 1 ≤ longestRun c (front ++ c :: back) := le_longestRun ⟨front, back, by simp⟩
  omega

/-! ## Forms -/

/-- Without control characters all but line breaks are plain. -/
theorem isPlain_of_control {cs : List Char} (h : (Shape.of cs).control = false) :
    ∀ c ∈ cs, isPlain c = true ∨ c = '\n' := by
  intro c hc
  have hnone : ¬ (!isPlain c && c != '\n') = true := List.any_eq_false.1 h c hc
  simp only [Bool.and_eq_true, Bool.not_eq_true', bne_iff_ne, not_and, not_not] at hnone
  cases hplain : isPlain c with
  | true => exact .inl rfl
  | false => exact .inr (hnone hplain)

/-- A text of its shape can be written between single marks. -/
theorem literal_fits {cs : List Char} (hcontrol : (Shape.of cs).control = false)
    (hnewline : (Shape.of cs).newline = false) (hmarks : (Shape.of cs).apostrophes = 0) :
    ∀ c ∈ cs, isPlain c = true ∧ c ≠ '\'' := by
  intro c hc
  refine ⟨?_, ne_of_longestRun hmarks c hc⟩
  rcases isPlain_of_control hcontrol c hc with hplain | rfl
  · exact hplain
  · have hmem : cs.contains '\n' = true := List.contains_iff_mem.2 hc
    rw [show cs.contains '\n' = false from hnewline] at hmem
    exact absurd hmem Bool.false_ne_true

/-- A form without escapes is chosen for a text that needs none. -/
theorem TextForm.of_eq_literal {s : Shape} (h : TextForm.of s = .literal) :
    s.control = false ∧ s.newline = false ∧ s.apostrophes = 0 := by
  unfold TextForm.of at h
  split_ifs at h with hbasic hliteral
  simp only [Bool.and_eq_true, Bool.not_eq_true', beq_iff_eq] at hliteral
  exact ⟨hliteral.1.1, hliteral.2, hliteral.1.2⟩

/-- A literal of several lines is chosen only if it can hold the text. -/
theorem TextForm.of_eq_multiLiteral {s : Shape} (h : TextForm.of s = .multiLiteral) :
    s.control = false ∧ s.apostrophes ≤ 2 := by
  unfold TextForm.of at h
  split_ifs at h with h1 h2 h3 h4
  simp only [Bool.and_eq_true, Bool.not_eq_true', decide_eq_true_eq] at h4
  exact h4

/-- A fence is read as the text inside it. A line break behind the opening marks is not part of the
text, so there is one where the text could start with its own. -/
theorem text?_fence {mark : Char} (hmark : mark = '"' ∨ mark = '\'') {cs inside rest : List Char}
    (hlength : cs.length ≤ inside.length)
    (hread : ReadsLines mark (inside ++ (mark :: mark :: mark :: rest)) (cs, rest))
    (hhead : '\n' ∉ cs → ∀ c ∈ inside.head?, c ≠ '\n' ∧ c ≠ '\r') :
    text? (fence mark (cs.contains '\n') inside ++ rest) = some (cs, rest) := by
  have htext : ∀ text, text? (mark :: mark :: mark :: text) =
      multiline? mark (text.length + 1) (dropNewline text) := by
    rcases hmark with rfl | rfl
    · exact fun text => rfl
    · exact fun text => rfl
  have hfence : fence mark (cs.contains '\n') inside ++ rest = mark :: mark :: mark ::
      ((if cs.contains '\n' then ['\n'] else []) ++
        (inside ++ (mark :: mark :: mark :: rest))) := by
    simp [fence]
  rw [hfence, htext]
  by_cases hfeed : '\n' ∈ cs
  · rw [if_pos (List.contains_iff_mem.2 hfeed)]
    exact hread _ (by simp; omega)
  · rw [if_neg (mt List.contains_iff_mem.1 hfeed), List.nil_append, dropNewline,
      newline?_eq_none, Option.getD_none]
    · exact hread _ (by simp; omega)
    · intro c hc
      cases inside with
      | nil =>
        obtain rfl := Option.some.inj hc
        rcases hmark with rfl | rfl <;> decide
      | cons x inside => exact hhead hfeed c hc

/-- A text without line breaks does not begin with one once it is escaped. -/
theorem head?_escapeLines {cs : List Char} (h : '\n' ∉ cs) :
    ∀ c ∈ (escapeLines 0 cs).head?, c ≠ '\n' ∧ c ≠ '\r' := by
  cases cs with
  | nil => exact fun c hc => absurd hc (Option.not_mem_none c)
  | cons x cs =>
    by_cases hx : x = '"'
    · subst hx
      intro c hc
      rw [← Option.some.inj hc]
      decide
    · have hfeed : x ≠ '\n' := by
        rintro rfl
        exact h List.mem_cons_self
      rw [escapeLines_cons hx, if_neg hfeed]
      rcases escape_cases x with ⟨heq, -, -, -, hplain⟩ | ⟨e, heq, -⟩
      · rw [heq]
        intro c hc
        rw [← Option.some.inj hc]
        exact ne_of_isPlain hplain
      · rw [heq]
        intro c hc
        rw [← Option.some.inj hc]
        decide

theorem lineText?_basic (cs rest : List Char) :
    lineText? (writeText .basic cs ++ rest) = some (cs, rest) := by
  have hlength := length_le_flatMap_escape cs
  rw [writeText, List.cons_append, List.append_assoc, lineText?]
  exact basic?_flatMap_escape cs rest (by rw [List.length_append]; omega)

theorem lineText?_literal {cs : List Char} (h : ∀ c ∈ cs, isPlain c = true ∧ c ≠ '\'')
    (rest : List Char) : lineText? (writeText .literal cs ++ rest) = some (cs, rest) := by
  rw [writeText, List.cons_append, List.append_assoc, lineText?]
  exact literal?_append h rest

/-- A text on one line does not start like a fence, if no mark follows it. -/
theorem text?_of_line {mark : Char} {inside rest : List Char}
    (hinside : inside.head? ≠ some mark) (hrest : rest.head? ≠ some mark) :
    text? (mark :: (inside ++ [mark]) ++ rest) =
      lineText? (mark :: (inside ++ [mark]) ++ rest) := by
  have hthird : ∀ tail, mark :: (inside ++ [mark]) ++ rest ≠ mark :: mark :: mark :: tail := by
    intro tail heq
    cases inside with
    | nil =>
      have htail : rest = mark :: tail := (List.cons.inj (List.cons.inj heq).2).2
      rw [htail] at hrest
      exact hrest rfl
    | cons x inside => exact hinside (congrArg some (List.cons.inj (List.cons.inj heq).2).1)
  unfold text?
  split
  · next heq =>
    obtain rfl := (List.cons.inj heq).1
    exact absurd heq (hthird _)
  · next heq =>
    obtain rfl := (List.cons.inj heq).1
    exact absurd heq (hthird _)
  · rfl

/-- No escaped text begins with a mark. -/
theorem head?_flatMap_escape (cs : List Char) : (cs.flatMap escape).head? ≠ some '"' := by
  cases cs with
  | nil => simp
  | cons c cs =>
    rw [List.flatMap_cons]
    rcases escape_cases c with ⟨heq, hquote, -⟩ | ⟨e, heq, -⟩
    · rw [heq]
      exact fun h => hquote (Option.some.inj h)
    · rw [heq]
      exact fun h => absurd (Option.some.inj h) (by decide)

/-- A text is read back in the form that fits it, if no mark follows it. -/
theorem text?_text (s : String) {rest : List Char} (hquote : rest.head? ≠ some '"')
    (hmark : rest.head? ≠ some '\'') : text? (text s ++ rest) = some (s.toList, rest) := by
  unfold text
  generalize s.toList = cs
  cases hform : TextForm.of (Shape.of cs) with
  | basic =>
    rw [← lineText?_basic cs rest]
    exact text?_of_line (head?_flatMap_escape cs) hquote
  | literal =>
    obtain ⟨hcontrol, hnewline, hmarks⟩ := TextForm.of_eq_literal hform
    have hfits := literal_fits hcontrol hnewline hmarks
    rw [← lineText?_literal hfits rest]
    refine text?_of_line (fun h => ?_) hmark
    exact (hfits '\'' (List.mem_of_head? h)).2 rfl
  | multiBasic =>
    exact text?_fence (.inl rfl) (length_le_escapeLines 0 cs) (readsLines_escapeLines cs hquote)
      head?_escapeLines
  | multiLiteral =>
    obtain ⟨hcontrol, hmarks⟩ := TextForm.of_eq_multiLiteral hform
    have hplain := isPlain_of_control hcontrol
    have hruns : ¬ List.replicate 3 '\'' <:+: cs := by
      intro hrun
      have hthree : 3 ≤ (Shape.of cs).apostrophes := le_longestRun hrun
      omega
    refine text?_fence (.inr rfl) le_rfl (readsLines_literal cs hmark hplain hruns) ?_
    intro hfeed c hc
    have hmem := List.mem_of_head? hc
    rcases hplain c hmem with h | rfl
    · exact ne_of_isPlain h
    · exact absurd hmem hfeed

/-! ## Keys -/

/-- A character that a key starts with. -/
def IsKeyStart (c : Char) : Prop :=
  isBare c = true ∨ c = '"' ∨ c = '\''

instance (c : Char) : Decidable (IsKeyStart c) :=
  inferInstanceAs (Decidable (_ ∨ _ ∨ _))

/-- Every part of a path starts with a character of a key. -/
theorem head?_keyPart (s : String) : ∃ c tail, keyPart s = c :: tail ∧ IsKeyStart c := by
  unfold keyPart
  dsimp only
  split_ifs with hbare
  · rw [Bool.and_eq_true, Bool.not_eq_true', List.isEmpty_eq_false_iff] at hbare
    obtain ⟨hne, hall⟩ := hbare
    obtain ⟨c, tail, hcs⟩ := List.exists_cons_of_ne_nil hne
    exact ⟨c, tail, hcs, .inl (List.all_eq_true.1 hall c (hcs ▸ List.mem_cons_self))⟩
  · exact ⟨_, _, rfl, .inr (.inl rfl)⟩
  · exact ⟨_, _, rfl, .inr (.inr rfl)⟩
  · exact ⟨_, _, rfl, .inr (.inl rfl)⟩

/-- A bare key is read to its end. -/
theorem keyPart?_bare {cs : List Char} (hne : cs ≠ []) (hall : ∀ c ∈ cs, isBare c = true)
    {rest : List Char} (h : ∀ c ∈ rest.head?, isBare c = false) :
    keyPart? (cs ++ rest) = some (String.ofList cs, rest) := by
  obtain ⟨c, tail, rfl⟩ := List.exists_cons_of_ne_nil hne
  have hc := hall c List.mem_cons_self
  unfold keyPart?
  split
  · next heq =>
    rw [(List.cons.inj heq).1] at hc
    exact absurd hc (by decide)
  · next heq =>
    rw [(List.cons.inj heq).1] at hc
    exact absurd hc (by decide)
  · rw [Text.takeWhile_run h hall]
    dsimp only
    rw [Text.dropWhile_run h hall]

/-- A part of a key is read back, if no bare character goes on. -/
theorem keyPart?_keyPart (s : String) {rest : List Char} (h : ∀ c ∈ rest.head?, isBare c = false) :
    keyPart? (keyPart s ++ rest) = some (s, rest) := by
  have hbasic : keyPart? (writeText .basic s.toList ++ rest) = some (s, rest) := by
    show (lineText? (writeText .basic s.toList ++ rest)).map _ = _
    rw [lineText?_basic, Option.map_some, String.ofList_toList]
  unfold keyPart
  dsimp only
  split_ifs with hbare hplain hliteral
  · rw [Bool.and_eq_true, Bool.not_eq_true', List.isEmpty_eq_false_iff] at hbare
    rw [keyPart?_bare hbare.1 (List.all_eq_true.1 hbare.2) h, String.ofList_toList]
  · exact hbasic
  · simp only [Bool.and_eq_true, Bool.not_eq_true', beq_iff_eq] at hliteral
    have hfits := literal_fits hliteral.1.1 hliteral.1.2 hliteral.2
    show (lineText? (writeText .literal s.toList ++ rest)).map _ = _
    rw [lineText?_literal hfits, Option.map_some, String.ofList_toList]
  · exact hbasic

end ProbeCampaign.Toml
