import Mathlib.Tactic
import ProbeCampaign.Proofs.Distinct
import ProbeCampaign.Proofs.Text.Pattern
import ProbeCampaign.ValueList

/-!
# Rows of value lists

What looks like a URL ends before a line feed and does not depend on what follows it
(`stopsAt_urlLike`). So a list is read row by row: its values are those of its rows with a count
that is high enough (`mem_parse`), whatever the heading and the other rows are (`parse_rows`).
-/

namespace ProbeCampaign.ValueList

open Pattern (takeWhile_append_cons prefix_append_cons_iff)

variable {cs l rest row : List Char} {m : Nat} {v : String}

/-! ## URLs with a scheme -/

/-- How URLs with a scheme begin. -/
def schemes : List (List Char) :=
  ["https://".toList, "http://".toList, "HTTPS://".toList, "HTTP://".toList]

/-- A URL with a scheme goes up to the end of its path. -/
theorem withScheme_append_of_mem {s : List Char} (hs : s ∈ schemes) (rest : List Char) :
    withScheme (s ++ rest) = s.length + (rest.takeWhile isPathChar).length := by
  simp only [schemes, List.mem_cons, List.not_mem_nil, or_false] at hs
  rcases hs with rfl | rfl | rfl | rfl
  · rfl
  · rfl
  · rfl
  · rfl

/-- Without one of the four schemes there is none. A colon and two slashes behind the name of a
scheme would make one of them. -/
theorem withScheme_eq_zero (h : ∀ s ∈ schemes, ¬ s <+: cs) : withScheme cs = 0 := by
  simp only [schemes, List.forall_mem_cons] at h
  obtain ⟨hsecure, hplain, hsecureCapital, hcapital, -⟩ := h
  unfold withScheme
  split
  · dsimp only
    split
    · next heq =>
      cases heq
      exact absurd ⟨_, rfl⟩ hsecure
    · rfl
  · dsimp only
    split
    · next heq =>
      cases heq
      exact absurd ⟨_, rfl⟩ hplain
    · rfl
  · dsimp only
    split
    · next heq =>
      cases heq
      exact absurd ⟨_, rfl⟩ hsecureCapital
    · rfl
  · dsimp only
    split
    · next heq =>
      cases heq
      exact absurd ⟨_, rfl⟩ hcapital
    · rfl
  · rfl

/-- A line break ends a URL with a scheme. -/
theorem stopsAt_withScheme : Pattern.StopsAt withScheme '\n' := by
  intro l rest hl
  have hschemes : ∀ s ∈ schemes, '\n' ∉ s := by decide
  by_cases h : ∃ s ∈ schemes, s <+: l
  · obtain ⟨s, hs, path, rfl⟩ := h
    rw [List.append_assoc, withScheme_append_of_mem hs, withScheme_append_of_mem hs,
      takeWhile_append_cons (by decide), List.length_append]
    exact ⟨rfl, Nat.add_le_add_left (List.takeWhile_prefix _).length_le _⟩
  · have hnone : ∀ s ∈ schemes, ¬ s <+: l := fun s hs hinit => h ⟨s, hs, hinit⟩
    rw [withScheme_eq_zero hnone, withScheme_eq_zero fun s hs hinit =>
      hnone s hs ((prefix_append_cons_iff (hschemes s hs)).1 hinit)]
    exact ⟨rfl, Nat.zero_le _⟩

/-! ## Host names -/

/-- The length of a label at the head of a text. -/
def labelLength (cs : List Char) : Nat :=
  (cs.takeWhile isLabelChar).length

/-- The length of what follows a first label and a dot. -/
def afterLabel (fuel : Nat) (cs : List Char) : Nat :=
  match cs.drop (labelLength cs) with
  | '.' :: rest => if labelLength cs = 0 then 0 else afterDot fuel rest
  | _ => 0

theorem afterDot_succ (fuel : Nat) (cs : List Char) : afterDot (fuel + 1) cs =
    if afterLabel fuel cs = 0 then (cs.takeWhile isTailChar).length
    else labelLength cs + 1 + afterLabel fuel cs := rfl

theorem afterLabel_of_dot (h : cs.drop (labelLength cs) = '.' :: rest) (fuel : Nat) :
    afterLabel fuel cs = if labelLength cs = 0 then 0 else afterDot fuel rest := by
  rw [afterLabel, h]
  rfl

/-- A name needs a dot behind its label. -/
theorem afterLabel_of_no_dot (h : ∀ rest, cs.drop (labelLength cs) ≠ '.' :: rest) (fuel : Nat) :
    afterLabel fuel cs = 0 := by
  unfold afterLabel
  split
  · next rest hdrop => exact absurd hdrop (h rest)
  · rfl

/-- A name with dots has its first label, and what follows the dot. -/
theorem withDots_eq (cs : List Char) : withDots cs =
    if afterLabel cs.length cs = 0 then 0 else labelLength cs + 1 + afterLabel cs.length cs := by
  unfold withDots
  dsimp only
  split
  · next rest hdrop =>
    rw [afterLabel_of_dot hdrop]
    show (if labelLength cs = 0 then 0 else _) = _
    split
    · rfl
    · split
      · next heq => rw [heq, if_pos rfl]
      · next n heq =>
        rw [heq, if_neg (Nat.succ_ne_zero n)]
        rfl
  · next hother => rw [afterLabel_of_no_dot hother, if_pos rfl]

theorem labelLength_append (l rest : List Char) :
    labelLength (l ++ '\n' :: rest) = labelLength l :=
  congrArg List.length (takeWhile_append_cons (by decide) l rest)

theorem labelLength_le (l : List Char) : labelLength l ≤ l.length :=
  (List.takeWhile_prefix _).length_le

/-- What follows a dot ends before a line feed. -/
def Ends (fuel fuel' : Nat) (l rest : List Char) : Prop :=
  afterDot fuel (l ++ '\n' :: rest) = afterDot fuel' l ∧ afterDot fuel' l ≤ l.length

/-- A line break ends a name, however much fuel there is. -/
theorem afterLabel_append {fuel fuel' : Nat} (hl : '\n' ∉ l)
    (hafter : ∀ l' : List Char, l'.length < l.length → '\n' ∉ l' → Ends fuel fuel' l' rest) :
    afterLabel fuel (l ++ '\n' :: rest) = afterLabel fuel' l ∧
      (afterLabel fuel' l ≠ 0 → labelLength l + 1 + afterLabel fuel' l ≤ l.length) := by
  have hdropped : (l ++ '\n' :: rest).drop (labelLength (l ++ '\n' :: rest)) =
      l.drop (labelLength l) ++ '\n' :: rest := by
    rw [labelLength_append, List.drop_append_of_le_length (labelLength_le l)]
  by_cases hdot : ∃ more, l.drop (labelLength l) = '.' :: more
  · obtain ⟨more, hmore⟩ := hdot
    have hlength : more.length + 1 + labelLength l = l.length := by
      have hdrop := congrArg List.length hmore
      have hle := labelLength_le l
      rw [List.length_drop, List.length_cons] at hdrop
      omega
    obtain ⟨heq, hle⟩ := hafter more (by omega) fun hmem =>
      hl (List.mem_of_mem_drop (hmore ▸ List.mem_cons_of_mem _ hmem))
    rw [hmore] at hdropped
    rw [afterLabel_of_dot hdropped, afterLabel_of_dot hmore, labelLength_append]
    split
    · exact ⟨rfl, fun h => absurd rfl h⟩
    · exact ⟨heq, fun _ => by omega⟩
  · have hnone : ∀ more, l.drop (labelLength l) ≠ '.' :: more := fun more h => hdot ⟨more, h⟩
    rw [afterLabel_of_no_dot hnone, afterLabel_of_no_dot]
    · exact ⟨rfl, fun h => absurd rfl h⟩
    · intro more hmore
      rw [hdropped] at hmore
      cases hdrop : l.drop (labelLength l) with
      | nil =>
        rw [hdrop] at hmore
        exact absurd (List.cons.inj hmore).1 (by decide)
      | cons c others =>
        rw [hdrop] at hmore
        exact hnone others (by rw [hdrop, (List.cons.inj hmore).1])

/-- The text is fuel enough. -/
theorem ends_afterDot {fuel fuel' : Nat} (hl : '\n' ∉ l) (hfuel : l.length ≤ fuel)
    (hfuel' : l.length ≤ fuel') : Ends fuel fuel' l rest := by
  induction fuel generalizing fuel' l with
  | zero =>
    obtain rfl := List.length_eq_zero_iff.1 (Nat.le_zero.1 hfuel)
    cases fuel' with
    | zero => exact ⟨rfl, Nat.le_refl 0⟩
    | succ fuel' => exact ⟨rfl, Nat.le_refl 0⟩
  | succ fuel ih =>
    cases fuel' with
    | zero =>
      obtain rfl := List.length_eq_zero_iff.1 (Nat.le_zero.1 hfuel')
      exact ⟨rfl, Nat.le_refl 0⟩
    | succ fuel' =>
      obtain ⟨heq, hle⟩ := afterLabel_append hl fun l' hlt hl' =>
        (ih hl' (by omega) (by omega) : Ends fuel fuel' l' rest)
      rw [Ends, afterDot_succ, afterDot_succ, heq, labelLength_append,
        takeWhile_append_cons (by decide)]
      refine ⟨rfl, ?_⟩
      split
      · exact (List.takeWhile_prefix _).length_le
      · next hne => exact hle hne

/-- A line break ends a URL without a scheme. -/
theorem stopsAt_withDots : Pattern.StopsAt withDots '\n' := by
  intro l rest hl
  have hends : ∀ l' : List Char, l'.length < l.length → '\n' ∉ l' →
      Ends (l ++ '\n' :: rest).length l.length l' rest :=
    fun l' hlt hl' => ends_afterDot hl' (by rw [List.length_append]; omega) hlt.le
  obtain ⟨heq, hle⟩ := afterLabel_append hl hends
  rw [withDots_eq, withDots_eq, heq, labelLength_append]
  refine ⟨rfl, ?_⟩
  split
  · exact Nat.zero_le _
  · next hne => exact hle hne

/-- What looks like a URL stands in one line. -/
theorem stopsAt_urlLike : Pattern.StopsAt urlLike '\n' := by
  intro l rest hl
  obtain ⟨hscheme, hschemeLe⟩ := stopsAt_withScheme l rest hl
  obtain ⟨hdots, hdotsLe⟩ := stopsAt_withDots l rest hl
  unfold urlLike
  rw [hscheme]
  cases hlength : withScheme l with
  | zero => exact ⟨hdots, hdotsLe⟩
  | succ n =>
    rw [hlength] at hschemeLe
    exact ⟨rfl, hschemeLe⟩

/-! ## Rows -/

/-- The value of a row and its count. -/
def reading? (row : List Char) : Option (String × Nat) := do
  let (value, tail) ← splitCount? (urlLike.replaceAll placeholder row)
  let n ← count? tail
  pure (String.ofList (normalize value), n)

/-- A row is kept if its count is large enough. -/
theorem row?_replaceAll (m : Nat) (row : List Char) :
    row? m (urlLike.replaceAll placeholder row) =
      (reading? row).bind fun e => if m ≤ e.2 then some e.1 else none := by
  unfold row? reading?
  cases splitCount? (urlLike.replaceAll placeholder row) with
  | none => rfl
  | some parts =>
    dsimp only [Option.bind_eq_bind, Option.bind_some]
    cases count? parts.2 with
    | none => rfl
    | some n => rfl

/-- White space at the end is trimmed. -/
theorem trim_concat {c : Char} (hc : Text.isSpace c = true) (cs : List Char) :
    Text.trim (cs ++ [c]) = Text.trim cs := by
  have hspace : ∀ cs, Text.trimStart (c :: cs) = Text.trimStart cs :=
    fun cs => List.dropWhile_cons_of_pos hc
  unfold Text.trim
  congr 1
  rw [Text.trimStart.eq_1 (cs ++ [c]), List.dropWhile_append]
  split
  · next hempty =>
    have hcs : Text.trimStart cs = [] := List.isEmpty_iff.1 hempty
    have hc' : [c].dropWhile Text.isSpace = [] := hspace []
    rw [hc', hcs]
  · rw [List.reverse_append, List.reverse_singleton, List.singleton_append, hspace]
    rfl

/-- A character at the end belongs to the count, unless it is a blank. -/
theorem splitCount?_concat {c : Char} (hc : c ≠ ' ') (cs : List Char) :
    splitCount? (cs ++ [c]) = (splitCount? cs).map fun parts => (parts.1, parts.2 ++ [c]) := by
  have htail : ((cs ++ [c]).reverse.takeWhile (· ≠ ' ')).reverse =
      (cs.reverse.takeWhile (· ≠ ' ')).reverse ++ [c] := by
    rw [List.reverse_append, List.reverse_singleton, List.singleton_append,
      List.takeWhile_cons_of_pos (by simpa using hc), List.reverse_cons]
  unfold splitCount?
  rw [htail]
  generalize (cs.reverse.takeWhile (· ≠ ' ')).reverse = tail
  dsimp only
  rw [List.length_append, List.length_append, List.length_singleton]
  by_cases hlength : tail.length = cs.length
  · rw [if_pos (by omega), if_pos hlength]
    rfl
  · rw [if_neg (by omega), if_neg hlength, Nat.add_sub_add_right,
      List.take_append_of_le_length (by omega)]
    rfl

/-- A carriage return at the end of a row does not matter. -/
theorem row?_concat (m : Nat) (cs : List Char) : row? m (cs ++ ['\r']) = row? m cs := by
  unfold row?
  rw [splitCount?_concat (by decide)]
  cases splitCount? cs with
  | none => rfl
  | some parts =>
    dsimp only [Option.map_some, Option.bind_eq_bind, Option.bind_some]
    rw [count?, trim_concat (by decide)]
    rfl

/-- A line without a carriage return at its end. -/
def withoutReturn (l : List Char) : List Char :=
  if l.getLast? = some '\r' then l.dropLast else l

/-- A carriage return at the end makes no difference to a row. -/
theorem row?_withoutReturn (m : Nat) (l : List Char) : row? m (withoutReturn l) = row? m l := by
  unfold withoutReturn
  split
  · next hlast =>
    have hl : l = l.dropLast ++ ['\r'] := (List.dropLast_append_getLast? _ hlast).symm
    conv_rhs => rw [hl, row?_concat]
  · rfl

/-- The lines of a content are its parts, without an empty last one. -/
theorem lines_eq {front : List (List Char)} {last : List Char}
    (h : cs.splitOn '\n' = front ++ [last]) :
    lines cs = front.map withoutReturn ++ if last = [] then [] else [last] := by
  have hended : front.map (fun l => if l.getLast? = some '\r' then l.dropLast else l) =
      front.map withoutReturn := rfl
  unfold lines
  rw [h]
  dsimp only
  rw [List.dropLast_concat, List.getLast?_concat, hended]
  cases last with
  | nil => exact (List.append_nil _).symm
  | cons c last => rfl

/-- Where a line ends makes no difference for the rows after the heading. -/
theorem filterMap_lines (m : Nat) (cs : List Char) :
    ((lines cs).drop 1).filterMap (row? m) = ((cs.splitOn '\n').drop 1).filterMap (row? m) := by
  obtain ⟨front, last, hparts⟩ : ∃ front last, cs.splitOn '\n' = front ++ [last] :=
    ⟨_, _, (List.dropLast_concat_getLast (List.splitOn_ne_nil '\n' cs)).symm⟩
  have hlast : (if last = [] then [] else [last]).filterMap (row? m) =
      [last].filterMap (row? m) := by
    split
    · next hnil =>
      rw [hnil]
      rfl
    · rfl
  rw [lines_eq hparts, hparts]
  cases front with
  | nil =>
    rw [List.map_nil, List.nil_append, List.nil_append]
    split
    · rfl
    · rfl
  | cons heading front =>
    rw [List.map_cons, List.cons_append, List.cons_append, List.drop_one, List.drop_one,
      List.tail_cons, List.tail_cons, List.filterMap_append, List.filterMap_append, hlast,
      List.filterMap_map]
    congr 2
    exact funext fun l => row?_withoutReturn m l

/-! ## Lists -/

/-- The values of a list are those of its rows that have the count, in order and each once. -/
theorem parse_eq (content : List Char) (m : Nat) :
    parse content m = Text.ascending (((content.splitOn '\n').drop 1).filterMap fun row =>
      (reading? row).bind fun e => if m ≤ e.2 then some e.1 else none) := by
  have hplaceholder : '\n' ∉ placeholder := by decide
  rw [parse, filterMap_lines, Pattern.splitOn_replaceAll stopsAt_urlLike hplaceholder,
    ← List.map_drop, List.filterMap_map]
  exact congrArg Text.ascending (List.filterMap_congr fun row _ => row?_replaceAll m row)

/-- A value is in a list if some row of it has the count. -/
theorem mem_parse {content : List Char} : v ∈ parse content m ↔
    ∃ row ∈ (content.splitOn '\n').drop 1, ∃ n, reading? row = some (v, n) ∧ m ≤ n := by
  rw [parse_eq, Text.mem_ascending, List.mem_filterMap]
  refine exists_congr fun row => and_congr_right fun _ => ?_
  rw [Option.bind_eq_some_iff]
  constructor
  · rintro ⟨⟨value, n⟩, hrow, h⟩
    obtain ⟨hn, rfl⟩ : m ≤ n ∧ value = v := by simpa using h
    exact ⟨n, hrow, hn⟩
  · rintro ⟨n, hrow, hn⟩
    exact ⟨(v, n), hrow, if_pos hn⟩

theorem parse_antitone (content : List Char) {m₁ m₂ : Nat} (h : m₁ ≤ m₂) :
    parse content m₂ ⊆ parse content m₁ := by
  intro v hv
  obtain ⟨row, hrow, n, hreading, hn⟩ := mem_parse.1 hv
  exact mem_parse.2 ⟨row, hrow, n, hreading, h.trans hn⟩

/-- A list is what sorting makes of any texts with the same members. -/
theorem parse_eq_ascending {content : List Char} {values : List String}
    (h : ∀ v, v ∈ parse content m ↔ v ∈ values) : parse content m = Text.ascending values := by
  rw [parse_eq] at h ⊢
  refine Text.ascending_congr fun v => ?_
  rw [← h v, Text.mem_ascending]

/-- A heading and rows, one a line. -/
def file (heading : List Char) (rows : List (List Char)) : List Char :=
  ['\n'].intercalate (heading :: rows)

variable {heading : List Char} {rows : List (List Char)}

theorem splitOn_file (hheading : '\n' ∉ heading) (hrows : ∀ row ∈ rows, '\n' ∉ row) :
    (file heading rows).splitOn '\n' = heading :: rows :=
  List.splitOn_intercalate '\n' (List.forall_mem_cons.2 ⟨hheading, hrows⟩) (List.cons_ne_nil _ _)

theorem mem_parse_file (hheading : '\n' ∉ heading) (hrows : ∀ row ∈ rows, '\n' ∉ row) :
    v ∈ parse (file heading rows) m ↔
      ∃ row ∈ rows, ∃ n, reading? row = some (v, n) ∧ m ≤ n := by
  rw [mem_parse, splitOn_file hheading hrows]
  rfl

/-- A list of one row has its value or none. -/
theorem parse_file_singleton (hheading : '\n' ∉ heading) (hrow : '\n' ∉ row) (m : Nat) :
    parse (file heading [row]) m =
      match reading? row with
      | some (v, n) => if m ≤ n then [v] else []
      | none => [] := by
  rw [parse_eq, splitOn_file hheading (List.forall_mem_singleton.2 hrow), List.drop_one,
    List.tail_cons]
  cases hreading : reading? row with
  | none =>
    rw [List.filterMap_cons_none (by rw [hreading]; rfl)]
    exact Text.ascending_nil
  | some e =>
    obtain ⟨v, n⟩ := e
    dsimp only
    split
    · next hn =>
      rw [List.filterMap_cons_some (b := v) (by rw [hreading]; exact if_pos hn)]
      exact Text.ascending_singleton v
    · next hn =>
      rw [List.filterMap_cons_none (by rw [hreading]; exact if_neg hn)]
      exact Text.ascending_nil

/-- The values of two lists one after the other are those of both. -/
theorem parse_file_append {rows' : List (List Char)} (hheading : '\n' ∉ heading)
    (hrows : ∀ row ∈ rows, '\n' ∉ row) (hrows' : ∀ row ∈ rows', '\n' ∉ row) (m : Nat) :
    parse (file heading (rows ++ rows')) m =
      Text.ascending (parse (file heading rows) m ++ parse (file heading rows') m) := by
  apply parse_eq_ascending
  intro v
  rw [List.mem_append, mem_parse_file hheading hrows, mem_parse_file hheading hrows',
    mem_parse_file hheading (List.forall_mem_append.2 ⟨hrows, hrows'⟩)]
  simp only [List.mem_append, or_and_right, exists_or]

/-- The value of a row is listed for its own count or for that of another row. -/
theorem mem_parse_file_getElem (hheading : '\n' ∉ heading) (hrows : ∀ row ∈ rows, '\n' ∉ row)
    {i n : Nat} (hi : i < rows.length) (hreading : reading? rows[i] = some (v, n)) :
    v ∈ parse (file heading rows) m ↔ m ≤ n ∨ ∃ (j : Nat) (hj : j < rows.length), j ≠ i ∧
      ∃ n', reading? rows[j] = some (v, n') ∧ m ≤ n' := by
  rw [mem_parse_file hheading hrows]
  constructor
  · rintro ⟨row, hrow, n', hreading', hn'⟩
    obtain ⟨j, hj, rfl⟩ := List.getElem_of_mem hrow
    by_cases hij : j = i
    · subst hij
      rw [hreading] at hreading'
      cases hreading'
      exact Or.inl hn'
    · exact Or.inr ⟨j, hj, hij, n', hreading', hn'⟩
  · rintro (hn | ⟨j, hj, -, n', hreading', hn'⟩)
    · exact ⟨rows[i], List.getElem_mem hi, n, hreading, hn⟩
    · exact ⟨rows[j], List.getElem_mem hj, n', hreading', hn'⟩

/-- A list is read row by row. Its values are those of its rows, each read under the heading alone;
neither the heading nor the order of the rows nor how often a row occurs matters, rows of several
lists give the values of both, and a row without a count that can be read gives none. A higher
count leaves fewer values, and a row whose count is high enough has its value in the list. -/
theorem parse_rows (hheading : '\n' ∉ heading) (hrows : ∀ row ∈ rows, '\n' ∉ row) (m : Nat) :
    parse (file heading rows) m =
        Text.ascending (rows.flatMap fun row => parse (file heading [row]) m) ∧
      (∀ (heading' : List Char) (rows' : List (List Char)), '\n' ∉ heading' →
        (∀ row, row ∈ rows' ↔ row ∈ rows) →
          parse (file heading' rows') m = parse (file heading rows) m) ∧
      (∀ rows' : List (List Char), (∀ row ∈ rows', '\n' ∉ row) →
        parse (file heading (rows ++ rows')) m =
          Text.ascending (parse (file heading rows) m ++ parse (file heading rows') m)) ∧
      (∀ row ∈ rows, parse (file heading [row]) m =
        match reading? row with
        | some (v, n) => if m ≤ n then [v] else []
        | none => []) ∧
      (∀ m', m ≤ m' → parse (file heading rows) m' ⊆ parse (file heading rows) m) ∧
      ∀ (i : Nat) (hi : i < rows.length) (v : String) (n : Nat), reading? rows[i] = some (v, n) →
        (v ∈ parse (file heading rows) m ↔ m ≤ n ∨ ∃ (j : Nat) (hj : j < rows.length), j ≠ i ∧
          ∃ n', reading? rows[j] = some (v, n') ∧ m ≤ n') := by
  refine ⟨?_, ?_, ?_, ?_, ?_, ?_⟩
  · apply parse_eq_ascending
    intro v
    rw [mem_parse_file hheading hrows, List.mem_flatMap]
    refine exists_congr fun row => and_congr_right fun hrow => ?_
    rw [mem_parse_file hheading (List.forall_mem_singleton.2 (hrows row hrow))]
    simp only [List.mem_singleton, exists_eq_left]
  · intro heading' rows' hheading' hmem
    have hrows' : ∀ row ∈ rows', '\n' ∉ row := fun row hrow => hrows row ((hmem row).1 hrow)
    rw [parse_eq (file heading rows)]
    refine parse_eq_ascending fun v => ?_
    rw [mem_parse_file hheading' hrows', ← Text.mem_ascending, ← parse_eq,
      mem_parse_file hheading hrows]
    simp only [hmem]
  · exact fun rows' hrows' => parse_file_append hheading hrows hrows' m
  · exact fun row hrow => parse_file_singleton hheading (hrows row hrow) m
  · exact fun m' hm => parse_antitone (file heading rows) hm
  · exact fun i hi v n hreading => mem_parse_file_getElem hheading hrows hi hreading

/-- Rows two of which have the same value. The one between them has no count. -/
def observed : List (List Char) :=
  ["http://a.test/ 20".toList, "no count".toList, "https://b.test/index 1,200".toList]

/-- The first row is too rare, but its value is listed for the last one. -/
theorem parse_rows_observed :
    '\n' ∉ "value count".toList ∧ (∀ row ∈ observed, '\n' ∉ row) ∧
      parse (file "value count".toList ["http://a.test/ 20".toList]) 30 = [] ∧
      parse (file "value count".toList ["no count".toList]) 30 = [] ∧
      "<!URL!>" ∈ parse (file "value count".toList observed) 30 := by
  have hheading : '\n' ∉ "value count".toList := by decide
  have hrows : ∀ row ∈ observed, '\n' ∉ row := by decide
  have hfirst : reading? "http://a.test/ 20".toList = some ("<!URL!>", 20) := by decide +kernel
  have hlast : reading? "https://b.test/index 1,200".toList = some ("<!URL!>", 1200) := by
    decide +kernel
  have hnone : reading? "no count".toList = none := by decide +kernel
  obtain ⟨-, -, -, hsingle, -, hlisted⟩ := parse_rows hheading hrows 30
  refine ⟨hheading, hrows, ?_, ?_, ?_⟩
  · rw [hsingle _ (by decide), hfirst]
    rfl
  · rw [hsingle _ (by decide), hnone]
  · exact (hlisted 0 (by decide) _ 20 hfirst).2
      (Or.inr ⟨2, by decide, by decide, 1200, hlast, by decide⟩)

end ProbeCampaign.ValueList
