import Mathlib.Tactic
import ProbeCampaign.Proofs.Text.Split
import ProbeCampaign.Proofs.Text.Utf8
import ProbeCampaign.Url.Form

/-!
# Query strings read back

`decode_encode`: the pairs of a query string are read back from its written form, whatever texts
they hold. A written key or value has plain characters, plus signs and percent signs only, so no
text can add a pair or end a value.
-/

namespace ProbeCampaign.Percent

theorem value?_upperDigit {n : Nat} (h : n < 16) : Hex.value? (Hex.upperDigit n) = some n := by
  interval_cases n <;> rfl

/-- A byte is read from its two digits. -/
theorem byte?_upperDigit (b : UInt8) :
    byte? (Hex.upperDigit (b.toNat / 16)) (Hex.upperDigit (b.toNat % 16)) = some b := by
  have hb : b.toNat < 256 := b.toNat_lt
  rw [byte?, value?_upperDigit (by omega), value?_upperDigit (by omega)]
  simp only [Option.some.injEq]
  rw [show 16 * (b.toNat / 16) + b.toNat % 16 = b.toNat by omega, UInt8.ofNat_toNat]

/-- What is no percent sign is decoded for itself. -/
theorem decode_cons_of_ne {c : Char} (h : c ≠ '%') (cs : List Char) :
    decode (c :: cs) = Utf8.encode c ++ decode cs := by
  rw [decode.eq_def]
  split
  · next heq => exact absurd heq (by simp)
  · next heq => exact absurd (List.cons.inj heq).1 h
  · next heq =>
    obtain ⟨rfl, rfl⟩ := List.cons.inj heq
    rfl

theorem decode_escape_append (b : UInt8) (cs : List Char) :
    decode (escape b ++ cs) = b :: decode cs := by
  show decode ('%' :: _ :: _ :: cs) = _
  rw [decode, byte?_upperDigit]

/-- Escaped bytes are decoded. -/
theorem decode_escapes_append (bs : List UInt8) (cs : List Char) :
    decode (bs.flatMap escape ++ cs) = bs ++ decode cs := by
  induction bs with
  | nil => rfl
  | cons b bs ih =>
    rw [List.flatMap_cons, List.append_assoc, decode_escape_append, ih, List.cons_append]

theorem decode_of_not_mem {cs : List Char} (h : '%' ∉ cs) : decode cs = Utf8.bytes cs := by
  induction cs with
  | nil => rfl
  | cons c cs ih =>
    rw [List.mem_cons, not_or] at h
    rw [decode_cons_of_ne (Ne.symm h.1), ih h.2, Utf8.bytes, Utf8.bytes, List.flatMap_cons]

end ProbeCampaign.Percent

namespace ProbeCampaign.Form

theorem isPlain_upperDigit {n : Nat} (h : n < 16) : isPlain (Hex.upperDigit n) = true := by
  interval_cases n <;> rfl

/-- The blank that a plus sign stands for. -/
def blankOfPlus (c : Char) : Char :=
  if c = '+' then ' ' else c

/-- An escape has a percent sign and plain characters. -/
theorem mem_escape {b : UInt8} {c : Char} (h : c ∈ Percent.escape b) : isPlain c = true ∨ c = '%' := by
  have hb : b.toNat < 256 := b.toNat_lt
  simp only [Percent.escape, List.mem_cons, List.not_mem_nil, or_false] at h
  rcases h with rfl | rfl | rfl
  · exact Or.inr rfl
  · exact Or.inl (isPlain_upperDigit (by omega))
  · exact Or.inl (isPlain_upperDigit (by omega))

theorem map_blankOfPlus_of_not_mem {cs : List Char} (h : '+' ∉ cs) : cs.map blankOfPlus = cs := by
  rw [List.map_congr_left (g := id), List.map_id]
  intro c hc
  apply if_neg
  rintro rfl
  exact h hc

theorem plus_not_mem_escapes (bs : List UInt8) : '+' ∉ bs.flatMap Percent.escape := by
  intro h
  obtain ⟨b, -, hb⟩ := List.mem_flatMap.1 h
  rcases mem_escape hb with hp | hp <;> exact absurd hp (by decide)

/-- The written form of one character. -/
def encodeChar (c : Char) : List Char :=
  if c = ' ' then ['+'] else Percent.encode isPlain [c]

theorem encodeText_eq (cs : List Char) : encodeText cs = cs.flatMap encodeChar := rfl

theorem encodeChar_eq_of_isPlain {c : Char} (h : isPlain c = true) : encodeChar c = [c] := by
  have hc : c ≠ ' ' := by
    rintro rfl
    exact absurd h (by decide)
  rw [encodeChar, if_neg hc, Percent.encode, List.flatMap_cons, if_pos h]
  rfl

theorem encodeChar_eq_of_not_isPlain {c : Char} (hc : c ≠ ' ') (h : ¬ isPlain c = true) :
    encodeChar c = (Utf8.encode c).flatMap Percent.escape := by
  rw [encodeChar, if_neg hc, Percent.encode, List.flatMap_cons, if_neg h, List.flatMap_nil,
    List.append_nil]

/-- What is encoded has plain characters, plus signs and percent signs only. -/
theorem mem_encodeChar {c d : Char} (h : d ∈ encodeChar c) :
    isPlain d = true ∨ d = '+' ∨ d = '%' := by
  by_cases hc : c = ' '
  · rw [encodeChar, if_pos hc, List.mem_singleton] at h
    exact Or.inr (Or.inl h)
  · by_cases hp : isPlain c = true
    · rw [encodeChar_eq_of_isPlain hp, List.mem_singleton] at h
      rw [h]
      exact Or.inl hp
    · rw [encodeChar_eq_of_not_isPlain hc hp] at h
      obtain ⟨b, -, hb⟩ := List.mem_flatMap.1 h
      exact (mem_escape hb).imp_right Or.inr

/-- A written key or value holds neither ampersands nor equals signs. -/
theorem mem_encodeText {cs : List Char} {d : Char} (h : d ∈ encodeText cs) :
    isPlain d = true ∨ d = '+' ∨ d = '%' := by
  rw [encodeText_eq] at h
  obtain ⟨c, -, hc⟩ := List.mem_flatMap.1 h
  exact mem_encodeChar hc

/-- A character is decoded, whatever follows. A blank is a plus sign, a plain character stands for
itself, and all else is escaped. -/
theorem decode_encodeChar_append (c : Char) (rest : List Char) :
    Percent.decode ((encodeChar c).map blankOfPlus ++ rest) =
      Utf8.encode c ++ Percent.decode rest := by
  by_cases hc : c = ' '
  · subst hc
    exact Percent.decode_cons_of_ne (by decide) rest
  · by_cases hp : isPlain c = true
    · have hplus : c ≠ '+' := by
        rintro rfl
        exact absurd hp (by decide)
      have hpercent : c ≠ '%' := by
        rintro rfl
        exact absurd hp (by decide)
      rw [encodeChar_eq_of_isPlain hp, List.map_singleton, blankOfPlus, if_neg hplus]
      exact Percent.decode_cons_of_ne hpercent rest
    · rw [encodeChar_eq_of_not_isPlain hc hp,
        map_blankOfPlus_of_not_mem (plus_not_mem_escapes _), Percent.decode_escapes_append]

/-- The bytes of a text are decoded from its encoding. -/
theorem percentDecode_encodeText (cs : List Char) :
    Percent.decode ((encodeText cs).map blankOfPlus) = Utf8.bytes cs := by
  induction cs with
  | nil => rfl
  | cons c cs ih =>
    rw [encodeText_eq] at ih ⊢
    rw [List.flatMap_cons, List.map_append, decode_encodeChar_append, ih]
    rfl

/-- A key or value is read back from its written form. -/
theorem decodeText_encodeText (s : String) : decodeText (encodeText s.toList) = s := by
  show String.ofList (Utf8.lossy (Percent.decode ((encodeText s.toList).map blankOfPlus))) = s
  rw [percentDecode_encodeText, Utf8.lossy_bytes, String.ofList_toList]

/-! ## Pairs -/

theorem equals_not_mem_encodeText (cs : List Char) : '=' ∉ encodeText cs := by
  intro h
  rcases mem_encodeText h with h | h | h <;> exact absurd h (by decide)

theorem ampersand_not_mem_encodePair (pair : String × String) : '&' ∉ encodePair pair := by
  intro h
  rcases List.mem_append.1 h with h | h
  · rcases mem_encodeText h with h | h | h <;> exact absurd h (by decide)
  · rcases List.mem_cons.1 h with h | h
    · exact absurd h (by decide)
    · rcases mem_encodeText h with h | h | h <;> exact absurd h (by decide)

theorem decodePair_encodePair (pair : String × String) : decodePair (encodePair pair) = pair := by
  rw [decodePair, encodePair, Text.takeWhile_ne_append (equals_not_mem_encodeText _),
    Text.dropWhile_ne_append (equals_not_mem_encodeText _), List.drop_one, List.tail_cons,
    decodeText_encodeText, decodeText_encodeText]

/-- Encoded pairs are joined by ampersands. -/
theorem encode_eq_intercalate (pairs : List (String × String)) :
    encode pairs = ['&'].intercalate (pairs.map encodePair) := by
  induction pairs with
  | nil => rfl
  | cons p pairs ih =>
    cases pairs with
    | nil => rw [List.map_singleton, List.intercalate_singleton, encode]
    | cons q pairs =>
      rw [encode, ih, List.map_cons, List.map_cons, List.map_cons, List.intercalate_cons_cons,
        List.append_assoc]
      · rfl
      · exact List.cons_ne_nil q pairs

theorem encodePair_ne_nil (pair : String × String) : encodePair pair ≠ [] := by
  rw [encodePair]
  simp

/-- The pieces of encoded pairs are those of each, as none is empty and none has an ampersand in
it. -/
theorem pieces_encode (pairs : List (String × String)) :
    pieces (encode pairs) = pairs.map encodePair := by
  cases pairs with
  | nil => rfl
  | cons p pairs =>
    rw [pieces, encode_eq_intercalate, List.splitOn_intercalate]
    · rw [List.filter_eq_self]
      intro piece hpiece
      obtain ⟨q, -, rfl⟩ := List.mem_map.1 hpiece
      exact decide_eq_true (encodePair_ne_nil q)
    · intro piece hpiece
      obtain ⟨q, -, rfl⟩ := List.mem_map.1 hpiece
      exact ampersand_not_mem_encodePair q
    · simp

/-- The pairs of a query string are read back from its written form. -/
theorem decode_encode (pairs : List (String × String)) : decode (encode pairs) = pairs := by
  rw [decode, pieces_encode, List.map_map]
  exact (List.map_congr_left fun p _ => decodePair_encodePair p).trans (List.map_id _)

/-- The characters of a query string. -/
def isQueryChar (c : Char) : Bool :=
  isPlain c || c == '+' || c == '%' || c == '=' || c == '&'

/-- What is encoded may stand in a query. -/
theorem mem_encode {pairs : List (String × String)} {c : Char} (h : c ∈ encode pairs) :
    isQueryChar c = true := by
  have htext : ∀ {cs : List Char}, c ∈ encodeText cs → isQueryChar c = true := by
    intro cs hc
    rcases mem_encodeText hc with h | rfl | rfl
    · simp [isQueryChar, h]
    · rfl
    · rfl
  have hpair : ∀ pair, c ∈ encodePair pair → isQueryChar c = true := by
    intro pair hc
    rcases List.mem_append.1 hc with hc | hc
    · exact htext hc
    · rcases List.mem_cons.1 hc with rfl | hc
      · rfl
      · exact htext hc
  rw [encode_eq_intercalate] at h
  rcases Text.mem_intercalate h with rfl | ⟨part, hpart, hc⟩
  · rfl
  · obtain ⟨pair, -, rfl⟩ := List.mem_map.1 hpart
    exact hpair pair hc

/-- A value that is the only one of its key is found. -/
theorem last?_of_unique {pairs : List (String × String)} {key value : String}
    (h : (key, value) ∈ pairs) (hunique : ∀ v, (key, v) ∈ pairs → v = value) :
    last? pairs key = some value := by
  unfold last?
  cases hfound : pairs.reverse.lookup key with
  | none =>
    have hne := List.lookup_eq_none_iff.1 hfound _ (List.mem_reverse.2 h)
    exact absurd rfl (bne_iff_ne.1 hne)
  | some v =>
    obtain ⟨before, after, heq, -⟩ := List.lookup_eq_some_iff.1 hfound
    have hmem : (key, v) ∈ pairs.reverse := by
      rw [heq]
      exact List.mem_append_right _ List.mem_cons_self
    rw [hunique v (List.mem_reverse.1 hmem)]

/-- Of pairs with distinct keys the value of each is found. -/
theorem last?_of_mem {pairs : List (String × String)} {key value : String}
    (hkeys : (pairs.map (·.1)).Nodup) (h : (key, value) ∈ pairs) : last? pairs key = some value :=
  last?_of_unique h fun _ hv =>
    congrArg Prod.snd (List.inj_on_of_nodup_map hkeys hv h rfl)

/-- A key that is not there has no value. -/
theorem last?_of_not_mem {pairs : List (String × String)} {key : String}
    (h : key ∉ pairs.map (·.1)) : last? pairs key = none := by
  unfold last?
  rw [List.lookup_eq_none_iff]
  intro pair hpair
  rw [bne_iff_ne]
  rintro rfl
  exact h (List.mem_map.2 ⟨pair, List.mem_reverse.1 hpair, rfl⟩)

end ProbeCampaign.Form
