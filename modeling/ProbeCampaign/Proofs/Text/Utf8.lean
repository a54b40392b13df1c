import Mathlib.Tactic
import ProbeCampaign.Text.Utf8

/-!
# Encoded text reads back

`lossy_bytes`: the bytes of a text denote that text. `head` finds each character at its lead byte;
there is one lemma for every length of a sequence, over the payloads of its bytes. These are the
bytes that a string is written with (`toList_toUTF8`).
-/

namespace ProbeCampaign.Utf8

theorem toNat_ofNat_byte {n : Nat} (h : n < 256) : (UInt8.ofNat n).toNat = n := by
  rw [UInt8.toNat_ofNat', Nat.mod_eq_of_lt h]

theorem ofNat_lt_iff {m n : Nat} (hm : m < 256) (hn : n < 256) :
    UInt8.ofNat m < UInt8.ofNat n ↔ m < n := by
  rw [UInt8.lt_iff_toNat_lt, toNat_ofNat_byte hm, toNat_ofNat_byte hn]

theorem ofNat_le_iff {m n : Nat} (hm : m < 256) (hn : n < 256) :
    UInt8.ofNat m ≤ UInt8.ofNat n ↔ m ≤ n := by
  rw [UInt8.le_iff_toNat_le, toNat_ofNat_byte hm, toNat_ofNat_byte hn]

theorem ofNat_eq_iff {m n : Nat} (hm : m < 256) (hn : n < 256) :
    UInt8.ofNat m = UInt8.ofNat n ↔ m = n := by
  rw [← UInt8.toNat_inj, toNat_ofNat_byte hm, toNat_ofNat_byte hn]

theorem not_ofNat_lt {m n : Nat} (hm : m < 256) (h : n ≤ m) : ¬ UInt8.ofNat m < UInt8.ofNat n := by
  rw [ofNat_lt_iff hm (by omega)]
  omega

theorem ofNat_between {k m n : Nat} (hk : k < 256) (hn : n < 256) (h : m ≤ k) (h' : k ≤ n) :
    UInt8.ofNat m ≤ UInt8.ofNat k ∧ UInt8.ofNat k ≤ UInt8.ofNat n :=
  ⟨(ofNat_le_iff (by omega) hk).2 h, (ofNat_le_iff hk hn).2 h'⟩

theorem not_ofNat_between {k m n : Nat} (hk : k < 256) (hm : m < 256) (hn : n < 256) (h : n < k) :
    ¬ (UInt8.ofNat m ≤ UInt8.ofNat k ∧ UInt8.ofNat k ≤ UInt8.ofNat n) := by
  rw [ofNat_le_iff hm hk, ofNat_le_iff hk hn]
  omega

theorem isContinuation_ofNat {n : Nat} (h : n < 64) :
    isContinuation (UInt8.ofNat (0x80 + n)) = true := by
  obtain ⟨hlo, hhi⟩ := ofNat_between (k := 0x80 + n) (m := 0x80) (n := 0xBF) (by omega) (by omega)
    (by omega) (by omega)
  exact Bool.and_eq_true_iff.2 ⟨decide_eq_true hlo, decide_eq_true hhi⟩

theorem payload_ofNat {n : Nat} (h : n < 64) : payload (UInt8.ofNat (0x80 + n)) = n := by
  rw [payload, toNat_ofNat_byte (by omega)]
  omega

/-- The second byte fits a lead byte that bounds it. -/
theorem maySecond_ofNat {a b : Nat} (ha : a < 256) (hb : b < 64) (hE0 : a = 0xE0 → 32 ≤ b)
    (hED : a = 0xED → b < 32) (hF0 : a = 0xF0 → 16 ≤ b) (hF4 : a = 0xF4 → b < 16) :
    maySecond (UInt8.ofNat a) (UInt8.ofNat (0x80 + b)) = true := by
  have hle : ∀ m n, m < 256 → n < 256 → m ≤ 0x80 + b → 0x80 + b ≤ n →
      (decide (UInt8.ofNat m ≤ UInt8.ofNat (0x80 + b)) &&
        decide (UInt8.ofNat (0x80 + b) ≤ UInt8.ofNat n)) = true := by
    intro m n _ hn hlo hhi
    obtain ⟨h1, h2⟩ := ofNat_between (by omega) hn hlo hhi
    exact Bool.and_eq_true_iff.2 ⟨decide_eq_true h1, decide_eq_true h2⟩
  unfold maySecond
  split
  · next h =>
    have := hE0 ((ofNat_eq_iff ha (by omega)).1 h)
    exact hle 0xA0 0xBF (by omega) (by omega) (by omega) (by omega)
  · split
    · next h =>
      have := hED ((ofNat_eq_iff ha (by omega)).1 h)
      exact hle 0x80 0x9F (by omega) (by omega) (by omega) (by omega)
    · split
      · next h =>
        have := hF0 ((ofNat_eq_iff ha (by omega)).1 h)
        exact hle 0x90 0xBF (by omega) (by omega) (by omega) (by omega)
      · split
        · next h =>
          have := hF4 ((ofNat_eq_iff ha (by omega)).1 h)
          exact hle 0x80 0x8F (by omega) (by omega) (by omega) (by omega)
        · exact isContinuation_ofNat hb

theorem head_one {n : Nat} (h : n < 0x80) (rest : List UInt8) :
    head (UInt8.ofNat n) rest = (Char.ofNat n, 0) := by
  have hlt : UInt8.ofNat n < 0x80 := (ofNat_lt_iff (n := 0x80) (by omega) (by omega)).2 h
  unfold head
  rw [if_pos hlt, toNat_ofNat_byte (by omega)]

/-- Two bytes are read for the character that they encode. -/
theorem head_two {a b : Nat} (ha : 2 ≤ a) (ha' : a < 32) (hb : b < 64) (rest : List UInt8) :
    head (UInt8.ofNat (0xC0 + a)) (UInt8.ofNat (0x80 + b) :: rest) =
      (Char.ofNat (a * 64 + b), 1) := by
  have h1 : ¬ UInt8.ofNat (0xC0 + a) < 0x80 := not_ofNat_lt (n := 0x80) (by omega) (by omega)
  have h2 : 0xC2 ≤ UInt8.ofNat (0xC0 + a) ∧ UInt8.ofNat (0xC0 + a) ≤ 0xDF :=
    ofNat_between (m := 0xC2) (n := 0xDF) (by omega) (by omega) (by omega) (by omega)
  have hl : (0xC0 + a) % 32 = a := by omega
  unfold head
  rw [if_neg h1, if_pos h2]
  simp only [isContinuation_ofNat hb, if_true, payload_ofNat hb, toNat_ofNat_byte (show 0xC0 + a < 256 by omega), hl]

/-- So are three bytes, unless they are overlong or a surrogate. -/
theorem head_three {a b c : Nat} (ha : a < 16) (hb : b < 64) (hc : c < 64) (hE0 : a = 0 → 32 ≤ b)
    (hED : a = 13 → b < 32) (rest : List UInt8) :
    head (UInt8.ofNat (0xE0 + a)) (UInt8.ofNat (0x80 + b) :: UInt8.ofNat (0x80 + c) :: rest) =
      (Char.ofNat (a * 4096 + b * 64 + c), 2) := by
  have h1 : ¬ UInt8.ofNat (0xE0 + a) < 0x80 := not_ofNat_lt (n := 0x80) (by omega) (by omega)
  have h2 : ¬ (0xC2 ≤ UInt8.ofNat (0xE0 + a) ∧ UInt8.ofNat (0xE0 + a) ≤ 0xDF) :=
    not_ofNat_between (m := 0xC2) (n := 0xDF) (by omega) (by omega) (by omega) (by omega)
  have h3 : 0xE0 ≤ UInt8.ofNat (0xE0 + a) ∧ UInt8.ofNat (0xE0 + a) ≤ 0xEF :=
    ofNat_between (m := 0xE0) (n := 0xEF) (by omega) (by omega) (by omega) (by omega)
  have hsecond := maySecond_ofNat (a := 0xE0 + a) (b := b) (by omega) hb (by omega) (by omega)
    (by omega) (by omega)
  have hl : (0xE0 + a) % 16 = a := by omega
  unfold head
  rw [if_neg h1, if_neg h2, if_pos h3]
  simp only [hsecond, isContinuation_ofNat hc, if_true, payload_ofNat hb, payload_ofNat hc,
    toNat_ofNat_byte (show 0xE0 + a < 256 by omega), hl]

/-- So are four bytes, unless they are overlong or too large. -/
theorem head_four {a b c d : Nat} (ha : a < 5) (hb : b < 64) (hc : c < 64) (hd : d < 64)
    (hF0 : a = 0 → 16 ≤ b) (hF4 : a = 4 → b < 16) (rest : List UInt8) :
    head (UInt8.ofNat (0xF0 + a)) (UInt8.ofNat (0x80 + b) :: UInt8.ofNat (0x80 + c) ::
        UInt8.ofNat (0x80 + d) :: rest) =
      (Char.ofNat (a * 262144 + b * 4096 + c * 64 + d), 3) := by
  have h1 : ¬ UInt8.ofNat (0xF0 + a) < 0x80 := not_ofNat_lt (n := 0x80) (by omega) (by omega)
  have h2 : ¬ (0xC2 ≤ UInt8.ofNat (0xF0 + a) ∧ UInt8.ofNat (0xF0 + a) ≤ 0xDF) :=
    not_ofNat_between (m := 0xC2) (n := 0xDF) (by omega) (by omega) (by omega) (by omega)
  have h3 : ¬ (0xE0 ≤ UInt8.ofNat (0xF0 + a) ∧ UInt8.ofNat (0xF0 + a) ≤ 0xEF) :=
    not_ofNat_between (m := 0xE0) (n := 0xEF) (by omega) (by omega) (by omega) (by omega)
  have h4 : 0xF0 ≤ UInt8.ofNat (0xF0 + a) ∧ UInt8.ofNat (0xF0 + a) ≤ 0xF4 :=
    ofNat_between (m := 0xF0) (n := 0xF4) (by omega) (by omega) (by omega) (by omega)
  have hsecond := maySecond_ofNat (a := 0xF0 + a) (b := b) (by omega) hb (by omega) (by omega)
    (by omega) (by omega)
  have hl : (0xF0 + a) % 8 = a := by omega
  unfold head
  rw [if_neg h1, if_neg h2, if_neg h3, if_pos h4]
  simp only [hsecond, isContinuation_ofNat hc, isContinuation_ofNat hd, if_true, payload_ofNat hb,
    payload_ofNat hc, payload_ofNat hd, toNat_ofNat_byte (show 0xF0 + a < 256 by omega), hl]

theorem lossy_cons_of_head {lead : UInt8} {rest : List UInt8} {c : Char} {n : Nat}
    (h : head lead rest = (c, n)) : lossy (lead :: rest) = c :: lossy (rest.drop n) := by
  rw [lossy, h]

/-- An encoded character is read back, whatever follows. -/
theorem lossy_encode_append (c : Char) (rest : List UInt8) :
    lossy (encode c ++ rest) = c :: lossy rest := by
  have hv : c.toNat < 0xD800 ∨ (0xDFFF < c.toNat ∧ c.toNat < 0x110000) := c.valid
  have hc : Char.ofNat c.toNat = c := Char.ofNat_toNat c
  unfold encode
  generalize c.toNat = n at hv hc ⊢
  dsimp only
  split_ifs with h1 h2 h3
  · rw [List.singleton_append, lossy_cons_of_head (head_one h1 rest), hc]
    rfl
  · have h := head_two (a := n / 64) (b := n % 64) (by omega) (by omega) (by omega) rest
    rw [show n / 64 * 64 + n % 64 = n by omega, hc] at h
    exact lossy_cons_of_head h
  · have h := head_three (a := n / 4096) (b := n / 64 % 64) (c := n % 64) (by omega) (by omega)
      (by omega) (by omega) (by omega) rest
    rw [show n / 4096 * 4096 + n / 64 % 64 * 64 + n % 64 = n by omega, hc] at h
    exact lossy_cons_of_head h
  · have h := head_four (a := n / 262144) (b := n / 4096 % 64) (c := n / 64 % 64) (d := n % 64)
      (by omega) (by omega) (by omega) (by omega) (by omega) (by omega) rest
    rw [show n / 262144 * 262144 + n / 4096 % 64 * 4096 + n / 64 % 64 * 64 + n % 64 = n by omega,
      hc] at h
    exact lossy_cons_of_head h

/-- An encoded text is read back. -/
theorem lossy_bytes (cs : List Char) : lossy (bytes cs) = cs := by
  induction cs with
  | nil => simp [bytes, lossy]
  | cons c cs ih =>
    rw [bytes, List.flatMap_cons, lossy_encode_append]
    exact congrArg (c :: ·) ih

theorem decode?_bytes (cs : List Char) : decode? (bytes cs) = some cs := by
  rw [decode?, lossy_bytes, if_pos rfl]

/-- Texts have different encodings. -/
theorem bytes_inj {cs ds : List Char} : bytes cs = bytes ds ↔ cs = ds := by
  constructor
  · intro h
    rw [← lossy_bytes cs, h, lossy_bytes]
  · rintro rfl
    rfl

/-- A byte of a character is its code point in ASCII, and no ASCII beyond that. -/
theorem toNat_of_mem_encode {c : Char} {b : UInt8} (h : b ∈ encode c) :
    b.toNat = c.toNat ∨ 128 ≤ b.toNat := by
  have hv : c.toNat < 0xD800 ∨ (0xDFFF < c.toNat ∧ c.toNat < 0x110000) := c.valid
  have hhigh : ∀ n, 128 ≤ n → n < 256 → 128 ≤ (UInt8.ofNat n).toNat := by
    intro n hlo hhi
    rw [toNat_ofNat_byte hhi]
    exact hlo
  unfold encode at h
  dsimp only at h
  split_ifs at h with h1 h2 h3
  · rw [List.mem_singleton.1 h, toNat_ofNat_byte (by omega)]
    exact Or.inl rfl
  · simp only [List.mem_cons, List.not_mem_nil, or_false] at h
    rcases h with rfl | rfl <;> exact Or.inr (hhigh _ (by omega) (by omega))
  · simp only [List.mem_cons, List.not_mem_nil, or_false] at h
    rcases h with rfl | rfl | rfl <;> exact Or.inr (hhigh _ (by omega) (by omega))
  · simp only [List.mem_cons, List.not_mem_nil, or_false] at h
    rcases h with rfl | rfl | rfl | rfl <;> exact Or.inr (hhigh _ (by omega) (by omega))

theorem toNat_of_mem_bytes {cs : List Char} {b : UInt8} (h : b ∈ bytes cs) :
    (∃ c ∈ cs, b.toNat = c.toNat) ∨ 128 ≤ b.toNat := by
  obtain ⟨c, hc, hb⟩ := List.mem_flatMap.1 h
  exact (toNat_of_mem_encode hb).imp_left fun heq => ⟨c, hc, heq⟩

/-! ## Strings -/

/-- The encoding is that of the standard library. -/
theorem utf8EncodeChar_eq (c : Char) : String.utf8EncodeChar c = encode c := by
  have hc : c.toNat < 0x110000 := by
    rcases c.valid with h | ⟨-, h⟩
    · exact lt_trans h (by decide)
    · exact h
  unfold String.utf8EncodeChar encode
  rw [Char.toNat_val]
  generalize c.toNat = n at hc
  dsimp only
  simp only [← Nat.lt_succ_iff]
  split_ifs with h1 h2 h3
  · rfl
  · rw [show n / 64 % 0x20 + 0xc0 = 0xC0 + n / 64 by omega, Nat.add_comm (n % 64)]
  · rw [show n / 4096 % 0x10 + 0xe0 = 0xE0 + n / 4096 by omega, Nat.add_comm (n % 64),
      Nat.add_comm (n / 64 % 64)]
  · rw [show n / 262144 % 0x08 + 0xf0 = 0xF0 + n / 262144 by omega, Nat.add_comm (n % 64),
      Nat.add_comm (n / 64 % 64), Nat.add_comm (n / 4096 % 64)]

/-- The loop of the standard library collects the bytes from the end. -/
theorem toList_loop (bs : ByteArray) (i : Nat) (r : List UInt8) :
    ByteArray.toList.loop bs i r = r.reverse ++ bs.data.toList.drop i := by
  fun_induction ByteArray.toList.loop bs i r with
  | case1 i r h ih =>
    have hsize : i < bs.data.toList.length := by simpa using h
    have hget : bs.get! i = bs.data.toList[i] := by
      show bs.data[i]! = bs.data.toList[i]
      rw [getElem!_pos bs.data i hsize, Array.getElem_toList]
    rw [ih, List.drop_eq_getElem_cons hsize, hget]
    simp
  | case2 i r h =>
    have hsize : bs.data.toList.length ≤ i := by simpa using h
    rw [List.drop_eq_nil_of_le hsize, List.append_nil]

/-- The bytes of a string encode its characters. -/
theorem toList_toUTF8 (s : String) : s.toUTF8.toList = bytes s.toList := by
  have hlist : s.toUTF8.toList = s.toUTF8.data.toList := toList_loop s.toUTF8 0 []
  rw [hlist, String.toUTF8_eq_toByteArray, ← String.utf8Encode_toList, List.utf8Encode,
    List.toList_data_toByteArray, bytes]
  exact congrArg (s.toList.flatMap ·) (funext utf8EncodeChar_eq)

end ProbeCampaign.Utf8
