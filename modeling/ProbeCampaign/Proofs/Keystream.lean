import Mathlib.Tactic
import ProbeCampaign.Keystream

/-!
# Flips drawn one after the other

A source gives flips one at a time. It computes four blocks of output at once, keeps their words,
and uses two words for a flip. Whatever it has given before, its next flip is the one that the
stream has there (`Unused.draw`).
-/

namespace ProbeCampaign.Keystream

/-- A key, the number of the next block, and the words that are not used yet. -/
structure Source where
  key : List UInt32
  counter : UInt64
  words : List UInt32

/-- The words of four blocks. -/
def fourBlocks (key : List UInt32) (counter : UInt64) : List UInt32 :=
  (block key counter).toList ++ (block key (counter + 1)).toList ++
    (block key (counter + 2)).toList ++ (block key (counter + 3)).toList

namespace Source

/-- A source that has given no flip. -/
def ofSeed (seed : UInt64) : Source :=
  ⟨keyWords 8 seed, 0, []⟩

/-- Four more blocks where the words do not last for a flip. -/
def refilled (s : Source) : Source :=
  if s.words.length < 2 then
    { s with counter := s.counter + 4, words := s.words ++ fourBlocks s.key s.counter }
  else s

/-- The next flip: whether the higher one of two words is below `2 ^ 31`. -/
def draw (s : Source) : Bool × Source :=
  let s := s.refilled
  (s.words.getD 1 0 < 0x80000000, { s with words := s.words.drop 2 })

/-- The source after a number of flips. -/
def after (s : Source) : Nat → Source
  | 0 => s
  | n + 1 => (s.after n).draw.2

end Source

/-! ## The words of the stream -/

/-- A word of the output. -/
def word (key : List UInt32) (i : Nat) : UInt32 :=
  (block key (UInt64.ofNat (i / 16)))[i % 16]

/-- A block has sixteen words of the stream. -/
theorem toList_block (key : List UInt32) (b : Nat) :
    (block key (UInt64.ofNat b)).toList = (List.range' (16 * b) 16).map (word key) := by
  refine List.ext_getElem (by simp) fun i hi _ => ?_
  rw [Vector.length_toList] at hi
  have hblock : (16 * b + i) / 16 = b := by omega
  have hplace : (16 * b + i) % 16 = i := by omega
  simp [word, hblock, hplace]

/-- Four blocks have the next sixty-four words. -/
theorem fourBlocks_eq (key : List UInt32) (b : Nat) :
    fourBlocks key (UInt64.ofNat b) = (List.range' (16 * b) 64).map (word key) := by
  have hone : UInt64.ofNat b + 1 = UInt64.ofNat (b + 1) := (UInt64.ofNat_add b 1).symm
  have htwo : UInt64.ofNat b + 2 = UInt64.ofNat (b + 2) := (UInt64.ofNat_add b 2).symm
  have hthree : UInt64.ofNat b + 3 = UInt64.ofNat (b + 3) := (UInt64.ofNat_add b 3).symm
  rw [fourBlocks, hone, htwo, hthree, toList_block, toList_block, toList_block, toList_block,
    ← List.map_append, ← List.map_append, ← List.map_append]
  simp only [Nat.mul_add, List.range'_append_1, Nat.reduceMul, Nat.reduceAdd]

/-- A flip looks at the higher one of its two words. -/
theorem coin_eq (seed : UInt64) (i : Nat) :
    coin seed i = decide (word (keyWords 8 seed) (2 * i + 1) < 0x80000000) := by
  have hblock : (2 * i + 1) / 16 = i / 8 := by omega
  have hplace : (2 * i + 1) % 16 = 2 * (i % 8) + 1 := by omega
  simp only [coin, word, hblock, hplace]

/-! ## Drawing -/

theorem Source.draw_of_words {s : Source} {low high : UInt32} {rest : List UInt32}
    (h : s.refilled.words = low :: high :: rest) :
    s.draw = (decide (high < 0x80000000), { s.refilled with words := rest }) := by
  rw [draw, h]
  rfl

/-- After `n` flips the unused words are those of the stream up to the end of a block. -/
def Unused (seed : UInt64) (n : Nat) (s : Source) : Prop :=
  s.key = keyWords 8 seed ∧ ∃ b k, 16 * b = 2 * n + k ∧ s.counter = UInt64.ofNat b ∧
    s.words = (List.range' (2 * n) k).map (word s.key)

theorem unused_ofSeed (seed : UInt64) : Unused seed 0 (.ofSeed seed) :=
  ⟨rfl, 0, 0, rfl, rfl, rfl⟩

variable {seed : UInt64} {n : Nat} {s : Source}

/-- The words that are left are followed by the next ones, so there are always two. -/
theorem Unused.refilled (h : Unused seed n s) :
    Unused seed n s.refilled ∧ 2 ≤ s.refilled.words.length := by
  unfold Source.refilled
  split
  · obtain ⟨hkey, b, k, hend, hcounter, hwords⟩ := h
    have hmore : UInt64.ofNat b + 4 = UInt64.ofNat (b + 4) := (UInt64.ofNat_add b 4).symm
    have hjoin : s.words ++ fourBlocks s.key s.counter =
        (List.range' (2 * n) (k + 64)).map (word s.key) := by
      rw [hcounter, fourBlocks_eq, hwords, ← List.map_append, hend, List.range'_append_1]
    refine ⟨⟨hkey, b + 4, k + 64, by omega, ?_, hjoin⟩, ?_⟩
    · rw [hcounter, hmore]
    · dsimp only
      rw [hjoin, List.length_map, List.length_range']
      omega
  · next hlength => exact ⟨h, Nat.le_of_not_lt hlength⟩

/-- A draw gives the flip that the stream has there. -/
theorem Unused.draw (h : Unused seed n s) :
    s.draw.1 = coin seed n ∧ Unused seed (n + 1) s.draw.2 := by
  obtain ⟨⟨hkey, b, k, hend, hcounter, hwords⟩, hlength⟩ := h.refilled
  rw [hwords, List.length_map, List.length_range'] at hlength
  obtain ⟨k, rfl⟩ := Nat.exists_eq_add_of_le' hlength
  have hnext : 2 * n + 1 + 1 = 2 * (n + 1) := rfl
  rw [List.range'_succ, List.range'_succ, List.map_cons, List.map_cons, hnext] at hwords
  have hnow : 16 * b = 2 * (n + 1) + k := by omega
  rw [Source.draw_of_words hwords]
  constructor
  · rw [coin_eq, ← hkey]
  · exact ⟨hkey, b, k, hnow, hcounter, rfl⟩

theorem unused_after (seed : UInt64) (n : Nat) : Unused seed n ((Source.ofSeed seed).after n) := by
  induction n with
  | zero => exact unused_ofSeed seed
  | succ n ih => exact ih.draw.2

/-- The flips of the stream are those that a source gives one after the other. -/
theorem draw_after (seed : UInt64) (n : Nat) :
    ((Source.ofSeed seed).after n).draw.1 = coin seed n :=
  (unused_after seed n).draw.1

end ProbeCampaign.Keystream
