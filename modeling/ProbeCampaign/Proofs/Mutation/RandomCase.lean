import Mathlib.Tactic
import ProbeCampaign.Mutation
import ProbeCampaign.Proofs.Keystream

/-!
# Case at random

Whatever a character becomes, it takes one flip of the source (`flipAll_after`), so one sequence of
flips serves all texts of a seed. A text that goes on has the changed text of its beginning in front
(`flipCase_append`), and the changed text of an ASCII text differs from it only in case
(`randomCaseOf_flips`).
-/

namespace ProbeCampaign.Mutation

open Keystream (Source)

variable {cs rest : List Char} {i : Nat}

/-- A character in upper case if its flip says so, else in lower case. -/
def cased (capital : Bool) (c : Char) : List Char :=
  if capital then Text.upperChar c else Text.lowerChar c

/-- The characters one after the other, each in the case that the next flip of a source says, and
the source after them. -/
def flipAll (source : Source) : List Char → List Char × Source
  | [] => ([], source)
  | c :: rest =>
    let (capital, source) := source.draw
    let (others, source) := flipAll source rest
    (cased capital c ++ others, source)

theorem flipCase_cons (seed : UInt64) (i : Nat) (c : Char) (rest : List Char) :
    flipCase seed i (c :: rest) = cased (Keystream.coin seed i) c ++ flipCase seed (i + 1) rest :=
  rfl

theorem flipAll_cons (source : Source) (c : Char) (rest : List Char) :
    flipAll source (c :: rest) =
      (cased source.draw.1 c ++ (flipAll source.draw.2 rest).1,
        (flipAll source.draw.2 rest).2) :=
  rfl

/-- Each character takes one flip. -/
theorem flipAll_after (seed : UInt64) (i : Nat) (cs : List Char) :
    flipAll ((Source.ofSeed seed).after i) cs =
      (flipCase seed i cs, (Source.ofSeed seed).after (i + cs.length)) := by
  induction cs generalizing i with
  | nil => rfl
  | cons c rest ih =>
    have hnext : ((Source.ofSeed seed).after i).draw.2 = (Source.ofSeed seed).after (i + 1) := rfl
    rw [flipAll_cons, Keystream.draw_after, hnext, ih, flipCase_cons, List.length_cons,
      Nat.add_assoc, Nat.add_comm 1]

/-- The second part of a text goes on with the bits that the first one left. -/
theorem flipCase_append (seed : UInt64) (i : Nat) (cs rest : List Char) :
    flipCase seed i (cs ++ rest) = flipCase seed i cs ++ flipCase seed (i + cs.length) rest := by
  induction cs generalizing i with
  | nil => rfl
  | cons c cs ih =>
    rw [List.cons_append, flipCase_cons, ih, flipCase_cons, List.append_assoc, List.length_cons,
      Nat.add_assoc, Nat.add_comm 1]

/-- The bit with the number of a character decides its case. -/
theorem flipCase_eq (seed : UInt64) (i : Nat) (cs : List Char) :
    flipCase seed i cs =
      (cs.mapIdx fun j c => cased (Keystream.coin seed (i + j)) c).flatten := by
  induction cs generalizing i with
  | nil => rfl
  | cons c cs ih =>
    simp only [flipCase_cons, List.mapIdx_cons, List.flatten_cons, ih, Nat.add_zero, Nat.add_assoc,
      Nat.add_comm 1]

/-! ## ASCII -/

/-- The case forms of a character of ASCII are one character and differ from it only in case. -/
theorem cased_ascii {c : Char} (h : c.toNat < 128) (capital : Bool) :
    ∃ d, cased capital c = [d] ∧ d.toLower = c.toLower := by
  have hall : ∀ n < 128, ∀ capital, (cased capital (Char.ofNat n)).map Char.toLower =
      [(Char.ofNat n).toLower] := by
    decide +kernel
  have hlower := hall c.toNat h capital
  rwa [Char.ofNat_toNat, List.map_eq_singleton_iff] at hlower

/-- Without the cases of its letters an ASCII text is what it was. -/
theorem flipCase_ascii (seed : UInt64) (i : Nat) (h : ∀ c ∈ cs, c.toNat < 128) :
    (flipCase seed i cs).map Char.toLower = cs.map Char.toLower := by
  induction cs generalizing i with
  | nil => rfl
  | cons c cs ih =>
    obtain ⟨hc, hcs⟩ := List.forall_mem_cons.1 h
    obtain ⟨d, hd, hlower⟩ := cased_ascii hc (Keystream.coin seed i)
    rw [flipCase_cons, hd, List.singleton_append, List.map_cons, List.map_cons, hlower, ih _ hcs]

/-- For each seed there is one sequence of flips, those that its source gives one after the other,
by which every text is changed character by character. Changing a text takes one flip for each
character of it and leaves the source as so many draws do. The changed text of a text that goes on
begins with that of its beginning, and a text of ASCII keeps its length and changes only in case. -/
theorem randomCaseOf_flips (seed : UInt64) : ∃ flips : Nat → Bool,
    (∀ i, flips i = ((Source.ofSeed seed).after i).draw.1) ∧
      (∀ s, (randomCaseOf seed s).toList =
        (s.toList.mapIdx fun i c =>
          if flips i then Text.upperChar c else Text.lowerChar c).flatten) ∧
      (∀ s, flipAll (.ofSeed seed) s.toList =
        ((randomCaseOf seed s).toList, (Source.ofSeed seed).after s.length)) ∧
      (∀ s t, (randomCaseOf seed s).toList <+: (randomCaseOf seed (s ++ t)).toList) ∧
      ∀ s, (∀ c ∈ s.toList, c.toNat < 128) → (randomCaseOf seed s).length = s.length ∧
        (randomCaseOf seed s).toList.map Char.toLower = s.toList.map Char.toLower := by
  refine ⟨Keystream.coin seed, fun i => (Keystream.draw_after seed i).symm, fun s => ?_,
    fun s => ?_, fun s t => ?_, fun s hs => ?_⟩
  · rw [randomCaseOf, String.toList_ofList, flipCase_eq]
    simp only [Nat.zero_add, cased]
  · have hdrawn := flipAll_after seed 0 s.toList
    rw [Nat.zero_add, String.length_toList] at hdrawn
    rw [randomCaseOf, String.toList_ofList]
    exact hdrawn
  · rw [randomCaseOf, randomCaseOf, String.toList_ofList, String.toList_ofList,
      String.toList_append, flipCase_append]
    exact List.prefix_append _ _
  · have hlower := flipCase_ascii seed 0 hs
    have hlength := congrArg List.length hlower
    rw [List.length_map, List.length_map] at hlength
    rw [randomCaseOf, String.length_ofList, String.toList_ofList, ← String.length_toList]
    exact ⟨hlength, hlower⟩

/-- A header value of ASCII keeps its four letters. -/
theorem randomCaseOf_flips_deny :
    (∀ c ∈ "DENY".toList, c.toNat < 128) ∧ (randomCaseOf 7 "DENY").length = 4 ∧
      (randomCaseOf 7 "DENY").toList.map Char.toLower = ['d', 'e', 'n', 'y'] := by
  obtain ⟨flips, -, -, -, -, hascii⟩ := randomCaseOf_flips 7
  have hletters : ∀ c ∈ "DENY".toList, c.toNat < 128 := by simp
  exact ⟨hletters, hascii "DENY" hletters⟩

end ProbeCampaign.Mutation
