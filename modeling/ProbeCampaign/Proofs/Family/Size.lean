import Mathlib.Tactic
import ProbeCampaign.Proofs.Distinct
import ProbeCampaign.Proofs.Family.Probes
import ProbeCampaign.Proofs.Family.Several

/-!
# The size of a family's corpus

Other status codes than 200 occur only where each valid value is served with each of the codes of
the table (`filter_tests`). Everything that is generated of a family is counted strategy by
strategy (`length_nameTests`, `length_valueTests`, `length_multipleTests`); together they give the
size of its corpus (`tests_shape`).
-/

namespace ProbeCampaign

open scoped Nat

namespace Mutation

/-- The distinct results of several changes of a text. -/
def images (changes : List Mutation) (s : String) : Finset String :=
  (changes.map (·.apply s)).toFinset

/-- The results of some changes are the images of the text, each once. -/
theorem coe_outputs (changes : List Mutation) (s : String) :
    (outputs changes s : Multiset String) = (images changes s).val := by
  have hnodup : (outputs changes s).Nodup := by
    rw [outputs, Text.ascending_eq]
    exact Distinct.nodup_distinct Distinct.isOrder_string _
  refine (Multiset.Nodup.ext (Multiset.coe_nodup.2 hnodup) (images changes s).nodup).2 fun t => ?_
  rw [Multiset.mem_coe, Finset.mem_val, images, List.mem_toFinset]
  exact Text.mem_ascending

theorem length_outputs (changes : List Mutation) (s : String) :
    (outputs changes s).length = (images changes s).card :=
  congrArg Multiset.card (coe_outputs changes s)

end Mutation

namespace HeaderFamily

open Mutation (general images)

variable {f : HeaderFamily} {spec : ResponseSpec}

/-! ## Status codes -/

theorem statusCode_of_mem_nameTests (h : spec ∈ f.nameTests) : spec.statusCode = 200 := by
  unfold nameTests at h
  obtain ⟨value, -, h⟩ := List.mem_flatMap.1 h
  obtain ⟨name, -, rfl⟩ := List.mem_map.1 h
  rfl

theorem statusCode_of_mem_multipleTests (h : spec ∈ f.multipleTests) : spec.statusCode = 200 := by
  obtain ⟨headers, -, rfl⟩ := List.mem_map.1 (f.multipleTests_perm.subset h)
  rfl

/-- A probe of a status code has the value first, and the redirect next if the code redirects. -/
theorem statusTest_eq (f : HeaderFamily) (redirect : Header) (value : String) (code : UInt16) :
    f.statusTest redirect value code =
      ⟨(f.headerName, value) :: (if 300 ≤ code ∧ code < 400 then redirect :: f.baseResp
        else f.baseResp), code, f.label, .parsing⟩ := by
  unfold statusTest
  split
  · rfl
  · rfl

/-- Only the sweep over status codes has other codes than 200: values as they are and changed values
are served with that one. -/
theorem filter_valueTests (f : HeaderFamily) (redirect : Header) :
    (f.valueTests redirect).filter (·.statusCode ≠ 200) =
      f.validValues.flatMap fun v => probedStatusCodes.map (f.statusTest redirect v) := by
  have hplain : ∀ values : List String,
      (values.map f.single).filter (·.statusCode ≠ 200) = [] := by
    intro values
    rw [List.filter_map, List.map_eq_nil_iff, List.filter_eq_nil_iff]
    exact fun value _ => by simp [single, response, responseWith]
  have hswept : ∀ v, (probedStatusCodes.map (f.statusTest redirect v)).filter
      (·.statusCode ≠ 200) = probedStatusCodes.map (f.statusTest redirect v) := by
    intro v
    rw [List.filter_map]
    rfl
  rw [valueTests, List.filter_append, hplain, List.nil_append, List.filter_flatMap]
  refine List.flatMap_congr fun v _ => ?_
  rw [List.filter_append, hswept, hplain, List.append_nil]

/-- The same holds among all probes of a family. -/
theorem filter_tests (f : HeaderFamily) (redirect : Header) :
    (f.tests redirect).filter (·.statusCode ≠ 200) =
      f.validValues.flatMap fun v => probedStatusCodes.map (f.statusTest redirect v) := by
  have hnames : f.nameTests.filter (·.statusCode ≠ 200) = [] :=
    List.filter_eq_nil_iff.2 fun spec hspec => by simp [statusCode_of_mem_nameTests hspec]
  have hmultiple : f.multipleTests.filter (·.statusCode ≠ 200) = [] :=
    List.filter_eq_nil_iff.2 fun spec hspec => by simp [statusCode_of_mem_multipleTests hspec]
  rw [tests, List.filter_append, List.filter_append, hnames, hmultiple, filter_valueTests,
    List.nil_append, List.append_nil]

/-! ## Counts -/

theorem length_flatMap_const {α β : Type} {xs : List α} {g : α → List β} {n : Nat}
    (h : ∀ x ∈ xs, (g x).length = n) : (xs.flatMap g).length = xs.length * n := by
  rw [List.length_flatMap, List.map_congr_left h, List.map_const', List.sum_replicate, smul_eq_mul]

/-- Each valid value is probed under the name, under each other name, and under each changed one. -/
theorem length_nameTests (f : HeaderFamily) :
    f.nameTests.length = f.validValues.length *
      (1 + f.altNames.length + (images general f.headerName).card) := by
  rw [nameTests]
  refine length_flatMap_const fun v _ => ?_
  rw [List.length_map, List.length_cons, List.length_append, Mutation.length_outputs]
  omega

/-- Each value is probed once, and each valid value also with ten status codes and in each changed
form. -/
theorem length_valueTests (f : HeaderFamily) (redirect : Header) :
    (f.valueTests redirect).length = f.legacyValues.length + f.otherValues.length +
      (f.validValues.map fun v => 10 + (images general v).card).sum := by
  have hvalue : ∀ v, (probedStatusCodes.map (f.statusTest redirect v) ++
      (Mutation.outputs general v).map f.single).length =
      10 + (images general v).card := by
    intro v
    rw [List.length_append, List.length_map, List.length_map, Mutation.length_outputs]
    rfl
  rw [valueTests, List.length_append, List.length_map, List.length_append, List.length_flatMap,
    List.map_congr_left fun v _ => hvalue v]

theorem length_orderForms (name : String) (values : List String) :
    (orderForms name values).length = 6 + if 3 ≤ values.length then 2 else 0 := by
  rw [orderForms, splitForms, List.length_append, apply_ite List.length]
  rfl

/-- Every order of the valid values has six forms, or eight for three values or more. Each value has
four with itself, and four with each of two other values. -/
theorem length_multipleTests (f : HeaderFamily) :
    f.multipleTests.length = 6 * f.validValues.length ! +
      (if 3 ≤ f.validValues.length then 2 * f.validValues.length ! else 0) +
      4 * f.validValues.length + 4 * f.validValues.length * min 2 f.otherValues.length := by
  have horders : ((permutations f.validValues).flatMap (orderForms f.headerName)).length =
      f.validValues.length ! * (6 + if 3 ≤ f.validValues.length then 2 else 0) := by
    rw [← length_permutations]
    refine length_flatMap_const fun order horder => ?_
    rw [length_orderForms, (mem_permutations.1 horder).length_eq]
  have htwice : (f.validValues.flatMap (twiceForms f.headerName)).length =
      f.validValues.length * 4 :=
    length_flatMap_const fun _ _ => rfl
  have hmixed : (f.validValues.flatMap fun v =>
      (f.otherValues.take 2).flatMap (mixedForms f.headerName v)).length =
      f.validValues.length * (min 2 f.otherValues.length * 4) := by
    refine length_flatMap_const fun v _ => ?_
    rw [← List.length_take]
    exact length_flatMap_const fun _ _ => rfl
  rw [f.multipleTests_perm.length_eq, List.length_map, List.length_append, List.length_append,
    horders, htwice, hmixed]
  split
  · ring
  · ring

/-! ## Shape and size -/

/-- Everything generated of a family carries its label and ends in its accompanying headers. Each
valid value is served once with each code of the table, with a target exactly if the code redirects;
every other status code is 200. -/
theorem tests_shape (f : HeaderFamily) (redirect : Header) :
    (∀ spec ∈ f.tests redirect,
      spec.label = f.label ∧ spec.respType = .parsing ∧ f.baseResp <:+ spec.headers) ∧
    (f.tests redirect).filter (·.statusCode ≠ 200) = (f.validValues.flatMap fun v =>
      [201, 203, 204, 300, 302, 400, 403, 404, 418, 500].map fun code =>
        ⟨(f.headerName, v) :: (if 300 ≤ code ∧ code < 400 then redirect :: f.baseResp
          else f.baseResp), code, f.label, .parsing⟩) ∧
    (f.tests redirect).length =
      f.validValues.length * (1 + f.altNames.length + (images general f.headerName).card) +
      f.legacyValues.length + f.otherValues.length +
      (f.validValues.map fun v => 10 + (images general v).card).sum +
      6 * f.validValues.length ! +
      (if 3 ≤ f.validValues.length then 2 * f.validValues.length ! else 0) +
      4 * f.validValues.length + 4 * f.validValues.length * min 2 f.otherValues.length := by
  refine ⟨fun spec hspec => ?_, ?_, ?_⟩
  · obtain ⟨status, headers, rfl⟩ := makes_of_mem_tests hspec
    exact ⟨rfl, rfl, List.suffix_append _ _⟩
  · rw [filter_tests]
    refine List.flatMap_congr fun v _ => ?_
    exact List.map_congr_left fun code _ => f.statusTest_eq redirect v code
  · rw [tests, List.length_append, List.length_append, length_nameTests, length_valueTests,
      length_multipleTests]
    omega

/-- A family with one valid value, one other value and an accompanying header. -/
def accompanied : HeaderFamily where
  label := "XFO"
  headerName := "x-frame-options"
  altNames := []
  blockValues := ["DENY"]
  allowValues := []
  partialValues := []
  legacyValues := []
  otherValues := [""]
  baseResp := [("test", "1")]

/-- The response with a code that redirects is one of the ten with another status code. -/
theorem tests_shape_accompanied :
    accompanied.statusTest ("location", "/") "DENY" 302 ∈ accompanied.tests ("location", "/") ∧
      accompanied.baseResp <:+ (accompanied.statusTest ("location", "/") "DENY" 302).headers ∧
      ((accompanied.tests ("location", "/")).filter (·.statusCode ≠ 200)).length = 10 := by
  obtain ⟨hspecs, hcodes, -⟩ := tests_shape accompanied ("location", "/")
  have hmem : accompanied.statusTest ("location", "/") "DENY" 302 ∈
      (accompanied.tests ("location", "/")).filter (·.statusCode ≠ 200) := by
    rw [filter_tests]
    exact List.mem_flatMap.2 ⟨"DENY", List.mem_cons_self, List.mem_map_of_mem (by decide)⟩
  refine ⟨List.mem_of_mem_filter hmem, (hspecs _ (List.mem_of_mem_filter hmem)).2.2, ?_⟩
  rw [hcodes]
  rfl

end HeaderFamily

end ProbeCampaign
