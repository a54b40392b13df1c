import Mathlib.Tactic
import ProbeCampaign.Proofs.Corpus.Kinds
import ProbeCampaign.Proofs.Text.Case
import ProbeCampaign.Proofs.Text.Pattern

/-!
# Placeholders

A value with placeholders is written once for each form of the hosts
(`UrlForms.expandOne_of_hasPlaceholder`), and none of the outcomes has a placeholder in it
(`UrlForms.not_hasPlaceholder_of_mem_expand`): a form begins with a character that the placeholder
does not have, and has no less-than sign (`UrlForms.separates_of_mem_all`). So the values of the
built-in families have no placeholders, with values from outside or without
(`UrlForms.expand_clears`).
-/

namespace ProbeCampaign

/-- The names of the hosts have no less-than sign. -/
structure HostConfig.Clear (hosts : HostConfig) : Prop where
  base : '<' ∉ hosts.baseHost.toList
  alt : '<' ∉ hosts.altHost.toList

namespace UrlForms

/-- A text has the placeholder somewhere in it. -/
def HasPlaceholder (s : String) : Prop :=
  urlPlaceholder.toList <:+: s.toList

instance : DecidablePred HasPlaceholder :=
  fun s => inferInstanceAs (Decidable (urlPlaceholder.toList <:+: s.toList))

theorem not_hasPlaceholder_of_clear {s : String} (h : '<' ∉ s.toList) : ¬ HasPlaceholder s :=
  fun hs => h (hs.subset (by decide))

/-! ## Forms -/

/-- A text can neither begin an occurrence of the placeholder nor continue one. -/
structure Separates (form : String) : Prop where
  clear : '<' ∉ form.toList
  lead : ∃ c rest, form.toList = c :: rest ∧ c ∉ urlPlaceholder.toList

theorem Separates.append {form back : String} (h : Separates form) (hback : '<' ∉ back.toList) :
    Separates (form ++ back) := by
  obtain ⟨c, rest, hform, hc⟩ := h.lead
  refine ⟨?_, c, rest ++ back.toList, ?_, hc⟩
  · rw [String.toList_append, List.mem_append, not_or]
    exact ⟨h.clear, hback⟩
  · rw [String.toList_append, hform]
    rfl

/-- Every form of a host separates what is around it, as long as no host has a less-than sign. -/
theorem separates_of_mem_all {hosts : HostConfig} (h : hosts.Clear) {form : String}
    (hform : form ∈ all hosts) : Separates form := by
  have hsub : Separates "sub." := ⟨by decide, 's', _, rfl, by decide⟩
  have hstar : Separates "*." := ⟨by decide, '*', _, rfl, by decide⟩
  have hstarSub : Separates "*.sub." := ⟨by decide, '*', _, rfl, by decide⟩
  have hcapital : Separates "HTTPS://SUB." := ⟨by decide, 'H', _, rfl, by decide⟩
  have hplain : Separates "http://sub." := ⟨by decide, 'h', _, rfl, by decide⟩
  have hsecure : Separates "https://" := ⟨by decide, 'h', _, rfl, by decide⟩
  have horigin : Separates (originSecure hosts) :=
    Separates.append ⟨by decide, 'h', _, rfl, by decide⟩ h.base
  have hsubSub : Separates "https://sub.sub." := ⟨by decide, 'h', _, rfl, by decide⟩
  have hsecureStar : Separates "https://*.sub." := ⟨by decide, 'h', _, rfl, by decide⟩
  simp only [all, List.mem_cons, List.not_mem_nil, or_false] at hform
  rcases hform with rfl | rfl | rfl | rfl | rfl | rfl | rfl | rfl | rfl | rfl | rfl | rfl | rfl |
    rfl | rfl
  · exact hsub.append h.base
  · exact horigin
  · exact hcapital.append (Text.lessThan_not_mem_upper h.base)
  · exact horigin.append (by decide)
  · exact horigin.append (by decide)
  · exact hplain.append h.base
  · exact horigin.append (by decide)
  · exact horigin.append (by decide)
  · exact (horigin.append (by decide)).append (by decide)
  · exact hsecure.append h.base
  · exact hsubSub.append h.base
  · exact hstar.append h.base
  · exact hstarSub.append h.base
  · exact hsecureStar.append h.base
  · exact hsecure.append h.alt

/-! ## Expansion -/

section Expansion

variable {hosts : HostConfig} {value s : String} {values : List String}

theorem occurs_iff_hasPlaceholder :
    (Pattern.literal urlPlaceholder.toList).occurs value.toList = true ↔ HasPlaceholder value :=
  Pattern.occurs_literal_iff (by decide)

theorem expandOne_of_not_hasPlaceholder (h : ¬ HasPlaceholder value) :
    expandOne hosts value = [value] :=
  if_neg (mt occurs_iff_hasPlaceholder.1 h)

/-- The parts around the placeholders of a value are the same in all outcomes. -/
theorem expandOne_of_hasPlaceholder (hosts : HostConfig) (h : HasPlaceholder value) :
    ∃ pieces, 2 ≤ pieces.length ∧ (∀ piece ∈ pieces, ¬ urlPlaceholder.toList <:+: piece) ∧
      value.toList = urlPlaceholder.toList.intercalate pieces ∧
      expandOne hosts value =
        (all hosts).map fun form => String.ofList (form.toList.intercalate pieces) := by
  have hne : urlPlaceholder.toList ≠ [] := by decide
  obtain ⟨first, others, hfree, hvalue, hreplace⟩ := Pattern.exists_pieces hne value.toList
  refine ⟨first :: others, ?_, hfree, hvalue, ?_⟩
  · cases others with
    | nil =>
      -- The one piece would be the value.
      rw [List.intercalate_singleton] at hvalue
      exact absurd (hvalue ▸ h) (hfree first List.mem_cons_self)
    | cons other others => exact Nat.le_add_left 2 others.length
  · rw [expandOne, if_pos (occurs_iff_hasPlaceholder.2 h)]
    exact List.map_congr_left fun form _ => congrArg String.ofList (hreplace form.toList)

/-- A value is expanded into texts without placeholders. -/
theorem not_hasPlaceholder_of_mem_expandOne (hclear : hosts.Clear) (h : s ∈ expandOne hosts value) :
    ¬ HasPlaceholder s := by
  by_cases hvalue : HasPlaceholder value
  · obtain ⟨pieces, -, hfree, -, heq⟩ := expandOne_of_hasPlaceholder hosts hvalue
    rw [heq] at h
    obtain ⟨form, hform, rfl⟩ := List.mem_map.1 h
    obtain ⟨hsign, c, rest, htoList, hc⟩ := separates_of_mem_all hclear hform
    rw [htoList] at hsign
    rw [HasPlaceholder, String.toList_ofList, htoList]
    exact Pattern.not_infix_intercalate hsign hc hfree
  · rw [expandOne_of_not_hasPlaceholder hvalue, List.mem_singleton] at h
    rwa [h]

theorem not_hasPlaceholder_of_mem_expand (hclear : hosts.Clear) (h : s ∈ expand hosts values) :
    ¬ HasPlaceholder s := by
  obtain ⟨value, -, h⟩ := List.mem_flatMap.1 h
  exact not_hasPlaceholder_of_mem_expandOne hclear h

theorem expand_singleton (hosts : HostConfig) (value : String) :
    expand hosts [value] = expandOne hosts value :=
  List.flatMap_singleton _ _

theorem expand_append (hosts : HostConfig) (xs ys : List String) :
    expand hosts (xs ++ ys) = expand hosts xs ++ expand hosts ys :=
  List.flatMap_append

end Expansion

end UrlForms

/-! ## Families -/

namespace HeaderFamily

open UrlForms (HasPlaceholder originSecure expand)

variable {hosts : HostConfig} {f : HeaderFamily}

/-- No value has a placeholder in it. -/
def Expanded (f : HeaderFamily) : Prop :=
  ∀ s ∈ f.allValues, ¬ HasPlaceholder s

/-- Values that are added to a family are expanded first. -/
theorem Expanded.extendOther (h : f.Expanded) (hclear : hosts.Clear) (values : List String) :
    (f.extendOther hosts values).Expanded := by
  intro s hs
  have hvalues : (f.extendOther hosts values).allValues = f.allValues ++ expand hosts values :=
    (List.append_assoc _ _ _).symm
  rw [hvalues, List.mem_append] at hs
  rcases hs with hs | hs
  · exact h s hs
  · exact UrlForms.not_hasPlaceholder_of_mem_expand hclear hs

/-- The values of the built-in families that are not expanded have no less-than sign. -/
theorem clear_of_mem_builtin (hclear : hosts.Clear) (hf : f ∈ builtinFamilies hosts) :
    ∀ s ∈ f.validValues ++ f.legacyValues, '<' ∉ s.toList := by
  have horigin : '<' ∉ (originSecure hosts).toList := by
    rw [originSecure, String.toList_append, List.mem_append, not_or]
    exact ⟨by decide, hclear.base⟩
  have hlegacy : '<' ∉ ("ALLOW-FROM " ++ originSecure hosts).toList := by
    rw [String.toList_append, List.mem_append, not_or]
    exact ⟨by decide, horigin⟩
  have hfixed : ∀ {values : List String},
      values.all (fun s => !s.toList.contains '<') = true → ∀ s ∈ values, '<' ∉ s.toList := by
    intro values hall s hs
    simpa using List.all_eq_true.1 hall s hs
  simp only [builtinFamilies, sharingFamilies, sourceFamilies, List.cons_append, List.nil_append,
    List.mem_cons, List.not_mem_nil, or_false] at hf
  rcases hf with rfl | rfl | rfl | hf
  · exact List.forall_mem_append.2 ⟨hfixed rfl, List.forall_mem_singleton.2 hlegacy⟩
  · exact hfixed rfl
  · show ∀ s ∈ ["null", "*"] ++ [originSecure hosts], '<' ∉ s.toList
    exact List.forall_mem_append.2 ⟨hfixed rfl, List.forall_mem_singleton.2 horigin⟩
  · rcases hf with rfl | rfl | rfl | rfl | rfl | rfl | rfl | rfl | rfl | rfl | rfl | rfl | rfl | rfl
    all_goals exact hfixed rfl

/-- Other values are what the placeholders are expanded in. -/
theorem exists_expand_of_mem_builtin (hf : f ∈ builtinFamilies hosts) :
    ∃ raw, f.otherValues = expand hosts raw := by
  obtain ⟨raws, hraws⟩ : ∃ raws : List (List String),
      (builtinFamilies hosts).map (·.otherValues) = raws.map (expand hosts) :=
    ⟨[_, _, _, _, _, _, _, _, _, _, _, _, _, _, _, _, _], rfl⟩
  obtain ⟨raw, -, hraw⟩ := List.mem_map.1 (hraws ▸ List.mem_map_of_mem hf)
  exact ⟨raw, hraw.symm⟩

/-- The built-in families have no placeholder, for every setting of the hosts. -/
theorem expanded_of_mem_builtin (hclear : hosts.Clear) (hf : f ∈ builtinFamilies hosts) :
    f.Expanded := by
  intro s hs
  rw [allValues, List.mem_append] at hs
  rcases hs with hs | hs
  · exact UrlForms.not_hasPlaceholder_of_clear (clear_of_mem_builtin hclear hf s hs)
  · obtain ⟨raw, hraw⟩ := exists_expand_of_mem_builtin hf
    rw [hraw] at hs
    exact UrlForms.not_hasPlaceholder_of_mem_expand hclear hs

end HeaderFamily

namespace Corpus

/-- Value lists are expanded before they are added. -/
theorem expanded_families {read : FileReader} {config : CampaignConfig}
    (hclear : config.hosts.Clear) {fs : List HeaderFamily} (h : families read config = .ok fs) :
    ∀ f ∈ fs, f.Expanded := by
  refine families_keep (P := fun fs : List HeaderFamily => ∀ f ∈ fs, f.Expanded) ?_
    (fun f => HeaderFamily.expanded_of_mem_builtin hclear) h
  intro label values fs hfs f hf
  obtain ⟨g, hg, rfl⟩ := List.mem_map.1 hf
  split
  · exact (hfs g hg).extendOther hclear values
  · exact hfs g hg

end Corpus

/-- If the names of the hosts have no less-than sign, then no placeholder is left by the expansion
of any values. A value without it stays as it is, and a value with it has fifteen outcomes, with the
forms in turn in place of all of its placeholders. Outcomes are in the order of the values. So no
value of a built-in family has a placeholder, and none that is added to a family leaves one. -/
theorem UrlForms.expand_clears {hosts : HostConfig} (hclear : hosts.Clear) :
    (∀ values, ∀ s ∈ expand hosts values, ¬ HasPlaceholder s) ∧
    (∀ value, ¬ HasPlaceholder value → expand hosts [value] = [value]) ∧
    (∀ value, HasPlaceholder value → ∃ pieces, 2 ≤ pieces.length ∧
      (∀ piece ∈ pieces, ¬ urlPlaceholder.toList <:+: piece) ∧
      value.toList = urlPlaceholder.toList.intercalate pieces ∧
      expand hosts [value] =
        (all hosts).map fun form => String.ofList (form.toList.intercalate pieces)) ∧
    (all hosts).length = 15 ∧
    (∀ xs ys, expand hosts (xs ++ ys) = expand hosts xs ++ expand hosts ys) ∧
    (∀ f ∈ builtinFamilies hosts, ∀ added : List (List String),
      (added.foldl (fun f values => f.extendOther hosts values) f).Expanded) ∧
    ∀ read config fs, config.hosts = hosts → Corpus.families read config = .ok fs →
      ∀ f ∈ fs, f.Expanded := by
  refine ⟨fun values s => not_hasPlaceholder_of_mem_expand hclear, fun value h => ?_,
    fun value h => ?_, rfl, expand_append hosts, fun f hf added => ?_, ?_⟩
  · rw [expand_singleton, expandOne_of_not_hasPlaceholder h]
  · rw [expand_singleton]
    exact expandOne_of_hasPlaceholder hosts h
  · have hexpanded := HeaderFamily.expanded_of_mem_builtin hclear hf
    clear hf
    induction added generalizing f with
    | nil => exact hexpanded
    | cons values added ih => exact ih _ (hexpanded.extendOther hclear values)
  · rintro read config fs rfl h
    exact Corpus.expanded_families hclear h

/-- A placeholder inside of the parts of another one: taking it out would join them. -/
def UrlForms.nested : String := "<!U<!URL!>RL!>"

/-- A form in its place keeps them apart. -/
theorem UrlForms.expand_clears_nested :
    HostConfig.default.Clear ∧ HasPlaceholder nested ∧
      (expand .default [nested]).head? = some "<!Usub.web-platform.testRL!>" ∧
      (expand .default [nested]).length = 15 ∧
      ∀ s ∈ expand .default [nested], ¬ HasPlaceholder s := by
  have hclear : HostConfig.default.Clear := ⟨by decide, by decide⟩
  have hnested : HasPlaceholder nested := by decide
  obtain ⟨hnone, -, hforms, hlength, -⟩ := expand_clears hclear
  obtain ⟨pieces, -, -, -, hexpand⟩ := hforms nested hnested
  refine ⟨hclear, hnested, by decide +kernel, ?_, hnone [nested]⟩
  rw [hexpand, List.length_map, hlength]

end ProbeCampaign
