import BenchReport.Timing
import Mathlib.Data.List.Basic
import Mathlib.Data.List.TakeWhile

/-!
# Names, categories and labels

The category of a name is free of slashes, and the name is either the category itself or the category,
a slash and a label (`eq_categoryOf_or_append`). The label of a name within a category leads back to
the name, but for one case: a name without a slash is its own label, and so the category and the label
of `c` are those of `c/c` (`name_of_category_and_label`).
-/

namespace BenchReport.Timing

variable {category label name other : String}

/-! ### Categories -/

theorem slash_not_mem_categoryOf (name : String) : '/' ∉ (categoryOf name).toList := by
  intro hslash
  rw [categoryOf, String.toList_ofList] at hslash
  simpa using List.mem_takeWhile_imp hslash

theorem ne_slash_of_mem {s : List Char} (h : '/' ∉ s) : ∀ c ∈ s, (c != '/') = true := by
  intro c hc
  simp only [bne_iff_ne]
  rintro rfl
  exact h hc

theorem categoryOf_of_slash_not_mem (h : '/' ∉ name.toList) : categoryOf name = name := by
  rw [categoryOf, List.takeWhile_eq_self_iff.mpr (ne_slash_of_mem h), String.ofList_toList]

theorem categoryOf_append (h : '/' ∉ category.toList) (label : String) :
    categoryOf (category ++ "/" ++ label) = category := by
  simp [categoryOf, List.takeWhile_append_of_pos (ne_slash_of_mem h)]

/-- A name with a slash stands within its category. -/
theorem exists_eq_append (h : '/' ∈ name.toList) :
    ∃ label, name = categoryOf name ++ "/" ++ label := by
  obtain ⟨front, rest, heq, hfront⟩ := List.eq_append_cons_of_mem h
  have hname : name = String.ofList front ++ "/" ++ String.ofList rest := by
    rw [← String.toList_inj, heq]
    simp
  have hcategory : categoryOf name = String.ofList front := by
    rw [hname]
    apply categoryOf_append
    simpa using hfront
  rw [hcategory]
  exact ⟨String.ofList rest, hname⟩

/-! ### Labels -/

theorem labelIn_of_eq (h : name = category ++ "/" ++ label) : labelIn category name = label := by
  have hafter : (category.toList ++ ['/']).isPrefixOf? name.toList = some label.toList := by
    rw [List.isPrefixOf?_eq_some_iff_append_eq, h]
    simp
  rw [labelIn, hafter]
  exact String.ofList_toList

theorem labelIn_of_ne (h : ∀ label, name ≠ category ++ "/" ++ label) :
    labelIn category name = name := by
  have hafter : (category.toList ++ ['/']).isPrefixOf? name.toList = none := by
    rw [Option.eq_none_iff_forall_ne_some]
    intro label hlabel
    apply h (String.ofList label)
    rw [← String.toList_inj, ← List.isPrefixOf?_eq_some_iff_append_eq.mp hlabel]
    simp
  rw [labelIn, hafter]

/-- A name that stands within a category is the category, a slash and its label. -/
theorem eq_append_labelIn (h : ∃ label, name = category ++ "/" ++ label) :
    name = category ++ "/" ++ labelIn category name := by
  obtain ⟨label, h⟩ := h
  rw [labelIn_of_eq h]
  exact h

/-- A name stands within a category, or is its own label. -/
theorem eq_append_or_labelIn_eq (category name : String) :
    name = category ++ "/" ++ labelIn category name ∨ labelIn category name = name := by
  by_cases h : ∃ label, name = category ++ "/" ++ label
  · exact .inl (eq_append_labelIn h)
  · exact .inr (labelIn_of_ne (not_exists.mp h))

/-- No name stands within itself. -/
theorem labelIn_of_eq_category (h : name = category) : labelIn category name = category := by
  subst h
  apply labelIn_of_ne
  intro label heq
  have hlength := congrArg String.length heq
  have hslash : "/".length = 1 := rfl
  simp only [String.length_append] at hlength
  omega

/-! ### Names -/

/-- A name is its category, or stands within it. -/
theorem eq_categoryOf_or_append (name : String) :
    name = categoryOf name ∨ name = categoryOf name ++ "/" ++ labelIn (categoryOf name) name := by
  by_cases hslash : '/' ∈ name.toList
  · exact .inr (eq_append_labelIn (exists_eq_append hslash))
  · exact .inl (categoryOf_of_slash_not_mem hslash).symm

/-- Names of one category with one label are the same, or the category and what is named like it
within it. -/
theorem eq_or_doubled_of_alike (hcategory : categoryOf other = categoryOf name)
    (hlabel : labelIn (categoryOf name) other = labelIn (categoryOf name) name) :
    other = name ∨
      (name = categoryOf name ∧ other = categoryOf name ++ "/" ++ categoryOf name) ∨
      (other = categoryOf name ∧ name = categoryOf name ++ "/" ++ categoryOf name) := by
  have hother := eq_categoryOf_or_append other
  rw [hcategory, hlabel] at hother
  rcases eq_categoryOf_or_append name with hname | hname
  · rcases hother with hother | hother
    · exact .inl (hother.trans hname.symm)
    · -- a name that is its own category is its own label, which `other` has as well
      rw [labelIn_of_eq_category hname] at hother
      exact .inr (.inl ⟨hname, hother⟩)
  · rcases hother with hother | hother
    · rw [← hlabel, labelIn_of_eq_category hother] at hname
      exact .inr (.inr ⟨hother, hname⟩)
    · exact .inl (hother.trans hname.symm)

/-- **The category and the label of a name lead back to it**, but for one case. A category has no
slash. A name with a slash is its category, a slash and its label; a name without is its category and
its label. Within any category `d` the label of `d/s` is `s`, and every other name is its own label. So
two names of one category with one label are the same name, or `c` and `c/c` for their category `c`;
and these two do have one category and one label. -/
theorem name_of_category_and_label (name : String) :
    let c := categoryOf name
    '/' ∉ c.toList ∧
    ('/' ∈ name.toList → name = c ++ "/" ++ labelIn c name) ∧
    ('/' ∉ name.toList → c = name ∧ labelIn c name = name) ∧
    (∀ d s, name = d ++ "/" ++ s → labelIn d name = s) ∧
    (∀ d, (∀ s, name ≠ d ++ "/" ++ s) → labelIn d name = name) ∧
    ∀ other, categoryOf other = c ∧ labelIn c other = labelIn c name ↔
      other = name ∨ (name = c ∧ other = c ++ "/" ++ c) ∨ (other = c ∧ name = c ++ "/" ++ c) := by
  intro c
  have hc : '/' ∉ c.toList := slash_not_mem_categoryOf name
  refine ⟨hc, ?_, ?_, fun d s h => labelIn_of_eq h, fun d h => labelIn_of_ne h, ?_⟩
  · intro hslash
    exact eq_append_labelIn (exists_eq_append hslash)
  · intro hslash
    have hname : c = name := categoryOf_of_slash_not_mem hslash
    rw [labelIn_of_eq_category hname.symm]
    exact ⟨hname, hname⟩
  · intro other
    constructor
    · rintro ⟨hcategory, hlabel⟩
      exact eq_or_doubled_of_alike hcategory hlabel
    · rintro (rfl | ⟨hname, rfl⟩ | ⟨rfl, hname⟩)
      · exact ⟨rfl, rfl⟩
      · rw [categoryOf_append hc, labelIn_of_eq rfl, labelIn_of_eq_category hname]
        exact ⟨rfl, rfl⟩
      · rw [categoryOf_of_slash_not_mem hc, labelIn_of_eq_category rfl, labelIn_of_eq hname]
        exact ⟨rfl, rfl⟩

/-- A name with two slashes, within two categories and beside one that its text begins with, and the
names `a` and `a/a`. -/
theorem name_of_category_and_label_slashes :
    ('/' ∈ "ab//c".toList ∧ "ab//c" = "ab" ++ "/" ++ labelIn "ab" "ab//c") ∧
      labelIn "ab/" "ab//c" = "c" ∧ labelIn "a" "ab//c" = "ab//c" ∧
      ('/' ∉ "a".toList ∧ labelIn "a" "a" = "a") ∧
      categoryOf "a/a" = "a" ∧ labelIn "a" "a/a" = labelIn "a" "a" := by
  have hslashes : '/' ∈ "ab//c".toList := by decide
  have hnone : '/' ∉ "a".toList := by decide
  have hbeside : ∀ s, "ab//c" ≠ "a" ++ "/" ++ s := by
    intro s h
    simpa using congrArg (·.toList.tail.head?) h
  have hcategory : categoryOf "ab//c" = "ab" := by decide +kernel
  obtain ⟨-, hwithin, -, hafter, helse, -⟩ := name_of_category_and_label "ab//c"
  obtain ⟨-, -, hbare, -, -, halike⟩ := name_of_category_and_label "a"
  obtain ⟨hself, hlabel⟩ := hbare hnone
  rw [hcategory] at hwithin
  rw [hself] at hlabel halike
  exact ⟨⟨hslashes, hwithin hslashes⟩, hafter "ab/" "c" rfl, helse "a" hbeside, ⟨hnone, hlabel⟩,
    (halike "a/a").mpr (.inr (.inl ⟨rfl, rfl⟩))⟩

end BenchReport.Timing
