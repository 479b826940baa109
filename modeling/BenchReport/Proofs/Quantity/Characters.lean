import BenchReport.Proofs.Decimal.Places
import BenchReport.Quantity

/-!
# The characters of quantities

A quantity is shown with the characters of a number, commas between thousands and the letters of its
unit, and with nothing else (`IsPlain`). So it breaks neither a line nor a row.
-/

namespace BenchReport.Quantity

open Decimal (isDigit isNumberChar isNumberChar_of_mem_fixed)

/-- Whether a character may stand in a quantity. -/
def isQuantityChar (c : Char) : Bool := isNumberChar c || " ,%KM/opsnm\u00b5".toList.contains c

/-- A text with no other characters than those of quantities. -/
def IsPlain (s : String) : Prop := ∀ c ∈ s.toList, isQuantityChar c = true

instance (s : String) : Decidable (IsPlain s) :=
  decidable_of_iff (s.toList.all isQuantityChar = true) List.all_eq_true

theorem IsPlain.newline_not_mem {s : String} (h : IsPlain s) : '\n' ∉ s.toList :=
  fun hnewline => absurd (h '\n' hnewline) (by decide)

theorem IsPlain.bar_not_mem {s : String} (h : IsPlain s) : '|' ∉ s.toList :=
  fun hbar => absurd (h '|' hbar) (by decide)

@[simp] theorem isPlain_append {s t : String} : IsPlain (s ++ t) ↔ IsPlain s ∧ IsPlain t := by
  simp [IsPlain, or_imp, forall_and]

@[simp] theorem isPlain_fixed (places : Nat) (x : Float) : IsPlain (Decimal.fixed places x) := by
  intro c hc
  simp [isQuantityChar, isNumberChar_of_mem_fixed hc]

theorem isPlain_time (us : Float) : IsPlain (time us) := by
  have hunits : IsPlain " ns" ∧ IsPlain " \u00b5s" ∧ IsPlain " ms" ∧ IsPlain " s" := by
    decide
  unfold time
  split_ifs <;> simp [hunits]

theorem isPlain_rate (ops : Float) : IsPlain (rate ops) := by
  have hunits : IsPlain "M ops/s" ∧ IsPlain "K ops/s" ∧ IsPlain " ops/s" := by
    decide
  unfold rate
  split_ifs <;> simp [hunits]

theorem isPlain_latency (ms : Float) : IsPlain (latency ms) := by
  have hunit : IsPlain " ms" := by
    decide
  simp [latency, hunit]

theorem isPlain_percentage (p : Float) : IsPlain (percentage p) := by
  have hsign : IsPlain "%" := by
    decide
  simp [percentage, hsign]

theorem isPlain_text (n : Nat) : IsPlain (Decimal.text n) := by
  intro c hc
  rw [Decimal.text, String.toList_ofList] at hc
  simp [isQuantityChar, isNumberChar, Decimal.isDigit_of_mem_digits hc]

theorem isPlain_count (n : Nat) : IsPlain (count n) := by
  intro c hc
  rw [count, String.toList_ofList] at hc
  by_cases hcomma : c = ','
  · rw [hcomma]
    decide
  · -- the other characters are those that are left without the commas
    have hdigit : c ∈ Decimal.digits n := by
      rw [← groupThousands_filter _ (Decimal.comma_not_mem_digits n)]
      simp [hc, hcomma]
    simp [isQuantityChar, isNumberChar, Decimal.isDigit_of_mem_digits hdigit]

end BenchReport.Quantity
