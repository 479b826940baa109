import BenchReport.Decimal.Numeral
import BenchReport.Decimal.Places
import BenchReport.Proofs.Text.Runs
import Mathlib.Algebra.Group.Nat.Defs

/-!
# The digits of whole numbers

The digits of a whole number name it again (`appendDigits_digits`), and the first of them is no zero
unless it is the only one (`digits_lead`).
-/

namespace BenchReport.Decimal

open Text (Run)

theorem isDigit_iff {c : Char} : isDigit c = c.isDigit := by
  simp only [isDigit, Char.isDigit, ge_iff_le, Char.le_def]

theorem isDigit_of_mem_digits {n : Nat} {c : Char} (h : c ∈ digits n) : isDigit c = true := by
  rw [isDigit_iff]
  exact Nat.isDigit_of_mem_toDigits (by decide) (by decide) h

theorem comma_not_mem_digits (n : Nat) : ',' ∉ digits n := by
  intro hcomma
  exact absurd (isDigit_of_mem_digits hcomma) (by decide)

theorem toList_toString (n : Nat) : (toString n).toList = digits n := by
  rw [Nat.toString_eq_repr, Nat.toList_repr, digits]

theorem appendDigits_eq (n : Nat) (ds : List Char) :
    appendDigits n ds = Nat.ofDigitChars 10 ds n := rfl

theorem appendDigits_append (n : Nat) (ds ds' : List Char) :
    appendDigits n (ds ++ ds') = appendDigits (appendDigits n ds) ds' := List.foldl_append ..

/-- Zeros at the end are powers of ten. -/
theorem appendDigits_replicate_zero (n k : Nat) :
    appendDigits n (List.replicate k '0') = n * 10 ^ k := by
  rw [appendDigits_eq, Nat.ofDigitChars_replicate_zero, Nat.mul_comm]

theorem appendDigits_digits (n : Nat) : appendDigits 0 (digits n) = n :=
  Nat.ofDigitChars_ten_toDigits

theorem digits_injective : Function.Injective digits := by
  intro m n heq
  rw [← appendDigits_digits m, heq, appendDigits_digits]

theorem digits_ne_nil (n : Nat) : digits n ≠ [] := Nat.toDigits_ne_nil

theorem length_digits_le_iff {n k : Nat} (hk : 0 < k) : (digits n).length ≤ k ↔ n < 10 ^ k :=
  Nat.length_toDigits_le_iff (by decide) hk

/-- The first digit of a number is no zero. -/
theorem head?_digits {n : Nat} (h : n ≠ 0) : (digits n).head? ≠ some '0' := by
  induction n using Nat.strongRecOn with
  | ind n ih =>
    rw [digits, Nat.toDigits_eq_if (by decide)]
    split
    · next hlt =>
      intro heq
      have hzero : Nat.digitChar n = '0' := by simpa using heq
      exact h (by simpa using hzero)
    · next hge =>
      obtain ⟨d, ds, hds⟩ := List.exists_cons_of_ne_nil (digits_ne_nil (n / 10))
      have hfirst := ih (n / 10) (by omega) (by omega)
      rw [hds] at hfirst
      rw [show Nat.toDigits 10 (n / 10) = d :: ds from hds]
      exact hfirst

theorem digits_lead (n : Nat) : digits n = ['0'] ∨ (digits n).head? ≠ some '0' := by
  by_cases h : n = 0
  · rw [h]
    exact .inl (Nat.toDigits_zero 10)
  · exact .inr (head?_digits h)

/-- The digits of a number as a run. -/
def digitsRun (n : Nat) : Run isDigit where
  chars := digits n
  ne_nil := digits_ne_nil n
  all _ := isDigit_of_mem_digits

end BenchReport.Decimal
