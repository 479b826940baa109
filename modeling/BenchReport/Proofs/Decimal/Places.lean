import BenchReport.Proofs.Decimal.Digits

/-!
# The characters of numbers with fixed places

Nothing stands in the text of a number with fixed places but digits, a point, a sign, and the
letters of the words for what is no number or without bound (`isNumberChar_of_mem_fixed`).
-/

namespace BenchReport.Decimal

variable {places : Nat} {c : Char}

/-- Whether a character may stand in the text of a number with fixed places. -/
def isNumberChar (c : Char) : Bool := isDigit c || ".-NaNinf".toList.contains c

theorem isNumberChar_of_mem_signText {s : Float.Model.UnpackedFloat.Sign} (h : c ∈ signText s) :
    isNumberChar c = true := by
  cases s with
  | negative =>
    rw [List.mem_singleton.mp h]
    rfl
  | positive => cases h

theorem isNumberChar_of_mem_unitsText {n : Nat} (h : c ∈ unitsText places n) :
    isNumberChar c = true := by
  have hdigits : ∀ n, c ∈ digits n → isNumberChar c = true := fun n hc => by
    rw [isNumberChar, isDigit_of_mem_digits hc, Bool.true_or]
  unfold unitsText at h
  dsimp only at h
  split at h
  · exact hdigits _ h
  · rw [List.mem_append, List.mem_cons, List.mem_append, List.mem_replicate] at h
    rcases h with h | rfl | ⟨-, rfl⟩ | h
    · exact hdigits _ h
    · rfl
    · rfl
    · exact hdigits _ h

theorem isNumberChar_of_mem_fixed {x : Float} (h : c ∈ (fixed places x).toList) :
    isNumberChar c = true := by
  unfold fixed at h
  split at h
  · exact List.all_eq_true.mp (by decide : "NaN".toList.all isNumberChar = true) c h
  all_goals
    rw [String.toList_ofList, List.mem_append] at h
    rcases h with h | h
    · exact isNumberChar_of_mem_signText h
  · exact List.all_eq_true.mp (by decide : "inf".toList.all isNumberChar = true) c h
  · exact isNumberChar_of_mem_unitsText h
  · exact isNumberChar_of_mem_unitsText h

end BenchReport.Decimal
