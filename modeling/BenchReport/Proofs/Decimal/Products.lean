import BenchReport.Proofs.Decimal.Order

/-!
# Products and quotients

Which products and quotients of binary64 numbers are no numbers, and which are not rounded.

Rounding gives a number, so whether a result is one depends on the kinds of the operands only: a
product is no number if an infinity is taken by zero (`isNaN_mul_iff`), a quotient if both are
infinite or both are zero (`isNaN_div_iff`). A result that has a place in the format is not changed
by rounding (`roundWithAccuracy_shifted`), so that one is neutral for products and quotients
(`mul_one`, `div_one`) and a number by itself is one (`div_self`).
-/

namespace BenchReport.Decimal

open Float.Model (Format UnpackedFloat totalExponent)
open Float.Model.UnpackedFloat

/-! ### What is no number -/

theorem isNaN_iff {x : Float} : x.isNaN = true ↔ unpack x = .notANumber := by
  change (unpack x).isNaN = true ↔ _
  cases unpack x <;> simp [UnpackedFloat.isNaN]

theorem isNaN_of_isFinite {x : Float} (h : x.isFinite = true) : x.isNaN = false := by
  change (unpack x).isFinite = true at h
  rw [isNaN_eq_false_iff]
  intro hunpack
  rw [hunpack] at h
  cases h

theorem isInf_iff {x : Float} : x.isInf = true ↔ ∃ s, unpack x = .infinity s := by
  change (unpack x).isInf = true ↔ _
  cases unpack x <;> simp [UnpackedFloat.isInf]

theorem isInf_of_isFinite {x : Float} (h : x.isFinite = true) : x.isInf = false := by
  change (unpack x).isFinite = true at h
  rw [Bool.eq_false_iff, ne_eq, isInf_iff]
  rintro ⟨s, hunpack⟩
  rw [hunpack] at h
  cases h

theorem beq_zero_iff {x : Float} : (x == 0.0) = true ↔ ∃ s, unpack x = .zero s := by
  have hbeq : (x == 0.0) = UnpackedFloat.beq (unpack x) (.zero .positive) := rfl
  rw [hbeq]
  cases unpack x with
  | notANumber => simp [UnpackedFloat.beq, UnpackedFloat.compare]
  | infinity s => cases s <;> simp [UnpackedFloat.beq, UnpackedFloat.compare]
  | zero s => simp [UnpackedFloat.beq, UnpackedFloat.compare]
  | finite s m e hm => cases s <;> simp [UnpackedFloat.beq, UnpackedFloat.compare]

/-- What is put in 64 bits is no number only if it was none before. -/
theorem isNaN_packed_iff {u : UnpackedFloat} : (packed u).isNaN = true ↔ u = .notANumber := by
  constructor
  · intro h
    by_contra hu
    rw [isNaN_iff] at h
    have hinf : (packed u).isInf = false := by
      rw [Bool.eq_false_iff, ne_eq, isInf_iff, h]
      rintro ⟨s, hs⟩
      cases hs
    have hfinite : (unpack (packed u)).isFinite = true := isFinite_packed_of_isInf hu hinf
    rw [h] at hfinite
    cases hfinite
  · rintro rfl
    rfl

theorem mul_eq_notANumber_iff {u v : UnpackedFloat} :
    UnpackedFloat.mul .binary64 u v = .notANumber ↔
      u = .notANumber ∨ v = .notANumber ∨
        ((∃ s, u = .infinity s) ∧ ∃ s, v = .zero s) ∨
        ((∃ s, u = .zero s) ∧ ∃ s, v = .infinity s) := by
  cases u <;> cases v <;> simp [UnpackedFloat.mul, roundWithAccuracy_ne]

theorem div_eq_notANumber_iff {u v : UnpackedFloat} :
    UnpackedFloat.div .binary64 u v = .notANumber ↔
      u = .notANumber ∨ v = .notANumber ∨
        ((∃ s, u = .infinity s) ∧ ∃ s, v = .infinity s) ∨
        ((∃ s, u = .zero s) ∧ ∃ s, v = .zero s) := by
  cases u <;> cases v <;> simp [UnpackedFloat.div, roundWithAccuracy_ne]

theorem div_eq_packed (x y : Float) :
    x / y = packed (UnpackedFloat.div .binary64 (unpack x) (unpack y)) := rfl

/-- A product is no number if one of its factors is none, or if an infinity is taken by zero. -/
theorem isNaN_mul_iff {x y : Float} : (x * y).isNaN = true ↔
    x.isNaN = true ∨ y.isNaN = true ∨
      (x.isInf = true ∧ (y == 0.0) = true) ∨ ((x == 0.0) = true ∧ y.isInf = true) := by
  rw [mul_eq_packed, isNaN_packed_iff, mul_eq_notANumber_iff]
  simp only [isNaN_iff, isInf_iff, beq_zero_iff]

/-- A quotient is no number if one of its operands is none, if both are infinite, or if both are
zero. -/
theorem isNaN_div_iff {x y : Float} : (x / y).isNaN = true ↔
    x.isNaN = true ∨ y.isNaN = true ∨
      (x.isInf = true ∧ y.isInf = true) ∨ ((x == 0.0) = true ∧ (y == 0.0) = true) := by
  rw [div_eq_packed, isNaN_packed_iff, div_eq_notANumber_iff]
  simp only [isNaN_iff, isInf_iff, beq_zero_iff]

/-! ### What is not rounded -/

theorem packed_unpack (x : Float) : packed (unpack x) = x :=
  Float.toBits_inj.mp (UInt64.toBitVec_inj.mp (pack_unpack_of_valid x.toModel.valid))

/-- The exponent of a number is the one that the format asks for. -/
theorem targetExponent_of_unpack {x : Float} {s : Sign} {m : Nat} {e : Int} {hm : 0 < m}
    (h : unpack x = .finite s m e hm) :
    Format.binary64.targetExponent (totalExponent m e) = e := by
  obtain ⟨hlt, hlow, -⟩ := bounds_of_unpack h
  have hnormal : 2 ^ 52 ≤ m ∨ e = -1074 := by
    unfold unpack UnpackedFloat.unpack at h
    dsimp only at h
    split at h
    · split at h <;> cases h
    · split at h
      · next hzero =>
        split at h
        · cases h
        · cases h
          rw [hzero]
          exact .inr rfl
      · cases h
        refine .inl ?_
        rw [BitVec.toNat_append, ← Nat.shiftLeft_add_eq_or_of_lt (BitVec.isLt _),
          Nat.shiftLeft_eq]
        exact Nat.le_add_right _ _
  have hlog : m.log2 ≤ 52 := Nat.le_of_lt_succ ((Nat.log2_lt hm.ne').mpr hlt)
  simp only [Format.targetExponent, totalExponent, Format.mantissaBits, Format.minExponent]
  rcases hnormal with hnormal | rfl
  · have : 52 ≤ m.log2 := (Nat.le_log2 hm.ne').mpr hnormal
    omega
  · omega

/-- A number is not changed by rounding if it is only written with more digits. -/
theorem roundWithAccuracy_shifted (s : Sign) {m : Nat} {e : Int} (hm : 0 < m)
    (h : Format.binary64.targetExponent (totalExponent m e) = e) (k : Nat) :
    roundWithAccuracy .binary64 s (m * 2 ^ k) (e - k) .exact = .finite s m e hm := by
  have hshift (j : Nat) : shiftToTargetExponent .binary64 (m * 2 ^ j) (e - j) .exact
      = (cut (m * 2 ^ j) j, e) := by
    have htotal : totalExponent (m * 2 ^ j) (e - j) = totalExponent m e := by
      rw [totalExponent, totalExponent, log2_mul_two_pow hm.ne']
      omega
    rw [shiftToTargetExponent, htotal, h, shiftToExponent, sub_sub_cancel, Int.toNat_natCast,
      sub_add_cancel]
    rfl
  have hmantissa (j : Nat) : (cut (m * 2 ^ j) j).mantissa = m := by
    rw [cut_mantissa, Nat.mul_div_cancel _ (Nat.two_pow_pos j)]
  have hrounded : (cut (m * 2 ^ k) k).roundedMantissa = m := by
    rw [roundedMantissa_of_not_roundBit, hmantissa]
    rw [cut_roundBit, Nat.mul_mod_left, decide_eq_false_iff_not]
    have := Nat.two_pow_pos k
    omega
  have hfinal : shiftToTargetExponent .binary64 m e .exact = (cut m 0, e) := by
    simpa using hshift 0
  have hlast : (cut m 0).mantissa = m := by simpa using hmantissa 0
  rw [roundWithAccuracy, hshift k]
  dsimp only
  rw [hrounded, hfinal]
  dsimp only
  simp only [hlast, dif_neg hm.ne']

/-- One as a significand of 53 bits with a power of two. -/
theorem unpack_one : unpack 1.0 = .finite .positive (2 ^ 52) (-52) (Nat.two_pow_pos 52) := rfl

theorem mul_positive (s : Sign) : s * .positive = s := by cases s <;> rfl

theorem div_positive (s : Sign) : s / .positive = s := by cases s <;> rfl

theorem mul_one (x : Float) : x * 1.0 = x := by
  rw [mul_eq_packed, unpack_one]
  conv_rhs => rw [← packed_unpack x]
  cases hx : unpack x with
  | notANumber => rfl
  | infinity s => rw [UnpackedFloat.mul, mul_positive]
  | zero s => rw [UnpackedFloat.mul, mul_positive]
  | finite s m e hm =>
    rw [mul_finite, mul_positive]
    exact congrArg packed (roundWithAccuracy_shifted s hm (targetExponent_of_unpack hx) 52)

/-- A whole quotient is exact, with as many digits more as the dividend was shifted. -/
theorem divCore_eq {m m' k : Nat} {e e' : Int} (hm' : 0 < m')
    (htarget : min (e - e')
      (Format.binary64.targetExponent (totalExponent m e - totalExponent m' e')) = e - e' - k)
    {q : Nat} (hq : m * 2 ^ k = q * m') :
    divCore .binary64 m e m' e' = (q, e - e' - k, .exact) := by
  rw [divCore]
  simp only [htarget, sub_sub_cancel, Int.toNat_natCast, Nat.shiftLeft_eq, hq,
    Nat.mul_div_cancel _ hm', Nat.mul_mod_left]
  rfl

theorem div_one (x : Float) : x / 1.0 = x := by
  rw [div_eq_packed, unpack_one]
  conv_rhs => rw [← packed_unpack x]
  cases hx : unpack x with
  | notANumber => rfl
  | infinity s => rw [UnpackedFloat.div, div_positive]
  | zero s => rw [UnpackedFloat.div, div_positive]
  | finite s m e hm =>
    have htarget := targetExponent_of_unpack hx
    obtain ⟨hlt, hlow, -⟩ := bounds_of_unpack hx
    have hlog : m.log2 ≤ 52 := Nat.le_of_lt_succ ((Nat.log2_lt hm.ne').mpr hlt)
    -- the dividend gets the digits of the divisor, and one more if that is within the format
    obtain ⟨k, hk⟩ : ∃ k : Nat, min (e - -52) (Format.binary64.targetExponent
        (totalExponent m e - totalExponent (2 ^ 52) (-52))) = e - -52 - (k + 52 : Nat) := by
      refine ⟨(e - max (m.log2 + e - 53) (-1074)).toNat, ?_⟩
      simp only [Format.targetExponent, totalExponent, Format.mantissaBits, Format.minExponent,
        Nat.log2_two_pow]
      omega
    have hquotient : m * 2 ^ (k + 52) = m * 2 ^ k * 2 ^ 52 := by
      rw [Nat.pow_add, Nat.mul_assoc]
    have hexponent : e - -52 - (k + 52 : Nat) = e - k := by omega
    rw [UnpackedFloat.div, divCore_eq (Nat.two_pow_pos 52) hk hquotient, hexponent, div_positive]
    exact congrArg packed (roundWithAccuracy_shifted s hm htarget k)

/-- A finite number other than zero goes into itself once. -/
theorem div_self {x : Float} (hx : x.isFinite = true) (hzero : (x == 0.0) = false) :
    x / x = 1.0 := by
  rw [div_eq_packed]
  obtain ⟨s, hs⟩ | ⟨s, m, e, hm, hs, -⟩ := unpack_cases hx
  · rw [beq_zero_iff.mpr ⟨s, hs⟩] at hzero
    cases hzero
  · have htarget : min (e - e) (Format.binary64.targetExponent
        (totalExponent m e - totalExponent m e)) = e - e - (53 : Nat) := by
      rw [sub_self, sub_self]
      rfl
    have hsign : s / s = .positive := by cases s <;> rfl
    rw [hs, UnpackedFloat.div, divCore_eq hm htarget (Nat.mul_comm _ _), hsign, sub_self]
    rfl

end BenchReport.Decimal
