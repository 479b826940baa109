import BenchReport.Proofs.Decimal.Order

/-!
# Rounding keeps the order

Products and quotients are rounded to 53 bits, and the text of a number to some decimal places. Both
times a quotient of whole numbers is rounded to the nearest whole number (`Decimal.roundDiv`). A
greater quotient is not rounded to a lesser number (`roundDiv_mono`). A quotient that is rounded to 53
bits is first shifted until its whole part has so many, and what is shifted out is kept in two bits;
these two say enough, so that the quotient is rounded as a whole (`roundedMantissa_ofFraction`). So
what is greater before it is rounded to 53 bits is not less afterwards (`Rounds.mono`).
-/

namespace BenchReport.Decimal

open Float.Model (Format UnpackedFloat totalExponent)
open Float.Model.UnpackedFloat

/-! ### The nearest whole number -/

/-- A quotient is rounded to more than a whole number if it is more than a half above it, and from a
half above an odd one. -/
theorem lt_roundDiv_iff {num den k : Nat} (hden : 0 < den) :
    k < roundDiv num den ↔
      (2 * k + 1) * den < 2 * num ∨ (2 * k + 1) * den = 2 * num ∧ k % 2 = 1 := by
  have hdiv := Nat.div_add_mod num den
  have hmod := Nat.mod_lt num hden
  have hodd : (2 * k + 1) * den = 2 * (den * k) + den := by ring
  unfold roundDiv
  dsimp only
  rcases Nat.lt_trichotomy k (num / den) with hlt | rfl | hgt
  · have hmul : den * (k + 1) ≤ den * (num / den) := Nat.mul_le_mul_left _ hlt
    rw [Nat.mul_succ] at hmul
    split_ifs <;> omega
  · split_ifs <;> omega
  · have hmul : den * (num / den + 1) ≤ den * k := Nat.mul_le_mul_left _ hgt
    rw [Nat.mul_succ] at hmul
    split_ifs <;> omega

/-- A greater quotient is not rounded to a lesser whole number. -/
theorem roundDiv_mono {num den num' den' : Nat} (hden : 0 < den) (hden' : 0 < den')
    (h : num * den' ≤ num' * den) : roundDiv num den ≤ roundDiv num' den' := by
  by_contra hlt
  rw [not_le, lt_roundDiv_iff hden] at hlt
  have hno := (lt_roundDiv_iff hden').not.mp (lt_irrefl (roundDiv num' den'))
  generalize roundDiv num' den' = k at hlt hno
  have hle : (2 * k + 1) * den * den' ≤ 2 * num * den' := Nat.mul_le_mul_right _ (by omega)
  have hcross : (2 * k + 1) * den' * den ≤ 2 * num' * den := by
    calc (2 * k + 1) * den' * den = (2 * k + 1) * den * den' := Nat.mul_right_comm _ _ _
      _ ≤ 2 * num * den' := hle
      _ = 2 * (num * den') := Nat.mul_assoc _ _ _
      _ ≤ 2 * (num' * den) := Nat.mul_le_mul_left _ h
      _ = 2 * num' * den := (Nat.mul_assoc _ _ _).symm
  have hbound := Nat.le_of_mul_le_mul_right hcross hden
  rcases hlt with hlt | ⟨heq, hodd⟩
  · -- the lesser quotient is more than a half above the number, and so is the greater
    have hstrict : (2 * k + 1) * den' * den < 2 * num' * den := by
      calc (2 * k + 1) * den' * den = (2 * k + 1) * den * den' := Nat.mul_right_comm _ _ _
        _ < 2 * num * den' := Nat.mul_lt_mul_of_pos_right hlt hden'
        _ = 2 * (num * den') := Nat.mul_assoc _ _ _
        _ ≤ 2 * (num' * den) := Nat.mul_le_mul_left _ h
        _ = 2 * num' * den := (Nat.mul_assoc _ _ _).symm
    exact hno (.inl (Nat.lt_of_mul_lt_mul_right hstrict))
  · exact hno (hbound.lt_or_eq.imp_right fun heq' => ⟨heq', hodd⟩)

/-- A whole quotient is not changed. -/
theorem roundDiv_mul (k : Nat) {den : Nat} (hden : 0 < den) : roundDiv (k * den) den = k := by
  simp [roundDiv, Nat.mul_div_cancel _ hden, hden]

theorem le_roundDiv_of_mul_le {num den k : Nat} (hden : 0 < den) (h : k * den ≤ num) :
    k ≤ roundDiv num den := by
  rw [← roundDiv_mul k hden]
  exact roundDiv_mono hden hden (Nat.mul_le_mul_right _ h)

theorem roundDiv_le_of_le_mul {num den k : Nat} (hden : 0 < den) (h : num ≤ k * den) :
    roundDiv num den ≤ k := by
  conv_rhs => rw [← roundDiv_mul k hden]
  exact roundDiv_mono hden hden (Nat.mul_le_mul_right _ h)

/-! ### Rounding to 53 bits -/

/-- Whether a size is rounded to another: it is a quotient of 53 bits at some power of two, and the
other is the nearest whole number at this power. -/
def Rounds (v r : Rat) : Prop :=
  ∃ (n d : Nat) (e : Int),
    2 ^ 52 * d ≤ n ∧ n < 2 ^ 53 * d ∧ v = n / d * 2 ^ e ∧ r = size (roundDiv n d) e

/-- A greater size is not rounded to a lesser one. -/
theorem Rounds.mono {v w r t : Rat} (hr : Rounds v r) (ht : Rounds w t) (h : v ≤ w) : r ≤ t := by
  obtain ⟨n, d, e, hlow, hhigh, rfl, rfl⟩ := hr
  obtain ⟨n', d', e', hlow', hhigh', rfl, rfl⟩ := ht
  have hd : 0 < d := Nat.pos_of_ne_zero (by rintro rfl; omega)
  have hd' : 0 < d' := Nat.pos_of_ne_zero (by rintro rfl; omega)
  have hdq : (0 : Rat) < d := Nat.cast_pos.mpr hd
  have hdq' : (0 : Rat) < d' := Nat.cast_pos.mpr hd'
  have hnext (f : Int) : size (2 ^ 53) f = size (2 ^ 52) (f + 1) := size_mul_two_pow (2 ^ 52) 1 f
  rcases lt_trichotomy e e' with hlt | rfl | hgt
  · calc size (roundDiv n d) e
        ≤ size (2 ^ 53) e := size_le_size_iff.mpr (roundDiv_le_of_le_mul hd hhigh.le)
      _ = size (2 ^ 52) (e + 1) := hnext e
      _ ≤ size (2 ^ 52) e' := size_mono _ hlt
      _ ≤ size (roundDiv n' d') e' := size_le_size_iff.mpr (le_roundDiv_of_mul_le hd' hlow')
  · rw [size_le_size_iff]
    refine roundDiv_mono hd hd' ?_
    rw [mul_le_mul_iff_left₀ (by positivity), div_le_div_iff₀ hdq hdq'] at h
    exact_mod_cast h
  · -- the first size would be above the second
    have hbelow : (n' / d' * 2 ^ e' : Rat) < size (2 ^ 53) e' := by
      rw [size, mul_lt_mul_iff_left₀ (by positivity), div_lt_iff₀ hdq']
      exact_mod_cast hhigh'
    have habove : size (2 ^ 52) e ≤ (n / d * 2 ^ e : Rat) := by
      rw [size, mul_le_mul_iff_left₀ (by positivity), le_div_iff₀ hdq]
      exact_mod_cast hlow
    have hpower : size (2 ^ 53) e' ≤ size (2 ^ 52) e := by
      rw [hnext]
      exact size_mono _ hgt
    exact absurd h (hbelow.trans_le (hpower.trans habove)).not_ge

/-- A quotient as a whole number, with what is known of the rest: whether it is a half or more, and
whether it is neither nothing nor a half. -/
def ofFraction (n d : Nat) : ExtendedMantissa :=
  ⟨n / d, decide (d ≤ 2 * (n % d)), decide (n % d ≠ 0 ∧ 2 * (n % d) ≠ d)⟩

theorem ofMantissaAndAccuracy_fraction {d : Nat} (hd : 0 < d) (n : Nat) :
    .ofMantissaAndAccuracy (n / d) (accuracyOfFraction (n % d) d) = ofFraction n d := by
  have hlt := Nat.mod_lt n hd
  unfold accuracyOfFraction
  split_ifs with hzero
  · simp [ExtendedMantissa.ofMantissaAndAccuracy, ofFraction, hzero, hd.ne']
  · rcases lt_trichotomy (2 * (n % d)) d with h | h | h
    · rw [compare_lt_iff_lt.mpr h]
      simp [ExtendedMantissa.ofMantissaAndAccuracy, ofFraction, hzero, h, h.ne]
    · rw [compare_eq_iff_eq.mpr h]
      simp [ExtendedMantissa.ofMantissaAndAccuracy, ofFraction, h]
    · rw [compare_gt_iff_gt.mpr h]
      simp [ExtendedMantissa.ofMantissaAndAccuracy, ofFraction, hzero, h.le, h.ne']

theorem shiftRightOne_ofFraction {d : Nat} (hd : 0 < d) (n : Nat) :
    (ofFraction n d).shiftRightOne = ofFraction n (d * 2) := by
  have hlt := Nat.mod_lt n hd
  have hmod : n % (d * 2) = n % d + d * (n / d % 2) := Nat.mod_mul
  rcases Nat.mod_two_eq_zero_or_one (n / d) with hbit | hbit <;>
    simp only [ofFraction, ExtendedMantissa.shiftRightOne, Nat.div_div_eq_div_mul, hmod, hbit,
      ExtendedMantissa.mk.injEq, ← Bool.decide_or, decide_eq_decide, true_and] <;>
    simp <;> omega

theorem shiftRight_ofFraction {d : Nat} (hd : 0 < d) (n k : Nat) :
    ofFraction n d >>> k = ofFraction n (d * 2 ^ k) := by
  induction k with
  | zero => simp [HShiftRight.hShiftRight, Nat.repeat]
  | succ k ih =>
    have hsucc : ofFraction n d >>> (k + 1) = (ofFraction n d >>> k).shiftRightOne := rfl
    rw [hsucc, ih, shiftRightOne_ofFraction (Nat.mul_pos hd (Nat.two_pow_pos k)), Nat.mul_assoc,
      Nat.pow_succ]

theorem roundedMantissa_ofFraction {d : Nat} (hd : 0 < d) (n : Nat) :
    (ofFraction n d).roundedMantissa = roundDiv n d := by
  have hlt := Nat.mod_lt n hd
  unfold roundDiv
  dsimp only
  rcases lt_trichotomy (2 * (n % d)) d with h | h | h
  · rw [roundedMantissa_of_not_roundBit (by simpa [ofFraction] using h), if_pos h]
    rfl
  · simp [ofFraction, h, ExtendedMantissa.roundedMantissa, ExtendedMantissa.accuracy,
      Accuracy.roundToNearestEven]
    split_ifs <;> omega
  · have hzero : n % d ≠ 0 := by omega
    simp [ofFraction, hzero, h, h.le, h.ne', h.not_gt, ExtendedMantissa.roundedMantissa,
      ExtendedMantissa.accuracy, Accuracy.roundToNearestEven]

/-- A quotient with 53 bits or more is rounded, at an exponent far from the ends. -/
theorem exists_unpack_fraction {n d : Nat} {e : Int} (hd : 0 < d) (hlog : 52 ≤ (n / d).log2)
    (he : -1074 ≤ e) (hehigh : e + (n / d).log2 ≤ 1022) :
    ∃ m' e' hm', unpack (packed (roundWithAccuracy .binary64 .positive (n / d) e
        (accuracyOfFraction (n % d) d))) = .finite .positive m' e' hm' ∧
      Rounds (n / d * 2 ^ e) (size m' e') := by
  have hq : n / d ≠ 0 := by
    intro hzero
    simp [hzero] at hlog
  obtain ⟨k, hk⟩ := Nat.exists_eq_add_of_le hlog
  have hlow : 2 ^ 52 * (d * 2 ^ k) ≤ n := by
    calc 2 ^ 52 * (d * 2 ^ k) = 2 ^ (n / d).log2 * d := by rw [hk]; ring
      _ ≤ n / d * d := Nat.mul_le_mul_right _ (Nat.log2_self_le hq)
      _ ≤ n := Nat.div_mul_le_self n d
  have hhigh : n < 2 ^ 53 * (d * 2 ^ k) := by
    calc n < 2 ^ ((n / d).log2 + 1) * d := (Nat.div_lt_iff_lt_mul hd).mp Nat.lt_log2_self
      _ = 2 ^ 53 * (d * 2 ^ k) := by rw [hk]; ring
  have hdk : 0 < d * 2 ^ k := Nat.mul_pos hd (Nat.two_pow_pos k)
  have hshift : shiftToTargetExponent .binary64 (n / d) e (accuracyOfFraction (n % d) d)
      = (ofFraction n (d * 2 ^ k), e + k) := by
    have hamount : (Format.binary64.targetExponent (totalExponent (n / d) e) - e).toNat = k := by
      simp only [Format.targetExponent, totalExponent, Format.mantissaBits, Format.minExponent]
      omega
    rw [shiftToTargetExponent, shiftToExponent, hamount, ofMantissaAndAccuracy_fraction hd,
      shiftRight_ofFraction hd]
  have hrounded := roundedMantissa_ofFraction hdk n
  obtain ⟨m', e', hm', hround, hlow', hhigh', hparts⟩ := roundWithAccuracy_of_shift .positive hshift
    (by omega) (hrounded ▸ le_roundDiv_of_mul_le hdk hlow)
    (hrounded ▸ roundDiv_le_of_le_mul hdk hhigh.le)
  rw [hrounded] at hparts
  refine ⟨m', e', hm', ?_, n, d * 2 ^ k, e + k, hlow, hhigh, ?_, ?_⟩
  · rw [hround, unpack_packed_finite .positive hm' hlow' hhigh' (by omega) (by omega)]
  · rw [zpow_add₀ (by norm_num), zpow_natCast]
    push_cast
    field_simp
  · rcases hparts with ⟨rfl, rfl⟩ | ⟨heq, rfl, rfl⟩
    · rfl
    · rw [heq]
      exact (size_mul_two_pow (2 ^ 52) 1 _).symm

end BenchReport.Decimal
