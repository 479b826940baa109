import BenchReport.Proofs.Decimal.Binary64

/-!
# Finite results

What comes of finite numbers. The only results in 64 bits that are not finite are those that are too
large and those that are no numbers at all. Neither whole numbers nor products nor quotients of
finite numbers by others than zero are rounded to no number, so a product is finite if it is not
infinite (`isFinite_mul`), and a quotient is finite because a divisor of at least four makes up for
what rounding adds (`isFinite_div`).
-/

namespace BenchReport.Decimal

open Float.Model (Format UnpackedFloat totalExponent)
open Float.Model.UnpackedFloat

/-! ### Numbers in 64 bits -/

/-- A number is finite unless its exponent is that of the infinities. -/
theorem isFinite_unpack (b : BitVec 64) : (UnpackedFloat.unpack .binary64 b).isFinite
    = decide (@unpackExponent .binary64 b ≠ -1#11) := by
  unfold UnpackedFloat.unpack
  dsimp only
  split
  · next h => split <;> exact (decide_eq_false (not_not_intro h)).symm
  · next h =>
    split
    · split <;> exact (decide_eq_true h).symm
    · exact (decide_eq_true h).symm

theorem isFinite_packed (u : UnpackedFloat) : (packed u).isFinite
    = decide (@unpackExponent .binary64 (UnpackedFloat.pack .binary64 u) ≠ -1#11) :=
  isFinite_unpack _

theorem isFinite_packed_zero (s : Sign) : (packed (.zero s)).isFinite = true := by
  cases s <;> rfl

/-- A number is finite if its exponent is not above that of the greatest number. -/
theorem isFinite_packed_of_le (s : Sign) {m : Nat} {e : Int} (hm : 0 < m) (he : e ≤ 971) :
    (packed (.finite s m e hm)).isFinite = true := by
  have hbiased : (e + Format.binary64.exponentBias + (52 : Nat)).toNat < 2047 := by
    change (e + (1023 : Nat) + (52 : Nat)).toNat < 2047
    omega
  rw [isFinite_packed, decide_eq_true_eq, UnpackedFloat.pack]
  dsimp only
  rw [if_neg (by omega)]
  split
  · rw [unpackExponent_packComponents, ne_eq, ← BitVec.toNat_inj, BitVec.toNat_ofNat]
    change ¬ _ = 2047
    omega
  · rw [unpackExponent_packComponents]
    decide

/-- A number that is not finite is infinite, or it was none before. -/
theorem isFinite_packed_of_isInf {u : UnpackedFloat} (hu : u ≠ .notANumber)
    (h : (packed u).isInf = false) : (packed u).isFinite = true := by
  have hinfinite (s : Sign) : (packed (.infinity s)).isInf = true := by cases s <;> rfl
  cases u with
  | notANumber => exact absurd rfl hu
  | infinity s => rw [hinfinite s] at h; cases h
  | zero s => exact isFinite_packed_zero s
  | finite s m e hm =>
    by_cases he : e ≤ 971
    · exact isFinite_packed_of_le s hm he
    · have hbiased : 2047 ≤ (e + Format.binary64.exponentBias + (52 : Nat)).toNat := by
        change 2047 ≤ (e + (1023 : Nat) + (52 : Nat)).toNat
        omega
      have hpack : UnpackedFloat.pack .binary64 (.finite s m e hm)
          = UnpackedFloat.pack .binary64 (.infinity s) := by
        simp only [UnpackedFloat.pack]
        rw [if_pos (by omega)]
      have hisInf : (packed (.finite s m e hm)).isInf = (packed (.infinity s)).isInf := by
        change (unpack _).isInf = (unpack _).isInf
        rw [unpack_packed, unpack_packed, hpack]
      rw [hisInf, hinfinite s] at h
      cases h

/-- A finite number is zero or has parts of a bounded size. -/
theorem unpack_cases {x : Float} (h : x.isFinite = true) :
    (∃ s, unpack x = .zero s) ∨
      ∃ s m e hm, unpack x = .finite s m e hm ∧ m < 2 ^ 53 ∧ -1074 ≤ e ∧ e ≤ 971 := by
  change (unpack x).isFinite = true at h
  cases hunpack : unpack x with
  | notANumber => rw [hunpack] at h; cases h
  | infinity s => rw [hunpack] at h; cases h
  | zero s => exact .inl ⟨s, rfl⟩
  | finite s m e hm => exact .inr ⟨s, m, e, hm, rfl, bounds_of_unpack hunpack⟩

theorem isFinite_neg {x : Float} (h : x.isFinite = true) : (-x).isFinite = true := by
  have hneg : -x = packed (UnpackedFloat.neg (unpack x)) := rfl
  rw [hneg]
  obtain ⟨s, hx⟩ | ⟨s, m, e, hm, hx, -, -, he⟩ := unpack_cases h
  · rw [hx]
    exact isFinite_packed_zero _
  · rw [hx]
    exact isFinite_packed_of_le _ hm he

theorem isFinite_ofNat {n : Nat} (h : n < 2 ^ 64) : (Float.ofNat n).isFinite = true := by
  rcases Nat.eq_zero_or_pos n with rfl | hn
  · rfl
  · obtain ⟨m, e, hm, hunpack, -⟩ := exists_unpack_ofNat hn h
    change (unpack (Float.ofNat n)).isFinite = true
    rw [hunpack]
    rfl

/-! ### Rounding -/

theorem roundWithAccuracy_ne (s : Sign) (m : Nat) (e : Int) (accuracy : Accuracy) :
    roundWithAccuracy .binary64 s m e accuracy ≠ .notANumber := by
  unfold roundWithAccuracy
  dsimp only
  split
  · exact UnpackedFloat.noConfusion
  · exact UnpackedFloat.noConfusion

theorem mantissa_ofMantissaAndAccuracy (m : Nat) (accuracy : Accuracy) :
    (ExtendedMantissa.ofMantissaAndAccuracy m accuracy).mantissa = m := by
  unfold ExtendedMantissa.ofMantissaAndAccuracy
  split <;> rfl

/-- Shifting to the target exponent leaves no more digits, and raises the exponent by no more than
there are digits too many. -/
theorem shiftToTargetExponent_le {m k : Nat} {e : Int} (accuracy : Accuracy)
    (h : m < 2 ^ (k + 53)) :
    (shiftToTargetExponent .binary64 m e accuracy).1.mantissa ≤ m ∧
      (shiftToTargetExponent .binary64 m e accuracy).2 ≤ max e (-1074) + k := by
  have hlog : m.log2 ≤ k + 52 := by
    rcases Nat.eq_zero_or_pos m with rfl | hm
    · simp
    · have := (Nat.log2_lt hm.ne').mpr h
      omega
  rw [shiftToTargetExponent, shiftToExponent]
  constructor
  · dsimp only
    rw [mantissa_shiftRight, mantissa_ofMantissaAndAccuracy]
    exact Nat.div_le_self _ _
  · simp only [Format.targetExponent, totalExponent, Format.mantissaBits, Format.minExponent]
    omega

/-- The exponent of a number with a digit too many is raised by three at most, twice by a digit too
many and once because rounding may bring up another. -/
theorem isFinite_packed_round (s : Sign) {m : Nat} {e : Int} (accuracy : Accuracy) (hm : m < 2 ^ 54)
    (he : e ≤ 968) : (packed (roundWithAccuracy .binary64 s m e accuracy)).isFinite = true := by
  rw [roundWithAccuracy]
  dsimp only
  obtain ⟨hmantissa, hexponent⟩ :=
    shiftToTargetExponent_le (k := 1) (e := e) accuracy (by simpa using hm)
  generalize shiftToTargetExponent .binary64 m e accuracy = first at *
  have hrounded : first.1.roundedMantissa < 2 ^ (2 + 53) := by
    have := roundedMantissa_le_succ first.1
    omega
  obtain ⟨-, hfinal⟩ := shiftToTargetExponent_le (e := first.2) .exact hrounded
  split
  · exact isFinite_packed_zero s
  · refine isFinite_packed_of_le s _ (hfinal.trans ?_)
    push_cast at hexponent ⊢
    omega

/-! ### Products and quotients -/

theorem isFinite_mul {x y : Float} (hx : x.isFinite = true) (hy : y.isFinite = true)
    (h : (x * y).isInf = false) : (x * y).isFinite = true := by
  rw [mul_eq_packed] at h ⊢
  refine isFinite_packed_of_isInf ?_ h
  obtain ⟨s, hx⟩ | ⟨s, m, e, hm, hx, -⟩ := unpack_cases hx <;>
    obtain ⟨s', hy⟩ | ⟨s', m', e', hm', hy, -⟩ := unpack_cases hy <;> rw [hx, hy]
  · exact UnpackedFloat.noConfusion
  · exact UnpackedFloat.noConfusion
  · exact UnpackedFloat.noConfusion
  · exact roundWithAccuracy_ne _ _ _ _

/-- The quotient of significands with a digit too many at most, and a power of two that is not above
that of the dividend. -/
theorem divCore_le {m m' : Nat} {e e' : Int} (hm : m < 2 ^ 53) (hlow : 2 ^ 52 ≤ m')
    (hhigh : m' < 2 ^ 53) (he : e ≤ 971) (he' : -50 ≤ e') :
    (divCore .binary64 m e m' e').1 < 2 ^ 54 ∧ (divCore .binary64 m e m' e').2.1 ≤ 968 := by
  have hlog' : m'.log2 = 52 := (Nat.log2_eq_iff (by omega)).mpr ⟨hlow, hhigh⟩
  have hlog : m.log2 ≤ 52 := by
    rcases Nat.eq_zero_or_pos m with rfl | hpos
    · simp
    · exact Nat.le_of_lt_succ ((Nat.log2_lt hpos.ne').mpr hm)
  rw [divCore]
  dsimp only
  simp only [Format.targetExponent, totalExponent, Format.mantissaBits, Format.minExponent, hlog']
  constructor
  · refine Nat.div_lt_of_lt_mul ?_
    rw [Nat.shiftLeft_eq]
    generalize hk : (e - e' - _ : Int).toNat = k
    have hle : m.log2 + 1 + k ≤ 106 := by omega
    calc m * 2 ^ k < 2 ^ (m.log2 + 1) * 2 ^ k :=
          Nat.mul_lt_mul_of_pos_right Nat.lt_log2_self (Nat.two_pow_pos k)
      _ = 2 ^ (m.log2 + 1 + k) := (Nat.pow_add ..).symm
      _ ≤ 2 ^ 106 := Nat.pow_le_pow_right (by decide) hle
      _ = 2 ^ 52 * 2 ^ 54 := rfl
      _ ≤ m' * 2 ^ 54 := Nat.mul_le_mul_right _ hlow
  · omega

/-- A finite number is finite after division by a number of at least four. -/
theorem isFinite_div {x y : Float} (hx : x.isFinite = true) {s' : Sign} {m' : Nat} {e' : Int}
    {hm' : 0 < m'} (hy : unpack y = .finite s' m' e' hm') (hlow : 2 ^ 52 ≤ m') (he' : -50 ≤ e') :
    (x / y).isFinite = true := by
  have hdiv : x / y = packed (UnpackedFloat.div .binary64 (unpack x) (unpack y)) := rfl
  rw [hdiv, hy]
  obtain ⟨s, hx⟩ | ⟨s, m, e, hm, hx, hlt, -, he⟩ := unpack_cases hx
  · rw [hx]
    exact isFinite_packed_zero _
  · obtain ⟨hquotient, hexponent⟩ := divCore_le hlt hlow (bounds_of_unpack hy).1 he he'
    rw [hx]
    exact isFinite_packed_round _ _ hquotient hexponent

end BenchReport.Decimal
