import BenchReport.Decimal.Places
import Mathlib

/-!
# The size of binary64 numbers

A binary64 number has a significand of 53 bits and a power of two. Whole numbers and products are
rounded to their first 53 bits (`lead`), and what is rounded is infinite only if it is as large as
`overflow`. So a whole number does not pass a number of 53 bits when it is rounded
(`exists_unpack_ofNat`), and a product below the overflow is not infinite (`isInf_mul`). Sizes are
compared as rational numbers.
-/

namespace BenchReport.Decimal

open Float.Model (Format UnpackedFloat totalExponent)
open Float.Model.UnpackedFloat

/-! ### Rounding to 53 bits -/

/-- A whole number that is cut off after its first bits, with what is known of the others. -/
def cut (m k : Nat) : ExtendedMantissa := (⟨m, false, false⟩ : ExtendedMantissa) >>> k

theorem cut_succ (m k : Nat) : cut m (k + 1) = (cut m k).shiftRightOne := rfl

theorem mantissa_shiftRight (em : ExtendedMantissa) (k : Nat) :
    (em >>> k).mantissa = em.mantissa / 2 ^ k := by
  induction k with
  | zero => simp [HShiftRight.hShiftRight, Nat.repeat]
  | succ k ih =>
    have hsucc : em >>> (k + 1) = (em >>> k).shiftRightOne := rfl
    rw [hsucc, ExtendedMantissa.shiftRightOne, ih, Nat.div_div_eq_div_mul, Nat.pow_succ]

theorem cut_mantissa (m k : Nat) : (cut m k).mantissa = m / 2 ^ k := mantissa_shiftRight _ k

/-- The next bit says whether what is cut off is at least a half. -/
theorem cut_roundBit (m k : Nat) : (cut m k).roundBit = decide (2 ^ k ≤ 2 * (m % 2 ^ k)) := by
  cases k with
  | zero => simp [cut, HShiftRight.hShiftRight, Nat.repeat, Nat.mod_one]
  | succ k =>
    rw [cut_succ, ExtendedMantissa.shiftRightOne, cut_mantissa, Nat.mod_pow_succ]
    have hlt := Nat.mod_lt m (Nat.two_pow_pos k)
    rcases Nat.mod_two_eq_zero_or_one (m / 2 ^ k) with h | h <;> simp [h, Nat.pow_succ] <;> omega

theorem le_roundedMantissa (em : ExtendedMantissa) : em.mantissa ≤ em.roundedMantissa := by
  obtain ⟨m, round, sticky⟩ := em
  cases round <;> cases sticky <;>
    simp [ExtendedMantissa.roundedMantissa, ExtendedMantissa.accuracy, Accuracy.roundToNearestEven]

theorem roundedMantissa_le_succ (em : ExtendedMantissa) :
    em.roundedMantissa ≤ em.mantissa + 1 := by
  obtain ⟨m, round, sticky⟩ := em
  cases round <;> cases sticky <;>
    simp [ExtendedMantissa.roundedMantissa, ExtendedMantissa.accuracy, Accuracy.roundToNearestEven]
  omega

theorem roundedMantissa_of_not_roundBit {em : ExtendedMantissa} (h : em.roundBit = false) :
    em.roundedMantissa = em.mantissa := by
  obtain ⟨m, round, sticky⟩ := em
  cases h
  cases sticky <;> rfl

/-- What is below a half more than a whole number is rounded to that number at most. -/
theorem rounded_cut_le {m k n : Nat} (h : 2 * m < (2 * n + 1) * 2 ^ k) :
    (cut m k).roundedMantissa ≤ n := by
  have hdiv := Nat.div_add_mod m (2 ^ k)
  have hmantissa := cut_mantissa m k
  rcases Nat.lt_trichotomy (m / 2 ^ k) n with hlt | heq | hgt
  · have hsucc := roundedMantissa_le_succ (cut m k)
    omega
  · have hround : (cut m k).roundBit = false := by
      rw [cut_roundBit, decide_eq_false_iff_not]
      rw [heq] at hdiv
      have : (2 * n + 1) * 2 ^ k = 2 * (2 ^ k * n) + 2 ^ k := by ring
      omega
    rw [roundedMantissa_of_not_roundBit hround]
    omega
  · have hmul : 2 ^ k * (n + 1) ≤ 2 ^ k * (m / 2 ^ k) := Nat.mul_le_mul_left _ hgt
    have : (2 * n + 1) * 2 ^ k + 2 ^ k = 2 * (2 ^ k * (n + 1)) := by ring
    have := Nat.two_pow_pos k
    omega

/-- A whole number rounded to its first 53 bits. -/
def lead (m : Nat) : Nat := (cut m (m.log2 - 52)).roundedMantissa

theorem le_lead {m : Nat} (h : 52 ≤ m.log2) : 2 ^ 52 ≤ lead m := by
  have hm : m ≠ 0 := by
    rintro rfl
    simp at h
  have hcut : 2 ^ 52 ≤ m / 2 ^ (m.log2 - 52) := by
    rw [Nat.le_div_iff_mul_le (Nat.two_pow_pos _), ← Nat.pow_add,
      show 52 + (m.log2 - 52) = m.log2 by omega]
    exact Nat.log2_self_le hm
  exact hcut.trans (cut_mantissa _ _ ▸ le_roundedMantissa _)

theorem lead_le {m n : Nat} (h : 2 * m < (2 * n + 1) * 2 ^ (m.log2 - 52)) : lead m ≤ n :=
  rounded_cut_le h

theorem lead_le_two_pow {m : Nat} (h : 52 ≤ m.log2) : lead m ≤ 2 ^ 53 := by
  refine lead_le ?_
  have hlt : m < 2 ^ 53 * 2 ^ (m.log2 - 52) := by
    rw [← Nat.pow_add, show 53 + (m.log2 - 52) = m.log2 + 1 by omega]
    exact Nat.lt_log2_self
  have hpos := Nat.two_pow_pos (m.log2 - 52)
  rw [Nat.add_mul, Nat.mul_assoc]
  omega

/-- Rounding does not pass a number of 53 bits. -/
theorem lead_mul_le {m n i : Nat} (h : 52 ≤ m.log2) (hn : n < 2 ^ 53) (hle : m ≤ n * 2 ^ i) :
    lead m * 2 ^ (m.log2 - 52) ≤ n * 2 ^ i := by
  have hm : m ≠ 0 := by
    rintro rfl
    simp at h
  have hi : m.log2 - 52 ≤ i := by
    have hlt : 2 ^ m.log2 < 2 ^ (53 + i) := by
      refine (Nat.log2_self_le hm).trans_lt (hle.trans_lt ?_)
      rw [Nat.pow_add]
      exact Nat.mul_lt_mul_of_pos_right hn (Nat.two_pow_pos i)
    have := (Nat.pow_lt_pow_iff_right (by decide)).mp hlt
    omega
  have hsplit : n * 2 ^ i = n * 2 ^ (i - (m.log2 - 52)) * 2 ^ (m.log2 - 52) := by
    rw [Nat.mul_assoc, ← Nat.pow_add, Nat.sub_add_cancel hi]
  rw [hsplit]
  refine Nat.mul_le_mul_right _ (lead_le ?_)
  have hpos := Nat.two_pow_pos (m.log2 - 52)
  rw [hsplit] at hle
  rw [Nat.add_mul, Nat.mul_assoc]
  omega

theorem shiftToTargetExponent_of_le {m : Nat} {e : Int} (h : m.log2 ≤ 52) (he : -1074 ≤ e) :
    shiftToTargetExponent .binary64 m e .exact = (⟨m, false, false⟩, e) := by
  have hshift : (Format.binary64.targetExponent (totalExponent m e) - e).toNat = 0 := by
    simp only [Format.targetExponent, totalExponent, Format.mantissaBits, Format.minExponent]
    omega
  simp [shiftToTargetExponent, shiftToExponent, hshift, HShiftRight.hShiftRight, Nat.repeat,
    ExtendedMantissa.ofMantissaAndAccuracy]

theorem shiftToTargetExponent_of_ge {m : Nat} {e : Int} (h : 52 ≤ m.log2) (he : -1074 ≤ e) :
    shiftToTargetExponent .binary64 m e .exact
      = (cut m (m.log2 - 52), e + (m.log2 - 52 : Nat)) := by
  have hshift : (Format.binary64.targetExponent (totalExponent m e) - e).toNat = m.log2 - 52 := by
    simp only [Format.targetExponent, totalExponent, Format.mantissaBits, Format.minExponent]
    omega
  simp only [shiftToTargetExponent, shiftToExponent, hshift,
    ExtendedMantissa.ofMantissaAndAccuracy, cut]

/-- What is shifted to 53 bits is rounded to what it comes to there, which may be a power of two with
a bit more. -/
theorem roundWithAccuracy_of_shift (s : Sign) {m : Nat} {e e' : Int} {accuracy : Accuracy}
    {em : ExtendedMantissa}
    (hshift : shiftToTargetExponent .binary64 m e accuracy = (em, e')) (he : -1074 ≤ e')
    (hlow : 2 ^ 52 ≤ em.roundedMantissa) (hhigh : em.roundedMantissa ≤ 2 ^ 53) :
    ∃ m' f hm', roundWithAccuracy .binary64 s m e accuracy = .finite s m' f hm' ∧
      2 ^ 52 ≤ m' ∧ m' < 2 ^ 53 ∧
      (m' = em.roundedMantissa ∧ f = e' ∨
        em.roundedMantissa = 2 ^ 53 ∧ m' = 2 ^ 52 ∧ f = e' + 1) := by
  have hround : roundWithAccuracy .binary64 s m e accuracy
      = if h : (shiftToTargetExponent .binary64 em.roundedMantissa e' .exact).1.mantissa = 0 then
          .zero s
        else .finite s _ (shiftToTargetExponent .binary64 em.roundedMantissa e' .exact).2
          (Nat.pos_of_ne_zero h) := by
    rw [roundWithAccuracy, hshift]
  rcases hhigh.lt_or_eq with hlt | heq
  · have hlog : em.roundedMantissa.log2 = 52 := (Nat.log2_eq_iff (by omega)).mpr ⟨hlow, hlt⟩
    rw [shiftToTargetExponent_of_le hlog.le he] at hround
    rw [hround, dif_neg (by dsimp only; omega)]
    exact ⟨_, _, _, rfl, hlow, hlt, .inl ⟨rfl, rfl⟩⟩
  · have hlog : Nat.log2 (2 ^ 53) = 53 := Nat.log2_two_pow
    have hhalf : (cut (2 ^ 53) 1).mantissa = 2 ^ 52 := cut_mantissa _ _
    rw [heq, shiftToTargetExponent_of_ge (by omega) he, hlog] at hround
    rw [hround, dif_neg (by rw [hhalf]; decide)]
    exact ⟨_, _, _, rfl, hhalf.ge, by rw [hhalf]; decide, .inr ⟨heq, hhalf, rfl⟩⟩

/-- A number that is cut off with 53 bits is rounded to its first 53. -/
theorem roundWithAccuracy_eq (s : Sign) {m : Nat} {e : Int} (h : 52 ≤ m.log2) (he : -1074 ≤ e) :
    ∃ m' e' hm', roundWithAccuracy .binary64 s m e .exact = .finite s m' e' hm' ∧
      2 ^ 52 ≤ m' ∧ m' < 2 ^ 53 ∧
      (m' = lead m ∧ e' = e + (m.log2 - 52 : Nat) ∨
        lead m = 2 ^ 53 ∧ m' = 2 ^ 52 ∧ e' = e + (m.log2 - 52 : Nat) + 1) :=
  roundWithAccuracy_of_shift s (shiftToTargetExponent_of_ge h he) (by omega) (le_lead h)
    (lead_le_two_pow h)

/-! ### Numbers in 64 bits -/

/-- The binary64 number of some parts. -/
def packed (u : UnpackedFloat) : Float := .ofModel (.pack u)

theorem unpack_packed (u : UnpackedFloat) :
    unpack (packed u) = UnpackedFloat.unpack .binary64 (UnpackedFloat.pack .binary64 u) := rfl

theorem unpackSign_packComponents (s : Sign) (e : BitVec 11) (m : BitVec 52) :
    unpackSign (packComponents .binary64 s e m) = s.toBitVec := by
  change (s.toBitVec ++ e ++ m).extractLsb' 63 1 = s.toBitVec
  rw [BitVec.extractLsb'_append_eq_of_le (by decide),
    BitVec.extractLsb'_append_eq_of_le (by decide)]
  cases s <;> rfl

/-- A normal number has the parts it was made of. -/
theorem unpack_packed_finite (s : Sign) {m : Nat} {e : Int} (hm : 0 < m) (hlow : 2 ^ 52 ≤ m)
    (hhigh : m < 2 ^ 53) (helow : -1074 ≤ e) (hehigh : e ≤ 971) :
    unpack (packed (.finite s m e hm)) = .finite s m e hm := by
  have hlog : m.log2 = 52 := (Nat.log2_eq_iff (by omega)).mpr ⟨hlow, hhigh⟩
  have hbiased : (e + Format.binary64.exponentBias + (52 : Nat)).toNat = (e + 1075).toNat := by
    change (e + (1023 : Nat) + (52 : Nat)).toNat = _
    omega
  have hpack : UnpackedFloat.pack .binary64 (.finite s m e hm)
      = packComponents .binary64 s (BitVec.ofNat 11 (e + 1075).toNat) (BitVec.ofNat 52 m) := by
    simp only [UnpackedFloat.pack, hbiased, hlog]
    rw [if_neg (by omega), if_pos (by decide)]
  have hexponent : (BitVec.ofNat 11 (e + 1075).toNat).toNat = (e + 1075).toNat := by
    rw [BitVec.toNat_ofNat]
    omega
  have hne (n : Nat) (hn : (e + 1075).toNat ≠ n) (hlt : n < 2 ^ 11) :
      BitVec.ofNat 11 (e + 1075).toNat ≠ BitVec.ofNat 11 n := by
    rw [ne_eq, ← BitVec.toNat_inj, hexponent, BitVec.toNat_ofNat, Nat.mod_eq_of_lt hlt]
    exact hn
  have hmantissa : (1#1 ++ BitVec.ofNat 52 m).toNat = m := by
    rw [BitVec.toNat_append, BitVec.toNat_ofNat, ← Nat.shiftLeft_add_eq_or_of_lt (by omega)]
    rw [Nat.shiftLeft_eq]
    change 1 * 2 ^ 52 + m % 2 ^ 52 = m
    omega
  rw [unpack_packed, hpack, UnpackedFloat.unpack]
  simp only [unpackMantissa_packComponents, unpackExponent_packComponents,
    unpackSign_packComponents]
  rw [show (-1#11 : BitVec 11) = 2047#11 from rfl, if_neg (hne 2047 (by omega) (by decide)),
    if_neg (hne 0 (by omega) (by decide))]
  congr 1
  · cases s <;> rfl
  · rw [hexponent]
    change (((e + 1075).toNat : Nat) : Int) - ((1023 : Nat) + (52 : Nat)) = e
    omega

/-- The parts of any number fit in 64 bits. -/
theorem bounds_of_unpack {x : Float} {s : Sign} {m : Nat} {e : Int} {hm : 0 < m}
    (h : unpack x = .finite s m e hm) : m < 2 ^ 53 ∧ -1074 ≤ e ∧ e ≤ 971 := by
  have hmantissa : (@unpackMantissa .binary64 x.toBits.toBitVec).toNat < 2 ^ 52 := BitVec.isLt _
  have hexponent : (@unpackExponent .binary64 x.toBits.toBitVec).toNat < 2 ^ 11 := BitVec.isLt _
  unfold unpack UnpackedFloat.unpack at h
  dsimp only at h
  split at h
  · split at h <;> cases h
  · next hmax =>
    split at h
    · next hzero =>
      split at h
      · cases h
      · cases h
        rw [hzero]
        refine ⟨by omega, ?_, ?_⟩ <;> decide
    · next hnonzero =>
      cases h
      have hmax' : (@unpackExponent .binary64 x.toBits.toBitVec).toNat ≠ 2047 :=
        fun heq => hmax (BitVec.eq_of_toNat_eq heq)
      have hnonzero' : (@unpackExponent .binary64 x.toBits.toBitVec).toNat ≠ 0 :=
        fun heq => hnonzero (BitVec.eq_of_toNat_eq heq)
      have hbias : ((Format.binary64.exponentBias : Int) + (52 : Nat)) = 1075 := by decide
      rw [hbias]
      exact ⟨BitVec.isLt _, by omega, by omega⟩

/-! ### Sizes -/

/-- The size of a number with a significand and a power of two. -/
def size (m : Nat) (e : Int) : Rat := m * 2 ^ e

theorem size_nonneg (m : Nat) (e : Int) : 0 ≤ size m e := by
  rw [size]
  positivity

theorem size_mul_two_pow (m k : Nat) (e : Int) : size (m * 2 ^ k) e = size m (e + k) := by
  rw [size, size, zpow_add₀ (by norm_num), zpow_natCast]
  push_cast
  ring

theorem size_two_mul (m : Nat) (e : Int) : size (2 * m) e = 2 * size m e := by
  rw [size, size]
  push_cast
  ring

theorem size_lt_size_iff {m n : Nat} {e : Int} : size m e < size n e ↔ m < n := by
  rw [size, size, mul_lt_mul_iff_left₀ (by positivity), Nat.cast_lt]

theorem size_le_size_iff {m n : Nat} {e : Int} : size m e ≤ size n e ↔ m ≤ n := by
  rw [size, size, mul_le_mul_iff_left₀ (by positivity), Nat.cast_le]

theorem size_mono (m : Nat) {e e' : Int} (h : e ≤ e') : size m e ≤ size m e' :=
  mul_le_mul_of_nonneg_left (zpow_le_zpow_right₀ (by norm_num) h) (Nat.cast_nonneg m)

theorem size_mul (m n : Nat) (e e' : Int) : size (m * n) (e + e') = size m e * size n e' := by
  rw [size, size, size, zpow_add₀ (by norm_num)]
  push_cast
  ring

/-- The least size that is rounded to infinity. -/
def overflow : Rat := size (2 ^ 54 - 1) 970

/-- A number below the overflow is rounded to a number of the size of its first 53 bits. -/
theorem exists_unpack_round (s : Sign) {m : Nat} {e : Int} (hlog : 52 ≤ m.log2) (he : -1074 ≤ e)
    (hlt : size m e < overflow) :
    ∃ m' e' hm', unpack (packed (roundWithAccuracy .binary64 s m e .exact)) = .finite s m' e' hm' ∧
      2 ^ 52 ≤ m' ∧ e + (m.log2 - 52 : Nat) ≤ e' ∧
      size m' e' = size (lead m * 2 ^ (m.log2 - 52)) e := by
  have hm : m ≠ 0 := by
    rintro rfl
    simp at hlog
  have hexponent : e + (m.log2 - 52 : Nat) ≤ 971 := by
    by_contra hgt
    have hlow : size (2 ^ 52 * 2 ^ (m.log2 - 52)) e ≤ size m e := by
      rw [size_le_size_iff, ← Nat.pow_add, show 52 + (m.log2 - 52) = m.log2 by omega]
      exact Nat.log2_self_le hm
    have hhigh : overflow < size (2 ^ 52 * 2 ^ (m.log2 - 52)) e := by
      calc overflow < size (2 ^ 52 * 2 ^ 2) 970 := size_lt_size_iff.mpr (by decide)
        _ = size (2 ^ 52) 972 := size_mul_two_pow _ _ _
        _ ≤ size (2 ^ 52) (e + (m.log2 - 52 : Nat)) := size_mono _ (by omega)
        _ = size (2 ^ 52 * 2 ^ (m.log2 - 52)) e := (size_mul_two_pow _ _ _).symm
    exact absurd (hlow.trans_lt hlt) hhigh.not_gt
  have hlead (heq : e + (m.log2 - 52 : Nat) = 971) : lead m ≠ 2 ^ 53 := by
    have hhalf : 2 * m < (2 * (2 ^ 53 - 1) + 1) * 2 ^ (m.log2 - 52) := by
      rw [← size_lt_size_iff, size_mul_two_pow, heq]
      calc size (2 * m) e = 2 * size m e := size_two_mul m e
        _ < 2 * overflow := by linarith
        _ = size (2 * (2 ^ 54 - 1)) 970 := (size_two_mul _ _).symm
        _ = size (2 * (2 ^ 53 - 1) + 1) 971 := size_mul_two_pow (2 ^ 54 - 1) 1 970
    have := lead_le hhalf
    omega
  obtain ⟨m', e', hm', hround, hlow, hhigh, ⟨rfl, rfl⟩ | ⟨heq, rfl, rfl⟩⟩ :=
    roundWithAccuracy_eq s hlog he
  · refine ⟨_, _, hm', ?_, hlow, by omega, (size_mul_two_pow _ _ _).symm⟩
    rw [hround, unpack_packed_finite s hm' hlow hhigh (by omega) hexponent]
  · have hne : e + (m.log2 - 52 : Nat) ≠ 971 := fun h => hlead h heq
    refine ⟨2 ^ 52, e + (m.log2 - 52 : Nat) + 1, hm', ?_, hlow, by omega, ?_⟩
    · rw [hround, unpack_packed_finite s hm' hlow hhigh (by omega) (by omega)]
    · rw [heq, size_mul_two_pow]
      exact (size_mul_two_pow (2 ^ 52) 1 _).symm

/-! ### Whole numbers and products -/

theorem mul_eq_packed (x y : Float) :
    x * y = packed (UnpackedFloat.mul .binary64 (unpack x) (unpack y)) := rfl

theorem log2_mul_two_pow {m : Nat} (hm : m ≠ 0) (k : Nat) : (m * 2 ^ k).log2 = m.log2 + k := by
  have hlow := Nat.log2_self_le hm
  have hhigh := Nat.lt_log2_self (n := m)
  have hpos := Nat.two_pow_pos k
  rw [Nat.log2_eq_iff (Nat.mul_ne_zero hm hpos.ne'), Nat.pow_add, Nat.add_right_comm, Nat.pow_add]
  exact ⟨Nat.mul_le_mul_right _ hlow, Nat.mul_lt_mul_of_pos_right hhigh hpos⟩

/-- A number that has 53 bits is not changed by rounding. -/
theorem roundWithAccuracy_of_le (s : Sign) {m : Nat} {e : Int} (hm : 0 < m) (h : m.log2 ≤ 52)
    (he : -1074 ≤ e) : roundWithAccuracy .binary64 s m e .exact = .finite s m e hm := by
  rw [roundWithAccuracy, shiftToTargetExponent_of_le h he]
  change (if h : (shiftToTargetExponent .binary64 m e .exact).1.mantissa = 0 then
      UnpackedFloat.zero s
    else UnpackedFloat.finite s _ (shiftToTargetExponent .binary64 m e .exact).2
      (Nat.pos_of_ne_zero h)) = _
  rw [shiftToTargetExponent_of_le h he]
  exact dif_neg hm.ne'

/-- A whole number of at most 53 bits as a binary64 number. -/
theorem ofNat_eq_of_lt {n : Nat} (hn : 0 < n) (hlt : n < 2 ^ 53) :
    UnpackedFloat.ofNat .binary64 n
      = .finite .positive (n * 2 ^ (52 - n.log2)) (-(52 - n.log2 : Nat))
        (Nat.mul_pos hn (Nat.two_pow_pos _)) := by
  have hlog : n.log2 < 53 := (Nat.log2_lt hn.ne').mpr hlt
  have hshift : (0 - Format.binary64.targetExponent (totalExponent n 0)).toNat = 52 - n.log2 := by
    simp only [Format.targetExponent, totalExponent, Format.mantissaBits, Format.minExponent]
    omega
  have hround : UnpackedFloat.ofNat .binary64 n
      = roundWithAccuracy .binary64 .positive (n * 2 ^ (52 - n.log2)) (-(52 - n.log2 : Nat))
          .exact := by
    have hcompare : compare (n : Int) 0 = .gt := by
      rw [Int.compare_eq_gt]
      omega
    rw [UnpackedFloat.ofNat, UnpackedFloat.ofInt, UnpackedFloat.normalize, hcompare]
    change roundWithAccuracy .binary64 .positive
      (decreaseExponent n 0 (Format.binary64.targetExponent (totalExponent n 0))).1
      (decreaseExponent n 0 (Format.binary64.targetExponent (totalExponent n 0))).2 .exact = _
    rw [decreaseExponent, hshift, Nat.shiftLeft_eq, zero_sub]
  rw [hround]
  refine roundWithAccuracy_of_le _ _ ?_ (by omega)
  rw [log2_mul_two_pow hn.ne']
  omega

theorem unpack_packed_ofNat {n : Nat} (hn : 0 < n) (hlt : n < 2 ^ 53) :
    unpack (packed (UnpackedFloat.ofNat .binary64 n))
      = .finite .positive (n * 2 ^ (52 - n.log2)) (-(52 - n.log2 : Nat))
        (Nat.mul_pos hn (Nat.two_pow_pos _)) := by
  have hlog : n.log2 < 53 := (Nat.log2_lt hn.ne').mpr hlt
  have hbits : 2 ^ 52 ≤ n * 2 ^ (52 - n.log2) ∧ n * 2 ^ (52 - n.log2) < 2 ^ 53 := by
    rw [← Nat.log2_eq_iff (Nat.mul_pos hn (Nat.two_pow_pos _)).ne', log2_mul_two_pow hn.ne']
    omega
  rw [ofNat_eq_of_lt hn hlt]
  exact unpack_packed_finite _ _ hbits.1 hbits.2 (by omega) (by omega)

theorem mul_finite (s s' : Sign) {m m' : Nat} (e e' : Int) (hm : 0 < m) (hm' : 0 < m') :
    UnpackedFloat.mul .binary64 (.finite s m e hm) (.finite s' m' e' hm')
      = roundWithAccuracy .binary64 (s * s') (m * m') (e + e') .exact := rfl

/-- A whole number with a power of ten is rounded to its first 53 bits. -/
theorem ofScientific_eq {n : Nat} (hn : 0 < n) {p : Nat} (hp : p ≤ 2 ^ 11) :
    UnpackedFloat.ofScientific .binary64 n p
      = roundWithAccuracy .binary64 .positive (n * 10 ^ p * 2 ^ 53) (-(53 : Nat)) .exact := by
  have hgreat : ¬ (p : Int) > 2 ^ Format.binary64.exponentBits := by
    change ¬ (p : Int) > 2 ^ 11
    omega
  have hsmall : ¬ (p : Int) < -((2 ^ Format.binary64.exponentBits : Int) + n.log2) := by
    change ¬ (p : Int) < -(2 ^ 11 + n.log2)
    omega
  have hmantissa : n <<< Format.binary64.mantissaBits * 10 ^ (p : Int).toNat
      = n * 10 ^ p * 2 ^ 53 := by
    rw [Nat.shiftLeft_eq, Int.toNat_natCast, Nat.mul_right_comm]
    rfl
  have hexponent : -(Format.binary64.mantissaBits : Int) + 0 = -(53 : Nat) := by decide
  rw [UnpackedFloat.ofScientific, dif_neg hn.ne', if_neg hgreat, if_neg hsmall,
    if_pos (Int.natCast_nonneg p), mul_finite, hmantissa, hexponent]
  rfl

/-- A whole number is rounded to its first 53 bits, taken at a power of two at which it has more. -/
theorem ofNat_eq_packed {n : Nat} (hn : 0 < n) :
    ∃ i : Nat, i ≤ 104 ∧ 52 ≤ (n * 2 ^ i).log2 ∧
      Float.ofNat n = packed (roundWithAccuracy .binary64 .positive (n * 2 ^ i) (-i) .exact) := by
  by_cases hlt : n < 2 ^ 53
  · have hlog : n.log2 < 53 := (Nat.log2_lt hn.ne').mpr hlt
    have hfloat : unpack n.toUInt64.toFloat = .finite .positive (n * 2 ^ (52 - n.log2))
        (-(52 - n.log2 : Nat)) (Nat.mul_pos hn (Nat.two_pow_pos _)) := by
      have hword : n.toUInt64.toNat = n := by
        rw [Nat.toUInt64_eq, UInt64.toNat_ofNat']
        omega
      have hpacked : n.toUInt64.toFloat
          = packed (UnpackedFloat.ofNat .binary64 n.toUInt64.toNat) := rfl
      rw [hpacked, hword, unpack_packed_ofNat hn hlt]
    have hfast : Float.ofNat n = n.toUInt64.toFloat * Float.ofBits 0x3FF0000000000000 := by
      exact dif_pos ⟨hlt, by decide⟩
    have hone : unpack (Float.ofBits 0x3FF0000000000000)
        = .finite .positive (2 ^ 52) (-52) (by decide) := rfl
    refine ⟨104 - n.log2, by omega, ?_, ?_⟩
    · rw [log2_mul_two_pow hn.ne']
      omega
    · rw [hfast, mul_eq_packed, hfloat, hone, mul_finite]
      congr 2
      · rw [Nat.mul_assoc, ← Nat.pow_add]
        congr 2
        omega
      · omega
  · refine ⟨53, by decide, ?_, ?_⟩
    · rw [log2_mul_two_pow hn.ne']
      omega
    · have hslow : Float.ofNat n = packed (UnpackedFloat.ofScientific .binary64 n (0 : Nat)) :=
        dif_neg fun h => hlt h.1
      rw [hslow, ofScientific_eq hn (by decide), Nat.pow_zero, Nat.mul_one]

/-- A whole number that is rounded to its first 53 bits does not pass any number of 53 bits. -/
theorem exists_unpack_whole {n i : Nat} (hi : i ≤ 1074) (hlog : 52 ≤ (n * 2 ^ i).log2)
    (hlt : size n 0 < overflow) :
    ∃ m e hm, unpack (packed (roundWithAccuracy .binary64 .positive (n * 2 ^ i) (-i) .exact))
        = .finite .positive m e hm ∧ 2 ^ 52 ≤ m ∧ (n.log2 : Int) - 52 ≤ e ∧
      ∀ m' < 2 ^ 53, ∀ j : Nat, n ≤ m' * 2 ^ j → size m e ≤ size m' j := by
  have hsize (k : Nat) : size (k * 2 ^ i) (-i) = size k 0 := by
    rw [size_mul_two_pow, neg_add_cancel]
  obtain ⟨m, e, hm, hunpack, hlow, he, hround⟩ :=
    exists_unpack_round .positive hlog (by omega) (hsize n ▸ hlt)
  have hn : n ≠ 0 := by
    rintro rfl
    simp at hlog
  have hexponent : (n.log2 : Int) - 52 ≤ e := by
    rw [log2_mul_two_pow hn] at he hlog
    omega
  refine ⟨m, e, hm, hunpack, hlow, hexponent, fun m' hm' j hle => ?_⟩
  have hlead : lead (n * 2 ^ i) * 2 ^ ((n * 2 ^ i).log2 - 52) ≤ m' * 2 ^ (j + i) := by
    refine lead_mul_le hlog hm' ?_
    rw [Nat.pow_add, ← Nat.mul_assoc]
    exact Nat.mul_le_mul_right _ hle
  calc size m e = size (lead (n * 2 ^ i) * 2 ^ ((n * 2 ^ i).log2 - 52)) (-i) := hround
    _ ≤ size (m' * 2 ^ (j + i)) (-i) := size_le_size_iff.mpr hlead
    _ = size m' j := by rw [size_mul_two_pow]; congr 1; push_cast; ring

/-- A whole number of 64 bits does not pass any number of 53 bits as a binary64 number. -/
theorem exists_unpack_ofNat {n : Nat} (hn : 0 < n) (hlt : n < 2 ^ 64) :
    ∃ m e hm, unpack (Float.ofNat n) = .finite .positive m e hm ∧ 2 ^ 52 ≤ m ∧ -52 ≤ e ∧
      ∀ m' < 2 ^ 53, ∀ j : Nat, n ≤ m' * 2 ^ j → size m e ≤ size m' j := by
  obtain ⟨i, hi, hlog, hfloat⟩ := ofNat_eq_packed hn
  have hoverflow : size n 0 < overflow := by
    calc size n 0 < size ((2 ^ 54 - 1) * 2 ^ 11) 0 := size_lt_size_iff.mpr (by omega)
      _ = size (2 ^ 54 - 1) 11 := size_mul_two_pow _ _ _
      _ ≤ overflow := size_mono _ (by decide)
  obtain ⟨m, e, hm, hunpack, hlow, he, hbound⟩ :=
    exists_unpack_whole (hi.trans (by decide)) hlog hoverflow
  exact ⟨m, e, hm, hfloat ▸ hunpack, hlow, by omega, hbound⟩

/-- A product below the overflow is not infinite. -/
theorem isInf_mul {x y : Float} {s s' : Sign} {m m' : Nat} {e e' : Int} {hm : 0 < m} {hm' : 0 < m'}
    (hx : unpack x = .finite s m e hm) (hy : unpack y = .finite s' m' e' hm')
    (hlow : 2 ^ 52 ≤ m) (he : -1074 ≤ e + e') (hlt : size m e * size m' e' < overflow) :
    (x * y).isInf = false := by
  have hlog : 52 ≤ (m * m').log2 := by
    rw [Nat.le_log2 (Nat.mul_pos hm hm').ne']
    exact hlow.trans (Nat.le_mul_of_pos_right m hm')
  rw [← size_mul] at hlt
  obtain ⟨_, _, _, hunpack, -⟩ := exists_unpack_round (s * s') hlog he hlt
  have hproduct :
      x * y = packed (roundWithAccuracy .binary64 (s * s') (m * m') (e + e') .exact) := by
    rw [mul_eq_packed, hx, hy, mul_finite]
  change (unpack (x * y)).isInf = false
  rw [hproduct, hunpack]
  rfl

end BenchReport.Decimal
