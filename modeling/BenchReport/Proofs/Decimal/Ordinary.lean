import BenchReport.Proofs.Decimal.Products
import BenchReport.Proofs.Decimal.Rounding

/-!
# Ordinary numbers

The numbers from a thousandth to a thousand million have significands of 53 bits and exponents far
from the ends of the format (`IsOrdinary.exists_unpack`). So they are in the order of their sizes, and
their products and quotients are neither too large nor too small to be rounded to 53 bits
(`IsOrdinary.mul`, `IsOrdinary.div`). The text of a number with some decimal places has the units next
to its size, and a greater number has not fewer of them (`shown_mono`).
-/

namespace BenchReport.Decimal

open Float.Model (Format UnpackedFloat totalExponent)
open Float.Model.UnpackedFloat

/-! ### Sizes of ordinary numbers -/

theorem isNaN_of_le {x y : Float} (h : x ≤ y) : x.isNaN = false ∧ y.isNaN = false := by
  have hle : UnpackedFloat.le (unpack x) (unpack y) = true := decide_eq_true_iff.mp h
  rw [isNaN_eq_false_iff, isNaN_eq_false_iff]
  constructor <;> intro hunpack <;> rw [hunpack] at hle
  · simp [UnpackedFloat.le, UnpackedFloat.compare] at hle
  · cases hx : unpack x <;> simp [hx, UnpackedFloat.le, UnpackedFloat.compare] at hle

/-- A number from a thousandth to a thousand million. -/
def IsOrdinary (x : Float) : Prop := 0.001 ≤ x ∧ x ≤ 1000000000.0

instance (x : Float) : Decidable (IsOrdinary x) := inferInstanceAs (Decidable (_ ∧ _))

theorem IsOrdinary.isNaN_eq {x : Float} (h : IsOrdinary x) : x.isNaN = false :=
  (isNaN_of_le h.1).2

theorem IsOrdinary.exists_unpack {x : Float} (h : IsOrdinary x) :
    ∃ m e hm, unpack x = .finite .positive m e hm ∧ 2 ^ 52 ≤ m ∧ m < 2 ^ 53 ∧ -62 ≤ e ∧
      e ≤ -23 := by
  have hnumber := h.isNaN_eq
  have hlow : (1012 * 2 ^ 53 : Int) ≤ rank x := by
    calc (1012 * 2 ^ 53 : Int) ≤ rank 0.001 := by decide +kernel
      _ ≤ rank x := (le_iff_rank_le (by decide +kernel) hnumber).mp h.1
  have hhigh : rank x < (1052 * 2 ^ 53 : Int) := by
    calc rank x ≤ rank 1000000000.0 := (le_iff_rank_le hnumber (by decide +kernel)).mp h.2
      _ < 1052 * 2 ^ 53 := by decide +kernel
  rw [isNaN_eq_false_iff] at hnumber
  rw [rank] at hlow hhigh
  cases hunpack : unpack x with
  | notANumber => exact absurd hunpack hnumber
  | infinity s =>
    cases s <;> simp only [hunpack, partsRank, Sign.apply] at hlow hhigh <;> omega
  | zero s =>
    simp only [hunpack, partsRank] at hlow
    omega
  | finite s m e hm =>
    have hplace := place_bounds hunpack
    have htarget := targetExponent_of_unpack hunpack
    obtain ⟨hlt, -, -⟩ := bounds_of_unpack hunpack
    simp only [Format.targetExponent, totalExponent, Format.mantissaBits, Format.minExponent]
      at htarget
    cases s with
    | negative =>
      simp only [hunpack, partsRank, Sign.apply] at hlow
      omega
    | positive =>
      simp only [hunpack, partsRank, Sign.apply] at hlow hhigh
      have hbits : 2 ^ 52 ≤ m := by
        rw [← Nat.le_log2 hm.ne']
        omega
      exact ⟨m, e, hm, rfl, hbits, hlt, by omega, by omega⟩

/-- An ordinary number has a significand of 53 bits. -/
theorem IsOrdinary.le_rank_mod {x : Float} (h : IsOrdinary x) : 2 ^ 52 ≤ rank x % 2 ^ 53 := by
  obtain ⟨m, e, hm, hunpack, hlow, hhigh, -⟩ := h.exists_unpack
  rw [rank, hunpack, partsRank, Sign.apply]
  omega

/-- The size of a finite number. -/
def magnitude (x : Float) : Rat :=
  match unpack x with
  | .finite _ m e _ => size m e
  | _ => 0

/-- Whether a number is finite and greater than zero. -/
def IsPositive (x : Float) : Prop := ∃ m e hm, unpack x = .finite .positive m e hm

theorem IsOrdinary.isPositive {x : Float} (h : IsOrdinary x) : IsPositive x := by
  obtain ⟨m, e, hm, hunpack, -⟩ := h.exists_unpack
  exact ⟨m, e, hm, hunpack⟩

theorem magnitude_eq {x : Float} {s : Sign} {m : Nat} {e : Int} {hm : 0 < m}
    (h : unpack x = .finite s m e hm) : magnitude x = size m e := by
  rw [magnitude, h]

theorem IsOrdinary.magnitude_nonneg {x : Float} (h : IsOrdinary x) : 0 ≤ magnitude x := by
  obtain ⟨m, e, hm, hunpack, -⟩ := h.exists_unpack
  rw [magnitude_eq hunpack]
  exact size_nonneg m e

/-- Ordinary numbers are in the order of their sizes. -/
theorem IsOrdinary.magnitude_le {x y : Float} (hx : IsOrdinary x) (hy : IsOrdinary y)
    (h : x ≤ y) : magnitude x ≤ magnitude y := by
  obtain ⟨hnx, hny⟩ := isNaN_of_le h
  rw [le_iff_rank_le hnx hny, rank, rank] at h
  obtain ⟨m, e, hm, hux, -, hlt, -⟩ := hx.exists_unpack
  obtain ⟨m', e', hm', huy, hlow', -⟩ := hy.exists_unpack
  rw [hux, huy, partsRank, partsRank, Sign.apply, Sign.apply] at h
  rw [magnitude_eq hux, magnitude_eq huy]
  rcases lt_trichotomy e e' with hle | rfl | hgt
  · calc size m e
        ≤ size (2 ^ 53) e := size_le_size_iff.mpr hlt.le
      _ = size (2 ^ 52) (e + 1) := size_mul_two_pow (2 ^ 52) 1 e
      _ ≤ size (2 ^ 52) e' := size_mono _ hle
      _ ≤ size m' e' := size_le_size_iff.mpr hlow'
  · rw [size_le_size_iff]
    omega
  · have := bounds_of_unpack huy
    omega

/-! ### Products and quotients -/

/-- A product of ordinary numbers is rounded. -/
theorem IsOrdinary.mul {x y : Float} (hx : IsOrdinary x) (hy : IsOrdinary y) :
    IsPositive (x * y) ∧ Rounds (magnitude x * magnitude y) (magnitude (x * y)) := by
  obtain ⟨m, e, hm, hux, hlow, hhigh, he, hehigh⟩ := hx.exists_unpack
  obtain ⟨m', e', hm', huy, hlow', hhigh', he', hehigh'⟩ := hy.exists_unpack
  have hproduct : x * y = packed (roundWithAccuracy .binary64 .positive (m * m' / 1) (e + e')
      (accuracyOfFraction (m * m' % 1) 1)) := by
    rw [mul_eq_packed, hux, huy, mul_finite, Nat.div_one, Nat.mod_one]
    rfl
  have hpos : m * m' ≠ 0 := (Nat.mul_pos hm hm').ne'
  have hlog : 104 ≤ (m * m').log2 := by
    rw [Nat.le_log2 hpos, show 104 = 52 + 52 by decide, Nat.pow_add]
    exact Nat.mul_le_mul hlow hlow'
  have hlog' : (m * m').log2 < 106 := by
    rw [Nat.log2_lt hpos, show 106 = 53 + 53 by decide, Nat.pow_add]
    exact Nat.mul_lt_mul'' hhigh hhigh'
  obtain ⟨p, f, hp, hunpack, hround⟩ := exists_unpack_fraction (n := m * m') (e := e + e')
    Nat.one_pos (by rw [Nat.div_one]; omega) (by omega) (by rw [Nat.div_one]; omega)
  rw [← hproduct] at hunpack
  refine ⟨⟨p, f, hp, hunpack⟩, ?_⟩
  rw [magnitude_eq hux, magnitude_eq huy, magnitude_eq hunpack, ← size_mul, size]
  simpa using hround

/-- Significands of 53 bits are divided with 53 bits more for the dividend. -/
theorem divCore_of_log2_eq {m m' : Nat} {e e' : Int} (hm : m.log2 = 52) (hm' : m'.log2 = 52)
    (he : -1021 ≤ e - e') : divCore .binary64 m e m' e'
      = (m * 2 ^ 53 / m', e - e' - 53, accuracyOfFraction (m * 2 ^ 53 % m') m') := by
  have htarget : min (e - e') (Format.binary64.targetExponent
      (totalExponent m e - totalExponent m' e')) = e - e' - 53 := by
    simp only [Format.targetExponent, totalExponent, Format.mantissaBits, Format.minExponent, hm,
      hm']
    omega
  rw [divCore]
  simp only [htarget, sub_sub_cancel, Nat.shiftLeft_eq]
  rfl

theorem log2_quotient {m m' : Nat} (hlow : 2 ^ 52 ≤ m) (hhigh : m < 2 ^ 53) (hlow' : 2 ^ 52 ≤ m')
    (hhigh' : m' < 2 ^ 53) :
    52 ≤ (m * 2 ^ 53 / m').log2 ∧ (m * 2 ^ 53 / m').log2 < 54 := by
  have hm' : 0 < m' := by omega
  have hleast : 2 ^ 52 ≤ m * 2 ^ 53 / m' := by
    rw [Nat.le_div_iff_mul_le hm']
    exact Nat.mul_le_mul hlow hhigh'.le
  have hgreatest : m * 2 ^ 53 / m' < 2 ^ 54 := by
    rw [Nat.div_lt_iff_lt_mul hm']
    omega
  have hpos : m * 2 ^ 53 / m' ≠ 0 := by omega
  exact ⟨(Nat.le_log2 hpos).mpr hleast, (Nat.log2_lt hpos).mpr hgreatest⟩

/-- A quotient of ordinary numbers is rounded. -/
theorem IsOrdinary.div {x y : Float} (hx : IsOrdinary x) (hy : IsOrdinary y) :
    IsPositive (x / y) ∧ Rounds (magnitude x / magnitude y) (magnitude (x / y)) := by
  obtain ⟨m, e, hm, hux, hlow, hhigh, he, hehigh⟩ := hx.exists_unpack
  obtain ⟨m', e', hm', huy, hlow', hhigh', he', hehigh'⟩ := hy.exists_unpack
  have hlog : m.log2 = 52 := (Nat.log2_eq_iff hm.ne').mpr ⟨hlow, hhigh⟩
  have hlog' : m'.log2 = 52 := (Nat.log2_eq_iff hm'.ne').mpr ⟨hlow', hhigh'⟩
  have hquotient : x / y = packed (roundWithAccuracy .binary64 .positive (m * 2 ^ 53 / m')
      (e - e' - 53) (accuracyOfFraction (m * 2 ^ 53 % m') m')) := by
    rw [div_eq_packed, hux, huy, UnpackedFloat.div, divCore_of_log2_eq hlog hlog' (by omega)]
    rfl
  obtain ⟨hbits, hbits'⟩ := log2_quotient hlow hhigh hlow' hhigh'
  obtain ⟨p, f, hp, hunpack, hround⟩ := exists_unpack_fraction (n := m * 2 ^ 53)
    (e := e - e' - 53) hm' hbits (by omega) (by omega)
  rw [← hquotient] at hunpack
  refine ⟨⟨p, f, hp, hunpack⟩, ?_⟩
  have hsize : magnitude x / magnitude y = (m * 2 ^ 53 : Nat) / m' * 2 ^ (e - e' - 53) := by
    rw [magnitude_eq hux, magnitude_eq huy, size, size, zpow_sub₀ (by norm_num),
      zpow_sub₀ (by norm_num)]
    push_cast
    field_simp
  rw [magnitude_eq hunpack, hsize]
  exact hround

/-! ### Texts of numbers -/

/-- The units in the text of a number with `places` decimal places. -/
def shown (places : Nat) (x : Float) : Nat :=
  match unpack x with
  | .finite _ m e _ => units places m e
  | _ => 0

theorem IsPositive.fixed_eq {x : Float} (h : IsPositive x) (places : Nat) :
    fixed places x = String.ofList (unitsText places (shown places x)) := by
  obtain ⟨m, e, hm, hunpack⟩ := h
  rw [fixed, shown, hunpack]
  rfl

theorem units_eq_roundDiv (places m : Nat) (e : Int) :
    units places m e = roundDiv (m * 10 ^ places * 2 ^ e.toNat) (2 ^ (-e).toNat) := by
  cases e with
  | ofNat k =>
    have hone : 2 ^ (-Int.ofNat k).toNat = 1 := by
      rw [show (-Int.ofNat k).toNat = 0 by simp, Nat.pow_zero]
    have hexact := roundDiv_mul (m * 10 ^ places * 2 ^ k) Nat.one_pos
    rw [Nat.mul_one] at hexact
    rw [units, hone, Int.ofNat_eq_natCast, Int.toNat_natCast, hexact, Nat.mul_right_comm]
    rfl
  | negSucc k => simp [units]

/-- Greater sizes are not shown as fewer units. -/
theorem units_mono (places : Nat) {m m' : Nat} {e e' : Int} (h : size m e ≤ size m' e') :
    units places m e ≤ units places m' e' := by
  have hsplit (m : Nat) (e : Int) :
      size m e * 10 ^ places * 2 ^ (-e).toNat = (m * 10 ^ places * 2 ^ e.toNat : Nat) := by
    have hexponent : (2 : Rat) ^ e * 2 ^ (-e).toNat = 2 ^ e.toNat := by
      rw [← zpow_natCast, ← zpow_natCast, ← zpow_add₀ (by norm_num)]
      congr 1
      omega
    push_cast
    rw [← hexponent, size]
    ring
  rw [units_eq_roundDiv, units_eq_roundDiv]
  refine roundDiv_mono (Nat.two_pow_pos _) (Nat.two_pow_pos _) ?_
  rw [← Nat.cast_le (α := Rat), Nat.cast_mul (m * 10 ^ places * 2 ^ e.toNat), ← hsplit m e,
    Nat.cast_mul (m' * 10 ^ places * 2 ^ e'.toNat), ← hsplit m' e', Nat.cast_pow, Nat.cast_pow,
    Nat.cast_ofNat]
  calc size m e * 10 ^ places * 2 ^ (-e).toNat * 2 ^ (-e').toNat
      = size m e * (10 ^ places * 2 ^ (-e).toNat * 2 ^ (-e').toNat) := by ring
    _ ≤ size m' e' * (10 ^ places * 2 ^ (-e).toNat * 2 ^ (-e').toNat) :=
        mul_le_mul_of_nonneg_right h (by positivity)
    _ = size m' e' * 10 ^ places * 2 ^ (-e').toNat * 2 ^ (-e).toNat := by ring

theorem shown_mono (places : Nat) {x y : Float} (hx : IsPositive x) (hy : IsPositive y)
    (h : magnitude x ≤ magnitude y) : shown places x ≤ shown places y := by
  obtain ⟨m, e, hm, hux⟩ := hx
  obtain ⟨m', e', hm', huy⟩ := hy
  rw [magnitude_eq hux, magnitude_eq huy] at h
  rw [shown, shown, hux, huy]
  exact units_mono places h

end BenchReport.Decimal
