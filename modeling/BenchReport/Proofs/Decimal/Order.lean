import BenchReport.Proofs.Decimal.Finite

/-!
# The order of binary64 numbers

Numbers are compared by their exponents first and by their significands next, and what is no number
is not compared at all. The comparison is that of whole numbers: every number has a place (`rank`),
the infinities at the two ends and both zeros at the same, and two numbers compare as their places
(`compare_unpack`). So the order of numbers is a strict weak order, and numbers of one place are
those that are equal (`beq_iff_rank_eq`).
-/

namespace BenchReport.Decimal

open Float.Model (UnpackedFloat)
open Float.Model.UnpackedFloat (Sign)

/-- The place of a number with some parts among all numbers. The exponents of finite numbers begin
at -1074, and a significand has at most 53 bits. -/
def partsRank : UnpackedFloat → Int
  | .notANumber => 0
  | .infinity s => s.apply (2 ^ 64)
  | .zero _ => 0
  | .finite s m e _ => s.apply ((e + 1074) * 2 ^ 53 + m)

/-- The place of a number among all numbers. -/
def rank (x : Float) : Int := partsRank (unpack x)

theorem isNaN_eq_false_iff {x : Float} : x.isNaN = false ↔ unpack x ≠ .notANumber := by
  change (unpack x).isNaN = false ↔ _
  cases unpack x <;> simp [UnpackedFloat.isNaN]

/-! ### Comparison by parts -/

@[simp] theorem lt_eq_compare_iff {a b : Int} : .lt = compare a b ↔ a < b :=
  eq_comm.trans compare_lt_iff_lt

@[simp] theorem gt_eq_compare_iff {a b : Int} : .gt = compare a b ↔ b < a :=
  eq_comm.trans compare_gt_iff_gt

theorem compare_congr {α β : Type} [LinearOrder α] [LinearOrder β] {a b : α} {c d : β}
    (hlt : a < b ↔ c < d) (hgt : b < a ↔ d < c) : compare a b = compare c d := by
  rcases lt_trichotomy c d with h | h | h
  · rw [compare_lt_iff_lt.mpr (hlt.mpr h), compare_lt_iff_lt.mpr h]
  · have hab : a = b := by
      refine le_antisymm (not_lt.mp fun hba => ?_) (not_lt.mp fun hab => ?_)
      · exact (hgt.mp hba).ne' h
      · exact (hlt.mp hab).ne h
    rw [compare_eq_iff_eq.mpr hab, compare_eq_iff_eq.mpr h]
  · rw [compare_gt_iff_gt.mpr (hgt.mpr h), compare_gt_iff_gt.mpr h]

/-- Exponents decide before significands. -/
theorem compare_then_eq (e e' : Int) {m m' : Nat} (hm : m < 2 ^ 53) (hm' : m' < 2 ^ 53) :
    (compare e e').then (compare m m')
      = compare ((e + 1074) * 2 ^ 53 + m : Int) ((e' + 1074) * 2 ^ 53 + m') := by
  rcases lt_trichotomy e e' with he | rfl | he
  · rw [compare_lt_iff_lt.mpr he]
    exact lt_eq_compare_iff.mpr (by omega)
  · rw [compare_eq_iff_eq.mpr rfl]
    exact compare_congr (by omega) (by omega)
  · rw [compare_gt_iff_gt.mpr he]
    exact gt_eq_compare_iff.mpr (by omega)

/-- A finite number is placed between zero and the infinity of its sign. -/
theorem place_bounds {x : Float} {s : Sign} {m : Nat} {e : Int} {hm : 0 < m}
    (h : unpack x = .finite s m e hm) :
    0 < (e + 1074) * 2 ^ 53 + m ∧ (e + 1074) * 2 ^ 53 + m < (2 ^ 64 : Int) := by
  obtain ⟨hlt, hlow, hhigh⟩ := bounds_of_unpack h
  omega

/-- Two numbers compare as their places. -/
theorem compare_unpack {x y : Float} (hx : x.isNaN = false) (hy : y.isNaN = false) :
    UnpackedFloat.compare (unpack x) (unpack y) = some (compare (rank x) (rank y)) := by
  rw [isNaN_eq_false_iff] at hx hy
  rw [rank, rank]
  cases hux : unpack x with
  | notANumber => exact absurd hux hx
  | infinity s =>
    cases huy : unpack y with
    | notANumber => exact absurd huy hy
    | infinity s' => cases s <;> cases s' <;> rfl
    | zero s' => cases s <;> rfl
    | finite s' m' e' hm' =>
      have hplace := place_bounds huy
      cases s <;> cases s' <;> simp [UnpackedFloat.compare, partsRank, Sign.apply] <;> omega
  | zero s =>
    cases huy : unpack y with
    | notANumber => exact absurd huy hy
    | infinity s' => cases s' <;> rfl
    | zero s' => rfl
    | finite s' m' e' hm' =>
      have hplace := place_bounds huy
      cases s' <;> simp [UnpackedFloat.compare, partsRank, Sign.apply] <;> omega
  | finite s m e hm =>
    have hplace := place_bounds hux
    cases huy : unpack y with
    | notANumber => exact absurd huy hy
    | infinity s' =>
      cases s <;> cases s' <;> simp [UnpackedFloat.compare, partsRank, Sign.apply] <;> omega
    | zero s' =>
      cases s <;> simp [UnpackedFloat.compare, partsRank, Sign.apply] <;> omega
    | finite s' m' e' hm' =>
      have hplace' := place_bounds huy
      have hthen := compare_then_eq e e' (bounds_of_unpack hux).1 (bounds_of_unpack huy).1
      cases s <;> cases s' <;>
        simp only [UnpackedFloat.compare, partsRank, Sign.apply, Option.some.injEq,
          lt_eq_compare_iff, gt_eq_compare_iff, hthen]
      · rw [← Std.OrientedCmp.eq_swap]
        exact compare_congr (by omega) (by omega)
      · omega
      · omega

/-! ### Less, at most, and equal -/

section Compare

variable {x y : Float} (hx : x.isNaN = false) (hy : y.isNaN = false)

include hx hy

theorem lt_iff_rank_lt : x < y ↔ rank x < rank y := by
  have hlt : x < y ↔ UnpackedFloat.lt (unpack x) (unpack y) = true := decide_eq_true_iff
  rw [hlt, UnpackedFloat.lt, compare_unpack hx hy, beq_iff_eq, Option.some.injEq,
    compare_lt_iff_lt]

theorem le_iff_rank_le : x ≤ y ↔ rank x ≤ rank y := by
  have hle : x ≤ y ↔ UnpackedFloat.le (unpack x) (unpack y) = true := decide_eq_true_iff
  rw [hle, UnpackedFloat.le, compare_unpack hx hy, Option.any_some, Std.isLE_compare]

theorem beq_iff_rank_eq : (x == y) = true ↔ rank x = rank y := by
  have hbeq : (x == y) = UnpackedFloat.beq (unpack x) (unpack y) := rfl
  rw [hbeq, UnpackedFloat.beq, compare_unpack hx hy, beq_iff_eq, Option.some.injEq,
    compare_eq_iff_eq]

theorem not_le_iff_lt : ¬ x ≤ y ↔ y < x := by
  rw [le_iff_rank_le hx hy, lt_iff_rank_lt hy hx, not_le]

theorem not_lt_iff_le : ¬ x < y ↔ y ≤ x := by
  rw [← not_le_iff_lt hy hx, not_not]

theorem le_of_lt (h : x < y) : x ≤ y := by
  rw [lt_iff_rank_lt hx hy] at h
  exact (le_iff_rank_le hx hy).mpr h.le

end Compare

theorem beq_zero_eq_false_of_pos {x : Float} (hx : x.isNaN = false) (h : 0.0 < x) :
    (x == 0.0) = false := by
  rw [lt_iff_rank_lt rfl hx] at h
  rw [Bool.eq_false_iff, ne_eq, beq_iff_rank_eq hx rfl]
  exact h.ne'

end BenchReport.Decimal
