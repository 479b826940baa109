import BenchReport.Proofs.Decimal.Ordinary
import BenchReport.Quantity

/-!
# The range of displayed quantities

The unit of a time or a rate is chosen by the number itself, so that its value in the unit is from
one to a thousand. What is shown is the value after it was scaled and rounded. Scaling and rounding
keep the order of numbers (`IsScale`), so a unit shows at least what it shows of its least number,
which is 1.00, and at most what it shows of the last number before the next unit. That is 1000.00,
and so is what is shown from some number on (`Spans.shown_bounds`): a value is rounded up where the
next unit is half a hundredth away (`time_and_rate_range`).
-/

namespace BenchReport.Quantity

open Decimal (IsOrdinary IsPositive magnitude rank shown unitsText)

/-! ### Scales -/

/-- Whether a scale takes ordinary numbers to finite numbers above zero, and keeps their order. -/
structure IsScale (scale : Float → Float) : Prop where
  isPositive : ∀ x, IsOrdinary x → IsPositive (scale x)
  magnitude_le : ∀ x y, IsOrdinary x → IsOrdinary y → x ≤ y →
    magnitude (scale x) ≤ magnitude (scale y)

theorem isScale_id : IsScale fun x => x where
  isPositive _ hx := hx.isPositive
  magnitude_le _ _ hx hy := hx.magnitude_le hy

theorem isScale_mul {c : Float} (hc : IsOrdinary c) : IsScale fun x => x * c where
  isPositive _ hx := (hx.mul hc).1
  magnitude_le x y hx hy h := by
    have hproducts : magnitude x * magnitude c ≤ magnitude y * magnitude c :=
      mul_le_mul_of_nonneg_right (hx.magnitude_le hy h) hc.magnitude_nonneg
    exact (hx.mul hc).2.mono (hy.mul hc).2 hproducts

theorem isScale_div {c : Float} (hc : IsOrdinary c) : IsScale fun x => x / c where
  isPositive _ hx := (hx.div hc).1
  magnitude_le x y hx hy h := by
    have hquotients : magnitude x / magnitude c ≤ magnitude y / magnitude c :=
      div_le_div_of_nonneg_right (hx.magnitude_le hy h) hc.magnitude_nonneg
    exact (hx.div hc).2.mono (hy.div hc).2 hquotients

/-- On a scale a greater number is not shown with fewer hundredths. -/
theorem IsScale.shown_le {scale : Float → Float} (h : IsScale scale) {x y : Float}
    (hx : IsOrdinary x) (hy : IsOrdinary y) (hle : x ≤ y) :
    shown 2 (scale x) ≤ shown 2 (scale y) :=
  Decimal.shown_mono 2 (h.isPositive x hx) (h.isPositive y hy) (h.magnitude_le x y hx hy hle)

/-! ### Where a scale begins and ends -/

/-- The number before a positive one. -/
def before (x : Float) : Float := .ofBits (x.toBits - 1)

/-- Whether an ordinary number follows another: at the next place, or at the first of an exponent
after the gap that is left by significands of fewer bits. -/
def Follows (y x : Float) : Prop :=
  rank y = rank x + 1 ∨ rank y = rank x + 2 ^ 52 + 1 ∧ rank y % 2 ^ 53 = 2 ^ 52

instance (y x : Float) : Decidable (Follows y x) := inferInstanceAs (Decidable (_ ∨ _))

/-- There is no ordinary number between two that follow each other. -/
theorem Follows.le_of_lt {x y z : Float} (h : Follows z y) (hx : IsOrdinary x) (hy : IsOrdinary y)
    (hz : z.isNaN = false) (hlt : x < z) : x ≤ y := by
  rw [Decimal.lt_iff_rank_lt hx.isNaN_eq hz] at hlt
  rw [Decimal.le_iff_rank_le hx.isNaN_eq hy.isNaN_eq]
  have hbits := hx.le_rank_mod
  rcases h with h | ⟨h, hfirst⟩ <;> omega

/-- Whether a scale shows 1.00 at the least number of a unit and less than 1000.00 up to some number,
and 1000.00 from there to the last number before the next unit. -/
structure Spans (scale : Float → Float) (least full next : Float) : Prop where
  isScale : IsScale scale
  bounds : (IsOrdinary least ∧ IsOrdinary full ∧ IsOrdinary next) ∧
    (IsOrdinary (before full) ∧ Follows full (before full)) ∧
    IsOrdinary (before next) ∧ Follows next (before next)
  shown_eq : shown 2 (scale least) = 100 ∧ shown 2 (scale (before full)) = 99999 ∧
    shown 2 (scale full) = 100000 ∧ shown 2 (scale (before next)) = 100000

/-- A unit shows its numbers as 1.00 to 1000.00, and those from some number on as 1000.00. -/
theorem Spans.shown_bounds {scale : Float → Float} {least full next x : Float}
    (h : Spans scale least full next) (hx : IsOrdinary x) (hleast : least ≤ x) (hnext : x < next) :
    100 ≤ shown 2 (scale x) ∧ shown 2 (scale x) ≤ 100000 ∧
      (shown 2 (scale x) = 100000 ↔ full ≤ x) := by
  obtain ⟨hshownLeast, hshownBefore, hshownFull, hshownLast⟩ := h.shown_eq
  obtain ⟨⟨hordinary, hfull, hnumber⟩, ⟨hbefore, hfollows⟩, hlast, hends⟩ := h.bounds
  have hlow : 100 ≤ shown 2 (scale x) := by
    rw [← hshownLeast]
    exact h.isScale.shown_le hordinary hx hleast
  have hhigh : shown 2 (scale x) ≤ 100000 := by
    rw [← hshownLast]
    exact h.isScale.shown_le hx hlast (hends.le_of_lt hx hlast hnumber.isNaN_eq hnext)
  refine ⟨hlow, hhigh, ?_, ?_⟩
  · -- what is less is at most the number before, and that is shown as 999.99
    intro heq
    by_contra hlt
    rw [Decimal.not_le_iff_lt hfull.isNaN_eq hx.isNaN_eq] at hlt
    have hle := h.isScale.shown_le hx hbefore
      (hfollows.le_of_lt hx hbefore hfull.isNaN_eq hlt)
    omega
  · intro hle
    refine le_antisymm hhigh ?_
    rw [← hshownFull]
    exact h.isScale.shown_le hfull hx hle

theorem spans_thousandths : Spans (fun x => x * 1000.0) 0.001 0.999995 1.0 where
  isScale := isScale_mul (by decide +kernel)
  bounds := by decide +kernel
  shown_eq := by decide +kernel

theorem spans_ones : Spans (fun x => x) 1.0 999.995 1000.0 where
  isScale := isScale_id
  bounds := by decide +kernel
  shown_eq := by decide +kernel

theorem spans_thousands : Spans (fun x => x / 1000.0) 1000.0 999995.0 1000000.0 where
  isScale := isScale_div (by decide +kernel)
  bounds := by decide +kernel
  shown_eq := by decide +kernel

theorem spans_millions :
    Spans (fun x => x / 1000000.0) 1000000.0 999995000.0 1000000000.0 where
  isScale := isScale_div (by decide +kernel)
  bounds := by decide +kernel
  shown_eq := by decide +kernel

/-! ### Times and rates -/

/-- The numbers that are half a hundredth of a unit or less before the next unit. The last unit has
none after it, and all numbers from there on are among them. -/
def IsFull (x : Float) : Prop :=
  0.999995 ≤ x ∧ x < 1.0 ∨ 999.995 ≤ x ∧ x < 1000.0 ∨ 999995.0 ≤ x ∧ x < 1000000.0 ∨
    999995000.0 ≤ x

/-- Whether a text shows a value from 1.00 to 1000.00 and one of some units, and 1000.00 just if the
number that is shown is so close to the next unit. -/
def ShowsInRange (text : String) (units : List String) (x : Float) : Prop :=
  ∃ n, ∃ unit ∈ units, text = String.ofList (unitsText 2 n) ++ unit ∧
    100 ≤ n ∧ n ≤ 100000 ∧ (n = 100000 ↔ IsFull x)

theorem ranks_sorted :
    rank 0.999995 < rank 1.0 ∧ rank 1.0 < rank 999.995 ∧ rank 999.995 < rank 1000.0 ∧
      rank 1000.0 < rank 999995.0 ∧ rank 999995.0 < rank 1000000.0 ∧
      rank 1000000.0 < rank 999995000.0 := by
  decide +kernel

/-- Whether a number is close to the next unit is seen from the bounds of its own. -/
theorem isFull_iff {x : Float} (hx : x.isNaN = false) :
    (x < 1.0 → (IsFull x ↔ 0.999995 ≤ x)) ∧
      (1.0 ≤ x → x < 1000.0 → (IsFull x ↔ 999.995 ≤ x)) ∧
      (1000.0 ≤ x → x < 1000000.0 → (IsFull x ↔ 999995.0 ≤ x)) ∧
      (1000000.0 ≤ x → (IsFull x ↔ 999995000.0 ≤ x)) := by
  have hsorted := ranks_sorted
  have hle {c : Float} (hc : c.isNaN = false) : c ≤ x ↔ rank c ≤ rank x :=
    Decimal.le_iff_rank_le hc hx
  have hlt {c : Float} (hc : c.isNaN = false) : x < c ↔ rank x < rank c :=
    Decimal.lt_iff_rank_lt hx hc
  rw [IsFull]
  simp (disch := decide +kernel) only [hle, hlt]
  omega

/-- The text of a number that lies within a unit. -/
theorem Spans.showsInRange {scale : Float → Float} {least full next x : Float}
    (h : Spans scale least full next) (hx : IsOrdinary x) (hleast : least ≤ x) (hnext : x < next)
    (hfull : IsFull x ↔ full ≤ x) {units : List String} {unit : String} (hunit : unit ∈ units) :
    ShowsInRange (Decimal.fixed 2 (scale x) ++ unit) units x := by
  obtain ⟨hlow, hhigh, hequal⟩ := h.shown_bounds hx hleast hnext
  refine ⟨shown 2 (scale x), unit, hunit, ?_, hlow, hhigh, hequal.trans hfull.symm⟩
  rw [(h.isScale.isPositive x hx).fixed_eq]

/-- **The values of times and rates are from 1.00 to 1000.00**: the unit of a time from a thousandth
of a microsecond, and of a rate from one operation per second, is such that the value is at least 1.00
and less than 1000.00, unless the next unit is so close that the value is rounded up. Then it is
1000.00, and not 1.00 of the next unit. -/
theorem time_and_rate_range (x : Float) (hnext : x < 1000000000.0) :
    (0.001 ≤ x → ShowsInRange (time x) [" ns", " \u00b5s", " ms", " s"] x) ∧
      (1.0 ≤ x → ShowsInRange (rate x) [" ops/s", "K ops/s", "M ops/s"] x) := by
  constructor
  · intro hleast
    have hnumber := (Decimal.isNaN_of_le hleast).2
    have hx : IsOrdinary x := ⟨hleast, Decimal.le_of_lt hnumber rfl hnext⟩
    obtain ⟨hfirst, hones, hthousands, hmillions⟩ := isFull_iff hnumber
    have hge {c : Float} (hc : c.isNaN = false) (h : ¬ x < c) : c ≤ x :=
      (Decimal.not_lt_iff_le hnumber hc).mp h
    unfold time
    split_ifs with h₁ h₂ h₃
    · exact spans_thousandths.showsInRange hx hleast h₁ (hfirst h₁) (by simp)
    · exact spans_ones.showsInRange hx (hge rfl h₁) h₂ (hones (hge rfl h₁) h₂) (by simp)
    · exact spans_thousands.showsInRange hx (hge rfl h₂) h₃ (hthousands (hge rfl h₂) h₃) (by simp)
    · exact spans_millions.showsInRange hx (hge rfl h₃) hnext (hmillions (hge rfl h₃)) (by simp)
  · intro hleast
    have hnumber := (Decimal.isNaN_of_le hleast).2
    have hthousandth : 0.001 ≤ x := by
      rw [Decimal.le_iff_rank_le rfl hnumber] at hleast ⊢
      exact (by decide +kernel : rank 0.001 ≤ rank 1.0).trans hleast
    have hx : IsOrdinary x := ⟨hthousandth, Decimal.le_of_lt hnumber rfl hnext⟩
    obtain ⟨-, hones, hthousands, hmillions⟩ := isFull_iff hnumber
    have hlt {c : Float} (hc : c.isNaN = false) (h : ¬ c ≤ x) : x < c :=
      (Decimal.not_le_iff_lt hc hnumber).mp h
    unfold rate
    split_ifs with h₁ h₂
    · exact spans_millions.showsInRange hx h₁ hnext (hmillions h₁) (by simp)
    · exact spans_thousands.showsInRange hx h₂ (hlt rfl h₁) (hthousands h₂ (hlt rfl h₁)) (by simp)
    · exact spans_ones.showsInRange hx hleast (hlt rfl h₂) (hones hleast (hlt rfl h₂)) (by simp)

/-- A value that is not rounded up. -/
theorem time_and_rate_range_below :
    ShowsInRange (time 999.994) [" ns", " \u00b5s", " ms", " s"] 999.994 ∧
      ShowsInRange (rate 999.994) [" ops/s", "K ops/s", "M ops/s"] 999.994 := by
  obtain ⟨htime, hrate⟩ := time_and_rate_range 999.994 (by decide +kernel)
  exact ⟨htime (by decide +kernel), hrate (by decide +kernel)⟩

/-- A time below a thousand microseconds whose value is not below 1000.00. -/
theorem time_of_almost_thousand :
    (0.001 : Float) ≤ 999.999 ∧ (999.999 : Float) < 1000000000.0 ∧
      time 999.999 = "1000.00 \u00b5s" := by
  decide +kernel

end BenchReport.Quantity
