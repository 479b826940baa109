import BenchReport.Decimal.Shortest
import BenchReport.Proofs.Decimal.Binary64
import BenchReport.Proofs.Decimal.Digits

/-!
# What the shortest decimal of a number is

The decimal that is printed for a number lies in the interval of the decimals that read back as the
number, and it has 18 digits at most, since a grid of 18 digits is finer than any interval
(`approximates_shortest`). The interval of the greatest number goes on above it; the decimals of all
other numbers are not above the middle between the two greatest (`Approximates.tens_le`).
-/

namespace BenchReport.Decimal

/-! ### Quotients -/

/-- The number `n * 10 ^ e`. -/
def tens (n : Nat) (e : Int) : Rat := n * 10 ^ e

theorem tens_mul_ten_pow (n k : Nat) (e : Int) : tens (n * 10 ^ k) e = tens n (e + k) := by
  rw [tens, tens, zpow_add₀ (by norm_num), zpow_natCast]
  push_cast
  ring

theorem tens_lt_tens_iff {n n' : Nat} {e : Int} : tens n e < tens n' e ↔ n < n' := by
  rw [tens, tens, mul_lt_mul_iff_left₀ (by positivity), Nat.cast_lt]

theorem tens_one_mono {e e' : Int} (h : e ≤ e') : tens 1 e ≤ tens 1 e' :=
  mul_le_mul_of_nonneg_left (zpow_le_zpow_right₀ (by norm_num) h) (by positivity)

namespace Ratio

/-- The rational number that a quotient is. -/
def value (a : Ratio) : Rat := a.num / a.den

theorem lt_iff {a b : Ratio} (ha : 0 < a.den) (hb : 0 < b.den) :
    a.lt b = true ↔ a.value < b.value := by
  have ha' : (0 : Rat) < a.den := Nat.cast_pos.mpr ha
  have hb' : (0 : Rat) < b.den := Nat.cast_pos.mpr hb
  rw [lt, decide_eq_true_iff, value, value, div_lt_div_iff₀ ha' hb']
  norm_cast

theorem le_iff {a b : Ratio} (ha : 0 < a.den) (hb : 0 < b.den) :
    a.le b = true ↔ a.value ≤ b.value := by
  have ha' : (0 : Rat) < a.den := Nat.cast_pos.mpr ha
  have hb' : (0 : Rat) < b.den := Nat.cast_pos.mpr hb
  rw [le, decide_eq_true_iff, value, value, div_le_div_iff₀ ha' hb']
  norm_cast

theorem den_ofTwos (n : Nat) (e : Int) : 0 < (ofTwos n e).den := by
  cases e with
  | ofNat k => exact Nat.one_pos
  | negSucc k => exact Nat.two_pow_pos _

theorem den_ofTens (n : Nat) (e : Int) : 0 < (ofTens n e).den := by
  cases e with
  | ofNat k => exact Nat.one_pos
  | negSucc k => exact Nat.pow_pos (by decide)

theorem value_ofTwos (n : Nat) (e : Int) : (ofTwos n e).value = size n e := by
  cases e with
  | ofNat k => simp [ofTwos, value, size]
  | negSucc k => simp [ofTwos, value, size, zpow_negSucc, div_eq_mul_inv]

theorem value_ofTens (n : Nat) (e : Int) : (ofTens n e).value = tens n e := by
  cases e with
  | ofNat k => simp [ofTens, value, tens]
  | negSucc k => simp [ofTens, value, tens, zpow_negSucc, div_eq_mul_inv]

theorem floorTens_eq (a : Ratio) (e : Int) : a.floorTens e = ⌊a.value / 10 ^ e⌋₊ := by
  cases e with
  | ofNat k =>
    rw [floorTens, ← Nat.floor_div_eq_div (K := Rat), value, Int.ofNat_eq_natCast, zpow_natCast,
      div_div]
    norm_cast
  | negSucc k =>
    rw [floorTens, ← Nat.floor_div_eq_div (K := Rat), value, zpow_negSucc, div_inv_eq_mul,
      div_mul_eq_mul_div]
    norm_cast

/-- The grid point below a quotient. -/
theorem tens_floorTens_le {a : Ratio} (h : 0 ≤ a.value) (e : Int) :
    tens (a.floorTens e) e ≤ a.value := by
  rw [tens, ← le_div_iff₀ (by positivity), floorTens_eq]
  exact Nat.floor_le (by positivity)

/-- The grid point above a quotient. -/
theorem lt_tens_floorTens (a : Ratio) (e : Int) : a.value < tens (a.floorTens e + 1) e := by
  rw [tens, ← div_lt_iff₀ (by positivity), floorTens_eq]
  push_cast
  exact Nat.lt_floor_add_one _

end Ratio

/-! ### Intervals -/

namespace Interval

/-- Whether the bounds of an interval are as they should be. -/
structure Proper (i : Interval) : Prop where
  value_den : 0 < i.value.den
  low_den : 0 < i.low.den
  high_den : 0 < i.high.den
  value_pos : 0 < i.value.value
  low_lt : i.low.value < i.value.value
  lt_high : i.value.value < i.high.value

variable {i : Interval}

theorem holds_iff (h : i.Proper) {x : Ratio} (hx : 0 < x.den) :
    i.holds x = true ↔ if i.closed then i.low.value ≤ x.value ∧ x.value ≤ i.high.value
      else i.low.value < x.value ∧ x.value < i.high.value := by
  unfold holds
  split <;> rw [Bool.and_eq_true]
  · rw [Ratio.le_iff h.low_den hx, Ratio.le_iff hx h.high_den]
  · rw [Ratio.lt_iff h.low_den hx, Ratio.lt_iff hx h.high_den]

theorem holds_congr (h : i.Proper) {x y : Ratio} (hx : 0 < x.den) (hy : 0 < y.den)
    (heq : x.value = y.value) : i.holds x = i.holds y := by
  rw [Bool.eq_iff_iff, holds_iff h hx, holds_iff h hy, heq]

theorem holds_of_lt (h : i.Proper) {x : Ratio} (hx : 0 < x.den) (hlow : i.low.value < x.value)
    (hhigh : x.value < i.high.value) : i.holds x = true := by
  rw [holds_iff h hx]
  split
  · exact ⟨hlow.le, hhigh.le⟩
  · exact ⟨hlow, hhigh⟩

theorem le_high_of_holds (h : i.Proper) {x : Ratio} (hx : 0 < x.den) (hholds : i.holds x = true) :
    x.value ≤ i.high.value := by
  rw [holds_iff h hx] at hholds
  split at hholds
  · exact hholds.2
  · exact hholds.2.le

/-- A grid that is finer than the interval has a point in it. -/
theorem exists_onGrid (h : i.Proper) {p : Int} (hfine : tens 1 p < i.high.value - i.low.value) :
    ∃ d, onGrid? i p = some d := by
  have hbelow := Ratio.tens_floorTens_le h.value_pos.le p
  have habove := Ratio.lt_tens_floorTens i.value p
  have hstep : tens (i.value.floorTens p + 1) p = tens (i.value.floorTens p) p + tens 1 p := by
    simp only [tens]
    push_cast
    ring
  cases hgrid : onGrid? i p with
  | some d => exact ⟨d, rfl⟩
  | none =>
    have hnone : i.holds (.ofTens (i.value.floorTens p) p) = false ∧
        i.holds (.ofTens (i.value.floorTens p + 1) p) = false := by
      unfold onGrid? at hgrid
      dsimp only at hgrid
      split at hgrid
      · next h₁ h₂ => exact ⟨h₁, h₂⟩
      · cases hgrid
      · cases hgrid
      · split at hgrid <;> try split at hgrid
        all_goals try split at hgrid
        all_goals cases hgrid
    -- neither of the points around the number lies in the interval, so the ends lie between them
    have hlow : tens (i.value.floorTens p) p ≤ i.low.value := by
      by_contra hlt
      refine Bool.eq_false_iff.mp hnone.1 (holds_of_lt h (Ratio.den_ofTens _ _) ?_ ?_)
      · rw [Ratio.value_ofTens]
        exact not_le.mp hlt
      · rw [Ratio.value_ofTens]
        exact hbelow.trans_lt h.lt_high
    have hhigh : i.high.value ≤ tens (i.value.floorTens p + 1) p := by
      by_contra hlt
      refine Bool.eq_false_iff.mp hnone.2 (holds_of_lt h (Ratio.den_ofTens _ _) ?_ ?_)
      · rw [Ratio.value_ofTens]
        exact h.low_lt.trans habove
      · rw [Ratio.value_ofTens]
        exact not_le.mp hlt
    linarith

/-- Whether a decimal is one of the two on a grid around the number, and in the interval. -/
structure Around (i : Interval) (p : Int) (d : Scientific) : Prop where
  power : d.power = p
  digits : d.digits = i.value.floorTens p ∨ d.digits = i.value.floorTens p + 1
  holds : i.holds (.ofTens d.digits d.power) = true

theorem around_of_onGrid {p : Int} {d : Scientific} (h : onGrid? i p = some d) : i.Around p d := by
  unfold onGrid? at h
  dsimp only at h
  split at h
  · cases h
  · next hbelow _ =>
    cases h
    exact ⟨rfl, .inl rfl, hbelow⟩
  · next _ habove =>
    cases h
    exact ⟨rfl, .inr rfl, habove⟩
  · next hbelow habove =>
    have hchosen : d = ⟨i.value.floorTens p, p⟩ ∨ d = ⟨i.value.floorTens p + 1, p⟩ := by
      split at h
      · exact .inl (Option.some.inj h).symm
      split at h
      · exact .inr (Option.some.inj h).symm
      split at h
      · exact .inl (Option.some.inj h).symm
      · exact .inr (Option.some.inj h).symm
    rcases hchosen with rfl | rfl
    · exact ⟨rfl, .inl rfl, hbelow⟩
    · exact ⟨rfl, .inr rfl, habove⟩

/-- The search ends on the first grid with a point in the interval, and that is no later than the
first that is finer than the interval. -/
theorem exists_around_firstGrid (h : i.Proper) {fuel k : Nat} {p : Int} (hk : k < fuel)
    (hfine : tens 1 (p - k) < i.high.value - i.low.value) :
    ∃ j : Nat, j ≤ k ∧ i.Around (p - j) (firstGrid i p fuel) := by
  induction fuel generalizing k p with
  | zero => exact absurd hk (Nat.not_lt_zero k)
  | succ fuel ih =>
    rw [firstGrid]
    cases hgrid : onGrid? i p with
    | some d =>
      refine ⟨0, Nat.zero_le k, ?_⟩
      rw [Nat.cast_zero, sub_zero]
      exact around_of_onGrid hgrid
    | none =>
      cases k with
      | zero =>
        rw [Nat.cast_zero, sub_zero] at hfine
        obtain ⟨d, hd⟩ := exists_onGrid h hfine
        rw [hgrid] at hd
        cases hd
      | succ k =>
        have hstep (j : Nat) : p - 1 - (j : Int) = p - (j + 1 : Nat) := by omega
        obtain ⟨j, hj, haround⟩ := ih (k := k) (p := p - 1) (by omega) (by rwa [hstep])
        exact ⟨j + 1, by omega, hstep j ▸ haround⟩

end Interval

/-! ### The leading power -/

theorem leadingPower_spec {x : Ratio} (hx : 0 < x.den) {fuel : Nat} {start : Int}
    (hlow : tens 1 (start - fuel) ≤ x.value) (hhigh : x.value < tens 1 (start + 1)) :
    tens 1 (leadingPower x start fuel) ≤ x.value ∧
      x.value < tens 1 (leadingPower x start fuel + 1) ∧
      start - fuel ≤ leadingPower x start fuel := by
  induction fuel generalizing start with
  | zero =>
    rw [Nat.cast_zero, sub_zero] at hlow
    exact ⟨hlow, hhigh, by simp [leadingPower]⟩
  | succ fuel ih =>
    rw [leadingPower]
    split
    · next hle =>
      rw [Ratio.le_iff (Ratio.den_ofTens _ _) hx, Ratio.value_ofTens] at hle
      exact ⟨hle, hhigh, by omega⟩
    · next hle =>
      rw [Ratio.le_iff (Ratio.den_ofTens _ _) hx, Ratio.value_ofTens, not_le] at hle
      have hstart : start - 1 - (fuel : Int) = start - (fuel + 1 : Nat) := by omega
      rw [← hstart] at hlow ⊢
      exact ih hlow (by rwa [sub_add_cancel])

/-! ### Zeros at the end -/

theorem exists_append_zeros (s : List Char) :
    ∃ u, s = u ++ List.replicate (s.reverse.takeWhile (· == '0')).length '0' := by
  refine ⟨(s.reverse.dropWhile (· == '0')).reverse, ?_⟩
  have hzeros : s.reverse.takeWhile (· == '0')
      = List.replicate (s.reverse.takeWhile (· == '0')).length '0' := by
    rw [List.eq_replicate_iff]
    refine ⟨rfl, fun c hc => ?_⟩
    simpa using List.mem_takeWhile_imp hc
  rw [← List.reverse_inj, List.reverse_append, List.reverse_reverse, List.reverse_replicate,
    ← hzeros, List.takeWhile_append_dropWhile]

/-- Zeros at the end are taken from the digits to the power. -/
theorem exists_strip (d : Scientific) :
    ∃ k : Nat, d.digits = d.strip.digits * 10 ^ k ∧ d.strip.power = d.power + k := by
  rw [Scientific.strip]
  split
  · next h => exact ⟨0, by simp, by simp⟩
  · obtain ⟨u, hu⟩ := exists_append_zeros (digits d.digits)
    refine ⟨_, ?_, rfl⟩
    have hdigits : d.digits = appendDigits 0 u
        * 10 ^ ((digits d.digits).reverse.takeWhile (· == '0')).length := by
      rw [← appendDigits_replicate_zero, ← appendDigits_append, ← hu, appendDigits_digits]
    exact (Nat.div_mul_cancel ⟨_, (Nat.mul_comm _ _ ▸ hdigits)⟩).symm

/-! ### The interval of a number -/

theorem size_add (m n : Nat) (e : Int) : size (m + n) e = size m e + size n e := by
  rw [size, size, size, Nat.cast_add, add_mul]

theorem size_four_mul (m : Nat) (q : Int) : size (4 * m) (q - 2) = size m q := by
  rw [Nat.mul_comm, show 4 = 2 ^ 2 from rfl, size_mul_two_pow]
  congr 1
  omega

/-- How far away the neighbour below is, in quarters of the distance to the one above. -/
theorem exists_intervalOf (m : Nat) (q : Int) :
    ∃ half : Nat, 1 ≤ half ∧ half ≤ 2 ∧ (intervalOf m q).low = .ofTwos (4 * m - half) (q - 2) := by
  refine ⟨_, ?_, ?_, rfl⟩ <;> split <;> decide

theorem value_intervalOf (m : Nat) (q : Int) : (intervalOf m q).value.value = size m q :=
  (Ratio.value_ofTwos _ _).trans (size_four_mul m q)

theorem high_intervalOf (m : Nat) (q : Int) :
    (intervalOf m q).high.value = size (4 * m + 2) (q - 2) := Ratio.value_ofTwos _ _

theorem proper_intervalOf {m : Nat} (hm : 0 < m) (q : Int) : (intervalOf m q).Proper := by
  obtain ⟨half, hhalf, -, hlow⟩ := exists_intervalOf m q
  refine ⟨Ratio.den_ofTwos _ _, hlow ▸ Ratio.den_ofTwos _ _, Ratio.den_ofTwos _ _, ?_, ?_, ?_⟩
  · have hpos : (0 : Rat) < m := Nat.cast_pos.mpr hm
    rw [value_intervalOf, size]
    positivity
  · rw [value_intervalOf, hlow, Ratio.value_ofTwos, ← size_four_mul m, size_lt_size_iff]
    omega
  · rw [value_intervalOf, high_intervalOf, ← size_four_mul m, size_lt_size_iff]
    omega

/-- The interval is not narrower than three quarters of the distance to the neighbour above. -/
theorem le_width {m : Nat} (hm : 0 < m) (q : Int) :
    size 3 (q - 2) ≤ (intervalOf m q).high.value - (intervalOf m q).low.value := by
  obtain ⟨half, hhalf, hle, hlow⟩ := exists_intervalOf m q
  have hsplit : 4 * m + 2 = 4 * m - half + (2 + half) := by omega
  rw [high_intervalOf, hlow, Ratio.value_ofTwos, hsplit, size_add, add_sub_cancel_left,
    size_le_size_iff]
  omega

/-! ### The shortest decimal -/

theorem tens_neg_le_size {m : Nat} {q : Int} (hm : 0 < m) (hq : -1074 ≤ q) :
    tens 1 (309 - (640 : Nat)) ≤ size m q := by
  have hpow : 2 ^ 1074 ≤ 10 ^ 331 := by decide +kernel
  calc tens 1 (309 - (640 : Nat)) ≤ size 1 (-1074) := by
        rw [tens, size, Nat.cast_one, one_mul, one_mul, zpow_neg,
          show (309 - (640 : Nat) : Int) = -(331 : Nat) from rfl, zpow_neg]
        exact inv_anti₀ (by positivity) (by exact_mod_cast hpow)
    _ ≤ size 1 q := size_mono 1 hq
    _ ≤ size m q := size_le_size_iff.mpr hm

theorem size_lt_tens {m : Nat} {q : Int} (hm : m < 2 ^ 53) (hq : q ≤ 971) :
    size m q < tens 1 (309 + 1) := by
  have hpow : 2 ^ 1024 ≤ 10 ^ 310 := by decide +kernel
  calc size m q < size (2 ^ 53) q := size_lt_size_iff.mpr hm
    _ ≤ size (2 ^ 53) 971 := size_mono _ hq
    _ ≤ tens 1 (309 + 1) := by
        have hmerge : size (2 ^ 53) 971 = size 1 1024 := by
          rw [← Nat.one_mul (2 ^ 53), size_mul_two_pow]
          rfl
        rw [hmerge, tens, size, Nat.cast_one, one_mul, one_mul,
          show (309 + 1 : Int) = (310 : Nat) from rfl, show (1024 : Int) = (1024 : Nat) from rfl,
          zpow_natCast, zpow_natCast]
        exact_mod_cast hpow

/-- A grid of 18 digits is finer than the interval. -/
theorem tens_lt_width {m : Nat} {p q : Int} (hm : 0 < m) (hlt : m < 2 ^ 53)
    (hp : tens 1 p ≤ size m q) :
    tens 1 (p - (17 : Nat)) < (intervalOf m q).high.value - (intervalOf m q).low.value := by
  refine lt_of_lt_of_le ?_ (le_width hm q)
  have hten : tens 1 p = 10 ^ 17 * tens 1 (p - (17 : Nat)) := by
    have hshift := tens_mul_ten_pow 1 17 (p - (17 : Nat))
    rw [Nat.one_mul, sub_add_cancel, tens] at hshift
    rw [← hshift, tens]
    norm_num
  have hquarter : size m q < 2 ^ 55 * size 1 (q - 2) := by
    calc size m q = size (4 * m) (q - 2) := (size_four_mul m q).symm
      _ < size (2 ^ 55) (q - 2) := size_lt_size_iff.mpr (by omega)
      _ = 2 ^ 55 * size 1 (q - 2) := by rw [size, size]; norm_num
  have hthree : size 3 (q - 2) = 3 * size 1 (q - 2) := by
    rw [size, size]
    norm_num
  have hpos : 0 < size 1 (q - 2) := by
    rw [size]
    positivity
  linarith

/-- What is known of the shortest decimal of a number. -/
structure Approximates (m : Nat) (q : Int) (d : Scientific) : Prop where
  digits_pos : 0 < d.digits
  digits_le : d.digits ≤ 10 ^ 18
  le_power : -348 ≤ d.power
  /-- The decimal reads back as the number. -/
  holds : (intervalOf m q).holds (.ofTens d.digits d.power) = true

theorem Approximates.strip {m : Nat} {q : Int} {d : Scientific} (hm : 0 < m)
    (h : Approximates m q d) : Approximates m q d.strip := by
  obtain ⟨k, hdigits, hpower⟩ := exists_strip d
  have hpos : 0 < d.strip.digits := by
    refine Nat.pos_of_ne_zero fun hzero => h.digits_pos.ne' ?_
    rw [hdigits, hzero, Nat.zero_mul]
  refine ⟨hpos, ?_, ?_, ?_⟩
  · refine le_trans ?_ h.digits_le
    rw [hdigits]
    exact Nat.le_mul_of_pos_right _ (Nat.pow_pos (by decide))
  · have := h.le_power
    omega
  · rw [← h.holds]
    refine Interval.holds_congr (proper_intervalOf hm q) (Ratio.den_ofTens _ _)
      (Ratio.den_ofTens _ _) ?_
    rw [Ratio.value_ofTens, Ratio.value_ofTens, hdigits, tens_mul_ten_pow, hpower]

/-- **The shortest decimal of a number lies in the interval of the number**, and it has 18 digits at
most. -/
theorem approximates_shortest {m : Nat} {q : Int} (hm : 0 < m) (hlt : m < 2 ^ 53) (hlow : -1074 ≤ q)
    (hhigh : q ≤ 971) : Approximates m q (shortest m q) := by
  have hproper := proper_intervalOf hm q
  rw [shortest]
  refine Approximates.strip hm ?_
  have hvalue := value_intervalOf m q
  obtain ⟨hle, hgt, hpower⟩ := leadingPower_spec hproper.value_den
    (hvalue ▸ tens_neg_le_size hm hlow) (hvalue ▸ size_lt_tens hlt hhigh)
  generalize leadingPower (intervalOf m q).value 309 640 = p at *
  obtain ⟨j, hj, haround⟩ := Interval.exists_around_firstGrid hproper (show 17 < 20 by decide)
    (tens_lt_width hm hlt (hvalue ▸ hle))
  have hbelow := Ratio.tens_floorTens_le hproper.value_pos.le (p - j)
  have habove := Ratio.lt_tens_floorTens (intervalOf m q).value (p - j)
  have hfew : (intervalOf m q).value.floorTens (p - j) < 10 ^ (j + 1) := by
    have htens := tens_mul_ten_pow 1 (j + 1) (p - j)
    rw [Nat.one_mul, show p - j + (j + 1 : Nat) = p + 1 by omega] at htens
    rw [← tens_lt_tens_iff, htens]
    exact hbelow.trans_lt hgt
  have hsome : 1 < (intervalOf m q).value.floorTens (p - j) + 1 := by
    rw [← tens_lt_tens_iff]
    exact ((tens_one_mono (by omega)).trans hle).trans_lt habove
  have hmax : 10 ^ (j + 1) ≤ 10 ^ 18 := Nat.pow_le_pow_right (by decide) (by omega)
  obtain ⟨hgrid, hdigits, hholds⟩ := haround
  refine ⟨?_, ?_, ?_, hholds⟩
  · rcases hdigits with h | h <;> omega
  · rcases hdigits with h | h <;> omega
  · omega

/-- The bound on the decimals of all but the greatest number. -/
theorem Approximates.tens_le {m : Nat} {q : Int} {d : Scientific} (h : Approximates m q d)
    (hm : 0 < m) (hlt : m < 2 ^ 53) (hq : q ≤ 971) (hne : ¬ (m = 2 ^ 53 - 1 ∧ q = 971)) :
    tens d.digits d.power ≤ size (2 ^ 54 - 3) 970 := by
  have hle := Interval.le_high_of_holds (proper_intervalOf hm q) (Ratio.den_ofTens _ _) h.holds
  rw [Ratio.value_ofTens, high_intervalOf] at hle
  refine hle.trans ?_
  rcases hq.lt_or_eq with hlt' | rfl
  · calc size (4 * m + 2) (q - 2) ≤ size (4 * m + 2) 968 := size_mono _ (by omega)
      _ ≤ size ((2 ^ 54 - 3) * 2 ^ 2) 968 := size_le_size_iff.mpr (by omega)
      _ = size (2 ^ 54 - 3) 970 := size_mul_two_pow _ _ _
  · calc size (4 * m + 2) (971 - 2) ≤ size ((2 ^ 54 - 3) * 2 ^ 1) 969 :=
        size_le_size_iff.mpr (by omega)
      _ = size (2 ^ 54 - 3) 970 := size_mul_two_pow _ _ _

/-- The digits of the greatest number. -/
theorem shortest_greatest : shortest (2 ^ 53 - 1) 971 = ⟨17976931348623157, 292⟩ := by
  decide +kernel

end BenchReport.Decimal
