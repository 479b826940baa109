import BenchReport.Proofs.Decimal.Shortest
import BenchReport.Proofs.Json.Printed

/-!
# Real numbers read back

A real number is printed with the digits of its shortest decimal, and it is read in a quick way: the
digits as a whole number of 64 bits, multiplied or divided by a power of ten. For a decimal near the
greatest number the product can be infinite although the number nearest to the decimal is not. No
such decimal is printed (`exists_scaled?`), so what is printed for a finite number is read as a real
number, in each layout (`Value.readable_of_isFinite`).
-/

namespace BenchReport.Json

open Decimal (appendDigits digits digitsRun isDigit layout overflow shortest size tens)

/-! ### Scaling -/

/-- The greatest whole number of digits that is printed before a power of ten. -/
def most (p : Nat) : Nat := min (10 ^ 18) ((2 ^ 54 - 3) * 2 ^ 970 / 10 ^ p)

/-- The least number of 53 bits and a power of two that is not below a whole number. -/
def ceiling (n : Nat) : Nat × Nat :=
  let i := n.log2 - 52
  ((n + (2 ^ i - 1)) / 2 ^ i, i)

/-- Whether the product of most digits with a power of ten is below the overflow. -/
def fits (p : Nat) : Bool :=
  let (k, i) := ceiling (most p)
  match Decimal.unpack (powerOfTen p) with
  | .finite _ m e _ =>
    k < 2 ^ 53 && most p ≤ k * 2 ^ i && -52 ≤ e
      && k * m * 2 ^ (i + e + 52).toNat < (2 ^ 54 - 1) * 2 ^ 1022
  | _ => false

/-- The powers of ten that are exact fit, and so do those before which there may not be as many as
18 digits. -/
theorem fits_of_exact_or_great : ∀ p < 309, p < 23 ∨ 290 ≤ p → fits p = true := by
  decide +kernel

/-- A great power of ten does not pass any number of 53 bits as a binary64 number. -/
theorem exists_unpack_powerOfTen {p : Nat} (hlow : 23 ≤ p) (hhigh : p < 309) :
    ∃ m e hm, Decimal.unpack (powerOfTen p) = .finite .positive m e hm ∧ 2 ^ 52 ≤ m ∧ 0 ≤ e ∧
      ∀ m' < 2 ^ 53, ∀ j : Nat, 10 ^ p ≤ m' * 2 ^ j → size m e ≤ size m' j := by
  have hpos : 10 ^ p ≠ 0 := (Nat.pow_pos (by decide)).ne'
  have hgreat : 52 ≤ (10 ^ p).log2 := by
    rw [Nat.le_log2 hpos]
    exact le_trans (by decide) (Nat.pow_le_pow_right (show 0 < 10 by decide) hlow)
  have hlog : 52 ≤ (10 ^ p * 2 ^ 53).log2 := by
    rw [Decimal.log2_mul_two_pow hpos]
    omega
  have hlt : size (10 ^ p) 0 < overflow := by
    have hpower : ∀ p < 309, 10 ^ p < (2 ^ 54 - 1) * 2 ^ 970 := by decide +kernel
    calc size (10 ^ p) 0 < size ((2 ^ 54 - 1) * 2 ^ 970) 0 :=
          Decimal.size_lt_size_iff.mpr (hpower p hhigh)
      _ = overflow := Decimal.size_mul_two_pow _ _ _
  have hpacked : powerOfTen p
      = Decimal.packed (.roundWithAccuracy .binary64 .positive (10 ^ p * 2 ^ 53) (-(53 : Nat))
          .exact) := by
    have hslow : powerOfTen p = Decimal.packed (.ofScientific .binary64 1 p) :=
      dif_neg fun h => absurd h.2 (by omega)
    rw [hslow, Decimal.ofScientific_eq Nat.one_pos (by omega), Nat.one_mul]
  obtain ⟨m, e, hm, hunpack, hm', he, hbound⟩ :=
    Decimal.exists_unpack_whole (by decide) hlog hlt
  exact ⟨m, e, hm, hpacked ▸ hunpack, hm', by omega, hbound⟩

theorem isInf_ofNat_mul_powerOfTen {n p : Nat} (hn : 0 < n) (hp : p < 309) (hle : n ≤ most p) :
    (Float.ofNat n * powerOfTen p).isInf = false := by
  have hmost : most p ≤ 10 ^ 18 := Nat.min_le_left _ _
  obtain ⟨m, e, hm, hunpack, hlow, he, hbound⟩ := Decimal.exists_unpack_ofNat hn (by omega)
  by_cases hbetween : 23 ≤ p ∧ p < 290
  · -- the powers of ten in between are so small that 18 digits fit
    obtain ⟨m', e', hm', hpower, -, he', hbound'⟩ := exists_unpack_powerOfTen hbetween.1 hp
    have hle' : 10 ^ p ≤ 1 * 2 ^ 961 :=
      (Nat.pow_le_pow_right (by decide) (Nat.le_of_lt_succ hbetween.2)).trans (by decide +kernel)
    have hsmall : size m' e' ≤ size 1 961 := hbound' 1 (by decide) 961 hle'
    refine Decimal.isInf_mul hunpack hpower hlow (by omega) ?_
    calc size m e * size m' e' ≤ size 1 60 * size 1 961 :=
          mul_le_mul (hbound 1 (by decide) 60 (by omega)) hsmall (Decimal.size_nonneg _ _)
            (Decimal.size_nonneg _ _)
      _ = size (1 * 1) (60 + 961) := (Decimal.size_mul _ _ _ _).symm
      _ = size (1 * 2 ^ 51) 970 := (Decimal.size_mul_two_pow 1 51 970).symm
      _ < overflow := Decimal.size_lt_size_iff.mpr (by decide)
  · have hfits := fits_of_exact_or_great p hp (by omega)
    unfold fits at hfits
    generalize ceiling (most p) = ceil at hfits
    obtain ⟨k, i⟩ := ceil
    cases hpower : Decimal.unpack (powerOfTen p) with
    | finite s m' e' hm' =>
      rw [hpower] at hfits
      simp only [Bool.and_eq_true, decide_eq_true_eq] at hfits
      obtain ⟨⟨⟨hk, hceil⟩, he'⟩, hlt⟩ := hfits
      refine Decimal.isInf_mul hunpack hpower hlow (by omega) ?_
      calc size m e * size m' e' ≤ size k i * size m' e' :=
            mul_le_mul_of_nonneg_right (hbound k hk i (hle.trans hceil)) (Decimal.size_nonneg _ _)
        _ = size (k * m') (i + e') := (Decimal.size_mul _ _ _ _).symm
        _ = size (k * m' * 2 ^ (i + e' + 52).toNat) (-52) := by
            rw [Decimal.size_mul_two_pow]
            congr 1
            omega
        _ < size ((2 ^ 54 - 1) * 2 ^ 1022) (-52) := Decimal.size_lt_size_iff.mpr hlt
        _ = overflow := Decimal.size_mul_two_pow _ _ _
    | infinity s => simp [hpower] at hfits
    | notANumber => simp [hpower] at hfits
    | zero s => simp [hpower] at hfits

theorem exists_scaled?_of_neg (n : Nat) {p : Int} (hp : p < 0) : ∃ y, scaled? n p = some y := by
  obtain ⟨k, rfl⟩ := Int.eq_negSucc_of_lt_zero hp
  exact ⟨_, rfl⟩

theorem power_le_of_scaled? {n : Nat} {p : Int} (hn : n ≠ 0) (h : ∃ y, scaled? n p = some y) :
    p ≤ 308 := by
  obtain ⟨y, hy⟩ := h
  cases p with
  | ofNat k =>
    rw [scaled?] at hy
    split at hy
    · rw [Int.ofNat_eq_natCast]
      omega
    · cases hy
  | negSucc k => omega

theorem exists_scaled?_of_isInf {n p : Nat} (hp : p < 309)
    (h : (Float.ofNat n * powerOfTen p).isInf = false) : ∃ y, scaled? n p = some y := by
  refine ⟨Float.ofNat n * powerOfTen p, ?_⟩
  change (if p ≤ 308 then _ else _) = _
  rw [if_pos (by omega), if_neg (by rw [h]; decide)]

/-- The decimal that is printed for a finite number is not too large when it is read. -/
theorem exists_scaled? {m : Nat} {q : Int} (hm : 0 < m) (hlt : m < 2 ^ 53) (hlow : -1074 ≤ q)
    (hhigh : q ≤ 971) :
    ∃ y, scaled? (shortest m q).digits (shortest m q).power = some y := by
  have happrox := Decimal.approximates_shortest hm hlt hlow hhigh
  by_cases hgreatest : m = 2 ^ 53 - 1 ∧ q = 971
  · -- there are decimals in the interval of the greatest number that are too large when read
    rw [hgreatest.1, hgreatest.2, Decimal.shortest_greatest]
    exact exists_scaled?_of_isInf (by decide) (by decide +kernel)
  have hle := happrox.tens_le hm hlt hhigh hgreatest
  generalize shortest m q = d at *
  obtain hneg | hpos := lt_or_ge d.power 0
  · exact exists_scaled?_of_neg _ hneg
  obtain ⟨p, hp⟩ := Int.eq_ofNat_of_zero_le hpos
  rw [hp] at hle ⊢
  have hbound : d.digits * 10 ^ p ≤ (2 ^ 54 - 3) * 2 ^ 970 := by
    rw [tens, size, zpow_natCast, show (970 : Int) = (970 : Nat) from rfl, zpow_natCast] at hle
    exact_mod_cast hle
  have hsmall : p < 309 := by
    by_contra hge
    have hpow := Nat.pow_le_pow_right (show 0 < 10 by decide) (not_lt.mp hge)
    have hmul := Nat.le_mul_of_pos_left (10 ^ p) happrox.digits_pos
    exact absurd ((hpow.trans hmul).trans hbound) (by decide +kernel)
  have hmost : d.digits ≤ most p :=
    Nat.le_min.mpr ⟨happrox.digits_le, (Nat.le_div_iff_mul_le (Nat.pow_pos (by decide))).mpr hbound⟩
  exact exists_scaled?_of_isInf hsmall (isInf_ofNat_mul_powerOfTen happrox.digits_pos hsmall hmost)

/-! ### Written numbers -/

/-- An exponent as it is printed. -/
def WrittenExponent.ofInt (x : Int) : WrittenExponent where
  capital := false
  sign := if x < 0 then some true else none
  digits := digitsRun x.natAbs

theorem WrittenExponent.text_ofInt (x : Int) :
    (ofInt x).text = 'e' :: ((if x < 0 then ['-'] else []) ++ Decimal.digits x.natAbs) := by
  unfold ofInt text signText digitsRun
  split <;> rfl

theorem WrittenExponent.size?_ofInt {x : Int} (hx : x.natAbs ≤ maxExponent) (n : Nat)
    (power : Int) :
    (ofInt x).size? n power = scaled? n (power + x) := by
  have hdigits : appendDigits 0 (ofInt x).digits.chars = x.natAbs :=
    Decimal.appendDigits_digits x.natAbs
  rw [size?, gather_of_le (hdigits ▸ hx), hdigits]
  dsimp only
  congr 1
  by_cases hneg : x < 0
  · have hdown : (ofInt x).down = true := by
      simp only [ofInt, down, hneg, if_true, Option.getD_some]
    rw [hdown, if_pos rfl]
    omega
  · have hdown : (ofInt x).down = false := by
      simp only [ofInt, down, hneg, if_false, Option.getD_none]
    rw [hdown, if_neg (by decide)]
    omega

namespace WrittenNumber

/-- The digits after the point, if there is a point. -/
def places (n : WrittenNumber) : List Char := (n.fraction.map Text.Run.chars).getD []

/-- What a number with a point or an exponent is worth, if its digits fit. -/
theorem value?_of_places {n : WrittenNumber} (hreal : n.fraction = none → n.exponent ≠ none)
    (hle : appendDigits 0 (n.whole.chars ++ n.places) ≤ maxSignificand) :
    n.value? = (sizeBefore? (appendDigits 0 (n.whole.chars ++ n.places)) (-(n.places.length : Int))
      n.exponent).map fun x => .real (signed n.negative x) := by
  obtain ⟨negative, whole, fraction, exponent, lead⟩ := n
  have hwhole : appendDigits 0 whole.chars ≤ maxSignificand := by
    refine le_trans ?_ hle
    rw [Decimal.appendDigits_append]
    exact le_appendDigits _ _
  have hgather := gather_of_le hwhole
  cases fraction with
  | some ds =>
    have hboth : gather maxSignificand (appendDigits 0 whole.chars) ds.chars
        = (appendDigits 0 (whole.chars ++ ds.chars), []) := by
      rw [Decimal.appendDigits_append]
      exact gather_of_le (Decimal.appendDigits_append _ _ _ ▸ hle)
    simp only [value?, gathered, hgather, hboth, places, Option.map_some, Option.getD_some,
      List.length_nil, Nat.cast_zero, Nat.sub_zero, zero_sub]
  | none =>
    cases exponent with
    | none => exact absurd rfl (hreal rfl)
    | some e =>
      simp only [value?, gathered, hgather, places, Option.map_none, Option.getD_none,
        List.append_nil, List.length_nil, Nat.cast_zero, neg_zero, sizeBefore?]

end WrittenNumber

/-! ### The layout of a decimal -/

/-- Whether a text is, after a sign, a number that is not too large. -/
def RealBody (negative : Bool) (s : List Char) : Prop :=
  ∃ n : WrittenNumber, n.negative = negative ∧ n.body = s ∧ ∃ y, n.value? = some y

section Layout

variable {negative : Bool}

/-- Digits with a point and without an exponent are not too large, if they fit. -/
theorem realBody_places (whole places : Text.Run isDigit)
    (lead : whole.chars = ['0'] ∨ whole.chars.head? ≠ some '0')
    (hle : appendDigits 0 (whole.chars ++ places.chars) ≤ maxSignificand) :
    RealBody negative (whole.chars ++ '.' :: places.chars) := by
  have hneg : -(places.chars.length : Int) < 0 := by
    have := List.length_pos_of_ne_nil places.ne_nil
    omega
  obtain ⟨y, hy⟩ := exists_scaled?_of_neg (appendDigits 0 (whole.chars ++ places.chars)) hneg
  refine ⟨⟨negative, whole, some places, none, lead⟩, rfl, ?_, .real (signed negative y), ?_⟩
  · simp [WrittenNumber.body, fractionText, exponentText]
  · rw [WrittenNumber.value?_of_places (by simp) hle]
    exact congrArg (Option.map _) hy

variable {n : Nat}

theorem isDigit_zero {k : Nat} {c : Char} (h : c ∈ List.replicate k '0') : isDigit c = true :=
  List.eq_of_mem_replicate h ▸ rfl

/-- The digit zero. -/
def zeroRun : Text.Run isDigit :=
  ⟨['0'], List.cons_ne_nil _ _, fun _ hc => List.mem_singleton.mp hc ▸ rfl⟩

/-- All digits before the point. -/
theorem realBody_whole (hpos : 0 < n) {k : Nat} (hk : (digits n).length + k ≤ 16) :
    RealBody negative (digits n ++ List.replicate k '0' ++ ".0".toList) := by
  have hne := Decimal.digits_ne_nil n
  have hall : ∀ c ∈ digits n ++ List.replicate k '0', isDigit c = true := fun c hc =>
    (List.mem_append.mp hc).elim Decimal.isDigit_of_mem_digits isDigit_zero
  refine realBody_places ⟨_, by simp [hne], hall⟩ zeroRun (.inr ?_) ?_
  · rw [List.head?_append_of_ne_nil _ hne]
    exact Decimal.head?_digits hpos.ne'
  · have hlength := List.length_pos_of_ne_nil hne
    have hlt : n < 10 ^ (16 - k) := (Decimal.length_digits_le_iff (by omega)).mp (by omega)
    have hname : appendDigits 0 (digits n ++ List.replicate k '0' ++ List.replicate 1 '0')
        = n * 10 ^ k * 10 := by
      rw [Decimal.appendDigits_append, Decimal.appendDigits_append, Decimal.appendDigits_digits,
        Decimal.appendDigits_replicate_zero, Decimal.appendDigits_replicate_zero, Nat.pow_one]
    have hbound : n * 10 ^ k < 10 ^ 16 := by
      calc n * 10 ^ k < 10 ^ (16 - k) * 10 ^ k :=
            Nat.mul_lt_mul_of_pos_right hlt (Nat.pow_pos (by decide))
        _ = 10 ^ 16 := by rw [← Nat.pow_add, Nat.sub_add_cancel (by omega)]
    have hmax : maxSignificand = 2 ^ 64 - 1 := rfl
    refine hname.le.trans ?_
    omega

/-- The point between the digits. -/
theorem realBody_split (hpos : 0 < n) (hle : n ≤ maxSignificand) {k : Nat} (hk : 0 < k)
    (hlt : k < (digits n).length) :
    RealBody negative ((digits n).take k ++ '.' :: (digits n).drop k) := by
  have hall : ∀ c ∈ digits n, isDigit c = true := fun _ => Decimal.isDigit_of_mem_digits
  refine realBody_places
    ⟨_, by simpa [hk.ne'] using Decimal.digits_ne_nil n,
      fun c hc => hall c (List.mem_of_mem_take hc)⟩
    ⟨_, by simpa using hlt, fun c hc => hall c (List.mem_of_mem_drop hc)⟩ (.inr ?_) ?_
  · rw [List.head?_take, if_neg hk.ne']
    exact Decimal.head?_digits hpos.ne'
  · rw [List.take_append_drop, Decimal.appendDigits_digits]
    exact hle

/-- All digits after the point. -/
theorem realBody_small (hle : n ≤ maxSignificand) (k : Nat) :
    RealBody negative ("0.".toList ++ List.replicate k '0' ++ digits n) := by
  have hall : ∀ c ∈ List.replicate k '0' ++ digits n, isDigit c = true := fun c hc =>
    (List.mem_append.mp hc).elim isDigit_zero Decimal.isDigit_of_mem_digits
  refine realBody_places zeroRun ⟨_, by simp [Decimal.digits_ne_nil], hall⟩ (.inl rfl) ?_
  have hzeros : appendDigits 0 (zeroRun.chars ++ List.replicate k '0') = 0 := by
    rw [Decimal.appendDigits_append, Decimal.appendDigits_replicate_zero]
    exact Nat.zero_mul _
  rw [← List.append_assoc, Decimal.appendDigits_append, hzeros, Decimal.appendDigits_digits]
  exact hle

/-- One digit before the point, and an exponent. -/
theorem realBody_scientific (hpos : 0 < n) (hle : n ≤ maxSignificand) {c : Char} {rest : List Char}
    (hdigits : digits n = c :: rest) {x : Int} (hx : x.natAbs ≤ maxExponent)
    (hscaled : ∃ y, scaled? n (-(rest.length : Int) + x) = some y) :
    RealBody negative
      (c :: (if rest = [] then [] else '.' :: rest) ++ (WrittenExponent.ofInt x).text) := by
  have hall : ∀ d ∈ c :: rest, isDigit d = true := fun d hd =>
    Decimal.isDigit_of_mem_digits (hdigits ▸ hd)
  have hhead := Decimal.head?_digits hpos.ne'
  have hvalue := Decimal.appendDigits_digits n
  rw [hdigits] at hhead hvalue
  obtain ⟨y, hy⟩ := hscaled
  have hwhole : ∀ d ∈ [c], isDigit d = true := fun d hd =>
    List.mem_singleton.mp hd ▸ hall c List.mem_cons_self
  let fraction : Option (Text.Run isDigit) := if h : rest = [] then none
    else some ⟨rest, h, fun d hd => hall d (List.mem_cons_of_mem c hd)⟩
  let w : WrittenNumber :=
    ⟨negative, ⟨[c], List.cons_ne_nil _ _, hwhole⟩, fraction, some (.ofInt x), .inr hhead⟩
  have hplaces : w.places = rest := by
    dsimp only [WrittenNumber.places, w, fraction]
    split
    · next h => exact h.symm
    · rfl
  have htext : fractionText fraction = if rest = [] then [] else '.' :: rest := by
    dsimp only [fraction]
    split <;> rfl
  refine ⟨w, rfl, ?_, .real (signed negative y), ?_⟩
  · simp [WrittenNumber.body, w, htext, exponentText]
  · have hname : appendDigits 0 (w.whole.chars ++ w.places) = n := hplaces ▸ hvalue
    rw [WrittenNumber.value?_of_places (fun _ => Option.some_ne_none _) (hname ▸ hle), hname,
      hplaces]
    change ((WrittenExponent.ofInt x).size? n (-(rest.length : Int))).map _ = _
    rw [WrittenExponent.size?_ofInt hx, hy]
    rfl

end Layout

/-- **A decimal is printed as a number that is not too large**, if the decimal itself is not. -/
theorem realBody_layout (negative : Bool) {d : Decimal.Scientific} (hpos : 0 < d.digits)
    (hle : d.digits ≤ 10 ^ 18) (hlow : -348 ≤ d.power)
    (hscaled : ∃ y, scaled? d.digits d.power = some y) : RealBody negative (layout d) := by
  have hmax : maxSignificand = 2 ^ 64 - 1 := rfl
  have hexponent : maxExponent = 2 ^ 31 - 1 := rfl
  have hfits : d.digits ≤ maxSignificand := by omega
  have hlength : (digits d.digits).length ≤ 19 :=
    (Decimal.length_digits_le_iff (by decide)).mpr (by omega)
  have hhigh := power_le_of_scaled? hpos.ne' hscaled
  rw [layout]
  split
  · next h => exact realBody_whole hpos (by omega)
  split
  · next h => exact realBody_split hpos hfits (by omega) (by omega)
  split
  · next h => exact realBody_small hfits _
  · obtain ⟨c, rest, hdigits⟩ := List.exists_cons_of_ne_nil (Decimal.digits_ne_nil d.digits)
    rw [hdigits, List.length_cons] at hlength ⊢
    have hpower : -(rest.length : Int) + ((rest.length + 1 : Nat) + d.power - 1) = d.power := by
      omega
    have hbody : RealBody negative _ := realBody_scientific hpos hfits hdigits
      (x := (rest.length + 1 : Nat) + d.power - 1) (by omega) (by rw [hpower]; exact hscaled)
    rw [WrittenExponent.text_ofInt] at hbody
    cases rest <;> exact hbody

/-! ### Finite numbers -/

theorem RealBody.readable {negative : Bool} {s : List Char} (h : RealBody negative s) {x : Float}
    {sign : Float.Model.UnpackedFloat.Sign}
    (hsign : Decimal.signText sign = if negative then ['-'] else [])
    (hx : Decimal.shortestText? x = some (Decimal.signText sign ++ s)) : Value.Readable x := by
  obtain ⟨n, hnegative, hbody, hvalue⟩ := h
  refine ⟨n, ?_, hvalue⟩
  rw [hx, hsign, WrittenNumber.text, WrittenNumber.signText, hnegative, hbody]

/-- **A finite number is printed as a number that is not too large.** -/
theorem Value.readable_of_isFinite {x : Float} (h : x.isFinite = true) : Value.Readable x := by
  have hsign (s : Float.Model.UnpackedFloat.Sign) :
      ∃ negative : Bool, Decimal.signText s = if negative then ['-'] else [] := by
    cases s
    · exact ⟨true, rfl⟩
    · exact ⟨false, rfl⟩
  change (Decimal.unpack x).isFinite = true at h
  cases hunpack : Decimal.unpack x with
  | notANumber =>
    rw [hunpack] at h
    cases h
  | infinity s =>
    rw [hunpack] at h
    cases h
  | zero s =>
    obtain ⟨negative, hnegative⟩ := hsign s
    have hbody : RealBody negative "0.0".toList :=
      realBody_places zeroRun zeroRun (.inl rfl) (by decide)
    exact hbody.readable hnegative (by rw [Decimal.shortestText?, hunpack])
  | finite s m q hm =>
    obtain ⟨negative, hnegative⟩ := hsign s
    obtain ⟨hlt, hlow, hhigh⟩ := Decimal.bounds_of_unpack hunpack
    have happrox := Decimal.approximates_shortest hm hlt hlow hhigh
    have hbody := realBody_layout negative happrox.digits_pos happrox.digits_le happrox.le_power
      (exists_scaled? hm hlt hlow hhigh)
    exact hbody.readable hnegative (by rw [Decimal.shortestText?, hunpack])

end BenchReport.Json
