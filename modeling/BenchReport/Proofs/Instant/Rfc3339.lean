import BenchReport.Instant
import BenchReport.Proofs.Decimal.Digits

/-!
# Instants read back from RFC 3339

An instant of the years 0 to 9999 is read back from its text in the form of RFC 3339, in a leap
second too (`ofRfc3339_rfc3339_leap`); nanoseconds beyond a second that is no leap second are read
as those of the next second (`ofRfc3339_settled`). Each number of an instant has a fixed width
there, so that taking a number of at most that width takes it whole, whatever follows
(`takeNumber_padded`); the fraction of a second has none, three, six or nine digits, and what it
lacks of nine is made up with zeros.
-/

namespace BenchReport.Instant

open Decimal (digits)
open Text (trimStart isBlank)

/-! ### Numbers of a fixed width -/

theorem length_padded {width n : Nat} (hw : 0 < width) (h : n < 10 ^ width) :
    (padded width n).length = width := by
  have hlength : (digits n).length ≤ width := (Nat.length_toDigits_le_iff (by decide) hw).mpr h
  rw [padded, List.length_append, List.length_replicate]
  omega

theorem isDigit_of_mem_padded {width n : Nat} {c : Char} (h : c ∈ padded width n) :
    c.isDigit = true := by
  rcases List.mem_append.mp h with h | h
  · rw [List.eq_of_mem_replicate h]
    rfl
  · rw [← Decimal.isDigit_iff]
    exact Decimal.isDigit_of_mem_digits h

theorem ofDigitChars_padded (width n : Nat) : Nat.ofDigitChars 10 (padded width n) 0 = n := by
  rw [padded, Nat.ofDigitChars_append, Nat.ofDigitChars_replicate_zero, Nat.mul_zero]
  exact Nat.ofDigitChars_ten_toDigits

/-- A number of a fixed width begins with a digit. -/
theorem exists_padded {width n : Nat} (hw : 0 < width) (h : n < 10 ^ width) :
    ∃ d ds, padded width n = d :: ds ∧ d.isDigit = true := by
  cases hp : padded width n with
  | nil =>
    have hlength := length_padded hw h
    rw [hp] at hlength
    simp at hlength
    omega
  | cons d ds => exact ⟨d, ds, rfl, isDigit_of_mem_padded (hp ▸ List.mem_cons_self)⟩

/-- The digits at the front of a text are taken, as many as may be. -/
theorem takeNumber_eq {max : Nat} {s ds : List Char}
    (hds : (s.takeWhile Char.isDigit).take max = ds) (hne : ds ≠ []) :
    takeNumber (some max) s = .ok (Nat.ofDigitChars 10 ds 0, s.drop ds.length) := by
  obtain ⟨d, ds, rfl⟩ := List.exists_cons_of_ne_nil hne
  cases s with
  | nil => simp at hds
  | cons c s =>
    unfold takeNumber
    simp only [hds]

/-- A number of a fixed width is taken whole. -/
theorem takeNumber_padded {width n : Nat} (hw : 0 < width) (h : n < 10 ^ width) (r : List Char) :
    takeNumber (some width) (padded width n ++ r) = .ok (n, r) := by
  have hlength := length_padded hw h
  have hne : padded width n ≠ [] := List.ne_nil_of_length_pos (hw.trans_eq hlength.symm)
  have htake : ((padded width n ++ r).takeWhile Char.isDigit).take width = padded width n := by
    rw [List.takeWhile_append_of_pos fun c => isDigit_of_mem_padded,
      List.take_append_of_le_length (le_of_eq hlength.symm),
      List.take_of_length_le (le_of_eq hlength)]
  rw [takeNumber_eq htake hne, ofDigitChars_padded, List.drop_left]

theorem trimStart_cons {c : Char} (h : isBlank c = false) (r : List Char) :
    trimStart (c :: r) = c :: r := by
  rw [trimStart, List.dropWhile_cons_of_neg (by simp [h])]

theorem isBlank_of_isDigit {c : Char} (h : c.isDigit = true) : isBlank c = false := by
  have hc : 48 ≤ c.toNat ∧ c.toNat ≤ 57 := by
    simpa [Char.isDigit, UInt32.le_iff_toNat_le] using h
  simp only [isBlank, Bool.or_eq_false_iff, Bool.and_eq_false_iff, decide_eq_false_iff_not,
    beq_eq_false_iff_ne]
  omega

/-- There are no blanks before a number of a fixed width. -/
theorem trimStart_padded {width n : Nat} (hw : 0 < width) (h : n < 10 ^ width) (r : List Char) :
    trimStart (padded width n ++ r) = padded width n ++ r := by
  obtain ⟨d, ds, hds, hd⟩ := exists_padded hw h
  rw [hds, List.cons_append, trimStart_cons (isBlank_of_isDigit hd)]

/-! ### The parts of an instant -/

theorem takeField_padded {low high n : Nat} (hlow : low ≤ n) (hhigh : n ≤ high) (h : n < 100)
    (r : List Char) : takeField low high (padded 2 n ++ r) = .ok (n, r) := by
  rw [takeField, trimStart_padded (by decide) h, takeNumber_padded (by decide) h]
  simp [bind, Except.bind, hlow, hhigh]

theorem takeMark_cons {mark : Char} (h : isBlank mark = false) (r : List Char) :
    takeMark mark (mark :: r) = .ok r := by
  rw [takeMark, trimStart_cons h]
  simp

theorem takeYear_yearText {year : Int} (hlow : 0 ≤ year) (hhigh : year ≤ 9999) (r : List Char) :
    takeYear (yearText year ++ r) = .ok (year, r) := by
  have hlt : year.toNat < 10 ^ 4 := by omega
  obtain ⟨d, ds, hds, hd⟩ := exists_padded (by decide) hlt
  have htake := takeNumber_padded (by decide) hlt r
  rw [yearText, if_pos ⟨hlow, hhigh⟩, takeYear, trimStart_padded (by decide) hlt]
  rw [hds, List.cons_append] at htake ⊢
  have hminus : d ≠ '-' := by rintro rfl; cases hd
  have hplus : d ≠ '+' := by rintro rfl; cases hd
  split
  · next heq => exact absurd (List.cons.inj heq).1 hminus
  · next heq => exact absurd (List.cons.inj heq).1 hplus
  · rw [htake]
    have hyear : ((year.toNat : Nat) : Int) = year := Int.toNat_of_nonneg hlow
    simp only [bind, Except.bind, pure, Except.pure, hyear]
    rw [if_pos (by omega)]

theorem takeFraction_padded {width n : Nat} (hw : 0 < width) (hnine : width ≤ 9)
    (h : n < 10 ^ width) :
    takeFraction ('.' :: (padded width n ++ ['Z'])) = .ok (n * 10 ^ (9 - width), ['Z']) := by
  have hlength := length_padded hw h
  have hne : padded width n ≠ [] := List.ne_nil_of_length_pos (hw.trans_eq hlength.symm)
  have htake : ((padded width n ++ ['Z']).takeWhile Char.isDigit).take 9 = padded width n := by
    rw [List.takeWhile_append_of_pos fun c => isDigit_of_mem_padded,
      List.takeWhile_cons_of_neg (by decide), List.append_nil,
      List.take_of_length_le (by omega)]
  rw [takeFraction, takeNumber_eq htake hne, ofDigitChars_padded, List.drop_left]
  simp [bind, Except.bind, pure, Except.pure, hlength, Char.isDigit]

theorem takeFraction_fractionText {nanos : Nat} (h : nanos < 1000000000) :
    takeFraction (fractionText nanos ++ ['Z']) = .ok (nanos, ['Z']) := by
  unfold fractionText
  split
  · next hzero => rw [hzero]; rfl
  split
  · next hmilli =>
    rw [List.cons_append, takeFraction_padded (by decide) (by decide) (by omega)]
    congr 2
    omega
  split
  · next hmicro =>
    rw [List.cons_append, takeFraction_padded (by decide) (by decide) (by omega)]
    congr 2
    omega
  · rw [List.cons_append, takeFraction_padded (by decide) (by decide) (by omega)]
    congr 2
    omega

theorem minusSeconds_zero {i : Instant} (h : i.second < 86400) : i.minusSeconds 0 = i := by
  simp only [minusSeconds, Int.sub_zero, Int.toNat_natCast]
  rw [if_neg (by omega), if_neg (by omega)]

section RoundTrip

variable {i : Instant} (hdate : i.date.isValid = true) (hsecond : i.second < 86400)

include hdate hsecond

theorem ofLocal_eq_of_lt {second nanos : Nat}
    (hsum : i.second / 60 * 60 + (if second = 60 then 59 else second) = i.second)
    (hnanos : nanos + (if second = 60 then 1000000000 else 0) = i.nanos) :
    ofLocal i.date (i.second / 3600) (i.second / 60 % 60) second nanos 0 = .ok i := by
  have hyear : Date.isYear i.date.year = true := by
    simp only [Date.isValid, Bool.and_eq_true] at hdate
    exact hdate.1.1.1.1
  have hminutes : i.second / 3600 * 3600 + i.second / 60 % 60 * 60 = i.second / 60 * 60 := by
    omega
  simp only [ofLocal, hdate, Bool.not_true, Bool.false_eq_true, if_false, hminutes, hsum, hnanos,
    minusSeconds_zero hsecond]
  rw [if_neg (by omega), if_pos hyear]

/-- The parts of an instant in universal time make the instant. -/
theorem ofLocal_eq (hnanos : i.nanos < 2000000000)
    (hleap : 1000000000 ≤ i.nanos → i.second % 60 = 59) :
    ofLocal i.date (i.second / 3600) (i.second / 60 % 60)
      (i.second % 60 + i.nanos / 1000000000) (i.nanos % 1000000000) 0 = .ok i := by
  rcases Nat.lt_or_ge i.nanos 1000000000 with hlt | hge
  · have hne : i.second % 60 + i.nanos / 1000000000 ≠ 60 := by omega
    refine ofLocal_eq_of_lt hdate hsecond ?_ ?_
    · rw [if_neg hne]
      omega
    · rw [if_neg hne]
      omega
  · have hsixty : i.second % 60 + i.nanos / 1000000000 = 60 := by
      have := hleap hge
      omega
    refine ofLocal_eq_of_lt hdate hsecond ?_ ?_
    · rw [if_pos hsixty]
      omega
    · rw [if_pos hsixty]
      omega

/-- **An instant is read back from its text**, in a leap second too. -/
theorem ofRfc3339_rfc3339_leap (hyear : 0 ≤ i.date.year ∧ i.date.year ≤ 9999)
    (hnanos : i.nanos < 2000000000) (hleap : 1000000000 ≤ i.nanos → i.second % 60 = 59) :
    ofRfc3339 i.rfc3339.toList = .ok i := by
  have hvalid := hdate
  simp only [Date.isValid, Bool.and_eq_true, decide_eq_true_eq] at hvalid
  obtain ⟨⟨⟨⟨-, hmonth⟩, hmonth'⟩, hday⟩, hday'⟩ := hvalid
  have hdays : i.date.day ≤ 31 := by
    refine hday'.trans ?_
    unfold Date.daysIn
    split
    · split <;> decide
    all_goals decide
  have htext : i.rfc3339.toList = yearText i.date.year ++ '-' :: (padded 2 i.date.month ++ '-' ::
      (padded 2 i.date.day ++ 'T' :: (padded 2 (i.second / 3600) ++ ':' ::
      (padded 2 (i.second / 60 % 60) ++ ':' ::
      (padded 2 (i.second % 60 + i.nanos / 1000000000) ++
      (fractionText (i.nanos % 1000000000) ++ ['Z'])))))) := by
    simp only [rfc3339, dateText, timeText, String.toList_ofList, List.append_assoc,
      List.cons_append]
  have hdash := takeMark_cons (show isBlank '-' = false by decide)
  have hcolon := takeMark_cons (show isBlank ':' = false by decide)
  rw [htext, ofRfc3339]
  simp only [bind, Except.bind, takeYear_yearText hyear.1 hyear.2, hdash, hcolon,
    takeField_padded hmonth hmonth' (show i.date.month < 100 by omega),
    takeField_padded hday hdays (show i.date.day < 100 by omega), takeDivider, true_or, if_true,
    takeField_padded (Nat.zero_le _) (show i.second / 3600 ≤ 23 by omega) (by omega),
    takeField_padded (Nat.zero_le _) (show i.second / 60 % 60 ≤ 59 by omega) (by omega),
    takeField_padded (Nat.zero_le _)
      (show i.second % 60 + i.nanos / 1000000000 ≤ 60 by omega) (by omega),
    takeFraction_fractionText (show i.nanos % 1000000000 < 1000000000 by omega),
    trimStart_cons (show isBlank 'Z' = false by decide), takeOffset,
    show trimStart [] = [] from rfl]
  exact ofLocal_eq hdate hsecond hnanos hleap

end RoundTrip

/-- **An instant is read back from its text.** -/
theorem ofRfc3339_rfc3339 {i : Instant} (hdate : i.date.isValid = true)
    (hyear : 0 ≤ i.date.year ∧ i.date.year ≤ 9999) (hsecond : i.second < 86400)
    (hnanos : i.nanos < 1000000000) : ofRfc3339 i.rfc3339.toList = .ok i :=
  ofRfc3339_rfc3339_leap hdate hsecond hyear (by omega) (by omega)

/-- The instant that the text of an instant names: the nanoseconds beyond a second are those of the
next, unless the second is the last of its minute and can be a leap second. -/
def settled (i : Instant) : Instant :=
  if 1000000000 ≤ i.nanos ∧ i.second % 60 ≠ 59 then
    ⟨i.date, i.second + 1, i.nanos - 1000000000⟩
  else i

theorem rfc3339_settled {i : Instant} (hnanos : i.nanos < 2000000000) :
    i.settled.rfc3339 = i.rfc3339 := by
  unfold settled
  split
  · next h =>
    have hhours : (i.second + 1) / 3600 = i.second / 3600 := by omega
    have hminutes : (i.second + 1) / 60 = i.second / 60 := by omega
    have hseconds : (i.second + 1) % 60 + (i.nanos - 1000000000) / 1000000000
        = i.second % 60 + i.nanos / 1000000000 := by omega
    have hfraction : (i.nanos - 1000000000) % 1000000000 = i.nanos % 1000000000 := by omega
    simp only [rfc3339, timeText, hhours, hminutes, hseconds, hfraction]
  · rfl

/-- **The text of any instant is read**, as the instant that it names. -/
theorem ofRfc3339_settled {i : Instant} (hdate : i.date.isValid = true)
    (hyear : 0 ≤ i.date.year ∧ i.date.year ≤ 9999) (hsecond : i.second < 86400)
    (hnanos : i.nanos < 2000000000) : ofRfc3339 i.settled.rfc3339.toList = .ok i.settled := by
  unfold settled
  split
  · exact ofRfc3339_rfc3339 hdate hyear (by dsimp only; omega) (by dsimp only; omega)
  · exact ofRfc3339_rfc3339_leap hdate hsecond hyear hnanos (by omega)

end BenchReport.Instant
