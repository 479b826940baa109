import BenchReport.Proofs.Json.Blank
import BenchReport.Proofs.Json.Outcome
import BenchReport.Json.Reader

/-!
# Numbers as they are written

A number is written with a sign or without, then digits of which the first is no zero unless it
stands alone, then perhaps a point and digits, then perhaps an exponent. Every number may be passed
over. What a number is worth is computed from its parts (`WrittenNumber.value?`): a whole number if
it has neither a point nor an exponent and fits, and else a real number, unless it is too large.

Reading a number gives what it is worth and leaves what follows it, and fails for a number that is
too large.
-/

namespace BenchReport.Json

open Decimal (isDigit)
open Text (Run Stops stops_cons takeWhile_append_stops dropWhile_append_stops)

/-! ### The parts of a number -/

/-- An exponent as it is written. -/
structure WrittenExponent where
  /-- Whether its letter is a capital. -/
  capital : Bool
  /-- The sign, if there is one, and whether it is a minus. -/
  sign : Option Bool
  /-- The digits. -/
  digits : Run isDigit

/-- A number as it is written. -/
structure WrittenNumber where
  /-- Whether there is a minus before it. -/
  negative : Bool
  /-- The digits before the point. -/
  whole : Run isDigit
  /-- The digits after the point, if there is a point. -/
  fraction : Option (Run isDigit)
  /-- The exponent, if there is one. -/
  exponent : Option WrittenExponent
  /-- A zero does not stand before other digits. -/
  lead : whole.chars = ['0'] ∨ whole.chars.head? ≠ some '0'

namespace WrittenExponent

/-- The text of the sign. -/
def signText (e : WrittenExponent) : List Char :=
  match e.sign with
  | none => []
  | some false => ['+']
  | some true => ['-']

/-- The text of an exponent. -/
def text (e : WrittenExponent) : List Char :=
  (if e.capital then 'E' else 'e') :: (e.signText ++ e.digits.chars)

/-- Whether an exponent is negative. -/
def down (e : WrittenExponent) : Bool := e.sign.getD false

/-- The size of the number with digits `n`, a power of ten and an exponent, if it is not too
large. -/
def size? (e : WrittenExponent) (n : Nat) (power : Int) : Option Float :=
  match gather maxExponent 0 e.digits.chars with
  | (x, []) => scaled? n (if e.down then power - x else power + x)
  | (_, _ :: _) => if n ≠ 0 ∧ e.down = false then none else some 0.0

end WrittenExponent

/-- The text of an exponent, if there is one. -/
def exponentText (e : Option WrittenExponent) : List Char := (e.map WrittenExponent.text).getD []

/-- The text of the digits after the point, with the point. -/
def fractionText (ds : Option (Run isDigit)) : List Char :=
  (ds.map fun ds => '.' :: ds.chars).getD []

/-- The size of the number with digits `n` and a power of ten before an exponent, if there is one,
and if the number is not too large. -/
def sizeBefore? (n : Nat) (power : Int) : Option WrittenExponent → Option Float
  | none => scaled? n power
  | some e => e.size? n power

namespace WrittenNumber

/-- The text of the sign. -/
def signText (n : WrittenNumber) : List Char := if n.negative then ['-'] else []

/-- The text of a number without its sign. -/
def body (n : WrittenNumber) : List Char :=
  n.whole.chars ++ (fractionText n.fraction ++ exponentText n.exponent)

/-- The text of a number. -/
def text (n : WrittenNumber) : List Char := n.signText ++ n.body

/-- The whole number of the digits before the point that fit, and those that do not. -/
def gathered (n : WrittenNumber) : Nat × List Char := gather maxSignificand 0 n.whole.chars

/-- What a number is worth, if it is not too large. -/
def value? (n : WrittenNumber) : Option Number :=
  match n.fraction, n.exponent with
  | none, none =>
    if n.gathered.2.length = 0 then some (wholeNumber n.negative n.gathered.1)
    else (scaled? n.gathered.1 n.gathered.2.length).map fun x => .real (signed n.negative x)
  | none, some e =>
    (e.size? n.gathered.1 n.gathered.2.length).map fun x => .real (signed n.negative x)
  | some ds, e =>
    let (m, surplus) := gather maxSignificand n.gathered.1 ds.chars
    (sizeBefore? m (n.gathered.2.length - (ds.chars.length - surplus.length : Nat)) e).map
      fun x => .real (signed n.negative x)

end WrittenNumber

/-! ### Digits -/

theorem isDigit_ne {c d : Char} (hc : isDigit c = true) (hd : isDigit d = false) : c ≠ d := by
  rintro rfl
  rw [hc] at hd
  cases hd

/-- A run of digits begins with a digit. -/
theorem exists_cons_of_run (u : Run isDigit) :
    ∃ d ds, u.chars = d :: ds ∧ isDigit d = true := by
  obtain ⟨s, hne, hall⟩ := u
  cases s with
  | nil => exact absurd rfl hne
  | cons d ds => exact ⟨d, ds, rfl, hall d List.mem_cons_self⟩

/-- The text of a number without its sign begins with a digit. -/
theorem WrittenNumber.exists_body (n : WrittenNumber) :
    ∃ d u, n.body = d :: u ∧ isDigit d = true := by
  obtain ⟨d, ds, hds, hd⟩ := exists_cons_of_run n.whole
  rw [body, hds]
  exact ⟨d, _, rfl, hd⟩

theorem stops_isDigit_exponentText (e : Option WrittenExponent) {r : List Char}
    (h : Stops isDigit r) : Stops isDigit (exponentText e ++ r) := by
  cases e with
  | none => exact h
  | some e =>
    refine stops_cons ?_
    cases e.capital <;> decide

theorem stops_isDigit_fractionText (ds : Option (Run isDigit)) {r : List Char}
    (h : Stops isDigit r) : Stops isDigit (fractionText ds ++ r) := by
  cases ds with
  | none => exact h
  | some ds => exact stops_cons (by decide)

/-! ### Reading -/

/-- Reading a real number gives its size with the sign, and fails where it has none. -/
def ReadsSize (negative : Bool) (size? : Option Float) (r : List Char)
    (e : Except Failure (Float × List Char)) : Prop :=
  Answers (size?.map (signed negative)) r e

theorem readsSize_scale (negative : Bool) (n : Nat) (power : Int) (r : List Char) :
    ReadsSize negative (scaled? n power) r (scale negative n power r) := by
  unfold ReadsSize scale
  cases scaled? n power with
  | some x => exact Answers.ok _
  | none => exact Answers.error _

theorem exponentSign_append (e : WrittenExponent) (r : List Char) :
    exponentSign (e.signText ++ (e.digits.chars ++ r)) = (e.down, e.digits.chars ++ r) := by
  obtain ⟨capital, sign, digits⟩ := e
  cases sign with
  | none =>
    obtain ⟨d, ds, hds, hd⟩ := exists_cons_of_run digits
    simp only [WrittenExponent.signText, WrittenExponent.down, List.nil_append, hds,
      List.cons_append, Option.getD_none]
    unfold exponentSign
    split
    · next heq => exact absurd (List.cons.inj heq).1 (isDigit_ne hd (by decide))
    · next heq => exact absurd (List.cons.inj heq).1 (isDigit_ne hd (by decide))
    · rfl
  | some minus => cases minus <;> rfl

theorem readExponent_append (negative : Bool) (n : Nat) (power : Int) (e : WrittenExponent)
    {r : List Char} (hr : Stops isDigit r) :
    ReadsSize negative (e.size? n power) r
      (readExponent negative n power (e.signText ++ (e.digits.chars ++ r))) := by
  have hdrop := dropWhile_append_stops e.digits.all hr
  have htake := takeWhile_append_stops e.digits.all hr
  obtain ⟨d, ds, hds, -⟩ := exists_cons_of_run e.digits
  have hread : readExponent negative n power (e.signText ++ (e.digits.chars ++ r))
      = match gather maxExponent 0 e.digits.chars with
        | (x, []) => scale negative n (if e.down then power - x else power + x) r
        | (_, _ :: surplus) =>
          if n ≠ 0 ∧ e.down = false then failAt .numberOutOfRange (surplus ++ r)
          else .ok (signed negative 0.0, r) := by
    rw [readExponent, exponentSign_append]
    simp only [hdrop, htake]
    rw [hds]
    rfl
  rw [hread, WrittenExponent.size?]
  split
  · exact readsSize_scale _ _ _ _
  · split
    · exact Answers.error _
    · exact Answers.ok _

theorem readRealTail_append (negative : Bool) (n : Nat) (power : Int)
    (e : Option WrittenExponent) {r : List Char} (hr : Ends r) :
    ReadsSize negative (sizeBefore? n power e) r
      (readRealTail negative n power (exponentText e ++ r)) := by
  cases e with
  | none =>
    have hread : readRealTail negative n power r = scale negative n power r := by
      unfold readRealTail
      split
      · exact absurd (hr 'e' rfl) (by decide)
      · exact absurd (hr 'E' rfl) (by decide)
      · rfl
    rw [show exponentText none ++ r = r from rfl, hread]
    exact readsSize_scale _ _ _ _
  | some e =>
    have hread : readRealTail negative n power (exponentText (some e) ++ r)
        = readExponent negative n power (e.signText ++ (e.digits.chars ++ r)) := by
      rw [exponentText, Option.map_some, Option.getD_some, WrittenExponent.text, List.cons_append,
        List.append_assoc]
      cases e.capital <;> rfl
    rw [hread]
    exact readExponent_append negative n power e hr.stops_isDigit

theorem readFraction_append (negative : Bool) (n : Nat) (power : Int) (ds : Run isDigit)
    (e : Option WrittenExponent) {r : List Char} (hr : Ends r) :
    ReadsSize negative
      (sizeBefore? (gather maxSignificand n ds.chars).1
        (power - (ds.chars.length - (gather maxSignificand n ds.chars).2.length : Nat)) e) r
      (readFraction negative n power (ds.chars ++ (exponentText e ++ r))) := by
  have hstops := stops_isDigit_exponentText e hr.stops_isDigit
  have hdrop := dropWhile_append_stops ds.all hstops
  have htake := takeWhile_append_stops ds.all hstops
  obtain ⟨d, u, hu, -⟩ := exists_cons_of_run ds
  have hread : readFraction negative n power (ds.chars ++ (exponentText e ++ r))
      = readRealTail negative (gather maxSignificand n ds.chars).1
          (power - (ds.chars.length - (gather maxSignificand n ds.chars).2.length : Nat))
          (exponentText e ++ r) := by
    rw [readFraction, hdrop, htake, hu]
  rw [hread]
  exact readRealTail_append _ _ _ e hr

theorem ReadsSize.real {negative : Bool} {size? : Option Float} {r : List Char}
    {e : Except Failure (Float × List Char)} (h : ReadsSize negative size? r e) :
    Answers (size?.map fun x => Number.real (signed negative x)) r
      (e.map fun p => (.real p.1, p.2)) := by
  have hmap := Answers.map h Number.real
  rwa [Option.map_map] at hmap

/-- What follows the whole digits of a number is read together with them. -/
theorem readTail_append (n : WrittenNumber) {r : List Char} (hr : Ends r) :
    Answers n.value? r
      (readTail n.negative n.gathered.1 n.gathered.2.length
        (fractionText n.fraction ++ (exponentText n.exponent ++ r))) := by
  obtain ⟨negative, whole, fraction, exponent, lead⟩ := n
  cases fraction with
  | some ds => exact (readFraction_append negative _ _ ds exponent hr).real
  | none =>
    cases exponent with
    | some e =>
      have hsize := (readExponent_append negative
        (gather maxSignificand 0 whole.chars).1 (gather maxSignificand 0 whole.chars).2.length e
        hr.stops_isDigit).real
      have htext : fractionText none ++ (exponentText (some e) ++ r)
          = (if e.capital then 'E' else 'e') :: (e.signText ++ (e.digits.chars ++ r)) := by
        simp [fractionText, exponentText, WrittenExponent.text]
      rw [htext]
      cases e.capital <;> exact hsize
    | none =>
      have hread : ∀ m dropped, readTail negative m dropped r
          = if dropped = 0 then .ok (wholeNumber negative m, r)
            else (scale negative m dropped r).map fun p => (.real p.1, p.2) := by
        intro m dropped
        unfold readTail
        split
        · exact absurd (hr '.' rfl) (by decide)
        · exact absurd (hr 'e' rfl) (by decide)
        · exact absurd (hr 'E' rfl) (by decide)
        · rfl
      rw [show fractionText none ++ (exponentText none ++ r) = r from rfl, hread,
        WrittenNumber.value?]
      dsimp only
      split
      · exact Answers.ok _
      · exact (readsSize_scale _ _ _ _).real

theorem readNumber_zero (negative : Bool) {s : List Char} (hs : Stops isDigit s) :
    readNumber negative ('0' :: s) = readTail negative 0 0 s := by
  cases s with
  | nil => rfl
  | cons c s =>
    have hc : isDigit c = false := hs c rfl
    unfold readNumber
    simp only [hc, Bool.false_eq_true, if_false]

/-- **A number is read as what it is worth.** -/
theorem readNumber_append (n : WrittenNumber) {r : List Char} (hr : Ends r) :
    Answers n.value? r (readNumber n.negative (n.body ++ r)) := by
  have hstops : Stops isDigit (fractionText n.fraction ++ (exponentText n.exponent ++ r)) :=
    stops_isDigit_fractionText _ (stops_isDigit_exponentText _ hr.stops_isDigit)
  have htail := readTail_append n hr
  have htext : n.body ++ r
      = n.whole.chars ++ (fractionText n.fraction ++ (exponentText n.exponent ++ r)) := by
    simp only [WrittenNumber.body, List.append_assoc]
  rw [htext]
  rcases n.lead with hzero | hlead
  · -- a zero stands alone, and is worth what its digits are
    have hgathered : n.gathered = (0, []) := by
      rw [WrittenNumber.gathered, hzero]
      decide
    rw [hgathered] at htail
    rw [hzero, List.singleton_append, readNumber_zero n.negative hstops]
    exact htail
  · have hdrop := dropWhile_append_stops n.whole.all hstops
    have htake := takeWhile_append_stops n.whole.all hstops
    obtain ⟨d, ds, hds, -⟩ := exists_cons_of_run n.whole
    have hne : d ≠ '0' := by
      rintro rfl
      exact hlead (by rw [hds]; rfl)
    have hread : readNumber n.negative
          (n.whole.chars ++ (fractionText n.fraction ++ (exponentText n.exponent ++ r)))
        = readTail n.negative n.gathered.1 n.gathered.2.length
            (fractionText n.fraction ++ (exponentText n.exponent ++ r)) := by
      unfold readNumber
      split
      · next heq => simp [hds] at heq
      · next heq =>
        rw [hds, List.cons_append] at heq
        exact absurd (List.cons.inj heq).1 hne
      · rw [htake, hdrop]
        split
        · next heq => exact absurd heq n.whole.ne_nil
        · rfl
    rw [hread]
    exact htail

/-! ### Passing over -/

theorem skipExponent_append (e : WrittenExponent) {r : List Char} (hr : Stops isDigit r) :
    skipExponent (e.signText ++ (e.digits.chars ++ r)) = .ok r := by
  have hdrop := dropWhile_append_stops e.digits.all hr
  have htake := takeWhile_append_stops e.digits.all hr
  obtain ⟨d, ds, hds, -⟩ := exists_cons_of_run e.digits
  rw [skipExponent, exponentSign_append]
  simp only [hdrop, htake]
  rw [hds]

theorem skipExponent?_append (e : Option WrittenExponent) {r : List Char} (hr : Ends r) :
    skipExponent? (exponentText e ++ r) = .ok r := by
  cases e with
  | none =>
    rw [show exponentText none ++ r = r from rfl]
    unfold skipExponent?
    split
    · exact absurd (hr 'e' rfl) (by decide)
    · exact absurd (hr 'E' rfl) (by decide)
    · rfl
  | some e =>
    have hskip := skipExponent_append e hr.stops_isDigit
    rw [exponentText, Option.map_some, Option.getD_some, WrittenExponent.text, List.cons_append,
      List.append_assoc]
    cases e.capital <;> exact hskip

theorem skipTail_append (fraction : Option (Run isDigit)) (e : Option WrittenExponent)
    {r : List Char} (hr : Ends r) :
    skipTail (fractionText fraction ++ (exponentText e ++ r)) = .ok r := by
  cases fraction with
  | none =>
    rw [show fractionText none ++ (exponentText e ++ r) = exponentText e ++ r from rfl]
    have hskip := skipExponent?_append e hr
    unfold skipTail
    split
    · next heq =>
      -- neither an exponent nor what ends a number begins with a point
      cases e with
      | none => exact absurd (hr '.' (by rw [show r = _ from heq]; rfl)) (by decide)
      | some e =>
        have hletter := (List.cons.inj heq).1
        cases hcapital : e.capital <;> simp [hcapital] at hletter
    · exact hskip
  | some ds =>
    have hstops := stops_isDigit_exponentText e hr.stops_isDigit
    have hdrop := dropWhile_append_stops ds.all hstops
    have htake := takeWhile_append_stops ds.all hstops
    obtain ⟨d, u, hu, -⟩ := exists_cons_of_run ds
    rw [fractionText, Option.map_some, Option.getD_some, List.cons_append, skipTail, skipFraction,
      hdrop, htake, hu]
    exact skipExponent?_append e hr

theorem skipNumber_zero {s : List Char} (hs : Stops isDigit s) :
    skipNumber ('0' :: s) = skipTail s := by
  cases s with
  | nil => rfl
  | cons c s =>
    have hc : isDigit c = false := hs c rfl
    unfold skipNumber
    simp only [hc, Bool.false_eq_true, if_false]

/-- A number is passed over whatever it is worth. -/
theorem skipNumber_append (n : WrittenNumber) {r : List Char} (hr : Ends r) :
    skipNumber (n.body ++ r) = .ok r := by
  have hstops : Stops isDigit (fractionText n.fraction ++ (exponentText n.exponent ++ r)) :=
    stops_isDigit_fractionText _ (stops_isDigit_exponentText _ hr.stops_isDigit)
  have htail := skipTail_append n.fraction n.exponent hr
  have htext : n.body ++ r
      = n.whole.chars ++ (fractionText n.fraction ++ (exponentText n.exponent ++ r)) := by
    simp only [WrittenNumber.body, List.append_assoc]
  rw [htext]
  rcases n.lead with hzero | hlead
  · rw [hzero, List.singleton_append, skipNumber_zero hstops]
    exact htail
  · have hdrop := dropWhile_append_stops n.whole.all hstops
    have htake := takeWhile_append_stops n.whole.all hstops
    obtain ⟨d, ds, hds, -⟩ := exists_cons_of_run n.whole
    unfold skipNumber
    split
    · next heq =>
      rw [hds, List.cons_append] at heq
      exact absurd (by rw [hds, (List.cons.inj heq).1]; rfl) hlead
    · rw [htake, hdrop]
      split
      · next heq => exact absurd heq n.whole.ne_nil
      · exact htail

end BenchReport.Json
