import BenchReport.Proofs.Text.Runs
import BenchReport.Text.Letter
import BenchReport.Timing.Line

/-!
# Timing lines as they are written

The grammar of timing lines. A timing line is put together of a name, the word `time:`, three
times in brackets and anything after them, with blanks between the parts:

    name  time:  [numeral unit  numeral unit  numeral unit] rest

`Written` holds the parts of a line, `Written.text` is the line and `Written.timing` the timing
that it stands for. A value of `Written` is well formed by its type: the name has no blanks,
gaps are blanks and not empty, numerals begin with a digit. The class of the digits is a
parameter: a line is recognised with the digits of any script, and gives a timing only with the
digits 0 to 9.

Nothing of a line is left open by its text: two values of `Written` with the same text are equal
(`Written.text_injective`). Each part ends where a character stands that it cannot have, and this
tells the parts apart from left to right. A name may contain `time:` or brackets, and the rest
may be anything, since neither is looked for.
-/

namespace BenchReport.Timing

open Text (isBlank isDecimalDigit Run Stops stops_cons append_inj_of_stops)
open Decimal (Numeral isDigit)

/-! ### Digits -/

/-- A class of digits that holds 0 to 9, no blanks and no point. -/
structure IsDigitClass (digit : Char → Bool) : Prop where
  plain : ∀ c, isDigit c = true → digit c = true
  not_blank : ∀ c, digit c = true → isBlank c = false
  not_point : digit '.' = false

/-- The code points of the blanks. -/
def blankCodes : List Nat := [
  0x9, 0xA, 0xB, 0xC, 0xD, 0x20, 0x85, 0xA0, 0x1680, 0x2000, 0x2001, 0x2002, 0x2003, 0x2004, 0x2005,
  0x2006, 0x2007, 0x2008, 0x2009, 0x200A, 0x2028, 0x2029, 0x202F, 0x205F, 0x3000]

theorem mem_blankCodes {c : Char} (h : isBlank c = true) : c.toNat ∈ blankCodes := by
  simp only [isBlank, Bool.or_eq_true, Bool.and_eq_true, decide_eq_true_eq, beq_iff_eq] at h
  simp only [blankCodes, List.mem_cons, List.not_mem_nil, or_false]
  omega

theorem not_isBlank_of_isDecimalDigit {c : Char} (h : isDecimalDigit c = true) :
    isBlank c = false := by
  by_contra hb
  rw [Bool.not_eq_false] at hb
  have hnone : ∀ n ∈ blankCodes, Text.zeros.any (fun z => z ≤ n && n ≤ z + 9) = false := by
    decide
  have := hnone c.toNat (mem_blankCodes hb)
  rw [isDecimalDigit] at h
  rw [h] at this
  cases this

theorem isDecimalDigit_of_isDigit {c : Char} (h : isDigit c = true) : isDecimalDigit c = true := by
  simp only [isDigit, Bool.and_eq_true, decide_eq_true_eq] at h
  have h0 : 48 ≤ c.toNat := h.1
  have h9 : c.toNat ≤ 57 := h.2
  rw [isDecimalDigit, Text.zeros, List.any_cons]
  simp [h0, h9]

theorem isDigitClass_isDecimalDigit : IsDigitClass isDecimalDigit :=
  ⟨fun _ => isDecimalDigit_of_isDigit, fun _ => not_isBlank_of_isDecimalDigit, by decide⟩

theorem isDigitClass_isDigit : IsDigitClass isDigit :=
  ⟨fun _ h => h, fun _ h => not_isBlank_of_isDecimalDigit (isDecimalDigit_of_isDigit h), by decide⟩

/-! ### The grammar -/

/-- A numeral as it is written: digits, and then perhaps a point and more digits or none. -/
@[ext]
structure WrittenNumeral (digit : Char → Bool) where
  /-- The digits before the point. -/
  whole : Run digit
  /-- The digits after the point, if there is a point. -/
  part : Option {s : List Char // ∀ c ∈ s, digit c = true}

/-- The spellings of the units. -/
inductive UnitSpelling where
  /-- Nanoseconds. -/
  | ns
  /-- Microseconds with the micro sign. -/
  | microSign
  /-- Microseconds with the Greek letter mu. -/
  | greekMu
  /-- Microseconds with a plain `u`. -/
  | us
  /-- Milliseconds. -/
  | ms
  deriving Repr, DecidableEq

/-- A time as it is written. -/
@[ext]
structure WrittenMeasure (digit : Char → Bool) where
  /-- The numeral. -/
  value : WrittenNumeral digit
  /-- The blanks between the numeral and the unit. -/
  gap : Run isBlank
  /-- The unit. -/
  unit : UnitSpelling

/-- A timing line as it is written. -/
@[ext]
structure Written (digit : Char → Bool) where
  /-- The name of the benchmark. -/
  name : Run (!isBlank ·)
  /-- The blanks after the name. -/
  afterName : Run isBlank
  /-- The blanks after the word `time:`. -/
  afterWord : Run isBlank
  /-- The lower bound. -/
  low : WrittenMeasure digit
  /-- The blanks after the lower bound. -/
  afterLow : Run isBlank
  /-- The median. -/
  mid : WrittenMeasure digit
  /-- The blanks after the median. -/
  afterMid : Run isBlank
  /-- The upper bound. -/
  high : WrittenMeasure digit
  /-- What follows the closing bracket. -/
  rest : List Char

section Texts

variable {digit : Char → Bool}

/-- The text of what follows the whole digits of a numeral. -/
def partText : Option {s : List Char // ∀ c ∈ s, digit c = true} → List Char
  | none => []
  | some s => '.' :: s.val

/-- The text of a numeral. -/
def WrittenNumeral.text (n : WrittenNumeral digit) : List Char := n.whole.chars ++ partText n.part

/-- The text of a unit. -/
def UnitSpelling.text : UnitSpelling → List Char
  | ns => ['n', 's']
  | microSign => ['\u00b5', 's']
  | greekMu => ['\u03bc', 's']
  | us => ['u', 's']
  | ms => ['m', 's']

/-- The text of a time. -/
def WrittenMeasure.text (m : WrittenMeasure digit) : List Char :=
  m.value.text ++ (m.gap.chars ++ m.unit.text)

/-- The text of a line up to the closing bracket. -/
def Written.front (w : Written digit) : List Char :=
  w.name.chars ++ (w.afterName.chars ++ ("time:".toList ++ (w.afterWord.chars ++ (['['] ++
    (w.low.text ++ (w.afterLow.chars ++ (w.mid.text ++ (w.afterMid.chars ++ (w.high.text
      ++ [']'])))))))))

/-- The text of a line. -/
def Written.text (w : Written digit) : List Char := w.front ++ w.rest

end Texts

/-! ### What a line stands for -/

/-- The unit of a spelling. -/
def UnitSpelling.unit : UnitSpelling → TimeUnit
  | ns => .nanoseconds
  | microSign => .microseconds
  | greekMu => .microseconds
  | us => .microseconds
  | ms => .milliseconds

/-- The numeral that is written. -/
def WrittenNumeral.numeral (n : WrittenNumeral isDigit) : Numeral :=
  ⟨n.whole.chars, n.part.elim [] Subtype.val⟩

/-- The time that is written, in microseconds. -/
def WrittenMeasure.microseconds (m : WrittenMeasure isDigit) : Float :=
  m.unit.unit.toMicroseconds m.value.numeral.toFloat

/-- The timing that a line stands for. It has no throughput. -/
def Written.timing (w : Written isDigit) : Timing where
  name := String.ofList w.name.chars
  low := w.low.microseconds
  mid := w.mid.microseconds
  high := w.high.microseconds
  throughput := none

/-! ### The parts are told apart -/

section Injective

variable {digit : Char → Bool}

theorem stops_blanks_of_word (r : List Char) : Stops isBlank ("time:".toList ++ r) := by
  rw [show "time:".toList = ['t', 'i', 'm', 'e', ':'] from rfl]
  exact stops_cons (by decide)

theorem stops_blanks_of_bracket (r : List Char) : Stops isBlank (['['] ++ r) :=
  stops_cons (by decide)

/-- Blanks end the characters of a name. -/
theorem stops_name_of_blanks (g : Run isBlank) (r : List Char) :
    Stops (!isBlank ·) (g.chars ++ r) :=
  g.stops (fun c hc => by simpa using hc) r

/-- Blanks end the digits of a numeral. -/
theorem stops_digits_of_blanks (hd : IsDigitClass digit) (g : Run isBlank) (r : List Char) :
    Stops digit (g.chars ++ r) := by
  refine g.stops (fun c hc => ?_) r
  by_contra hdigit
  rw [Bool.not_eq_false] at hdigit
  rw [hd.not_blank c hdigit] at hc
  cases hc

/-- A numeral ends blanks. -/
theorem stops_blanks_of_numeral (hd : IsDigitClass digit) (n : WrittenNumeral digit)
    (r : List Char) : Stops isBlank (n.text ++ r) := by
  rw [WrittenNumeral.text, List.append_assoc]
  exact n.whole.stops hd.not_blank _

/-- A unit ends blanks. -/
theorem stops_blanks_of_unit (u : UnitSpelling) (r : List Char) : Stops isBlank (u.text ++ r) := by
  cases u <;> exact stops_cons (by decide)

/-- A point ends the whole digits of a numeral, and so do blanks. -/
theorem stops_digits_of_part (hd : IsDigitClass digit)
    (part : Option {s : List Char // ∀ c ∈ s, digit c = true}) {r : List Char}
    (hr : Stops digit r) : Stops digit (partText part ++ r) := by
  cases part with
  | none => exact hr
  | some s => exact stops_cons hd.not_point

/-- Blanks do not begin with a point. -/
theorem blanks_ne_point (g : Run isBlank) {r s : List Char} : g.chars ++ r ≠ '.' :: s := by
  intro h
  have hstop := g.stops (q := (· == '.')) (fun c hc => ?_) r
  · rw [h] at hstop
    cases hstop '.' rfl
  · rw [beq_eq_false_iff_ne]
    rintro rfl
    cases hc

theorem partText_append_inj (hd : IsDigitClass digit)
    {part part' : Option {s : List Char // ∀ c ∈ s, digit c = true}} {g g' : Run isBlank}
    {r r' : List Char}
    (h : partText part ++ (g.chars ++ r) = partText part' ++ (g'.chars ++ r')) :
    part = part' ∧ g.chars ++ r = g'.chars ++ r' := by
  cases part with
  | none =>
    cases part' with
    | none => exact ⟨rfl, h⟩
    | some s' => exact absurd h (blanks_ne_point g)
  | some s =>
    cases part' with
    | none => exact absurd h.symm (blanks_ne_point g')
    | some s' =>
      simp only [partText, List.cons_append, List.cons.injEq, true_and] at h
      obtain ⟨hs, hrest⟩ := append_inj_of_stops s.property s'.property
        (stops_digits_of_blanks hd g r) (stops_digits_of_blanks hd g' r') h
      exact ⟨congrArg some (Subtype.ext hs), hrest⟩

theorem WrittenNumeral.append_inj (hd : IsDigitClass digit) {n n' : WrittenNumeral digit}
    {g g' : Run isBlank} {r r' : List Char}
    (h : n.text ++ (g.chars ++ r) = n'.text ++ (g'.chars ++ r')) :
    n = n' ∧ g.chars ++ r = g'.chars ++ r' := by
  rw [text, text, List.append_assoc, List.append_assoc] at h
  obtain ⟨hwhole, h⟩ := Run.append_inj
    (stops_digits_of_part hd n.part (stops_digits_of_blanks hd g r))
    (stops_digits_of_part hd n'.part (stops_digits_of_blanks hd g' r')) h
  obtain ⟨hpart, h⟩ := partText_append_inj hd h
  exact ⟨WrittenNumeral.ext hwhole hpart, h⟩

theorem UnitSpelling.append_inj {u u' : UnitSpelling} {r r' : List Char}
    (h : u.text ++ r = u'.text ++ r') : u = u' ∧ r = r' := by
  cases u <;> cases u' <;> simp_all [UnitSpelling.text]

theorem WrittenMeasure.append_inj (hd : IsDigitClass digit) {m m' : WrittenMeasure digit}
    {r r' : List Char} (h : m.text ++ r = m'.text ++ r') : m = m' ∧ r = r' := by
  rw [text, text] at h
  simp only [List.append_assoc] at h
  obtain ⟨hvalue, h⟩ := WrittenNumeral.append_inj hd h
  obtain ⟨hgap, h⟩ := Run.append_inj (stops_blanks_of_unit m.unit r)
    (stops_blanks_of_unit m'.unit r') h
  obtain ⟨hunit, hrest⟩ := UnitSpelling.append_inj h
  exact ⟨WrittenMeasure.ext hvalue hgap hunit, hrest⟩

theorem stops_blanks_of_measure (hd : IsDigitClass digit) (m : WrittenMeasure digit)
    (r : List Char) : Stops isBlank (m.text ++ r) := by
  rw [WrittenMeasure.text, List.append_assoc]
  exact stops_blanks_of_numeral hd m.value _

/-- A line that is written in one way is written in no other. -/
theorem Written.text_injective (hd : IsDigitClass digit) :
    Function.Injective (Written.text : Written digit → List Char) := by
  intro w w' h
  simp only [text, front, List.append_assoc] at h
  obtain ⟨hname, h⟩ := Run.append_inj (stops_name_of_blanks w.afterName _)
    (stops_name_of_blanks w'.afterName _) h
  obtain ⟨hafterName, h⟩ := Run.append_inj (stops_blanks_of_word _) (stops_blanks_of_word _) h
  have h := List.append_cancel_left h
  obtain ⟨hafterWord, h⟩ := Run.append_inj (stops_blanks_of_bracket _)
    (stops_blanks_of_bracket _) h
  have h := List.append_cancel_left h
  obtain ⟨hlow, h⟩ := WrittenMeasure.append_inj hd h
  obtain ⟨hafterLow, h⟩ := Run.append_inj (stops_blanks_of_measure hd w.mid _)
    (stops_blanks_of_measure hd w'.mid _) h
  obtain ⟨hmid, h⟩ := WrittenMeasure.append_inj hd h
  obtain ⟨hafterMid, h⟩ := Run.append_inj (stops_blanks_of_measure hd w.high _)
    (stops_blanks_of_measure hd w'.high _) h
  obtain ⟨hhigh, h⟩ := WrittenMeasure.append_inj hd h
  have hrest := List.append_cancel_left h
  exact Written.ext hname hafterName hafterWord hlow hafterLow hmid hafterMid hhigh hrest

end Injective

end BenchReport.Timing
