import BenchReport.Text.Letter
import BenchReport.Text.Pattern
import BenchReport.Timing.Line

/-!
# The pattern of timing lines

The pattern that a timing line is recognised by, and the timing of the parts that it keeps.
The pattern takes the digits of all scripts, but a numeral is made of the digits 0 to 9 only:
a line with other digits is recognised and gives no timing.
-/

namespace BenchReport

open Text (Pattern isBlank isDecimalDigit)

/-- The numeral that a text is as a whole. -/
def Decimal.Numeral.ofText? (s : List Char) : Option Numeral :=
  match take? s with
  | some (n, []) => some n
  | _ => none

namespace Timing

/-- The pattern of a numeral: digits, and then perhaps a point and more digits. -/
def numeralPattern (digit : Char → Bool) : Pattern :=
  .sequence [.run digit, .optional (.one (· == '.')), .many digit]

/-- The pattern of a unit. -/
def unitPattern : Pattern :=
  .oneOf ['n', 's'] [['\u00b5', 's'], ['\u03bc', 's'], ['u', 's'], ['m', 's']]

/-- The pattern of a time: a numeral, blanks and a unit. -/
def measurePattern (digit : Char → Bool) : Pattern :=
  .sequence [.kept (numeralPattern digit), .run isBlank, .kept unitPattern]

/-- The pattern of a timing line with digits of a class. -/
def linePatternOf (digit : Char → Bool) : Pattern :=
  .sequence [.kept (.run (!isBlank ·)), .run isBlank, .word "time:".toList, .run isBlank,
    .word ['['], measurePattern digit, .run isBlank, measurePattern digit, .run isBlank,
    measurePattern digit, .word [']']]

/-- The pattern of a timing line. -/
def linePattern : Pattern := linePatternOf isDecimalDigit

/-- The time that a numeral and a unit name, in microseconds. -/
def timeOfParts? (value unit : List Char) : Option Float := do
  let value ← Decimal.Numeral.ofText? value
  let unit ← TimeUnit.ofSymbol? unit
  return unit.toMicroseconds value.toFloat

/-- The timing of the parts that the pattern keeps. -/
def ofParts? : List (List Char) → Option Timing
  | [name, lowValue, lowUnit, midValue, midUnit, highValue, highUnit] => do
    let low ← timeOfParts? lowValue lowUnit
    let mid ← timeOfParts? midValue midUnit
    let high ← timeOfParts? highValue highUnit
    return ⟨String.ofList name, low, mid, high, none⟩
  | _ => none

/-- The timing that the pattern finds in a line. -/
def byPattern? (s : List Char) : Option Timing :=
  (linePattern.take? s).bind fun w => ofParts? w.parts

end Timing

end BenchReport
