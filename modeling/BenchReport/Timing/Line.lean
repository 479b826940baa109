import BenchReport.Decimal.Numeral
import BenchReport.Text.Lines
import BenchReport.Timing

/-!
# Timing lines

The line that gives the timing of a benchmark:

    name  time:  [low unit  mid unit  high unit] rest

The name is a run of characters that are not blank, the parts are separated by blanks, and
anything may follow the closing bracket. Each part is followed by a character that it
cannot contain, so a line is read in one way only and never needs a second try.
-/

namespace BenchReport.Timing

open Text (isBlank)
open Decimal (Numeral)

/-- A time as it is written: a numeral and its unit. -/
structure Measure where
  /-- The numeral. -/
  value : Numeral
  /-- The unit. -/
  unit : TimeUnit
  deriving Repr, DecidableEq

/-- A time in microseconds. -/
def Measure.microseconds (m : Measure) : Float := m.unit.toMicroseconds m.value.toFloat

/-- The parts of a timing line. -/
structure Line where
  /-- The name of the benchmark. -/
  name : List Char
  /-- The lower bound. -/
  low : Measure
  /-- The median. -/
  mid : Measure
  /-- The upper bound. -/
  high : Measure
  deriving Repr, DecidableEq

/-- Takes a run of blanks, at least one. -/
def takeBlanks? : List Char → Option (List Char)
  | [] => none
  | c :: r => if isBlank c then some (r.dropWhile isBlank) else none

/-- Takes the symbol of a unit. All of them have two characters. -/
def takeUnit? : List Char → Option (TimeUnit × List Char)
  | a :: b :: r => (TimeUnit.ofSymbol? [a, b]).map (·, r)
  | _ => none

/-- Takes a numeral, blanks and a unit. -/
def takeMeasure? (s : List Char) : Option (Measure × List Char) := do
  let (value, s) ← Numeral.take? s
  let s ← takeBlanks? s
  let (unit, s) ← takeUnit? s
  return (⟨value, unit⟩, s)

/-- Takes the run of characters that are not blank, at least one. -/
def takeName? (s : List Char) : Option (List Char × List Char) :=
  match s.takeWhile (!isBlank ·) with
  | [] => none
  | name => some (name, s.dropWhile (!isBlank ·))

/-- The parts of a timing line, if the text is one. -/
def Line.ofText? (s : List Char) : Option Line := do
  let (name, s) ← takeName? s
  let s ← takeBlanks? s
  let s ← "time:".toList.isPrefixOf? s
  let s ← takeBlanks? s
  let s ← ['['].isPrefixOf? s
  let (low, s) ← takeMeasure? s
  let s ← takeBlanks? s
  let (mid, s) ← takeMeasure? s
  let s ← takeBlanks? s
  let (high, s) ← takeMeasure? s
  let _ ← [']'].isPrefixOf? s
  return ⟨name, low, mid, high⟩

/-- The timing that a line gives, without a throughput. -/
def Line.timing (l : Line) : Timing where
  name := String.ofList l.name
  low := l.low.microseconds
  mid := l.mid.microseconds
  high := l.high.microseconds
  throughput := none

/-- The timing that a line gives, if it is a timing line. -/
def ofLine? (s : List Char) : Option Timing := (Line.ofText? s).map Line.timing

end BenchReport.Timing
