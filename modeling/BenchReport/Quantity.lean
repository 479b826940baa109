import BenchReport.Decimal.Places

/-!
# Quantities

The quantities of a benchmark result and their display: times, which are kept in
microseconds whatever unit they were reported in, rates in operations per second, and
counts. A time or a rate is shown with two decimal places in a unit that suits its size.
The texts are for people and are never read back.
-/

namespace BenchReport

/-- The units in which a timing line may give a time. -/
inductive TimeUnit where
  | nanoseconds
  | microseconds
  | milliseconds
  deriving Repr, DecidableEq

namespace TimeUnit

/-- The unit of a symbol. Microseconds have three spellings: with the micro sign, with the
Greek letter mu, and with a plain `u`. -/
def ofSymbol? : List Char → Option TimeUnit
  | ['n', 's'] => some nanoseconds
  | ['\u00b5', 's'] => some microseconds
  | ['\u03bc', 's'] => some microseconds
  | ['u', 's'] => some microseconds
  | ['m', 's'] => some milliseconds
  | _ => none

/-- The symbol of a unit, with the micro sign for microseconds. -/
def symbol : TimeUnit → String
  | nanoseconds => "ns"
  | microseconds => "\u00b5s"
  | milliseconds => "ms"

/-- A unit is that of its symbol. -/
theorem ofSymbol?_symbol (u : TimeUnit) : ofSymbol? u.symbol.toList = some u := by
  cases u <;> decide

/-- A time of so many units, in microseconds. -/
def toMicroseconds (u : TimeUnit) (value : Float) : Float :=
  match u with
  | nanoseconds => value / 1000.0
  | microseconds => value
  | milliseconds => value * 1000.0

end TimeUnit

namespace Quantity

/-- A time in microseconds, shown in nanoseconds below one microsecond, in seconds from a
million of them, and in microseconds or milliseconds between. -/
def time (us : Float) : String :=
  if us < 1.0 then Decimal.fixed 2 (us * 1000.0) ++ " ns"
  else if us < 1000.0 then Decimal.fixed 2 us ++ " \u00b5s"
  else if us < 1000000.0 then Decimal.fixed 2 (us / 1000.0) ++ " ms"
  else Decimal.fixed 2 (us / 1000000.0) ++ " s"

/-- A rate in operations per second, shown in thousands or millions from there on. -/
def rate (ops : Float) : String :=
  if 1000000.0 ≤ ops then Decimal.fixed 2 (ops / 1000000.0) ++ "M ops/s"
  else if 1000.0 ≤ ops then Decimal.fixed 2 (ops / 1000.0) ++ "K ops/s"
  else Decimal.fixed 2 ops ++ " ops/s"

/-- A latency in milliseconds. -/
def latency (ms : Float) : String := Decimal.fixed 3 ms ++ " ms"

/-- A percentage. -/
def percentage (p : Float) : String := Decimal.fixed 1 p ++ "%"

/-- Digits with a comma wherever a multiple of three digits follows. -/
def groupThousands : List Char → List Char
  | [] => []
  | c :: r =>
    if r ≠ [] ∧ r.length % 3 = 0 then c :: ',' :: groupThousands r
    else c :: groupThousands r

/-- A count, its digits in groups of three. -/
def count (n : Nat) : String := String.ofList (groupThousands (Decimal.digits n))

theorem groupThousands_filter (ds : List Char) (h : ',' ∉ ds) :
    (groupThousands ds).filter (· != ',') = ds := by
  induction ds with
  | nil => rfl
  | cons c r ih =>
    have hc : c ≠ ',' := fun e => h (by simp [e])
    have hr : ',' ∉ r := fun e => h (by simp [e])
    unfold groupThousands
    split <;> simp [hc, ih hr]

example : count 1234567 = "1,234,567" := by decide +kernel

end Quantity

end BenchReport
