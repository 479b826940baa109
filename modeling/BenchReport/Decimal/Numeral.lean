/-!
# Numerals

Reading a plain decimal numeral as a binary64 number. A numeral is a run of the digits 0 to 9,
which may be followed by a point and a further run, perhaps empty. Its number is rounded as the
library rounds decimal literals.
-/

namespace BenchReport.Decimal

/-- The digits 0 to 9. -/
def isDigit (c : Char) : Bool := '0' ≤ c && c ≤ '9'

/-- The value of a digit. -/
def digitValue (c : Char) : Nat := c.toNat - '0'.toNat

/-- The whole number that a run of digits names, after the digits of `n`. -/
def appendDigits (n : Nat) (ds : List Char) : Nat :=
  ds.foldl (fun n c => 10 * n + digitValue c) n

/-- A plain decimal numeral. -/
structure Numeral where
  /-- The digits before the point. -/
  whole : List Char
  /-- The digits after the point. -/
  part : List Char
  deriving Repr, DecidableEq

/-- The binary64 number that `Float.ofScientific` makes of `n * 10 ^ power`, with a sign. -/
def ofScientific (negative : Bool) (n : Nat) (power : Int) : Float :=
  let x := match power with
    | .ofNat k => Float.ofScientific n false k
    | .negSucc k => Float.ofScientific n true (k + 1)
  if negative then -x else x

/-- The binary64 number of a numeral. -/
def Numeral.toFloat (n : Numeral) : Float :=
  ofScientific false (appendDigits (appendDigits 0 n.whole) n.part) (-(n.part.length : Int))

/-- Takes a numeral off the front of a text: as many digits as there are, then the point if
one follows, then as many digits as there are. -/
def Numeral.take? (s : List Char) : Option (Numeral × List Char) :=
  match s.takeWhile isDigit, s.dropWhile isDigit with
  | [], _ => none
  | whole, '.' :: r => some (⟨whole, r.takeWhile isDigit⟩, r.dropWhile isDigit)
  | whole, r => some (⟨whole, []⟩, r)

end BenchReport.Decimal
