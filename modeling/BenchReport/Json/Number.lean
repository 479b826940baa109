import BenchReport.Decimal.Numeral
import BenchReport.Json.Fault

/-!
# Reading numbers

A number without fraction and exponent is a whole number if it fits in 64 bits, with a sign
or without. Any other number is real, and it is computed in a quick way that need not give
the nearest binary64 number: the digits are gathered in a whole number of 64 bits, digits
that do not fit are dropped, and the result is multiplied or divided by a power of ten,
with a rounding for each. A real number that gets too large is refused.
-/

namespace BenchReport.Json

open Decimal (isDigit digitValue)

/-- A number as it was read. -/
inductive Number where
  | natural (n : Nat)
  | negative (n : Nat)
  | real (x : Float)
  deriving Repr

/-- The number as it is found where something else was expected. -/
def Number.found : Number → Found
  | natural n => .integer n
  | negative n => .integer (-(n : Int))
  | real x => .real x

/-- The number as a binary64 number. -/
def Number.toFloat : Number → Float
  | natural n => Float.ofNat n
  | negative n => -Float.ofNat n
  | real x => x

/-- The greatest whole number of digits. -/
def maxSignificand : Nat := UInt64.size - 1

/-- The greatest exponent that is computed with. -/
def maxExponent : Nat := UInt32.size / 2 - 1

/-- Appends digits to a number while it stays within a bound, and leaves the others. -/
def gather (bound n : Nat) : List Char → Nat × List Char
  | [] => (n, [])
  | d :: ds =>
    if 10 * n + digitValue d ≤ bound then gather bound (10 * n + digitValue d) ds
    else (n, d :: ds)

/-- A power of ten as the binary64 number of its literal. -/
def powerOfTen (k : Nat) : Float := Float.ofScientific 1 false k

/-- Divides by a power of ten, in steps of `10 ^ 308`, until nothing is left. -/
def divideByTens (x : Float) (k : Nat) : Float :=
  if k ≤ 308 then x / powerOfTen k
  else if x == 0.0 then x
  else divideByTens (x / powerOfTen 308) (k - 308)
termination_by k

/-- The number with its sign. -/
def signed (negative : Bool) (x : Float) : Float := if negative then -x else x

/-- The size of the number with digits `n` and a power of ten, if it is not too large. -/
def scaled? (n : Nat) : Int → Option Float
  | .ofNat k =>
    if k ≤ 308 then
      let x := Float.ofNat n * powerOfTen k
      if x.isInf then none else some x
    else if n = 0 then some (Float.ofNat n) else none
  | .negSucc k => some (divideByTens (Float.ofNat n) (k + 1))

/-- The number with digits `n` and a power of ten, before the text `rest`. -/
def scale (negative : Bool) (n : Nat) (power : Int) (rest : List Char) :
    Except Failure (Float × List Char) :=
  match scaled? n power with
  | some x => .ok (signed negative x, rest)
  | none => failAt .numberOutOfRange rest

/-- The sign of an exponent, whether it is a minus, and what follows it. -/
def exponentSign : List Char → Bool × List Char
  | '+' :: s => (false, s)
  | '-' :: s => (true, s)
  | s => (false, s)

/-- Reads an exponent, after its letter. An exponent too large to compute with makes a
number that is not zero too large, and any number zero if it is negative. -/
def readExponent (negative : Bool) (n : Nat) (power : Int) (s : List Char) :
    Except Failure (Float × List Char) :=
  let (down, s) := exponentSign s
  let rest := s.dropWhile isDigit
  match s, s.takeWhile isDigit with
  | [], _ => failAt .endInValue []
  | s, [] => failPast 1 .invalidNumber s
  | _, ds =>
    match gather maxExponent 0 ds with
    | (e, []) => scale negative n (if down then power - e else power + e) rest
    | (_, _ :: surplus) =>
      if n ≠ 0 ∧ down = false then failAt .numberOutOfRange (surplus ++ rest)
      else .ok (signed negative 0.0, rest)

/-- Reads what follows the digits of a real number. -/
def readRealTail (negative : Bool) (n : Nat) (power : Int) (s : List Char) :
    Except Failure (Float × List Char) :=
  match s with
  | 'e' :: r => readExponent negative n power r
  | 'E' :: r => readExponent negative n power r
  | s => scale negative n power s

/-- Reads the digits after a point. -/
def readFraction (negative : Bool) (n : Nat) (power : Int) (s : List Char) :
    Except Failure (Float × List Char) :=
  match s.takeWhile isDigit, s.dropWhile isDigit with
  | [], [] => failAt .endInValue []
  | [], rest => failPast 1 .invalidNumber rest
  | ds, rest =>
    let (n, surplus) := gather maxSignificand n ds
    readRealTail negative n (power - (ds.length - surplus.length : Nat)) rest

/-- The whole number with a sign and digits. A negative number below 64 bits is real, and
so is the negative zero. -/
def wholeNumber (negative : Bool) (n : Nat) : Number :=
  if negative then
    if 1 ≤ n ∧ n ≤ UInt64.size / 2 then .negative n else .real (-Float.ofNat n)
  else .natural n

/-- Reads what follows the whole digits `n`, of which `dropped` more did not fit. -/
def readTail (negative : Bool) (n dropped : Nat) (s : List Char) :
    Except Failure (Number × List Char) :=
  match s with
  | '.' :: r => (readFraction negative n dropped r).map fun p => (.real p.1, p.2)
  | 'e' :: r => (readExponent negative n dropped r).map fun p => (.real p.1, p.2)
  | 'E' :: r => (readExponent negative n dropped r).map fun p => (.real p.1, p.2)
  | s =>
    if dropped = 0 then .ok (wholeNumber negative n, s)
    else (scale negative n dropped s).map fun p => (.real p.1, p.2)

/-- Reads a number after its sign. A zero stands alone before a point. -/
def readNumber (negative : Bool) (s : List Char) : Except Failure (Number × List Char) :=
  match s with
  | [] => failAt .endInValue []
  | '0' :: r =>
    match r with
    | d :: _ => if isDigit d then failPast 1 .invalidNumber r else readTail negative 0 0 r
    | [] => readTail negative 0 0 r
  | s =>
    match s.takeWhile isDigit with
    | [] => failPast 1 .invalidNumber s
    | ds =>
      let (n, surplus) := gather maxSignificand 0 ds
      readTail negative n surplus.length (s.dropWhile isDigit)

end BenchReport.Json
