/-!
# Fixed places

The text of a binary64 number with a given number of decimal places. The number is taken
at its exact value, which is a whole number times a power of two, so that rounding is a
division of whole numbers: to the nearest, and a tie to the even neighbour.
-/

namespace BenchReport.Decimal

open Float.Model (UnpackedFloat)
open Float.Model.UnpackedFloat (Sign)

/-- The number as its sign, whole significand and power of two. -/
def unpack (x : Float) : UnpackedFloat :=
  UnpackedFloat.unpack .binary64 x.toBits.toBitVec

/-- The digits of a whole number, the most significant first. -/
def digits (n : Nat) : List Char := Nat.toDigits 10 n

/-- The text of a whole number. -/
def text (n : Nat) : String := String.ofList (digits n)

/-- The quotient of two whole numbers, to the nearest and a tie to the even one. -/
def roundDiv (num den : Nat) : Nat :=
  let q := num / den
  let twice := 2 * (num % den)
  if twice < den then q
  else if den < twice then q + 1
  else if q % 2 = 0 then q else q + 1

/-- The value `m * 2 ^ e` in units of `10 ^ (-places)`, to the nearest unit. -/
def units (places m : Nat) (e : Int) : Nat :=
  match e with
  | .ofNat k => m * Nat.pow 2 k * Nat.pow 10 places
  | .negSucc k => roundDiv (m * Nat.pow 10 places) (Nat.pow 2 (k + 1))

/-- The text of a number of units of `10 ^ (-places)`. -/
def unitsText (places n : Nat) : List Char :=
  let whole := digits (n / Nat.pow 10 places)
  if places = 0 then whole
  else
    let part := digits (n % Nat.pow 10 places)
    whole ++ '.' :: (List.replicate (places - part.length) '0' ++ part)

/-- A minus sign for negative numbers, the negative zero among them. -/
def signText : Sign → List Char
  | .negative => ['-']
  | .positive => []

/-- The text of a number with `places` decimal places. The sign of a negative number stays
when all its digits round to zero. -/
def fixed (places : Nat) (x : Float) : String :=
  match unpack x with
  | .notANumber => "NaN"
  | .infinity s => String.ofList (signText s ++ "inf".toList)
  | .zero s => String.ofList (signText s ++ unitsText places 0)
  | .finite s m e _ => String.ofList (signText s ++ unitsText places (units places m e))

example : roundDiv 5 2 = 2 ∧ roundDiv 7 2 = 4 := by decide

end BenchReport.Decimal
