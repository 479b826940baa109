import BenchReport.Decimal.Places

/-!
# Shortest digits

The shortest decimal that reads back as a given binary64 number, and the layout in which a
snapshot writes it.

A number `m * 2 ^ q` is read back from every decimal of the interval around it whose ends
lie half way to its two neighbours; the ends belong to it exactly if `m` is even. For one
digit, two digits and so on, the decimals of that many digits on either side of the number
are tried, and the first that lie in the interval give the answer: of two the nearer, and
of two equally near the one with the even last digit. All comparisons are of whole numbers.
-/

namespace BenchReport.Decimal

open Float.Model (UnpackedFloat)
open Float.Model.UnpackedFloat (Sign)

/-- A quotient of two whole numbers. -/
structure Ratio where
  /-- The numerator. -/
  num : Nat
  /-- The denominator. -/
  den : Nat

namespace Ratio

/-- The value `n * 2 ^ e`. -/
def ofTwos (n : Nat) : Int → Ratio
  | .ofNat k => ⟨n * Nat.pow 2 k, 1⟩
  | .negSucc k => ⟨n, Nat.pow 2 (k + 1)⟩

/-- The value `n * 10 ^ e`. -/
def ofTens (n : Nat) : Int → Ratio
  | .ofNat k => ⟨n * Nat.pow 10 k, 1⟩
  | .negSucc k => ⟨n, Nat.pow 10 (k + 1)⟩

/-- Comparison by cross multiplication. -/
def lt (a b : Ratio) : Bool := a.num * b.den < b.num * a.den

/-- Comparison by cross multiplication. -/
def le (a b : Ratio) : Bool := a.num * b.den ≤ b.num * a.den

/-- The whole part of a quotient by `10 ^ e`. -/
def floorTens (a : Ratio) : Int → Nat
  | .ofNat k => a.num / (a.den * Nat.pow 10 k)
  | .negSucc k => a.num * Nat.pow 10 (k + 1) / a.den

/-- The distance between two values, as a quotient. -/
def dist (a b : Ratio) : Ratio :=
  let x := a.num * b.den
  let y := b.num * a.den
  ⟨(x - y) + (y - x), a.den * b.den⟩

end Ratio

/-- The decimals that read back as one number. -/
structure Interval where
  /-- The number itself. -/
  value : Ratio
  /-- Half way to the neighbour below. -/
  low : Ratio
  /-- Half way to the neighbour above. -/
  high : Ratio
  /-- Whether the two ends belong to the interval. -/
  closed : Bool

/-- Whether a value lies in the interval. -/
def Interval.holds (i : Interval) (x : Ratio) : Bool :=
  if i.closed then i.low.le x && x.le i.high else i.low.lt x && x.lt i.high

/-- The interval of `m * 2 ^ q`. At a power of two the neighbour below is half as far away
as the one above, unless the number is among the smallest. -/
def intervalOf (m : Nat) (q : Int) : Interval :=
  let half := if m = Nat.pow 2 52 ∧ -1074 < q then 1 else 2
  { value := .ofTwos (4 * m) (q - 2)
    low := .ofTwos (4 * m - half) (q - 2)
    high := .ofTwos (4 * m + 2) (q - 2)
    closed := m % 2 == 0 }

/-- A decimal `digits * 10 ^ power`. -/
structure Scientific where
  /-- The whole number of units. -/
  digits : Nat
  /-- The power of ten that is the unit. -/
  power : Int
  deriving Repr, DecidableEq

/-- The decimal on the grid of units `10 ^ power` that reads back and is nearest. -/
def onGrid? (i : Interval) (power : Int) : Option Scientific :=
  let below := i.value.floorTens power
  let above := below + 1
  let a := Ratio.ofTens below power
  let b := Ratio.ofTens above power
  match i.holds a, i.holds b with
  | false, false => none
  | true, false => some ⟨below, power⟩
  | false, true => some ⟨above, power⟩
  | true, true =>
    let da := a.dist i.value
    let db := b.dist i.value
    if da.lt db then some ⟨below, power⟩
    else if db.lt da then some ⟨above, power⟩
    else if below % 2 = 0 then some ⟨below, power⟩ else some ⟨above, power⟩

/-- The greatest power of ten that is at most a value, searched downwards from `start`. -/
def leadingPower (x : Ratio) (start : Int) : Nat → Int
  | 0 => start
  | fuel + 1 => if (Ratio.ofTens 1 start).le x then start else leadingPower x (start - 1) fuel

/-- The first grid with an answer, from the coarsest: each step adds a digit. -/
def firstGrid (i : Interval) (power : Int) : Nat → Scientific
  | 0 => ⟨i.value.floorTens power, power⟩
  | fuel + 1 =>
    match onGrid? i power with
    | some d => d
    | none => firstGrid i (power - 1) fuel

/-- The decimal without zeros at its end. -/
def Scientific.strip (d : Scientific) : Scientific :=
  let zeros := ((Decimal.digits d.digits).reverse.takeWhile (· == '0')).length
  if d.digits = 0 then d else ⟨d.digits / Nat.pow 10 zeros, d.power + zeros⟩

/-- The shortest decimal that reads back as `m * 2 ^ q`, for `m` not zero. All binary64
numbers lie between `10 ^ (-324)` and `10 ^ 309`, and 17 digits always suffice. -/
def shortest (m : Nat) (q : Int) : Scientific :=
  let i := intervalOf m q
  (firstGrid i (leadingPower i.value 309 640) 20).strip

/-- The layout of a decimal: in full, with a digit after the point, where that takes at most
16 digits before the point or four zeros after it; else with an exponent. -/
def layout (d : Scientific) : List Char :=
  let ds := digits d.digits
  let point : Int := ds.length + d.power
  if 0 ≤ d.power ∧ point ≤ 16 then
    ds ++ List.replicate d.power.toNat '0' ++ ".0".toList
  else if 0 < point ∧ point ≤ 16 then
    ds.take point.toNat ++ '.' :: ds.drop point.toNat
  else if -5 < point ∧ point ≤ 0 then
    "0.".toList ++ List.replicate (-point).toNat '0' ++ ds
  else
    let exponent := point - 1
    let tail := 'e' :: ((if exponent < 0 then ['-'] else []) ++ digits exponent.natAbs)
    match ds with
    | [] => tail
    | [c] => c :: tail
    | c :: rest => c :: '.' :: (rest ++ tail)

/-- The text of a finite number; there is none for the others. -/
def shortestText? (x : Float) : Option (List Char) :=
  match unpack x with
  | .notANumber => none
  | .infinity _ => none
  | .zero s => some (signText s ++ "0.0".toList)
  | .finite s m q _ => some (signText s ++ layout (shortest m q))

end BenchReport.Decimal
