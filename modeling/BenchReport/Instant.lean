import BenchReport.Decimal.Places
import BenchReport.Text.Lines

/-!
# Instants

The time at which a report was generated, as a date of the proleptic Gregorian calendar, the
second of that day and the nanoseconds in it, all in universal time. A leap second is the
last second of a minute with a second of nanoseconds too many.

An instant is shown in two ways: with a blank between date and time for people, and in the
form of RFC 3339 for a snapshot. The reader of that form is lenient: blanks may stand before
each number, a blank may stand for the `T`, and the offset may be written with a colon, with
blanks or with neither.
-/

namespace BenchReport

/-- A date of the proleptic Gregorian calendar. -/
structure Date where
  /-- The year; the year 0 comes before the year 1. -/
  year : Int
  /-- The month, from 1. -/
  month : Nat
  /-- The day, from 1. -/
  day : Nat
  deriving Repr, DecidableEq

namespace Date

/-- Whether a year has a 29th of February. -/
def isLeapYear (year : Int) : Bool :=
  year % 4 = 0 && (year % 100 ≠ 0 || year % 400 = 0)

/-- The number of days of a month. -/
def daysIn (year : Int) (month : Nat) : Nat :=
  match month with
  | 2 => if isLeapYear year then 29 else 28
  | 4 | 6 | 9 | 11 => 30
  | _ => 31

/-- The years for which dates are kept. -/
def isYear (year : Int) : Bool := -262143 ≤ year && year ≤ 262142

/-- Whether there is such a date. -/
def isValid (d : Date) : Bool :=
  isYear d.year && 1 ≤ d.month && d.month ≤ 12 && 1 ≤ d.day && d.day ≤ daysIn d.year d.month

/-- The day after. -/
def next (d : Date) : Date :=
  if d.day < daysIn d.year d.month then { d with day := d.day + 1 }
  else if d.month < 12 then ⟨d.year, d.month + 1, 1⟩
  else ⟨d.year + 1, 1, 1⟩

/-- The day before. -/
def previous (d : Date) : Date :=
  if 1 < d.day then { d with day := d.day - 1 }
  else if 1 < d.month then ⟨d.year, d.month - 1, daysIn d.year (d.month - 1)⟩
  else ⟨d.year - 1, 12, 31⟩

/-- The date so many days after the first of January 1970. Years are counted from March, so
that the leap day is the last of its year, in eras of 400 years. -/
def ofDays (days : Int) : Date :=
  let z := days + 719468
  let era := Int.fdiv z 146097
  let dayOfEra := (z - era * 146097).toNat
  let yearOfEra :=
    (dayOfEra - dayOfEra / 1460 + dayOfEra / 36524 - dayOfEra / 146096) / 365
  let dayOfYear := dayOfEra - (365 * yearOfEra + yearOfEra / 4 - yearOfEra / 100)
  let monthFromMarch := (5 * dayOfYear + 2) / 153
  let day := dayOfYear - (153 * monthFromMarch + 2) / 5 + 1
  let month := if monthFromMarch < 10 then monthFromMarch + 3 else monthFromMarch - 9
  let year := (yearOfEra : Int) + era * 400 + (if month ≤ 2 then 1 else 0)
  ⟨year, month, day⟩

end Date

/-- A point in time, in universal time. -/
structure Instant where
  /-- The date. -/
  date : Date
  /-- The second of the day. -/
  second : Nat
  /-- The nanoseconds in that second; in a leap second they are a thousand million or more. -/
  nanos : Nat
  deriving Repr, DecidableEq

namespace Instant

/-- The instant so many seconds after the start of 1970, and nanoseconds after that. -/
def ofUnix (seconds : Int) (nanos : Nat) : Instant :=
  ⟨Date.ofDays (Int.fdiv seconds 86400), (Int.fmod seconds 86400).toNat, nanos⟩

/-- The instant so many seconds, of which a day has more, before another. -/
def minusSeconds (i : Instant) (seconds : Int) : Instant :=
  let s := (i.second : Int) - seconds
  if s < 0 then { i with date := i.date.previous, second := (s + 86400).toNat }
  else if 86400 ≤ s then { i with date := i.date.next, second := (s - 86400).toNat }
  else { i with second := s.toNat }

/-! ### Writing -/

/-- A number with zeros before it up to a width. -/
def padded (width n : Nat) : List Char :=
  let ds := Decimal.digits n
  List.replicate (width - ds.length) '0' ++ ds

/-- A year with four digits, and with a sign and more digits outside the years 0 to 9999. -/
def yearText (year : Int) : List Char :=
  if 0 ≤ year ∧ year ≤ 9999 then padded 4 year.toNat
  else (if year < 0 then '-' else '+') :: padded 4 year.natAbs

/-- The date with hyphens. -/
def dateText (d : Date) : List Char :=
  yearText d.year ++ '-' :: padded 2 d.month ++ '-' :: padded 2 d.day

/-- The time of day with colons. A leap second is the second 60. -/
def timeText (i : Instant) : List Char :=
  padded 2 (i.second / 3600) ++ ':' :: padded 2 (i.second / 60 % 60) ++
    ':' :: padded 2 (i.second % 60 + i.nanos / 1000000000)

/-- The fraction of a second with as few digits as it needs, by threes. -/
def fractionText (nanos : Nat) : List Char :=
  if nanos = 0 then []
  else if nanos % 1000000 = 0 then '.' :: padded 3 (nanos / 1000000)
  else if nanos % 1000 = 0 then '.' :: padded 6 (nanos / 1000)
  else '.' :: padded 9 nanos

/-- The instant for people: date, blank and time to the second. -/
def text (i : Instant) : String := String.ofList (dateText i.date ++ ' ' :: timeText i)

/-- The instant as log lines start with it, to the microsecond. -/
def stamp (i : Instant) : String :=
  String.ofList
    (dateText i.date ++ 'T' :: timeText i ++ '.' :: padded 6 (i.nanos % 1000000000 / 1000) ++ ['Z'])

/-- The instant in the form of RFC 3339. -/
def rfc3339 (i : Instant) : String :=
  String.ofList
    (dateText i.date ++ 'T' :: timeText i ++ fractionText (i.nanos % 1000000000) ++ ['Z'])

/-! ### Reading -/

/-- Why a text is not read as an instant. -/
inductive Fault where
  | tooShort
  | invalid
  | outOfRange
  | impossible
  | trailing
  deriving Repr, DecidableEq

/-- What is said of a text that is no instant. -/
def Fault.message : Fault → String
  | tooShort => "premature end of input"
  | invalid => "input contains invalid characters"
  | outOfRange => "input is out of range"
  | impossible => "no possible date and time matching input"
  | trailing => "trailing input"

/-- Takes a number of at most `max` digits, and of any number of digits if no bound is
given. -/
def takeNumber (max : Option Nat) (s : List Char) : Except Fault (Nat × List Char) :=
  let run := s.takeWhile Char.isDigit
  let ds := match max with
    | some n => run.take n
    | none => run
  match s, ds with
  | [], _ => .error .tooShort
  | _, [] => .error .invalid
  | s, ds => .ok (Nat.ofDigitChars 10 ds 0, s.drop ds.length)

/-- Takes a number of at most two digits with bounds, after blanks. -/
def takeField (low high : Nat) (s : List Char) : Except Fault (Nat × List Char) := do
  let (n, s) ← takeNumber (some 2) (Text.trimStart s)
  if low ≤ n ∧ n ≤ high then .ok (n, s) else .error .outOfRange

/-- Takes a year, after blanks: four digits at most, or a sign and any number of digits. -/
def takeYear (s : List Char) : Except Fault (Int × List Char) := do
  let (year, s) ← show Except Fault (Int × List Char) from
    match Text.trimStart s with
    | '-' :: s => do
      let (n, s) ← takeNumber none s
      return (-(n : Int), s)
    | '+' :: s => do
      let (n, s) ← takeNumber none s
      return ((n : Int), s)
    | s => do
      let (n, s) ← takeNumber (some 4) s
      return ((n : Int), s)
  if -2147483648 ≤ year ∧ year ≤ 2147483647 then .ok (year, s) else .error .outOfRange

/-- Takes a character, after blanks. -/
def takeMark (mark : Char) (s : List Char) : Except Fault (List Char) :=
  match Text.trimStart s with
  | [] => .error .tooShort
  | c :: s => if c = mark then .ok s else .error .invalid

/-- Takes the mark between date and time. -/
def takeDivider : List Char → Except Fault (List Char)
  | [] => .error .tooShort
  | c :: s => if c = 'T' ∨ c = 't' ∨ c = ' ' then .ok s else .error .invalid

/-- Takes the fraction of a second, if there is one, in nanoseconds. Digits past the ninth
are passed over. -/
def takeFraction : List Char → Except Fault (Nat × List Char)
  | '.' :: s => do
    let (n, rest) ← takeNumber (some 9) s
    let taken := s.length - rest.length
    return (n * Nat.pow 10 (9 - taken), rest.dropWhile Char.isDigit)
  | s => .ok (0, s)

/-- Takes two digits whose number is at most `high`, and greater ones are out of range. -/
def takeTwo (high : Nat) : List Char → Except Fault (Nat × List Char)
  | [] => .error .tooShort
  | [c] => .error (if c.utf8Size < 2 then .tooShort else .invalid)
  | a :: b :: s =>
    if a.isDigit && b.isDigit then
      let n := Nat.ofDigitChars 10 [a, b] 0
      if n ≤ high then .ok (n, s) else .error .outOfRange
    else .error .invalid

/-- The sign of an offset. A minus sign may be written as a hyphen or as U+2212. -/
def takeSign : List Char → Except Fault (Bool × List Char)
  | [] => .error .tooShort
  | '+' :: s => .ok (false, s)
  | '-' :: s => .ok (true, s)
  | '\u2212' :: s => .ok (true, s)
  | _ => .error .invalid

/-- Takes the hours and minutes of an offset, in seconds. -/
def takeNumericOffset (s : List Char) : Except Fault (Int × List Char) := do
  let (negative, s) ← takeSign s
  let (hours, s) ← takeTwo 99 s
  let (minutes, s) ← takeTwo 59 (s.dropWhile fun c => c == ':' || Text.isBlank c)
  let seconds : Int := hours * 3600 + minutes * 60
  return (if negative then -seconds else seconds, s)

/-- Takes an offset from universal time, in seconds. -/
def takeOffset : List Char → Except Fault (Int × List Char)
  | 'Z' :: s => .ok (0, s)
  | 'z' :: s => .ok (0, s)
  | a :: b :: c :: s =>
    if [a.toUpper, b.toUpper, c.toUpper] = ['U', 'T', 'C'] then .ok (0, s)
    else takeNumericOffset (a :: b :: c :: s)
  | s => takeNumericOffset s

/-- A date and a time of day with an offset, as the instant that they name. -/
def ofLocal (date : Date) (hour minute second nanos : Nat) (offset : Int) :
    Except Fault Instant :=
  if !date.isValid then .error .outOfRange
  else if offset ≤ -86400 ∨ 86400 ≤ offset then .error .outOfRange
  else
    let leap := second = 60
    let i : Instant :=
      { date := date
        second := hour * 3600 + minute * 60 + (if leap then 59 else second)
        nanos := nanos + (if leap then 1000000000 else 0) }
    let i := i.minusSeconds offset
    if Date.isYear i.date.year then .ok i else .error .impossible

/-- Reads an instant in the form of RFC 3339, leniently. -/
def ofRfc3339 (s : List Char) : Except Fault Instant := do
  let (year, s) ← takeYear s
  let s ← takeMark '-' s
  let (month, s) ← takeField 1 12 s
  let s ← takeMark '-' s
  let (day, s) ← takeField 1 31 s
  let s ← takeDivider s
  let (hour, s) ← takeField 0 23 s
  let s ← takeMark ':' s
  let (minute, s) ← takeField 0 59 s
  let s ← takeMark ':' s
  let (second, s) ← takeField 0 60 s
  let (nanos, s) ← takeFraction s
  let (offset, s) ← takeOffset (Text.trimStart s)
  match Text.trimStart s with
  | [] => ofLocal ⟨year, month, day⟩ hour minute second nanos offset
  | _ => .error .trailing

end Instant

end BenchReport
