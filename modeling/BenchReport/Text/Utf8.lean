/-!
# UTF-8

Bytes to text and back. A text of bytes that is not valid is either refused, or mended: each
longest beginning of a character that breaks off is read as one replacement character. Positions
in a text may be counted in bytes, and a position inside of a character is none at which the text
can be cut.
-/

namespace BenchReport.Text.Utf8

/-- A byte that continues a character. -/
def isContinuation (b : UInt8) : Bool := 0x80 ≤ b && b ≤ 0xBF

/-- What the bytes after the first may be: the bounds of the second byte, how many more
follow it, and the bits that the first byte contributes. -/
structure Lead where
  /-- The least second byte. -/
  low : UInt8
  /-- The greatest second byte. -/
  high : UInt8
  /-- The number of bytes after the second. -/
  more : Nat
  /-- The contribution of the first byte. -/
  bits : Nat

/-- The first byte of a character of several bytes. The bounds on the second byte rule out
surrogates, overlong forms and numbers past the last code point. -/
def lead? (b : UInt8) : Option Lead :=
  if 0xC2 ≤ b && b ≤ 0xDF then some ⟨0x80, 0xBF, 0, b.toNat - 0xC0⟩
  else if b == 0xE0 then some ⟨0xA0, 0xBF, 1, 0⟩
  else if b == 0xED then some ⟨0x80, 0x9F, 1, 0xD⟩
  else if 0xE1 ≤ b && b ≤ 0xEF then some ⟨0x80, 0xBF, 1, b.toNat - 0xE0⟩
  else if b == 0xF0 then some ⟨0x90, 0xBF, 2, 0⟩
  else if 0xF1 ≤ b && b ≤ 0xF3 then some ⟨0x80, 0xBF, 2, b.toNat - 0xF0⟩
  else if b == 0xF4 then some ⟨0x80, 0x8F, 2, 4⟩
  else none

/-- What stands at the front of some bytes: a character or the broken beginning of one, and
the number of bytes that it takes after the first. -/
structure Front where
  /-- The character, if it is whole. -/
  char? : Option Char
  /-- The number of bytes after the first. -/
  extra : Nat

/-- Continues a character whose bits so far are `acc`, after `taken` further bytes. -/
def continueFront (acc taken : Nat) : Nat → List UInt8 → Front
  | 0, _ => ⟨some (Char.ofNat acc), taken⟩
  | _ + 1, [] => ⟨none, taken⟩
  | more + 1, b :: r =>
    if isContinuation b then continueFront (acc * 64 + (b.toNat - 0x80)) (taken + 1) more r
    else ⟨none, taken⟩

/-- What stands at the front of the bytes `b :: r`. -/
def front (b : UInt8) (r : List UInt8) : Front :=
  if b < 0x80 then ⟨some (Char.ofNat b.toNat), 0⟩
  else
    match lead? b, r with
    | none, _ => ⟨none, 0⟩
    | some _, [] => ⟨none, 0⟩
    | some l, c :: r =>
      if l.low ≤ c && c ≤ l.high then
        continueFront (l.bits * 64 + (c.toNat - 0x80)) 1 l.more r
      else ⟨none, 0⟩

/-- The replacement character. -/
def replacement : Char := '\ufffd'

/-- The text of some bytes, each broken part read as one replacement character. -/
def mend : List UInt8 → List Char
  | [] => []
  | b :: r =>
    let f := front b r
    f.char?.getD replacement :: mend (r.drop f.extra)
termination_by bs => bs.length
decreasing_by simp only [List.length_drop, List.length_cons]; omega

/-- The text of some bytes, if they are valid. -/
def decode? : List UInt8 → Option (List Char)
  | [] => some []
  | b :: r =>
    let f := front b r
    match f.char?, decode? (r.drop f.extra) with
    | some c, some cs => some (c :: cs)
    | _, _ => none
termination_by bs => bs.length
decreasing_by simp only [List.length_drop, List.length_cons]; omega

/-- The bytes of a text. -/
def encode (s : List Char) : List UInt8 := s.flatMap String.utf8EncodeChar

/-- The number of bytes of a text. -/
def size (s : List Char) : Nat := (s.map Char.utf8Size).foldr (· + ·) 0

example : mend [0x61, 0xE2, 0x82, 0x0A, 0xFF] = ['a', replacement, '\n', replacement] := by
  decide +kernel

example : decode? (encode ['a', '\u00b5', '\u20ac']) = some ['a', '\u00b5', '\u20ac'] := by
  decide +kernel

/-! ### Positions -/

/-- What stands before and after a position, if the text can be cut there. -/
def cutAt? : Nat → List Char → Option (List Char × List Char)
  | 0, s => some ([], s)
  | _ + 1, [] => none
  | n + 1, c :: r =>
    if c.utf8Size ≤ n + 1 then (cutAt? (n + 1 - c.utf8Size) r).map fun p => (c :: p.1, p.2)
    else none

/-- What stands between two positions, if the text can be cut at both. -/
def between? (start stop : Nat) (s : List Char) : Option (List Char) := do
  let (_, r) ← cutAt? start s
  let (part, _) ← cutAt? (stop - start) r
  return part

example : between? 1 4 "a\u00e9bc".toList = some "\u00e9b".toList := by decide +kernel

example : between? 2 4 "a\u00e9bc".toList = none := by decide +kernel

end BenchReport.Text.Utf8
