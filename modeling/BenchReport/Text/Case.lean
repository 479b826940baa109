import BenchReport.Text.CaseTable

/-!
# Letter case

The full case mappings of Unicode, as far as they do not depend on a language: a character
may become several, and the capital sigma becomes a final sigma at the end of a word.
-/

namespace BenchReport.Text

open CaseTable (Shift)

/-- Whether a character lies in one of the ranges of a table. -/
def inTable (table : List (Nat × Nat)) (c : Char) : Bool :=
  table.any fun r => r.1 ≤ c.toNat && c.toNat ≤ r.2

/-- The code point that a shift maps a code point to, if it is one of its characters. -/
def CaseTable.Shift.image? (s : Shift) (n : Nat) : Option Nat :=
  if s.first ≤ n ∧ n ≤ s.last ∧ (n - s.first) % s.step = 0 then some (n + s.offset).toNat
  else none

/-- The characters that a mapping makes of one. -/
def mapCase (long : List (Nat × List Nat)) (short : List Shift) (c : Char) : List Char :=
  match long.find? (·.1 == c.toNat) with
  | some (_, codes) => codes.map Char.ofNat
  | none =>
    match short.findSome? (·.image? c.toNat) with
    | some code => [Char.ofNat code]
    | none => [c]

/-- A character in upper case. The tables are asked only beyond ASCII. -/
def upperChar (c : Char) : List Char :=
  if c.toNat < 0x80 then [c.toUpper] else mapCase CaseTable.upperLong CaseTable.upper c

/-- A character in lower case, wherever it stands. The tables are asked only beyond ASCII. -/
def lowerChar (c : Char) : List Char :=
  if c.toNat < 0x80 then [c.toLower] else mapCase CaseTable.lowerLong CaseTable.lower c

/-- Whether the first character that is not ignored for case is a cased one. -/
def startsCased (s : List Char) : Bool :=
  match s.dropWhile (inTable CaseTable.ignorable) with
  | [] => false
  | c :: _ => inTable CaseTable.cased c

/-- A capital sigma in lower case: the final form if a word ends here, which is so if a
cased character comes before and none after. -/
def lowerSigma (before after : List Char) : Char :=
  if startsCased before && !startsCased after then '\u03c2' else '\u03c3'

/-- A text in lower case, after the characters `before`, the nearest first. -/
def lowerAfter (before : List Char) : List Char → List Char
  | [] => []
  | c :: r =>
    (if c = '\u03a3' then [lowerSigma before r] else lowerChar c) ++ lowerAfter (c :: before) r

/-- A text in lower case. -/
def lowerCase (s : String) : String := String.ofList (lowerAfter [] s.toList)

/-- A text with its first character in upper case and the rest as it is. -/
def capitalize (s : String) : String :=
  match s.toList with
  | [] => ""
  | c :: r => String.ofList (upperChar c ++ r)

example : lowerCase "ReAd" = "read" := by decide +kernel

example : lowerCase "\u039f\u03a3 \u03a3" = "\u03bf\u03c2 \u03c3" := by decide +kernel

example : capitalize "\u00dfx" = "SSx" := by decide +kernel

end BenchReport.Text
