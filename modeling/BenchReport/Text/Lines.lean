/-!
# Lines and blanks

Cutting a text at a separator, where a text that ends with the separator has no empty piece after
it, and trimming the blanks at its ends. The blanks are the characters with Unicode's property
`White_Space`: the no-break space and the line and paragraph separators are among them, the
zero-width space and the byte order mark are not.
-/

namespace BenchReport.Text

/-! ### Pieces and lines -/

section

variable {α : Type} [DecidableEq α]

/-- The pieces that a separator ends, and what follows the last separator. -/
def cut (sep : α) : List α → List (List α) × List α
  | [] => ([], [])
  | a :: r =>
    match cut sep r with
    | (pieces, last) =>
      if a = sep then ([] :: pieces, last)
      else
        match pieces with
        | [] => ([], a :: last)
        | p :: ps => ((a :: p) :: ps, last)

/-- What follows the last separator, as a piece unless it is empty. -/
def lastPiece (last : List α) : List (List α) := if last = [] then [] else [last]

/-- The pieces between separators. -/
def pieces (sep : α) (s : List α) : List (List α) :=
  (cut sep s).1 ++ lastPiece (cut sep s).2

end

/-- A line without the one carriage return at its end, if there is one. -/
def dropReturn (line : List Char) : List Char :=
  match line.reverse with
  | '\r' :: r => r.reverse
  | _ => line

/-- The lines of a text: a line ends with a line feed and at most one carriage return before
it. A carriage return at the end of the text belongs to its line. -/
def lines (s : List Char) : List (List Char) :=
  (cut '\n' s).1.map dropReturn ++ lastPiece (cut '\n' s).2

example : lines "a\r\n\r\r\nb\r".toList = ["a".toList, "\r".toList, "b\r".toList] := by decide

example : lines "a\n".toList = ["a".toList] := by decide

/-! ### Blanks -/

/-- The characters with the property `White_Space`. -/
def isBlank (c : Char) : Bool :=
  let n := c.toNat
  (0x9 ≤ n && n ≤ 0xD) || n == 0x20 || n == 0x85 || n == 0xA0 || n == 0x1680
    || (0x2000 ≤ n && n ≤ 0x200A) || n == 0x2028 || n == 0x2029 || n == 0x202F
    || n == 0x205F || n == 0x3000

/-- A text without the blanks it starts with. -/
def trimStart (s : List Char) : List Char := s.dropWhile isBlank

/-- A text without the characters of a class that it ends with. -/
def trimEndBy (p : Char → Bool) (s : List Char) : List Char := (s.reverse.dropWhile p).reverse

/-- A text without the blanks at its two ends. -/
def trim (s : List Char) : List Char := trimEndBy isBlank (trimStart s)

example : trim " \u2003a b\u00a0".toList = "a b".toList := by decide

example : isBlank '\u200b' = false ∧ isBlank '\ufeff' = false ∧ isBlank '\x1c' = false := by decide

end BenchReport.Text
