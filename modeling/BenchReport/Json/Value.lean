import BenchReport.Decimal.Shortest

/-!
# JSON values and their text

The values of JSON as far as a snapshot has them, and their text: one member or element a
line, two blanks for each level. A number that is not finite has no text in JSON and is
written as `null`.
-/

namespace BenchReport.Json

/-- A value. -/
inductive Value where
  | natural (n : Nat)
  | real (x : Float)
  | text (s : String)
  | list (items : List Value)
  | object (members : List (String × Value))

namespace Value

/-- A character inside a string: quotes, backslashes and controls are escaped. -/
def escape (c : Char) : List Char :=
  match c with
  | '"' => ['\\', '"']
  | '\\' => ['\\', '\\']
  | '\x08' => ['\\', 'b']
  | '\x0c' => ['\\', 'f']
  | '\n' => ['\\', 'n']
  | '\r' => ['\\', 'r']
  | '\t' => ['\\', 't']
  | c =>
    if c.toNat < 0x20 then
      "\\u00".toList ++ [Nat.digitChar (c.toNat / 16), Nat.digitChar (c.toNat % 16)]
    else [c]

/-- The text of a string, in quotes. -/
def quoted (s : String) : List Char := '"' :: s.toList.flatMap escape ++ ['"']

/-- The end of a line and the indentation of the next. -/
def newline (level : Nat) : List Char := '\n' :: List.replicate (2 * level) ' '

/-- Puts the items of a container between its brackets, each on a line of its own. -/
def enclose (left right : Char) (level : Nat) : List (List Char) → List Char
  | [] => [left, right]
  | item :: items =>
    left :: (newline (level + 1) ++ item)
      ++ items.flatMap (fun i => ',' :: newline (level + 1) ++ i) ++ newline level ++ [right]

mutual

/-- The text of a value that stands at a level of indentation. -/
def print (level : Nat) : Value → List Char
  | natural n => Decimal.digits n
  | real x => (Decimal.shortestText? x).getD "null".toList
  | text s => quoted s
  | list items => enclose '[' ']' level (printItems (level + 1) items)
  | object members => enclose '\x7b' '\x7d' level (printMembers (level + 1) members)

/-- The texts of the elements of a list. -/
def printItems (level : Nat) : List Value → List (List Char)
  | [] => []
  | v :: vs => print level v :: printItems level vs

/-- The texts of the members of an object. -/
def printMembers (level : Nat) : List (String × Value) → List (List Char)
  | [] => []
  | (key, v) :: ms => (quoted key ++ ": ".toList ++ print level v) :: printMembers level ms

end

/-- The text of a value. -/
def pretty (v : Value) : String := String.ofList (v.print 0)

end Value

end BenchReport.Json
