import BenchReport.Decimal.Shortest
import BenchReport.Instant
import BenchReport.Text.Quoted
import BenchReport.Text.Utf8

/-!
# Faults of a JSON text

Why a JSON text is refused, and where. The place of a fault is kept as the number of bytes
that the text still has after it, so that a reader needs to know no more than what is left
of the text; the line and the column are found once the whole text is at hand.
-/

namespace BenchReport.Json

/-- What was found where something else was expected. -/
inductive Found where
  | null
  | boolean (b : Bool)
  | integer (i : Int)
  | real (x : Float)
  | text (s : String)
  | sequence
  | map
  deriving Repr

/-- What was found, in words. -/
def Found.message : Found → String
  | null => "null"
  | boolean b => "boolean `" ++ (if b then "true" else "false") ++ "`"
  | integer i =>
    "integer `" ++ (if i < 0 then "-" else "") ++ Decimal.text i.natAbs ++ "`"
  | real x => "floating point `" ++ String.ofList ((Decimal.shortestText? x).getD []) ++ "`"
  | text s => "string " ++ Text.Quoted.text s
  | sequence => "sequence"
  | map => "map"

/-- Why a text is refused. -/
inductive Fault where
  | endInList
  | endInObject
  | endInString
  | endInValue
  | expectedColon
  | expectedListCommaOrEnd
  | expectedObjectCommaOrEnd
  | expectedWord
  | expectedValue
  | invalidEscape
  | invalidNumber
  | numberOutOfRange
  | controlCharacter
  | keyNotString
  | loneSurrogate
  | endOfEscape
  | trailingComma
  | trailingCharacters
  | invalidType (found : Found) (expected : String)
  | invalidValue (found : Found) (expected : String)
  | invalidLength (length : Nat) (record : String) (size : Nat)
  | missingField (name : String)
  | duplicateField (name : String)
  | invalidInstant (fault : Instant.Fault)
  deriving Repr

/-- The fault in words. -/
def Fault.message : Fault → String
  | endInList => "EOF while parsing a list"
  | endInObject => "EOF while parsing an object"
  | endInString => "EOF while parsing a string"
  | endInValue => "EOF while parsing a value"
  | expectedColon => "expected `:`"
  | expectedListCommaOrEnd => "expected `,` or `]`"
  | expectedObjectCommaOrEnd => "expected `,` or `\x7d`"
  | expectedWord => "expected ident"
  | expectedValue => "expected value"
  | invalidEscape => "invalid escape"
  | invalidNumber => "invalid number"
  | numberOutOfRange => "number out of range"
  | controlCharacter => "control character (\\u0000-\\u001F) found while parsing a string"
  | keyNotString => "key must be a string"
  | loneSurrogate => "lone leading surrogate in hex escape"
  | endOfEscape => "unexpected end of hex escape"
  | trailingComma => "trailing comma"
  | trailingCharacters => "trailing characters"
  | invalidType found expected =>
    "invalid type: " ++ found.message ++ ", expected " ++ expected
  | invalidValue found expected =>
    "invalid value: " ++ found.message ++ ", expected " ++ expected
  | invalidLength length record size =>
    "invalid length " ++ Decimal.text length ++ ", expected struct " ++ record
      ++ " with " ++ Decimal.text size ++ " elements"
  | missingField name => "missing field `" ++ name ++ "`"
  | duplicateField name => "duplicate field `" ++ name ++ "`"
  | invalidInstant fault => fault.message

/-- A fault and its place. -/
structure Failure where
  /-- The fault. -/
  fault : Fault
  /-- The number of bytes that follow its place. -/
  left : Nat
  deriving Repr

/-- A fault at the place that was reached. -/
def failAt {α : Type} (fault : Fault) (rest : List Char) : Except Failure α :=
  .error ⟨fault, Text.Utf8.size rest⟩

/-- A fault some bytes past the place that was reached, or at the end of the text. -/
def failPast {α : Type} (bytes : Nat) (fault : Fault) (rest : List Char) : Except Failure α :=
  .error ⟨fault, Text.Utf8.size rest - bytes⟩

/-- An outcome together with what is known of it, so that a loop can rely on that. -/
def known {α : Type} {p : α → Prop} (x : Except Failure α) (h : ∀ a, x = .ok a → p a) :
    Except Failure { a // p a } :=
  match x, h with
  | .error f, _ => .error f
  | .ok a, h => .ok ⟨a, h a rfl⟩

@[simp] theorem known_error {α : Type} {p : α → Prop} {f : Failure}
    (h : ∀ a, Except.error f = .ok a → p a) : known (.error f) h = .error f := rfl

@[simp] theorem known_ok {α : Type} {p : α → Prop} {a : α}
    (h : ∀ b, Except.ok a = .ok b → p b) : known (.ok a) h = .ok ⟨a, h a rfl⟩ := rfl

/-- The line and the column of a place: lines count from one, and a column is the number of
bytes of the line before the place. -/
def place (text : List Char) (left : Nat) : Nat × Nat :=
  let bytes := Text.Utf8.encode text
  let before := bytes.take (bytes.length - left)
  (before.count 0x0A + 1, (before.reverse.takeWhile (· != 0x0A)).length)

/-- A fault with its line and column. -/
structure Located where
  /-- The fault. -/
  fault : Fault
  /-- The line, from one. -/
  line : Nat
  /-- The number of bytes of the line before the place. -/
  column : Nat
  deriving Repr

/-- A failure with its line and column in a text. -/
def Failure.locate (f : Failure) (text : List Char) : Located :=
  ⟨f.fault, (place text f.left).1, (place text f.left).2⟩

/-- The fault in words, with its line and column. -/
def Located.message (l : Located) : String :=
  l.fault.message ++ " at line " ++ Decimal.text l.line ++ " column "
    ++ Decimal.text l.column

end BenchReport.Json
