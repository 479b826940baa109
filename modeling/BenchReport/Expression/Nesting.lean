/-!
# How deep an expression is nested

Each group, each repetition, each class, each choice, and each row of two or more items is one
level around what it holds. A single item in a row, and a single branch of a choice, stand for
themselves and are no level. What is counted here is the levels, while the items are read from
left to right; an expression with more than `limit` of them is refused.
-/

namespace BenchReport.Expression

/-- The greatest number of levels. -/
def limit : Nat := 250

/-- Items that stand side by side. -/
structure Row where
  /-- The number of items. -/
  count : Nat := 0
  /-- The number of levels of the deepest item. -/
  depth : Nat := 0
  deriving Repr, DecidableEq

namespace Row

/-- A row with an item of some levels at its end. -/
def push (r : Row) (depth : Nat) : Row := ⟨r.count + 1, max r.depth depth⟩

/-- The levels of a row. -/
def whole (r : Row) : Nat := if r.count ≤ 1 then r.depth else r.depth + 1

end Row

/-- The branches of a choice, up to where its reader is. -/
structure Choice where
  /-- The items of the last branch. -/
  row : Row := {}
  /-- The levels of the last item, if it may be repeated. -/
  last? : Option Nat := none
  /-- The levels of the deepest branch before the last, if there is one. -/
  before? : Option Nat := none
  deriving Repr, DecidableEq

namespace Choice

/-- The choice with an item at the end of the last branch. -/
def push (b : Choice) (depth : Nat) : Choice :=
  { b with row := b.row.push depth, last? := some depth }

/-- The choice with an item that may not be repeated. -/
def pushMark (b : Choice) : Choice := { b with row := b.row.push 0, last? := none }

/-- The choice with its last item repeated. There is none to repeat if the last branch is empty
or ends with what only sets flags. -/
def repeatLast? (b : Choice) : Option Choice :=
  b.last?.map fun d =>
    { b with row := { b.row with depth := max b.row.depth (d + 1) }, last? := some (d + 1) }

/-- The choice with an empty branch at its end. -/
def next (b : Choice) : Choice := { before? := some (max (b.before?.getD 0) b.row.whole) }

/-- The levels of a choice. -/
def whole (b : Choice) : Nat :=
  match b.before? with
  | none => b.row.whole
  | some d => max d b.row.whole + 1

end Choice

/-- The members of a class, up to where its reader is. An operation joins all that stands before
it with the members that follow it up to the next operation. -/
structure Members where
  /-- The members since the last operation. -/
  row : Row := {}
  /-- The levels of what stands before the last operation, if there is one. -/
  left? : Option Nat := none
  deriving Repr, DecidableEq

namespace Members

/-- The class with another member. -/
def push (m : Members) (depth : Nat) : Members := { m with row := m.row.push depth }

/-- The levels of the members. -/
def whole (m : Members) : Nat :=
  match m.left? with
  | none => m.row.whole
  | some d => max d m.row.whole + 1

/-- The class with an operation at its end. -/
def operate (m : Members) : Members := { left? := some m.whole }

end Members

end BenchReport.Expression
