import BenchReport.Quantity

/-!
# Timings

The timing of one benchmark, as a timing report gives it: a median with the bounds around
it, in microseconds. Benchmarks are named `category/label`; a name without a slash is a
category of its own.
-/

namespace BenchReport

/-- The timing of one benchmark. -/
structure Timing where
  /-- The name as it stands in the report, the category included. -/
  name : String
  /-- The lower bound in microseconds. -/
  low : Float
  /-- The median in microseconds. -/
  mid : Float
  /-- The upper bound in microseconds. -/
  high : Float
  /-- The throughput line that followed, trimmed. -/
  throughput : Option String
  deriving Repr

namespace Timing

/-- The category of a benchmark: its name up to the first slash. -/
def categoryOf (name : String) : String := String.ofList (name.toList.takeWhile (· != '/'))

/-- The name of a benchmark within a category: what follows the category and a slash, or
the whole name of a benchmark of no such category. -/
def labelIn (category name : String) : String :=
  match (category.toList ++ ['/']).isPrefixOf? name.toList with
  | some label => String.ofList label
  | none => name

/-- The category of a timing. -/
def category (t : Timing) : String := categoryOf t.name

/-- The label of a timing within a category. -/
def label (t : Timing) (category : String) : String := labelIn category t.name

end Timing

end BenchReport
