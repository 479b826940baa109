import BenchReport.Text.Case

/-!
# Measurements

The measurement of one run of a concurrent workload: how many threads ran, for how long, how
many operations they did, and how long single operations took. Two measurements are of the
same workload if their labels differ in letter case only.
-/

namespace BenchReport

/-- The distribution of the latencies of a run, in milliseconds. -/
structure Latencies where
  /-- The least. -/
  min : Float
  /-- The greatest. -/
  max : Float
  /-- The mean. -/
  mean : Float
  /-- The median. -/
  p50 : Float
  /-- The 95th percentile. -/
  p95 : Float
  /-- The 99th percentile. -/
  p99 : Float
  deriving Repr

/-- The measurement of one run. -/
structure Measurement where
  /-- The label of the workload. -/
  workload : String
  /-- The number of threads. -/
  threads : UInt32
  /-- The duration in seconds. -/
  duration : UInt64
  /-- The number of operations. -/
  total : UInt64
  /-- The number of operations that succeeded. -/
  successful : UInt64
  /-- The number of operations that failed. -/
  failed : UInt64
  /-- Operations per second. -/
  throughput : Float
  /-- The latencies. -/
  latencies : Latencies
  deriving Repr

namespace Measurement

/-- The key of the workload: its label in lower case. -/
def key (m : Measurement) : String := Text.lowerCase m.workload

/-- Whether the operations that succeeded or failed are no more than there were. -/
def isConsistent (m : Measurement) : Bool := m.successful.toNat + m.failed.toNat ≤ m.total.toNat

end Measurement

end BenchReport
