import BenchReport.Analysis
import BenchReport.Instant

/-!
# Snapshots

The numbers behind a report, for other programs: when and where they were taken, the timings
by report, the measurements in the order of loading, and the scaling by workload.
-/

namespace BenchReport

/-- The program and the host of a snapshot. -/
structure Origin where
  /-- The version of the program. -/
  version : String
  /-- The operating system. -/
  os : String
  /-- The architecture of the processor. -/
  architecture : String
  /-- The number of processor cores. -/
  cores : UInt64
  deriving Repr, DecidableEq

namespace Snapshot

/-- The timing of a benchmark in a snapshot, in microseconds. -/
structure TimingEntry where
  /-- The name of the benchmark. -/
  name : String
  /-- The median. -/
  mid : Float
  /-- The lower bound. -/
  low : Float
  /-- The upper bound. -/
  high : Float
  deriving Repr

/-- A measurement in a snapshot. -/
structure RunEntry where
  /-- The label of the workload. -/
  workload : String
  /-- The number of threads. -/
  threads : UInt32
  /-- Operations per second. -/
  throughput : Float
  /-- The median latency in milliseconds. -/
  p50 : Float
  /-- The 99th percentile of the latency in milliseconds. -/
  p99 : Float
  /-- The number of operations. -/
  total : UInt64
  deriving Repr

/-- The entry of a timing. -/
def TimingEntry.ofTiming (t : Timing) : TimingEntry := ⟨t.name, t.mid, t.low, t.high⟩

/-- The entry of a measurement. -/
def RunEntry.ofMeasurement (m : Measurement) : RunEntry :=
  ⟨m.workload, m.threads, m.throughput, m.latencies.p50, m.latencies.p99, m.total⟩

end Snapshot

/-- The numbers behind a report. -/
structure Snapshot where
  /-- When the report was generated. -/
  timestamp : Instant
  /-- The program and the host. -/
  origin : Origin
  /-- The timings of each report, by its name. -/
  timings : Keyed (List Snapshot.TimingEntry)
  /-- The measurements in the order of loading. -/
  runs : List Snapshot.RunEntry
  /-- The scaling of each workload, by its key. -/
  scaling : Keyed (List ScalingPoint)

/-- The snapshot of records and their analysis. -/
def Snapshot.ofAnalysis (r : Records) (a : Analysis) (origin : Origin) (timestamp : Instant) :
    Snapshot where
  timestamp := timestamp
  origin := origin
  timings := r.timings.mapValues (·.map TimingEntry.ofTiming)
  runs := r.measurements.map RunEntry.ofMeasurement
  scaling := .ofList (a.scaling.map fun s => (s.workload, s.points))

end BenchReport
