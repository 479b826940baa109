import BenchReport.Grouping
import BenchReport.Measurement

/-!
# Scaling

How the throughput of a workload grows with its threads, against a growth in proportion.
One run of the workload is the baseline: the first with a single thread, or else the first
of all. Its throughput per thread tells what a run is expected to reach, and the efficiency
of a run is the percentage of it that the run does reach. A workload with one run only has
nothing to be compared with.
-/

namespace BenchReport

/-- A run against the expectation. -/
structure ScalingPoint where
  /-- The number of threads. -/
  threads : UInt32
  /-- The throughput that was measured. -/
  throughput : Float
  /-- The throughput of growth in proportion. -/
  expected : Float
  /-- The percentage that was reached. -/
  efficiency : Float
  deriving Repr

/-- The runs of one workload against the expectation. -/
structure WorkloadScaling where
  /-- The key of the workload. -/
  workload : String
  /-- The runs, in the order of the group. -/
  points : List ScalingPoint
  deriving Repr

namespace Scaling

/-- The run that the others are measured by. -/
def baseline? (runs : List Measurement) : Option Measurement :=
  (runs.find? (·.threads == 1)).or runs.head?

/-- The percentage of an expectation that was reached. Nothing is expected of a baseline
without throughput, and the percentage is zero. -/
def efficiency (throughput expected : Float) : Float :=
  if 0.0 < expected then throughput / expected * 100.0 else 0.0

/-- A run against so much throughput per thread. -/
def point (perThread : Float) (run : Measurement) : ScalingPoint :=
  let expected := perThread * run.threads.toFloat
  { threads := run.threads
    throughput := run.throughput
    expected := expected
    efficiency := efficiency run.throughput expected }

/-- The throughput per thread of a run. -/
def perThread (run : Measurement) : Float := run.throughput / run.threads.toFloat

/-- The runs of a workload against its baseline, if there are at least two. -/
def points? (runs : List Measurement) : Option (List ScalingPoint) :=
  if runs.length < 2 then none
  else (baseline? runs).map fun b => runs.map (point (perThread b))

/-- The scaling of every workload with at least two runs. -/
def ofGroups (t : Grouping Measurement) : List WorkloadScaling :=
  t.groups.filterMap fun g => (points? g.members).map fun points => ⟨g.key, points⟩

end Scaling

end BenchReport
