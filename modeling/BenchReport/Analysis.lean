import BenchReport.Keyed
import BenchReport.Scaling
import BenchReport.Timing

/-!
# The analysis

What a report is about: the timings of the reports by category, the measurements by workload
and number of threads, and the scaling of the workloads. All of it follows from the records
that were loaded, and groups stand in the order in which the records brought them up.
-/

namespace BenchReport

/-- The records that were loaded. -/
structure Records where
  /-- The timings of each report, by its name. -/
  timings : Keyed (List Timing)
  /-- The measurements in the order of loading. -/
  measurements : List Measurement

namespace Records

/-- No records. -/
def empty : Records := ⟨.empty, []⟩

/-- The timings of all reports, report after report. -/
def allTimings (r : Records) : List Timing := r.timings.values.flatten

/-- The number of timings. -/
def timingCount (r : Records) : Nat := (r.timings.values.map List.length).foldr (· + ·) 0

/-- Whether there is neither a timing nor a measurement. -/
def isEmpty (r : Records) : Bool := r.timings.values.all List.isEmpty && r.measurements.isEmpty

end Records

/-- Whether a measurement comes before another in its group, or may do so. -/
def Measurement.fewerThreads (a b : Measurement) : Bool := a.threads ≤ b.threads

/-- Timings by category. -/
def byCategory (ts : List Timing) : Grouping Timing := Grouping.groupBy Timing.category ts

/-- Measurements by workload, those of a workload in order of their threads. Measurements
with equally many threads stay in the order in which they came. -/
def byWorkload (ms : List Measurement) : Grouping Measurement :=
  (Grouping.groupBy Measurement.key ms).rearrange (·.mergeSort Measurement.fewerThreads)

/-- The groups and what follows from them. -/
structure Analysis where
  /-- The timings by category. -/
  categories : Grouping Timing
  /-- The measurements by workload. -/
  workloads : Grouping Measurement
  /-- The scaling of the workloads. -/
  scaling : List WorkloadScaling

namespace Analysis

/-- The analysis of the records. -/
def ofRecords (r : Records) : Analysis :=
  let workloads := byWorkload r.measurements
  { categories := byCategory r.allTimings
    workloads := workloads
    scaling := Scaling.ofGroups workloads }

/-- The first value of a list that no later one beats. -/
def best? {α : Type} (beats : α → α → Bool) : List α → Option α
  | [] => none
  | a :: r => some (r.foldl (fun best b => if beats b best then b else best) a)

/-- The run of a workload with the greatest throughput, the first of them if there are
several. -/
def peak? (a : Analysis) (workload : String) : Option Measurement :=
  (a.workloads.get? workload).bind (best? fun run best => best.throughput < run.throughput)

/-- The timing with the least median, the first of them if there are several. -/
def fastest? (a : Analysis) : Option Timing :=
  best? (fun t best => t.mid < best.mid) a.categories.members

end Analysis

end BenchReport
