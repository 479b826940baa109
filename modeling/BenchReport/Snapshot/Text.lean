import BenchReport.Json.Record
import BenchReport.Json.Value
import BenchReport.Snapshot

/-!
# The text of a snapshot

A snapshot is written as a JSON record and can be read again. The writer and the reader go
by the same names of fields.
-/

namespace BenchReport

open Json (Reader Field Schema Value need)

/-! ### Writing -/

/-- The value of the origin of a snapshot. -/
def Origin.toJson (o : Origin) : Value :=
  .object [("version", .text o.version), ("os", .text o.os),
    ("architecture", .text o.architecture), ("cpu_cores", .natural o.cores.toNat)]

/-- The value of a scaling point. -/
def ScalingPoint.toJson (p : ScalingPoint) : Value :=
  .object [("threads", .natural p.threads.toNat), ("throughput", .real p.throughput),
    ("expected_linear", .real p.expected), ("efficiency", .real p.efficiency)]

namespace Snapshot

/-- The value of a timing. -/
def TimingEntry.toJson (e : TimingEntry) : Value :=
  .object [("name", .text e.name), ("time_mid_us", .real e.mid), ("time_low_us", .real e.low),
    ("time_high_us", .real e.high)]

/-- The value of a measurement. -/
def RunEntry.toJson (e : RunEntry) : Value :=
  .object [("workload", .text e.workload), ("threads", .natural e.threads.toNat),
    ("throughput", .real e.throughput), ("latency_p50_ms", .real e.p50),
    ("latency_p99_ms", .real e.p99), ("total_ops", .natural e.total.toNat)]

/-- The value of a map to lists. -/
def keyedLists {α : Type} (f : α → Value) (m : Keyed (List α)) : Value :=
  .object (m.entries.map fun e => (e.1, .list (e.2.map f)))

/-- The value of a snapshot. -/
def toJson (s : Snapshot) : Value :=
  .object [("timestamp", .text s.timestamp.rfc3339), ("metadata", s.origin.toJson),
    ("criterion_benchmarks", keyedLists TimingEntry.toJson s.timings),
    ("concurrent_benchmarks", .list (s.runs.map RunEntry.toJson)),
    ("scalability", keyedLists ScalingPoint.toJson s.scaling)]

/-- The text of a snapshot. -/
def text (s : Snapshot) : String := s.toJson.pretty

end Snapshot

/-! ### Reading -/

/-- An origin in the making. -/
structure Origin.Draft where
  version : Option String := none
  os : Option String := none
  architecture : Option String := none
  cores : Option UInt64 := none

/-- The record of an origin. -/
def Origin.schema : Schema Origin.Draft Origin where
  name := "SnapshotMetadata"
  start := {}
  fields := [
    .of "version" (·.version) (fun d x => { d with version := some x }) .text,
    .of "os" (·.os) (fun d x => { d with os := some x }) .text,
    .of "architecture" (·.architecture) (fun d x => { d with architecture := some x }) .text,
    .of "cpu_cores" (·.cores) (fun d x => { d with cores := some x }) .size]
  finish d := do
    let version ← need "version" d.version
    let os ← need "os" d.os
    let architecture ← need "architecture" d.architecture
    let cores ← need "cpu_cores" d.cores
    return ⟨version, os, architecture, cores⟩

/-- A scaling point in the making. -/
structure ScalingPoint.Draft where
  threads : Option UInt32 := none
  throughput : Option Float := none
  expected : Option Float := none
  efficiency : Option Float := none

/-- The record of a scaling point. -/
def ScalingPoint.schema : Schema ScalingPoint.Draft ScalingPoint where
  name := "ScalingPoint"
  start := {}
  fields := [
    .of "threads" (·.threads) (fun d x => { d with threads := some x }) .word32,
    .of "throughput" (·.throughput) (fun d x => { d with throughput := some x }) .real,
    .of "expected_linear" (·.expected) (fun d x => { d with expected := some x }) .real,
    .of "efficiency" (·.efficiency) (fun d x => { d with efficiency := some x }) .real]
  finish d := do
    let threads ← need "threads" d.threads
    let throughput ← need "throughput" d.throughput
    let expected ← need "expected_linear" d.expected
    let efficiency ← need "efficiency" d.efficiency
    return ⟨threads, throughput, expected, efficiency⟩

namespace Snapshot

/-- A timing in the making. -/
structure TimingEntry.Draft where
  name : Option String := none
  mid : Option Float := none
  low : Option Float := none
  high : Option Float := none

/-- The record of a timing. -/
def TimingEntry.schema : Schema TimingEntry.Draft TimingEntry where
  name := "TimingEntry"
  start := {}
  fields := [
    .of "name" (·.name) (fun d x => { d with name := some x }) .text,
    .of "time_mid_us" (·.mid) (fun d x => { d with mid := some x }) .real,
    .of "time_low_us" (·.low) (fun d x => { d with low := some x }) .real,
    .of "time_high_us" (·.high) (fun d x => { d with high := some x }) .real]
  finish d := do
    let name ← need "name" d.name
    let mid ← need "time_mid_us" d.mid
    let low ← need "time_low_us" d.low
    let high ← need "time_high_us" d.high
    return ⟨name, mid, low, high⟩

/-- A measurement in the making. -/
structure RunEntry.Draft where
  workload : Option String := none
  threads : Option UInt32 := none
  throughput : Option Float := none
  p50 : Option Float := none
  p99 : Option Float := none
  total : Option UInt64 := none

/-- The record of a measurement. -/
def RunEntry.schema : Schema RunEntry.Draft RunEntry where
  name := "ConcurrencyEntry"
  start := {}
  fields := [
    .of "workload" (·.workload) (fun d x => { d with workload := some x }) .text,
    .of "threads" (·.threads) (fun d x => { d with threads := some x }) .word32,
    .of "throughput" (·.throughput) (fun d x => { d with throughput := some x }) .real,
    .of "latency_p50_ms" (·.p50) (fun d x => { d with p50 := some x }) .real,
    .of "latency_p99_ms" (·.p99) (fun d x => { d with p99 := some x }) .real,
    .of "total_ops" (·.total) (fun d x => { d with total := some x }) .word64]
  finish d := do
    let workload ← need "workload" d.workload
    let threads ← need "threads" d.threads
    let throughput ← need "throughput" d.throughput
    let p50 ← need "latency_p50_ms" d.p50
    let p99 ← need "latency_p99_ms" d.p99
    let total ← need "total_ops" d.total
    return ⟨workload, threads, throughput, p50, p99, total⟩

/-- A snapshot in the making. -/
structure Draft where
  timestamp : Option Instant := none
  origin : Option Origin := none
  timings : Option (Keyed (List TimingEntry)) := none
  runs : Option (List RunEntry) := none
  scaling : Option (Keyed (List ScalingPoint)) := none

/-- The record of a snapshot. -/
def schema : Schema Draft Snapshot where
  name := "AnalysisSnapshot"
  start := {}
  fields := [
    .of "timestamp" (·.timestamp) (fun d x => { d with timestamp := some x }) .instant,
    .of "metadata" (·.origin) (fun d x => { d with origin := some x }) Origin.schema.reader,
    .of "criterion_benchmarks" (·.timings) (fun d x => { d with timings := some x })
      TimingEntry.schema.reader.list.keyed,
    .of "concurrent_benchmarks" (·.runs) (fun d x => { d with runs := some x })
      RunEntry.schema.reader.list,
    .of "scalability" (·.scaling) (fun d x => { d with scaling := some x })
      ScalingPoint.schema.reader.list.keyed]
  finish d := do
    let timestamp ← need "timestamp" d.timestamp
    let origin ← need "metadata" d.origin
    let timings ← need "criterion_benchmarks" d.timings
    let runs ← need "concurrent_benchmarks" d.runs
    let scaling ← need "scalability" d.scaling
    return ⟨timestamp, origin, timings, runs, scaling⟩

/-- The snapshot that a text holds. -/
def ofText (text : List Char) : Except Json.Located Snapshot := Json.parse schema.reader text

end Snapshot

end BenchReport
