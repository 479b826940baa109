import BenchReport.Json.Record
import BenchReport.Measurement

/-!
# The text of a measurement

A measurement is kept as a JSON record. All its fields are required, others are passed over,
and a measurement without threads is refused once the text has been read to its end.
-/

namespace BenchReport

open Json (Reader Field Schema need)

namespace Latencies

/-- Latencies in the making. -/
structure Draft where
  min : Option Float := none
  max : Option Float := none
  mean : Option Float := none
  p50 : Option Float := none
  p95 : Option Float := none
  p99 : Option Float := none

/-- The record of latencies. -/
def schema : Schema Draft Latencies where
  name := "LatencySummary"
  start := {}
  fields := [
    .of "min" (·.min) (fun d x => { d with min := some x }) .real,
    .of "max" (·.max) (fun d x => { d with max := some x }) .real,
    .of "mean" (·.mean) (fun d x => { d with mean := some x }) .real,
    .of "p50" (·.p50) (fun d x => { d with p50 := some x }) .real,
    .of "p95" (·.p95) (fun d x => { d with p95 := some x }) .real,
    .of "p99" (·.p99) (fun d x => { d with p99 := some x }) .real]
  finish d := do
    let min ← need "min" d.min
    let max ← need "max" d.max
    let mean ← need "mean" d.mean
    let p50 ← need "p50" d.p50
    let p95 ← need "p95" d.p95
    let p99 ← need "p99" d.p99
    return ⟨min, max, mean, p50, p95, p99⟩

end Latencies

namespace Measurement

/-- A measurement in the making. -/
structure Draft where
  workload : Option String := none
  threads : Option UInt32 := none
  duration : Option UInt64 := none
  total : Option UInt64 := none
  successful : Option UInt64 := none
  failed : Option UInt64 := none
  throughput : Option Float := none
  latencies : Option Latencies := none

/-- The record of a measurement. -/
def schema : Schema Draft Measurement where
  name := "ConcurrencyRecord"
  start := {}
  fields := [
    .of "workload_type" (·.workload) (fun d x => { d with workload := some x }) .text,
    .of "threads" (·.threads) (fun d x => { d with threads := some x }) .word32,
    .of "duration_secs" (·.duration) (fun d x => { d with duration := some x }) .word64,
    .of "total_operations" (·.total) (fun d x => { d with total := some x }) .word64,
    .of "successful_operations" (·.successful) (fun d x => { d with successful := some x })
      .word64,
    .of "failed_operations" (·.failed) (fun d x => { d with failed := some x }) .word64,
    .of "throughput_ops_per_sec" (·.throughput) (fun d x => { d with throughput := some x })
      .real,
    .of "latencies_ms" (·.latencies) (fun d x => { d with latencies := some x })
      Latencies.schema.reader]
  finish d := do
    let workload ← need "workload_type" d.workload
    let threads ← need "threads" d.threads
    let duration ← need "duration_secs" d.duration
    let total ← need "total_operations" d.total
    let successful ← need "successful_operations" d.successful
    let failed ← need "failed_operations" d.failed
    let throughput ← need "throughput_ops_per_sec" d.throughput
    let latencies ← need "latencies_ms" d.latencies
    return ⟨workload, threads, duration, total, successful, failed, throughput, latencies⟩

/-- Why a text is not read as a measurement. -/
inductive TextFault where
  | malformed (fault : Json.Located)
  | noThreads
  deriving Repr

/-- The measurement that a text holds. -/
def ofText (text : List Char) : Except TextFault Measurement :=
  match Json.parse schema.reader text with
  | .error l => .error (.malformed l)
  | .ok m => if m.threads = 0 then .error .noThreads else .ok m

/-- What is said of the text of a file that holds no measurement. -/
def TextFault.message (path : String) : TextFault → String
  | malformed l => "Malformed measurement file " ++ path ++ ": " ++ l.message
  | noThreads => "Invalid thread count in " ++ path ++ ": threads must be at least 1"

end Measurement

end BenchReport
