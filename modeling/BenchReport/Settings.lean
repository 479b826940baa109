import BenchReport.Log.Event

/-!
# Settings

What a run is told to do: where its inputs are, where its outputs go and under which names,
and how much it says meanwhile.
-/

namespace BenchReport

/-- The version of the program. -/
def version : String := "0.2.0"

/-- What a run is told to do. -/
structure Settings where
  /-- The directory of the timing reports. -/
  timings : Option String := none
  /-- The directory of the measurement files. -/
  measurements : Option String := none
  /-- The directory of the outputs. -/
  output : String := "benchmark_results/analysis"
  /-- The name of the report. -/
  reportName : String := "analysis_report.md"
  /-- The name of the snapshot. -/
  dataName : String := "analysis_data.json"
  /-- Whether the report is printed as well. -/
  echo : Bool := true
  /-- The file that the log is added to. -/
  logFile : Option String := none
  /-- The least level that is logged, unless a filter says otherwise. -/
  level : Log.Level := .info
  deriving Repr, DecidableEq

/-- Whether there is a directory to load from. -/
def Settings.hasInputs (s : Settings) : Bool := s.timings.isSome || s.measurements.isSome

end BenchReport
