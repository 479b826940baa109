import BenchReport.Analysis
import BenchReport.Instant
import BenchReport.Quantity
import BenchReport.Text.Case

/-!
# Reports

The report of an analysis for people: a summary, a table for each category of timings, for
each workload, and for the scaling of each workload, and the findings. A section without
groups is left out. A report is built as a list of lines; the time of its making stands in
one of them and nothing else depends on it.

A row of a table is written with a bar before its first cell and after every cell, and a cell
with a space on either side, so a row without bars in its cells has one bar more than it has
cells. The rule under the heads is as wide as they are.
-/

namespace BenchReport.Report

/-! ### Tables -/

/-- A table under a heading. -/
structure Table where
  /-- The heading. -/
  title : String
  /-- The heads of the columns. -/
  heads : List String
  /-- The cells of each row. -/
  rows : List (List String)
  deriving Repr, DecidableEq

/-- Tables under a common heading. -/
structure Section where
  /-- The heading. -/
  title : String
  /-- The tables. -/
  tables : List Table
  deriving Repr, DecidableEq

namespace Table

/-- The line of a row. -/
def rowLine (cells : List String) : String :=
  "|" ++ String.join (cells.map fun cell => " " ++ cell ++ " |")

/-- The line between the heads and the rows. -/
def ruleLine (heads : List String) : String :=
  "|" ++ String.join
    (heads.map fun head => String.ofList (List.replicate (head.length + 2) '-') ++ "|")

/-- The lines of a table. -/
def lines (t : Table) : List String :=
  ["### " ++ t.title, "", rowLine t.heads, ruleLine t.heads] ++ t.rows.map rowLine ++ [""]

end Table

/-- The lines of a section. -/
def Section.lines (s : Section) : List String :=
  ["## " ++ s.title, ""] ++ s.tables.flatMap Table.lines

/-- Lines as a text, each ended by a line feed. -/
def textOfLines (lines : List String) : String := String.join (lines.map (· ++ "\n"))

example : Table.rowLine ["a", "b"] = "| a | b |" := by decide +kernel

example : Table.ruleLine ["a", "bc"] = "|---|----|" := by decide +kernel

/-! ### Sections -/

/-- A time with its bounds as the cells of a row. -/
def timingRow (category : String) (t : Timing) : List String :=
  [t.label category, Quantity.time t.mid,
    "[" ++ Quantity.time t.low ++ " - " ++ Quantity.time t.high ++ "]"]

/-- The table of a category. -/
def timingTable (g : Group Timing) : Table where
  title := g.key
  heads := ["Benchmark", "Time (median)", "Time Range"]
  rows := g.members.map (timingRow g.key)

/-- The timings by category. -/
def timingSection (t : Grouping Timing) : Section :=
  ⟨"Criterion Benchmark Results", t.groups.map timingTable⟩

/-- A number of threads. -/
def threadCount (n : UInt32) : String := Decimal.text n.toNat

/-- A measurement as the cells of a row. -/
def measurementRow (m : Measurement) : List String :=
  [threadCount m.threads, Quantity.rate m.throughput, Quantity.latency m.latencies.p50,
    Quantity.latency m.latencies.p99, Quantity.count m.total.toNat]

/-- The table of a workload. -/
def measurementTable (g : Group Measurement) : Table where
  title := Text.capitalize g.key ++ " Workload"
  heads := ["Threads", "Throughput", "Latency p50", "Latency p99", "Total Ops"]
  rows := g.members.map measurementRow

/-- The measurements by workload. -/
def measurementSection (t : Grouping Measurement) : Section :=
  ⟨"Concurrent Benchmark Results", t.groups.map measurementTable⟩

/-- A run against the expectation as the cells of a row. -/
def scalingRow (p : ScalingPoint) : List String :=
  [threadCount p.threads, Quantity.rate p.throughput, Quantity.rate p.expected,
    Quantity.percentage p.efficiency]

/-- The table of the scaling of a workload. -/
def scalingTable (s : WorkloadScaling) : Table where
  title := Text.capitalize s.workload ++ " Workload Scaling"
  heads := ["Threads", "Throughput", "Expected (Linear)", "Efficiency"]
  rows := s.points.map scalingRow

/-- The scaling by workload. -/
def scalingSection (s : List WorkloadScaling) : Section :=
  ⟨"Scalability Analysis", s.map scalingTable⟩

/-- The sections of an analysis. -/
def sections (a : Analysis) : List Section :=
  (if a.categories.isEmpty then [] else [timingSection a.categories])
    ++ (if a.workloads.isEmpty then [] else [measurementSection a.workloads])
    ++ (if a.scaling.isEmpty then [] else [scalingSection a.scaling])

/-! ### Summary and findings -/

/-- An item under a bold name. -/
def item (name value : String) : String := "- **" ++ name ++ "**: " ++ value

/-- A timing in a sentence. -/
def timingPhrase (t : Timing) : String := t.name ++ " at " ++ Quantity.time t.mid

/-- The summary's item of a peak. -/
def peakItem (name : String) (peak? : Option Measurement) : List String :=
  (peak?.map fun run => item name (Quantity.rate run.throughput)).toList

/-- An item of the fastest timing. -/
def fastestItem (name : String) (fastest? : Option Timing) : List String :=
  (fastest?.map fun t => item name (timingPhrase t)).toList

/-- The items that the summary has if there is something to say. -/
def summaryItems (a : Analysis) : List String :=
  peakItem "Peak Read Throughput" (a.peak? "read")
    ++ peakItem "Peak Write Throughput" (a.peak? "write")
    ++ fastestItem "Fastest Operation" a.fastest?

/-- What the summary says if there is nothing else to say. -/
def nothingFound : String := "- No benchmark results were found"

/-- The lines of the summary. -/
def summaryLines (a : Analysis) : List String :=
  let items := summaryItems a
  ["## Executive Summary", ""] ++ (if items.isEmpty then [nothingFound] else items) ++ [""]

/-- The finding on the peak of a workload. -/
def peakFinding (workload : String) (peak? : Option Measurement) : List String :=
  (peak?.map fun run =>
    item ("Best concurrent " ++ workload)
      (Quantity.rate run.throughput ++ " with " ++ threadCount run.threads ++ " threads")).toList

/-- The finding on the scaling of a workload: how efficient its last run is. -/
def scalingFinding (s : WorkloadScaling) : List String :=
  (s.points.getLast?.map fun p =>
    item (Text.capitalize s.workload ++ " scaling")
      (Quantity.percentage p.efficiency ++ " efficiency at " ++ threadCount p.threads
        ++ " threads")).toList

/-- The lines of the findings. -/
def findingLines (a : Analysis) : List String :=
  ["## Key Findings", ""]
    ++ fastestItem "Fastest operation" a.fastest?
    ++ peakFinding "read" (a.peak? "read")
    ++ peakFinding "write" (a.peak? "write")
    ++ a.scaling.flatMap scalingFinding
    ++ [""]

/-! ### The report -/

/-- The line that says when a report was made. -/
def generatedLine (generated : Instant) : String := "**Generated**: " ++ generated.text

/-- The lines of a report below its head. -/
def bodyLines (a : Analysis) : List String :=
  summaryLines a ++ (sections a).flatMap Section.lines ++ findingLines a

/-- The lines of a report. -/
def lines (a : Analysis) (generated : Instant) : List String :=
  ["# Performance Analysis Report", "", generatedLine generated, "", "---", ""] ++ bodyLines a

/-- The text of a report. -/
def text (a : Analysis) (generated : Instant) : String := textOfLines (lines a generated)

end BenchReport.Report
