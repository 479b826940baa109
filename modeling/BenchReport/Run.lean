import BenchReport.Files.Writing
import BenchReport.Inputs
import BenchReport.Report
import BenchReport.Settings
import BenchReport.Snapshot.Text

/-!
# Runs

A run loads its inputs, composes the report and the snapshot, and writes the two into the
output directory. Only the writing can fail, and what was written before it failed stays.
-/

namespace BenchReport

open Files (RawText)

/-- What a run writes. -/
inductive Output where
  /-- The directory of the outputs. -/
  | directory
  /-- The report. -/
  | report
  /-- The snapshot. -/
  | data
  deriving Repr, DecidableEq

/-- Why a run failed. -/
structure OutputFault where
  /-- What could not be written. -/
  output : Output
  /-- Its path. -/
  path : RawText
  /-- Why. -/
  cause : Files.Fault
  deriving Repr, DecidableEq

/-- What could not be done. -/
def OutputFault.context (e : OutputFault) : String :=
  (match e.output with
    | .directory => "Failed to create output directory "
    | .report => "Failed to write report "
    | .data => "Failed to write analysis data ") ++ e.path.shown

/-- What could not be done, and why. -/
def OutputFault.message (e : OutputFault) : String := e.context ++ ": " ++ e.cause.message

/-- The outputs of a run before they are written. -/
structure Composed where
  /-- The text of the report. -/
  report : String
  /-- The snapshot. -/
  snapshot : Snapshot

/-- The outputs for some records. -/
def Composed.ofRecords (r : Records) (origin : Origin) (generated : Instant) : Composed :=
  let a := Analysis.ofRecords r
  ⟨Report.text a generated, .ofAnalysis r a origin generated⟩

namespace Settings

/-- The path of the directory of the timing reports. -/
def timingsPath (s : Settings) : Option RawText := s.timings.map .ofText

/-- The path of the directory of the measurement files. -/
def measurementsPath (s : Settings) : Option RawText := s.measurements.map .ofText

/-- The path of the report. -/
def reportPath (s : Settings) : RawText := Files.Path.join s.output s.reportName

/-- The path of the snapshot. -/
def dataPath (s : Settings) : RawText := Files.Path.join s.output s.dataName

end Settings

/-- What came of writing the outputs. -/
structure Writing where
  /-- The files afterwards. -/
  tree : Files.Tree
  /-- Why it failed, if it did. -/
  fault? : Option OutputFault
  deriving Repr, DecidableEq

namespace Writing

/-- Goes on after an attempt, unless it failed. -/
def after (a : Files.Attempt) (output : Output) (path : RawText) (next : Files.Tree → Writing) :
    Writing :=
  match a.fault? with
  | some e => ⟨a.tree, some ⟨output, path, e⟩⟩
  | none => next a.tree

/-- The bytes of a text. -/
def bytesOf (s : String) : List UInt8 := Text.Utf8.encode s.toList

/-- Writes the outputs: makes the directory, then writes the report, then the snapshot. -/
def ofOutputs (t : Files.Tree) (s : Settings) (c : Composed) : Writing :=
  after (t.makeDirectories s.output) .directory s.output fun t =>
  after (t.write s.reportPath (bytesOf c.report)) .report s.reportPath fun t =>
  after (t.write s.dataPath (bytesOf c.snapshot.text)) .data s.dataPath fun t =>
  ⟨t, none⟩

end Writing

/-- A run that is over. -/
structure Run where
  /-- The inputs. -/
  inputs : Inputs
  /-- The outputs. -/
  composed : Composed
  /-- What came of writing them. -/
  writing : Writing

namespace Run

/-- Runs with some settings on some files. -/
def perform (t : Files.Tree) (s : Settings) (origin : Origin) (generated : Instant) : Run :=
  let inputs := Inputs.load t s.timingsPath s.measurementsPath
  let composed := Composed.ofRecords inputs.records origin generated
  ⟨inputs, composed, .ofOutputs t s composed⟩

/-! ### The log -/

/-- What is said before the outputs are composed. -/
def loadingEvents (s : Settings) (i : Inputs) : List Log.Event :=
  (if s.hasInputs then []
    else [⟨.warn, .pipeline, "No input directories given; the report will be empty"⟩])
  ++ i.events
  ++ [⟨.info, .pipeline,
      "Loaded " ++ Decimal.text i.records.timingCount ++ " timing records from "
        ++ Decimal.text i.records.timings.size ++ " reports and "
        ++ Decimal.text i.records.measurements.length ++ " concurrency runs"⟩]
  ++ (if i.exclusions.isEmpty then []
    else [⟨.warn, .pipeline,
      Decimal.text i.exclusions.length ++ " input files were excluded"⟩])

/-- What is said when the report is written. -/
def reportEvent (s : Settings) : Log.Event :=
  ⟨.info, .report, "Analysis report written to: " ++ s.reportPath.shown⟩

/-- What is said when the snapshot is written. -/
def dataEvents (s : Settings) (snapshot : Snapshot) : List Log.Event :=
  [⟨.info, .report, "Analysis data written to: " ++ s.dataPath.shown⟩,
    ⟨.debug, .report,
      "Snapshot contains " ++ Decimal.text snapshot.timings.size ++ " timing sources and "
        ++ Decimal.text snapshot.runs.length ++ " concurrency runs"⟩]

/-- What is said while the outputs are written. -/
def writingEvents (s : Settings) (snapshot : Snapshot) (w : Writing) : List Log.Event :=
  match w.fault? with
  | none => reportEvent s :: dataEvents s snapshot
  | some e =>
    match e.output with
    | .directory => []
    | .report => []
    | .data => [reportEvent s]

end Run

end BenchReport
