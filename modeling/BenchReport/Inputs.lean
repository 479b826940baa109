import BenchReport.Analysis
import BenchReport.Decimal.Places
import BenchReport.Files.Reading
import BenchReport.Log.Event
import BenchReport.Measurement.Text
import BenchReport.Timing.Scanner

/-!
# Inputs

The inputs of a run: what became of each timing report and of each measurement file. Nothing
in them stops a run. A directory that cannot be listed gives nothing, a report that cannot be
read and a file that holds no measurement are left out, and each of them is accounted for.

The inputs are the files of a directory that have a certain extension. Directories do not count,
and a link counts as what it leads to. They stand in the order of the bytes of their names,
whatever the order in which the directory enumerates them. The timings of a report are kept under
its name as it is shown.
-/

namespace BenchReport

open Files (RawText)

/-! ### Listing -/

namespace Inputs

/-- Whether a name in a directory is that of a file with an extension. -/
def isInput (t : Files.Tree) (directory : RawText) (extension : String) (name : RawText) : Bool :=
  t.isFile (Files.Path.join directory name) && Files.Path.extension? name == some ↑extension

/-- The names of the files in a directory that have an extension, in ascending order. -/
def names (t : Files.Tree) (directory : RawText) (extension : String) :
    Except Files.Fault (List RawText) :=
  match t.list directory with
  | .error e => .error e
  | .ok all => .ok ((all.filter (isInput t directory extension)).mergeSort (· ≤ ·))

/-- What is said of a directory that cannot be listed. -/
def unlistedMessage (directory : RawText) (e : Files.Fault) : String :=
  "Failed to read input directory " ++ directory.shown ++ ": " ++ e.message

end Inputs

/-! ### Files -/

/-- Why a timing report gives nothing. -/
inductive TimingFileFault where
  /-- It cannot be opened. -/
  | opening (cause : Files.Fault)
  /-- It cannot be read. -/
  | reading (cause : Files.Fault)
  deriving Repr, DecidableEq

/-- What is said of a timing report that gives nothing. -/
def TimingFileFault.message (path : RawText) : TimingFileFault → String
  | opening e => "Failed to open timing report " ++ path.shown ++ ": " ++ e.message
  | reading e => "Failed to read timing report " ++ path.shown ++ ": " ++ e.message

/-- Why a measurement file gives nothing. -/
inductive MeasurementFileFault where
  /-- It cannot be read as a text. -/
  | reading (cause : Files.Fault)
  /-- Its text holds no measurement. -/
  | content (cause : Measurement.TextFault)
  deriving Repr

/-- What is said of a measurement file that gives nothing. -/
def MeasurementFileFault.message (path : RawText) : MeasurementFileFault → String
  | reading e => "Failed to read measurement file " ++ path.shown ++ ": " ++ e.message
  | content e => e.message path.shown

/-- What a timing report holds. -/
structure TimingFile where
  /-- The timings. -/
  timings : List Timing
  /-- The lines that are no part of them. -/
  skipped : List (List Char)

/-- A file that is left out, and why. -/
structure Exclusion where
  /-- The path of the file. -/
  path : RawText
  /-- The reason. -/
  reason : String
  deriving Repr, DecidableEq

/-- What became of the files of one kind. -/
structure Intake (α : Type) where
  /-- The directory. -/
  directory : RawText
  /-- What each file gave, by its name and in the order of the names, unless the directory
  could not be listed. -/
  files : Except Files.Fault (List (RawText × α))

namespace Intake

variable {α : Type}

/-- Loads the files with an extension from a directory. -/
def load (t : Files.Tree) (directory : RawText) (extension : String) (read : RawText → α) :
    Intake α where
  directory := directory
  files :=
    match Inputs.names t directory extension with
    | .error e => .error e
    | .ok names => .ok (names.map fun name => (name, read (Files.Path.join directory name)))

/-- The files with what they gave. -/
def loaded (i : Intake α) : List (RawText × α) :=
  match i.files with
  | .error _ => []
  | .ok files => files

/-- The path of a file. -/
def path (i : Intake α) (name : RawText) : RawText := Files.Path.join i.directory name

/-- What is said of the directory, if it gives nothing. -/
def warnings (i : Intake α) (kind extension : String) : List Log.Event :=
  match i.files with
  | .error e => [⟨.warn, .inputs,
      "Skipping " ++ kind ++ " input: " ++ Inputs.unlistedMessage i.directory e⟩]
  | .ok [] => [⟨.warn, .inputs,
      "No " ++ kind ++ " files (*." ++ extension ++ ") found in " ++ i.directory.shown⟩]
  | .ok _ => []

end Intake

/-- What a timing report gives. -/
abbrev TimingResult := Except TimingFileFault TimingFile

/-- What a measurement file gives. -/
abbrev MeasurementResult := Except MeasurementFileFault Measurement

/-- The inputs of a run. -/
structure Inputs where
  /-- The timing reports, if a directory was given. -/
  timings : Option (Intake TimingResult)
  /-- The measurement files, if a directory was given. -/
  measurements : Option (Intake MeasurementResult)

namespace Inputs

/-- The extension of timing reports. -/
def timingExtension : String := "txt"

/-- The extension of measurement files. -/
def measurementExtension : String := "json"

/-- Reads a timing report. -/
def readTimings (t : Files.Tree) (path : RawText) : TimingResult :=
  match t.openFile path with
  | .error e => .error (.opening e)
  | .ok node =>
    match node.read with
    | .error e => .error (.reading e)
    | .ok bytes =>
      .ok ⟨Timing.ofBytes bytes, Timing.skippedLines (Timing.linesOfBytes bytes)⟩

/-- Reads a measurement file. -/
def readMeasurement (t : Files.Tree) (path : RawText) : MeasurementResult :=
  match t.readText path with
  | .error e => .error (.reading e)
  | .ok text =>
    match Measurement.ofText text with
    | .error e => .error (.content e)
    | .ok m => .ok m

/-- Loads the inputs from the directories that are given. -/
def load (t : Files.Tree) (timings measurements : Option RawText) : Inputs where
  timings := timings.map fun d => .load t d timingExtension (readTimings t)
  measurements := measurements.map fun d => .load t d measurementExtension (readMeasurement t)

/-- The timing reports by name, with what they gave. -/
def timingFiles (i : Inputs) : List (RawText × TimingResult) :=
  i.timings.toList.flatMap Intake.loaded

/-- The measurement files by name, with what they gave. -/
def measurementFiles (i : Inputs) : List (RawText × MeasurementResult) :=
  i.measurements.toList.flatMap Intake.loaded

/-! ### The records -/

/-- The timings of a report under its name as it is shown, unless it has none. -/
def timingRecord? (file : RawText × TimingResult) : Option (String × List Timing) :=
  match file.2 with
  | .error _ => none
  | .ok f => if f.timings.isEmpty then none else some (file.1.shown, f.timings)

/-- What was loaded. -/
def records (i : Inputs) : Records where
  timings := .ofList (i.timingFiles.filterMap timingRecord?)
  measurements := i.measurementFiles.filterMap fun file => file.2.toOption

/-! ### The account -/

/-- The number of timing reports. -/
def timingsScanned (i : Inputs) : Nat := i.timingFiles.length

/-- The number of measurement files. -/
def measurementsScanned (i : Inputs) : Nat := i.measurementFiles.length

/-- The files of an intake that gave nothing but a fault. -/
def exclusionsOf {ε α : Type} (message : RawText → ε → String) (i : Intake (Except ε α)) :
    List Exclusion :=
  i.loaded.filterMap fun file =>
    match file.2 with
    | .error e => some ⟨i.path file.1, message (i.path file.1) e⟩
    | .ok _ => none

/-- The files that were left out, the timing reports first. -/
def exclusions (i : Inputs) : List Exclusion :=
  i.timings.toList.flatMap (exclusionsOf TimingFileFault.message)
    ++ i.measurements.toList.flatMap (exclusionsOf MeasurementFileFault.message)

/-! ### The log -/

/-- What is said when a timing report is read. -/
def timingFileEvents (path name : RawText) : TimingResult → List Log.Event
  | .error e => [⟨.error, .inputs, "Error parsing " ++ path.shown ++ ": " ++ e.message path⟩]
  | .ok f =>
    f.skipped.map (fun line =>
      ⟨.trace, .timing, "Skipping non-timing line: " ++ String.ofList line⟩)
    ++ [⟨.debug, .timing,
        "Parsed " ++ Decimal.text f.timings.length ++ " timing records from " ++ path.shown⟩,
      if f.timings.isEmpty then ⟨.debug, .inputs, "No timing lines found in " ++ path.shown⟩
      else ⟨.info, .inputs,
        "Parsed " ++ Decimal.text f.timings.length ++ " benchmarks from " ++ name.shown⟩]

/-- What is said of a measurement whose operations do not add up. -/
def inconsistency (path : RawText) (m : Measurement) : String :=
  path.shown ++ ": successful (" ++ Decimal.text m.successful.toNat ++ ") + failed ("
    ++ Decimal.text m.failed.toNat ++ ") operations exceed total ("
    ++ Decimal.text m.total.toNat ++ ")"

/-- What is said when a measurement file is read. -/
def measurementFileEvents (path name : RawText) : MeasurementResult → List Log.Event
  | .error e => [⟨.error, .inputs, "Error parsing " ++ e.message path⟩]
  | .ok m =>
    (if m.isConsistent then [] else [⟨.warn, .inputs, inconsistency path m⟩])
    ++ [⟨.info, .inputs, "Parsed concurrent result from " ++ name.shown⟩]

/-- What is said while the timing reports are loaded. -/
def timingEvents : Option (Intake TimingResult) → List Log.Event
  | none => [⟨.debug, .inputs, "No timing report directory given"⟩]
  | some i =>
    i.warnings "timing report" timingExtension
      ++ i.loaded.flatMap fun file => timingFileEvents (i.path file.1) file.1 file.2

/-- What is said while the measurement files are loaded. -/
def measurementEvents : Option (Intake MeasurementResult) → List Log.Event
  | none => [⟨.debug, .inputs, "No measurement directory given"⟩]
  | some i =>
    i.warnings "measurement" measurementExtension
      ++ i.loaded.flatMap fun file => measurementFileEvents (i.path file.1) file.1 file.2

/-- What is said while the inputs are loaded. -/
def events (i : Inputs) : List Log.Event :=
  timingEvents i.timings ++ measurementEvents i.measurements

end Inputs

end BenchReport
