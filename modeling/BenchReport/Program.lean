import BenchReport.CommandLine.Message
import BenchReport.CommandLine.Reading
import BenchReport.Log.Event
import BenchReport.Run
import BenchReport.Text.Quoted

/-!
# The program

What the program does with its arguments: it reads them, opens the log, runs, and says what
came of it. All that it can show or change is in the value that comes out: the status, the
two texts it prints, and the files.
-/

namespace BenchReport.Program

open Files (RawText)
open Text (Span)

/-- What the program is started with. -/
structure Start where
  /-- The arguments. -/
  arguments : List String
  /-- The text of the log filter, if the environment has one. -/
  filter? : Option String
  /-- Whether the terminal is to be sent styles. -/
  color : Bool
  /-- The host. -/
  origin : Origin
  /-- The time. -/
  time : Instant

/-- What comes of it. -/
structure Result where
  /-- The status: 0 if all went well, 1 if the run failed, 2 if the arguments are wrong. -/
  status : UInt8
  /-- What is printed. -/
  out : String
  /-- What is logged on the console, or said of an error. -/
  err : String
  /-- The files afterwards. -/
  tree : Files.Tree

/-! ### The log -/

/-- Why the log cannot be opened. -/
inductive LogFault where
  /-- The path names no file. -/
  | noName (path : RawText)
  /-- The directory cannot be made. -/
  | directory (path : RawText) (cause : Files.Fault)
  /-- The file cannot be written. -/
  | file (path : RawText) (cause : Files.Fault)
  deriving Repr, DecidableEq

/-- The directory that a log file lies in. -/
def logDirectory (path : RawText) : RawText :=
  match Files.Path.parent? path with
  | none => "."
  | some directory => if directory = "" then "." else directory

/-- Opens a log file at its end, and makes it and its directory if there is none. The result
is the path under which it is written. -/
def openLog (t : Files.Tree) (path : RawText) : Files.Tree × Except LogFault RawText :=
  match Files.Path.name? path with
  | none => (t, .error (.noName path))
  | some name =>
    let directory := logDirectory path
    let made := t.makeDirectories directory
    match made.fault? with
    | some e => (made.tree, .error (.directory directory e))
    | none =>
      let file := Files.Path.join directory name
      let opened := made.tree.openEnd file
      match opened.fault? with
      | some e => (opened.tree, .error (.file file e))
      | none => (opened.tree, .ok file)

/-- What is said of an error that ends the program, with its cause if it has one. -/
def errorText (what : String) (cause? : Option String) : String :=
  "Error: " ++ what ++ "\n" ++
    match cause? with
    | none => ""
    | some cause => "\nCaused by:\n    " ++ cause ++ "\n"

/-- What is said of a log that cannot be opened. -/
def LogFault.text : LogFault → String
  | noName path => errorText ("Log file path has no file name: " ++ path.shown) none
  | directory path e => errorText ("Failed to create log directory " ++ path.shown) (some e.message)
  | file path e => errorText ("Failed to open log file " ++ path.shown) (some e.message)

/-! ### Events of the program as a whole -/

/-- A value that may be missing. -/
def optionText (write : String → String) : Option String → String
  | none => "None"
  | some s => "Some(" ++ write s ++ ")"

/-- The settings in one line. -/
def settingsText (s : Settings) : String :=
  let fields := [
    ("timing_dir", optionText Text.Quoted.text s.timings),
    ("concurrent_dir", optionText Text.Quoted.text s.measurements),
    ("output_dir", Text.Quoted.text s.output),
    ("report_name", Text.Quoted.text s.reportName),
    ("data_name", Text.Quoted.text s.dataName),
    ("echo_report", if s.echo then "true" else "false"),
    ("log_file", optionText Text.Quoted.text s.logFile),
    ("log_directive", Text.Quoted.text s.level.name)]
  "AnalysisConfig \x7b " ++ ", ".intercalate (fields.map fun f => f.1 ++ ": " ++ f.2) ++ " \x7d"

/-- What is said before the run. -/
def startEvents (s : Settings) : List Log.Event :=
  [⟨.info, .program, "Starting benchmark analysis"⟩,
    ⟨.debug, .program, "Configuration: " ++ settingsText s⟩]

/-- What is said after a run that did not fail. -/
def endEvent : Log.Event := ⟨.info, .program, "Benchmark analysis completed"⟩

/-- What is said up to the writing of the outputs. -/
def eventsBefore (s : Settings) (r : Run) : List Log.Event :=
  startEvents s ++ Run.loadingEvents s r.inputs

/-- What is said from the writing of the outputs on. -/
def eventsAfter (s : Settings) (r : Run) : List Log.Event :=
  Run.writingEvents s r.composed.snapshot r.writing
    ++ (if r.writing.fault?.isNone then [endEvent] else [])

/-! ### The summary -/

/-- A rule of so many equals signs as the summary is wide. -/
def rule : String := String.ofList (List.replicate 60 '=') ++ "\n"

/-- What is printed of the files that were left out. -/
def exclusionSpans (xs : List Exclusion) : List Span :=
  if xs.isEmpty then []
  else
    [.plain "\n",
      ⟨.yellow, "Excluded " ++ Decimal.text xs.length ++ " input files:"⟩, .plain "\n"]
    ++ xs.flatMap fun x => [.plain "  ", ⟨.red, "-"⟩, .plain (" " ++ x.reason ++ "\n")]

/-- What is printed after a run that did not fail. -/
def summarySpans (s : Settings) (r : Run) : List Span :=
  let records := r.inputs.records
  [.plain ("\n" ++ rule), ⟨.bold, "ANALYSIS SUMMARY"⟩,
    .plain ("\n" ++ rule
      ++ "Timing reports:    " ++ Decimal.text r.inputs.timingsScanned ++ " scanned, "
        ++ Decimal.text records.timings.size ++ " with results, "
        ++ Decimal.text records.timingCount ++ " records\n"
      ++ "Measurement files: " ++ Decimal.text r.inputs.measurementsScanned ++ " scanned, "
        ++ Decimal.text records.measurements.length ++ " parsed\n"
      ++ "Report:            " ++ s.reportPath.shown ++ "\n"
      ++ "Data:              " ++ s.dataPath.shown ++ "\n")]
  ++ exclusionSpans r.inputs.exclusions
  ++ (if s.echo then [.plain (rule ++ "\n" ++ r.composed.report ++ "\n")] else [])

/-! ### The program -/

/-- The tree with log lines added to a log file, if there is one. -/
def addLines (t : Files.Tree) (file? : Option RawText) (lines : List String) : Files.Tree :=
  match file? with
  | none => t
  | some file => (t.append file (Writing.bytesOf (String.join lines))).tree

/-- Runs with some settings. The log file, if there is one, is open, and what is said is added to
it in time: what is said before the outputs are written comes before them even if the log file
is one of them. -/
def runWith (start : Start) (s : Settings) (logFile? : Option RawText) (t : Files.Tree) :
    Result :=
  let chosen (es : List Log.Event) : List Log.Event :=
    es.filter (Log.Filter.choose start.filter? s.level).passes
  let log (t : Files.Tree) (es : List Log.Event) : Files.Tree :=
    addLines t logFile? (es.map (Log.Event.fileLine start.time))
  let loaded := Run.perform t s start.origin start.time
  let before := chosen (eventsBefore s loaded)
  let r := { loaded with writing := .ofOutputs (log t before) s loaded.composed }
  let after := chosen (eventsAfter s r)
  let console := String.join ((before ++ after).map (Log.Event.consoleLine start.color))
  let tree := log r.writing.tree after
  match r.writing.fault? with
  | some e => ⟨1, "", console ++ errorText e.context (some e.cause.message), tree⟩
  | none => ⟨0, Span.render start.color (summarySpans s r), console, tree⟩

/-- Runs with some settings, after the log file is opened. -/
def run (start : Start) (s : Settings) (t : Files.Tree) : Result :=
  match s.logFile with
  | none => runWith start s none t
  | some path =>
    match openLog t path with
    | (t, .error e) => ⟨1, "", e.text, t⟩
    | (t, .ok file) => runWith start s (some file) t

/-- What the program does. -/
def perform (start : Start) (t : Files.Tree) : Result :=
  match CommandLine.read start.arguments with
  | .error .help => ⟨0, Span.render start.color CommandLine.helpSpans, "", t⟩
  | .error .version => ⟨0, CommandLine.versionText, "", t⟩
  | .error (.misuse m) => ⟨2, "", m.sent start.color, t⟩
  | .ok given => run start given.settings t

end BenchReport.Program
