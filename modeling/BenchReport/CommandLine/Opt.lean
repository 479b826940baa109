/-!
# Options

The options of the program: how each is spelled, what value it takes, and what it is for.
-/

namespace BenchReport.CommandLine

/-- The options. -/
inductive Opt where
  | timings
  | measurements
  | output
  | reportName
  | dataName
  | noEcho
  | logFile
  | verbose
  | quiet
  | help
  | version
  deriving Repr, DecidableEq

namespace Opt

/-- All options. -/
def all : List Opt :=
  [timings, measurements, output, reportName, dataName, noEcho, logFile, verbose, quiet, help,
    version]

/-- The options that say what a run is to do. -/
def ofRun : List Opt :=
  [timings, measurements, output, reportName, dataName, noEcho, logFile, verbose, quiet]

/-- The long name. -/
def long : Opt → String
  | timings => "timing-dir"
  | measurements => "concurrent-dir"
  | output => "output-dir"
  | reportName => "report-name"
  | dataName => "data-name"
  | noEcho => "no-console-report"
  | logFile => "log-file"
  | verbose => "verbose"
  | quiet => "quiet"
  | help => "help"
  | version => "version"

/-- A second long name. -/
def alias? : Opt → Option String
  | timings => some "rust"
  | measurements => some "concurrent"
  | _ => none

/-- The letter. -/
def short? : Opt → Option Char
  | timings => some 't'
  | measurements => some 'c'
  | output => some 'o'
  | verbose => some 'v'
  | quiet => some 'q'
  | help => some 'h'
  | version => some 'V'
  | _ => none

/-- What stands for the value, if the option takes one. -/
def placeholder? : Opt → Option String
  | timings => some "<TIMING_DIR>"
  | measurements => some "<CONCURRENT_DIR>"
  | output => some "<OUTPUT_DIR>"
  | reportName => some "<REPORT_NAME>"
  | dataName => some "<DATA_NAME>"
  | logFile => some "<LOG_FILE>"
  | _ => none

/-- Whether the option takes a value. -/
def takesValue (o : Opt) : Bool := o.placeholder?.isSome

/-- Whether the value is a path, which may not be empty. -/
def isPath : Opt → Bool
  | timings => true
  | measurements => true
  | output => true
  | logFile => true
  | _ => false

/-- The long names, the second ones behind the first ones. -/
def longs (o : Opt) : List String := o.long :: o.alias?.toList

/-- The option of a long name. Names may not be shortened. -/
def ofLong? (name : String) : Option Opt := all.find? fun o => o.longs.contains name

/-- The option of a letter. -/
def ofShort? (c : Char) : Option Opt := all.find? fun o => o.short? == some c

theorem ofLong?_long (o : Opt) : ofLong? o.long = some o := by cases o <;> decide +kernel

end Opt

end BenchReport.CommandLine
