import BenchReport.CommandLine.Given
import BenchReport.Text.Control
import BenchReport.Text.Similarity
import BenchReport.Text.Styled

/-!
# Messages about arguments

The help text, the version, and what is said of arguments that are wrong: the mistake, a
similar name if there is one, and how the program is used.
-/

namespace BenchReport.CommandLine

open Text (Span)

/-- The name of the program. -/
def program : String := "bench-analyzer"

/-- An option as it stands in messages. -/
def Opt.label (o : Opt) : String :=
  "--" ++ o.long ++
    match o.placeholder?, o with
    | some p, _ => " " ++ p
    | none, .verbose => "..."
    | none, _ => ""

/-- The label with the name in bold. -/
def Opt.labelSpans (o : Opt) : List Span :=
  [⟨.bold, "--" ++ o.long⟩,
    .plain
      (match o.placeholder?, o with
      | some p, _ => " " ++ p
      | none, .verbose => "..."
      | none, _ => "")]

/-! ### Usage -/

/-- How the program is used in general. -/
def generalUsage : List Span := [⟨.bold, program⟩, .plain " [OPTIONS]"]

/-- How the program is used with certain options, and possibly with any of the options that
say what a run is to do. -/
def specificUsage (options : List Opt) (anyOther : Bool) : List Span :=
  ⟨.bold, program⟩ ::
    (options.flatMap fun o => .plain " " :: o.labelSpans)
    ++ (if anyOther then [.plain (" <" ++ "|".intercalate (Opt.ofRun.map Opt.label) ++ ">")]
      else [])

/-- The use of the program under its heading. -/
def usageSpans (usage : List Span) : List Span := ⟨.heading, "Usage:"⟩ :: .plain " " :: usage

/-! ### Help -/

/-- What an option is for. -/
def Opt.about : Opt → String
  | timings => "Directory containing Criterion timing reports (*.txt)"
  | measurements => "Directory containing concurrency measurement files (*.json)"
  | output => "Directory the report and snapshot are written to"
  | reportName => "File name of the markdown report"
  | dataName => "File name of the JSON snapshot"
  | noEcho => "Do not print the full report to stdout after writing it"
  | logFile => "Also write log output to this file"
  | verbose => "Increase log verbosity (-v debug, -vv trace)"
  | quiet => "Only log warnings and errors"
  | help => "Print help"
  | version => "Print version"

/-- The value that an option has when it is not given. -/
def Opt.default? : Opt → Option String
  | output => some ({} : Settings).output
  | reportName => some ({} : Settings).reportName
  | dataName => some ({} : Settings).dataName
  | _ => none

/-- What an option is for, with its second name and its default. -/
def Opt.description (o : Opt) : String :=
  o.about
    ++ (match o.default? with
      | some d => " [default: " ++ d ++ "]"
      | none => "")
    ++ (match o.alias? with
      | some a => " [aliases: " ++ a ++ "]"
      | none => "")

/-- The letter and the label of an option. Labels stand below each other whether or not there
is a letter. -/
def Opt.entrySpans (o : Opt) : List Span :=
  (match o.short? with
    | some c => [.plain "  ", ⟨.bold, String.ofList ['-', c]⟩, .plain ", "]
    | none => [.plain "      "])
  ++ o.labelSpans

/-- The number of characters of a text in spans. -/
def widthOf (spans : List Span) : Nat := (spans.map (·.text.length)).foldr (· + ·) 0

/-- Options under a heading in the help text. -/
structure HelpSection where
  /-- The heading. -/
  title : String
  /-- The options. -/
  options : List Opt
  /-- Whether the descriptions stand below the labels and not beside them. -/
  below : Bool

/-- The sections of the help text. -/
def helpSections : List HelpSection :=
  [⟨"Options:", [.logFile, .verbose, .quiet, .help, .version], false⟩,
    ⟨"Input Options:", [.timings, .measurements], true⟩,
    ⟨"Output Options:", [.output, .reportName, .dataName, .noEcho], false⟩]

/-- Blanks. -/
def blanks (n : Nat) : String := String.ofList (List.replicate n ' ')

/-- The lines of an option, the label being so wide at most. -/
def helpEntry (below : Bool) (width : Nat) (o : Opt) : List Span :=
  let entry := o.entrySpans
  entry ++
    [.plain ((if below then "\n" ++ blanks 10 else blanks (width + 2 - widthOf entry))
      ++ o.description ++ "\n")]

/-- The lines of a section. -/
def HelpSection.spans (s : HelpSection) : List Span :=
  let width := (s.options.map fun o => widthOf o.entrySpans).foldl max 0
  [.plain "\n", ⟨.heading, s.title⟩, .plain "\n"] ++ s.options.flatMap (helpEntry s.below width)

/-- What the program does. -/
def purpose : String :=
  "Parses Criterion timing reports and concurrency measurement files into a comparable "
    ++ "performance analysis"

/-- The help text. -/
def helpSpans : List Span :=
  .plain (purpose ++ "\n\n") :: usageSpans generalUsage ++ .plain "\n"
    :: helpSections.flatMap HelpSection.spans

/-- The version text. -/
def versionText : String := program ++ " " ++ version ++ "\n"

/-! ### Mistakes -/

namespace Misuse

/-- A text between single quotes. -/
def quoted (style : Text.Style) (text : String) : List Span :=
  [.plain "'", ⟨style, text⟩, .plain "'"]

/-- An option that a name may stand for. -/
def similar? (name : String) : Option String :=
  Text.Similarity.nearest? name (Opt.all.flatMap Opt.longs)

/-- What the mistake is. -/
def mistakeSpans : Misuse → List Span
  | missingValue o =>
    .plain "a value is required for " :: quoted .yellow o.label
      ++ [.plain " but none was supplied"]
  | repeated o =>
    .plain "the argument " :: quoted .yellow o.label ++ [.plain " cannot be used multiple times"]
  | conflict first second _ =>
    .plain "the argument " :: quoted .yellow first.label
      ++ .plain " cannot be used with " :: quoted .yellow second.label
  | unexpectedValue o value _ =>
    .plain "unexpected value " :: quoted .yellow value ++ .plain " for " :: quoted .bold o.label
      ++ [.plain " found; no more were expected"]
  | unknownName name _ =>
    .plain "unexpected argument " :: quoted .yellow ("--" ++ name) ++ [.plain " found"]
  | unknown argument =>
    .plain "unexpected argument " :: quoted .yellow argument ++ [.plain " found"]

/-- The similar name that is pointed out. -/
def tipSpans : Misuse → List Span
  | unknownName name _ =>
    match similar? name with
    | none => []
    | some other =>
      [.plain "\n\n  ", ⟨.green, "tip:"⟩, .plain " a similar argument exists: "]
        ++ quoted .green ("--" ++ other)
  | _ => []

/-- The options outside those of a run that a similar name stands for. -/
def similarOthers (name : String) : List Opt :=
  (((similar? name).bind Opt.ofLong?).filter fun o => !Opt.ofRun.contains o).toList

/-- Whether a similar name stands for an option of a run. -/
def similarOfRun (name : String) : Bool :=
  ((similar? name).bind Opt.ofLong?).any Opt.ofRun.contains

/-- How the program is used, as far as the mistake lets it be seen. -/
def usage? : Misuse → Option (List Span)
  | missingValue _ => none
  | repeated _ => some generalUsage
  | unknown _ => some generalUsage
  | conflict _ _ others => some (specificUsage others false)
  | unexpectedValue o _ begun =>
    some (specificUsage (if begun && Opt.ofRun.contains o then [] else [o]) begun)
  | unknownName name begun =>
    if begun || (similar? name).isSome then
      some (specificUsage (similarOthers name) (begun || similarOfRun name))
    else some generalUsage

/-- All that is said of a mistake. -/
def spans (m : Misuse) : List Span :=
  [⟨.failure, "error:"⟩, .plain " "] ++ m.mistakeSpans ++ m.tipSpans
    ++ (match m.usage? with
      | some usage => .plain "\n\n" :: usageSpans usage
      | none => [])
    ++ [.plain "\n\nFor more information, try '", ⟨.bold, "--help"⟩, .plain "'.\n"]

/-- What is said of a mistake, as it is shown. -/
def text (m : Misuse) : String := Text.Control.shown (Span.render true m.spans)

/-- What is said of a mistake, as it is sent to a terminal. Where the terminal has no styles,
only what is shown is sent, so that a mistaken argument brings no controls with it. -/
def sent (color : Bool) (m : Misuse) : String :=
  let styled := Span.render true m.spans
  if color then styled else Text.Control.sent styled

end Misuse

end BenchReport.CommandLine
