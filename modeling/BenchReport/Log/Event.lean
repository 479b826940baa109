import BenchReport.Instant
import BenchReport.Text.Styled

/-!
# Log events

What a run has to say while it goes on: events of five levels, each from one part of the
program. On the console, an event stands in one style after what its level calls for. In a log
file it stands without style after the time, the level and the source. In both the controls that
could take hold of a terminal are shown by their numbers.
-/

namespace BenchReport.Log

/-- How much an event matters, from the least to the most. -/
inductive Level where
  | trace
  | debug
  | info
  | warn
  | error
  deriving Repr, DecidableEq

namespace Level

/-- The position of a level, from the least. -/
def rank : Level → Nat
  | trace => 0
  | debug => 1
  | info => 2
  | warn => 3
  | error => 4

/-- The name of a level in a filter. -/
def name : Level → String
  | trace => "trace"
  | debug => "debug"
  | info => "info"
  | warn => "warn"
  | error => "error"

end Level

/-- The parts of the program that log. -/
inductive Source where
  /-- The program as a whole. -/
  | program
  /-- The reader of timing reports. -/
  | timing
  /-- The loading of inputs. -/
  | inputs
  /-- The run from inputs to outputs. -/
  | pipeline
  /-- The writing of the outputs. -/
  | report
  deriving Repr, DecidableEq

/-- The name of a part in a filter, and in the lines of the less important events. -/
def Source.name : Source → String
  | program => "bench_analyzer"
  | timing => "bench_analyzer::timing"
  | inputs => "bench_analyzer::inputs"
  | pipeline => "bench_analyzer::pipeline"
  | report => "bench_analyzer::report"

/-- Something that is said. -/
structure Event where
  /-- How much it matters. -/
  level : Level
  /-- The part that says it. -/
  source : Source
  /-- The words. -/
  message : String
  deriving Repr, DecidableEq

/-! ### Lines -/

/-- The controls that are shown by two digits. -/
def marked : List (Char × String) :=
  [('\x1b', "\\x1b"), ('\x07', "\\x07"), ('\x08', "\\x08"), ('\x0c', "\\x0c"), ('\x7f', "\\x7f")]

/-- A character of a message as it is shown. -/
def disarm (c : Char) : List Char :=
  match marked.lookup c with
  | some shown => shown.toList
  | none =>
    if 0x80 ≤ c.toNat ∧ c.toNat ≤ 0x9F then
      "\\u\x7b".toList ++ Nat.toDigits 16 c.toNat ++ ['\x7d']
    else [c]

namespace Event

/-- The message as it is shown. -/
def shown (e : Event) : String := String.ofList (e.message.toList.flatMap disarm)

/-- The event after the name of its source. -/
def tagged (e : Event) : String := "[" ++ e.source.name ++ "] " ++ e.shown

/-- An event on the console. -/
def consoleSpan (e : Event) : Text.Span :=
  match e.level with
  | .info => .plain e.shown
  | .warn => ⟨.yellow, "warning: " ++ e.shown⟩
  | .error => ⟨.alert, "error: " ++ e.shown⟩
  | .debug => ⟨.blue, e.tagged⟩
  | .trace => ⟨.purple, e.tagged⟩

/-- The line of an event on the console. -/
def consoleLine (color : Bool) (e : Event) : String :=
  Text.Span.render color [e.consoleSpan] ++ "\n"

/-- The name of a level in a log file, five characters wide. -/
def columnOf : Level → String
  | .trace => "TRACE"
  | .debug => "DEBUG"
  | .info => " INFO"
  | .warn => " WARN"
  | .error => "ERROR"

/-- The line of an event in a log file. -/
def fileLine (time : Instant) (e : Event) : String :=
  time.stamp ++ " " ++ columnOf e.level ++ " " ++ e.source.name ++ ": " ++ e.shown ++ "\n"

end Event

end BenchReport.Log
