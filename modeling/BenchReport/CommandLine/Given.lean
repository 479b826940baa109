import BenchReport.CommandLine.Opt
import BenchReport.Log.Filter
import BenchReport.Settings

/-!
# What arguments say

The options that were given, in order, with their values, and the settings that follow from
them. An option is given once, but the request to hear more can be repeated and counts up to
255 times. It cannot be asked to hear both more and less.
-/

namespace BenchReport.CommandLine

/-- An option with its value, which is empty for an option that takes none. -/
structure Use where
  /-- The option. -/
  option : Opt
  /-- The value. -/
  value : String
  deriving Repr, DecidableEq

/-- What the arguments say. -/
structure Given where
  /-- The options in the order in which they were last given. -/
  uses : List Use
  /-- How often it was asked to hear more. -/
  verbosity : Nat
  deriving Repr, DecidableEq

/-- What is wrong with the arguments. -/
inductive Misuse where
  /-- An option has no value, or an empty path for a value. -/
  | missingValue (option : Opt)
  /-- An option is given twice. -/
  | repeated (option : Opt)
  /-- Two options exclude each other; all that were given but the second. -/
  | conflict (first second : Opt) (others : List Opt)
  /-- An option that takes no value has one; whether there was another option before. -/
  | unexpectedValue (option : Opt) (value : String) (begun : Bool)
  /-- There is no such long name; whether there was an option before. -/
  | unknownName (name : String) (begun : Bool)
  /-- An argument, or a letter, is not known. -/
  | unknown (argument : String)
  deriving Repr, DecidableEq

/-- Why there is no run. -/
inductive Stop where
  /-- Help was asked for. -/
  | help
  /-- The version was asked for. -/
  | version
  /-- The arguments are wrong. -/
  | misuse (cause : Misuse)
  deriving Repr, DecidableEq

namespace Given

/-- Nothing. -/
def empty : Given := ⟨[], 0⟩

/-- Whether an option was given. -/
def has (g : Given) (o : Opt) : Bool := g.uses.any (·.option == o)

/-- The value of an option. -/
def value? (g : Given) (o : Opt) : Option String :=
  (g.uses.find? (·.option == o)).map (·.value)

/-- The greatest number of requests to hear more that is told from a greater one. -/
def maxVerbosity : Nat := 255

/-- Another request to hear more. -/
def louder (g : Given) : Given :=
  ⟨g.uses.filter (·.option != .verbose) ++ [⟨.verbose, ""⟩], min maxVerbosity (g.verbosity + 1)⟩

/-- An option that may be given once. -/
def once (g : Given) (o : Opt) (value : String) : Except Stop Given :=
  if g.has o then .error (.misuse (.repeated o))
  else if o.isPath ∧ value = "" then .error (.misuse (.missingValue o))
  else .ok { g with uses := g.uses ++ [⟨o, value⟩] }

/-- An option with its value, if one has come. -/
def add (g : Given) (o : Opt) (value? : Option String) : Except Stop Given :=
  match o with
  | .help => .error .help
  | .version => .error .version
  | .verbose => .ok g.louder
  | o =>
    match value? with
    | some value => g.once o value
    | none => if o.takesValue then .error (.misuse (.missingValue o)) else g.once o ""

/-- What is given is wrong if it asks to hear both more and less. -/
def check (g : Given) : Except Stop Given :=
  let conflict (first second : Opt) : Except Stop Given :=
    .error (.misuse (.conflict first second ((g.uses.map (·.option)).filter (· != second))))
  match (g.uses.map (·.option)).filter (fun o => o == .verbose || o == .quiet) with
  | first :: second :: _ => conflict first second
  | _ => .ok g

/-- Whether it was asked to hear only what matters. -/
def isQuiet (g : Given) : Bool := g.has .quiet

/-- The settings that the arguments ask for. -/
def settings (g : Given) : Settings :=
  let d : Settings := {}
  { timings := g.value? .timings
    measurements := g.value? .measurements
    output := (g.value? .output).getD d.output
    reportName := (g.value? .reportName).getD d.reportName
    dataName := (g.value? .dataName).getD d.dataName
    echo := !g.has .noEcho
    logFile := g.value? .logFile
    level := Log.levelFor g.verbosity g.isQuiet }

end Given

end BenchReport.CommandLine
