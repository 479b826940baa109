import BenchReport.CommandLine.Given

/-!
# Reading arguments

The arguments are read one after the other. An option that takes a value has it in the same
argument or in the next one; until the next option comes, or the end, it is pending. Letters
can share an argument. After two hyphens alone there are no options any more, and as the
program takes nothing but options, everything from there on is unknown. Asking for help or
for the version ends the reading at once.
-/

namespace BenchReport.CommandLine

/-- What an argument looks like. -/
inductive Token where
  /-- Two hyphens. -/
  | close
  /-- A long name, and what follows an equals sign. -/
  | long (name : String) (value? : Option String)
  /-- Letters after a hyphen, and what may be attached to them. -/
  | letters (cs : List Char)
  /-- Anything else. -/
  | word
  deriving Repr, DecidableEq

/-- What a text looks like. A hyphen alone is a word. -/
def Token.ofText (s : String) : Token :=
  match s.toList with
  | ['-', '-'] => .close
  | '-' :: '-' :: r =>
    match r.dropWhile (· != '=') with
    | _ :: value => .long (String.ofList (r.takeWhile (· != '='))) (some (String.ofList value))
    | [] => .long (String.ofList r) none
  | ['-'] => .word
  | '-' :: cs => .letters cs
  | _ => .word

/-- A value that is attached to a letter, without the equals sign that may introduce it. -/
def attached : List Char → String
  | '=' :: r => String.ofList r
  | cs => String.ofList cs

/-- The arguments as far as they are read. -/
structure Progress where
  /-- What the complete options say. -/
  given : Given
  /-- An option that is not dealt with yet, and its value if it has come. -/
  pending : Option (Opt × Option String)
  /-- Whether two hyphens have come. -/
  closed : Bool
  deriving Repr, DecidableEq

namespace Progress

/-- Before the first argument. -/
def start : Progress := ⟨.empty, none, false⟩

/-- Deals with the option that is pending. -/
def settle (p : Progress) : Except Stop Progress :=
  match p.pending with
  | none => .ok p
  | some (o, value?) =>
    match p.given.add o value? with
    | .error s => .error s
    | .ok g => .ok { p with given := g, pending := none }

/-- Deals with an option that has all that it will have. -/
def complete (p : Progress) (o : Opt) (value? : Option String) : Except Stop Progress :=
  match p.settle with
  | .error s => .error s
  | .ok p =>
    match p.given.add o value? with
    | .error s => .error s
    | .ok g => .ok { p with given := g }

/-- Leaves an option pending. -/
def await (p : Progress) (o : Opt) : Except Stop Progress :=
  match p.settle with
  | .error s => .error s
  | .ok p => .ok { p with pending := some (o, none) }

/-- Whether there is an option that is complete, or has the value that it needs. -/
def begun (p : Progress) : Bool :=
  !p.given.uses.isEmpty ||
    match p.pending with
    | some (_, some _) => true
    | _ => false

/-- Reads a long name. -/
def takeLong (p : Progress) (name : String) (value? : Option String) : Except Stop Progress :=
  match Opt.ofLong? name with
  | none => .error (.misuse (.unknownName name p.begun))
  | some o =>
    if o.takesValue then
      match value? with
      | none => p.await o
      | some value => p.complete o (some value)
    else
      match value? with
      | none => p.complete o none
      | some value => .error (.misuse (.unexpectedValue o value (!p.given.uses.isEmpty)))

/-- Reads letters. The first that takes a value has the rest for its value, if there is a
rest. -/
def takeLetters (p : Progress) : List Char → Except Stop Progress
  | [] => .ok p
  | c :: r =>
    match Opt.ofShort? c with
    | none => .error (.misuse (.unknown (String.ofList ['-', c])))
    | some o =>
      if o.takesValue then
        if r = [] then p.await o else p.complete o (some (attached r))
      else
        match p.complete o none with
        | .error s => .error s
        | .ok p => takeLetters p r

/-- Reads an argument. -/
def take (p : Progress) (argument : String) : Except Stop Progress :=
  if p.closed then .error (.misuse (.unknown argument))
  else
    match Token.ofText argument with
    | .close => .ok { p with closed := true }
    | .long name value? => p.takeLong name value?
    | .letters cs => p.takeLetters cs
    | .word =>
      match p.pending with
      | some (o, none) => .ok { p with pending := some (o, some argument) }
      | _ => .error (.misuse (.unknown argument))

/-- Reads arguments. -/
def takeAll (p : Progress) : List String → Except Stop Progress
  | [] => .ok p
  | argument :: r =>
    match p.take argument with
    | .error s => .error s
    | .ok p => takeAll p r

end Progress

/-- What the arguments say. -/
def read (arguments : List String) : Except Stop Given :=
  match Progress.start.takeAll arguments with
  | .error s => .error s
  | .ok p =>
    match p.settle with
    | .error s => .error s
    | .ok p => p.given.check

example : (read ["-vt", "a", "--report-name=", "-v"]).map (·.settings)
    = .ok { timings := some "a", reportName := "", level := .trace } := by cbv

example : read ["-t", "--", "x"] = .error (.misuse (.unknown "x")) := by cbv

example : read ["-v", "-q", "-v"]
    = .error (.misuse (.conflict .quiet .verbose [.quiet])) := by cbv

end BenchReport.CommandLine
