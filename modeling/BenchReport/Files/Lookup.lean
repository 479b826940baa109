import BenchReport.Files.Path
import BenchReport.Files.Tree

/-!
# Looking up paths

The way from a path to a location. A path is gone step by step: a single dot stays, two dots
go up, and a name goes down into the directory or follows the link of that name. A path that
ends with a slash asks for a directory. At most forty links are followed.

What the last name is looked up for makes a difference. Looking for something that exists
follows a link at the end and fails if there is nothing. Looking for a file to write follows
a link at the end too, but may end at a free place, and refuses a slash at the end. Looking
for a place for a new directory does not follow a link at the end.

Why something cannot be done to a file is told in the words and with the number that the operating
system gives to the cause.
-/

namespace BenchReport.Files

/-! ### Faults -/

/-- Why something could not be done to a file. -/
inductive Fault where
  /-- There is nothing at the path. -/
  | missing
  /-- The device failed. -/
  | device
  /-- There is something at the path already. -/
  | occupied
  /-- Something on the way is not a directory. -/
  | notDirectory
  /-- A directory stands where a file was asked for. -/
  | directory
  /-- There is no place for more bytes. -/
  | full
  /-- A name or the whole path is too long. -/
  | tooLong
  /-- Too many links were followed. -/
  | links
  /-- The path has a character that no name may have. -/
  | nul
  /-- A file that should be a text is none. -/
  | notText
  deriving Repr, DecidableEq

/-- The words for a fault. -/
def Fault.message : Fault → String
  | missing => "No such file or directory (os error 2)"
  | device => "Input/output error (os error 5)"
  | occupied => "File exists (os error 17)"
  | notDirectory => "Not a directory (os error 20)"
  | directory => "Is a directory (os error 21)"
  | full => "No space left on device (os error 28)"
  | tooLong => "File name too long (os error 36)"
  | links => "Too many levels of symbolic links (os error 40)"
  | nul => "file name contained an unexpected NUL byte"
  | notText => "stream did not contain valid UTF-8"

/-! ### Steps -/

/-- What a path is looked up for. -/
inductive Intent where
  /-- Something that exists. -/
  | find
  /-- A file that exists or can be made. -/
  | write
  /-- A place for a new directory. -/
  | make
  deriving Repr, DecidableEq

/-- Where a path leads. -/
inductive Place where
  /-- To something that exists. -/
  | taken (loc : Location) (node : Node)
  /-- To a name that is free in a directory. -/
  | free (loc : Location)
  deriving Repr, DecidableEq

/-- The steps of a path. A slash at the end gives an empty step. -/
def stepsOf (path : RawText) : List RawText := (Path.segments path.bytes).map RawText.mk

/-- Whether a path starts at the root. -/
def isAbsolute (path : RawText) : Bool := path.bytes.head? == some RawText.slash

/-- Whether nothing but slashes follows a name. -/
def isLast (rest : List RawText) : Bool := rest.all (· == "")

namespace Tree

/-- Goes on from a directory. A link is handed on, with the steps that its target has and the
steps that are left. -/
def walk (t : Tree) (intent : Intent)
    (follow : Location → List RawText → Except Fault Place) (here : Location) :
    List RawText → Except Fault Place
  | [] => .ok (.taken here .directory)
  | step :: rest =>
    if step = "" ∨ step = "." then walk t intent follow here rest
    else if step = ".." then walk t intent follow here.dropLast rest
    else if intent = .write ∧ isLast rest ∧ rest ≠ [] then .error .directory
    else if 255 < step.bytes.length then .error .tooLong
    else
      let there := here ++ [step]
      match t.get? there with
      | none =>
        if intent = .make ∧ isLast rest ∨ intent = .write ∧ rest = [] then .ok (.free there)
        else .error .missing
      | some (.link target) =>
        if intent = .make ∧ isLast rest then .ok (.taken there (.link target))
        else follow (if isAbsolute target then [] else here) (stepsOf target ++ rest)
      | some .directory => walk t intent follow there rest
      | some node =>
        if rest = [] ∨ intent = .make ∧ isLast rest then .ok (.taken there node)
        else .error .notDirectory

/-- Goes on from a directory and follows so many links. -/
def follow (t : Tree) (intent : Intent) : Nat → Location → List RawText → Except Fault Place
  | 0 => walk t intent fun _ _ => .error .links
  | links + 1 => walk t intent (follow t intent links)

/-- The number of links that may be followed. -/
def maxLinks : Nat := 40

/-- The number of bytes that no path may reach. -/
def pathLimit : Nat := 4096

/-- Where a path leads. -/
def lookup (t : Tree) (intent : Intent) (path : RawText) : Except Fault Place :=
  if RawText.nul ∈ path.bytes then .error .nul
  else if path = "" then .error .missing
  else if pathLimit ≤ path.bytes.length then .error .tooLong
  else t.follow intent maxLinks (if isAbsolute path then [] else t.start) (stepsOf path)

/-- What a path leads to, and where that is. -/
def find (t : Tree) (path : RawText) : Except Fault (Location × Node) :=
  match t.lookup .find path with
  | .error e => .error e
  | .ok (.free _) => .error .missing
  | .ok (.taken loc node) => .ok (loc, node)

end Tree

end BenchReport.Files
