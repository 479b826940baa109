import BenchReport.Program
import Std.Time.DateTime.Timestamp

/-!
# The executable

The outermost layer: it loads from the file system what a run may look at, lets the program
decide, and carries out what came of it. Links are loaded as what they lead to.
-/

namespace BenchReport.Main

open Files (Tree Node Location RawText)

/-- The bytes of a file of the file system, as a node. -/
def fileNode (path : String) : IO Node := do
  try return .file (← IO.FS.readBinFile path).toList
  catch _ => return .device .failing

/-- What stands at a path of the file system. -/
def probe? (path : String) : IO (Option Node) := do
  try
    let found ← IO.FS.realPath path
    if (← found.metadata).type == .dir then return some .directory
    return some (← fileNode path)
  catch _ => return none

/-- Loads what stands along the steps from a directory, as far as there is something. -/
def loadSteps (t : Tree) (here : Location) : List RawText → IO Tree
  | [] => return t
  | step :: rest => do
    if step = "" ∨ step = "." then loadSteps t here rest
    else if step = ".." then loadSteps t here.dropLast rest
    else
      let there := here ++ [step]
      match ← probe? there.path with
      | none => return t
      | some node => loadSteps (t.put there node) there rest

/-- Loads what stands along a path. -/
def loadPath (t : Tree) (path : RawText) : IO Tree :=
  loadSteps t (if Files.isAbsolute path then [] else t.start) (Files.stepsOf path)

/-- Loads a directory and the files in it that have an extension. -/
def loadInputs (t : Tree) (directory? : Option RawText) (extension : String) : IO Tree := do
  match directory? with
  | none => return t
  | some directory =>
    let t ← loadPath t directory
    unless t.isDirectory directory do return t
    let entries := (← (← IO.FS.realPath directory.shown).readDir).toList
    let names := entries.map fun entry => RawText.ofText entry.fileName
    let inputs := names.filter fun name => Files.Path.extension? name == some ↑extension
    inputs.foldlM (fun t name => loadPath t (Files.Path.join directory name)) t

/-- The tree of what a run with some settings may look at. -/
def loadTree (s : Settings) : IO Tree := do
  let steps := (Files.stepsOf (← IO.FS.realPath ".").toString).filter (· != RawText.ofText "")
  let t ← loadSteps ⟨steps, []⟩ [] steps
  let t ← loadInputs t s.timingsPath Inputs.timingExtension
  let t ← loadInputs t s.measurementsPath Inputs.measurementExtension
  let written := [↑s.output, s.reportPath, s.dataPath] ++ s.logFile.toList.map RawText.ofText
  written.foldlM loadPath t

/-- Carries out a change. -/
def carryOut : Location × Node → IO Unit
  | (loc, .directory) => IO.FS.createDirAll loc.path
  | (loc, .file bytes) => IO.FS.writeBinFile loc.path ⟨bytes.toArray⟩
  | _ => return ()

/-- The first word of a file of the system, or a word for a host that does not tell. -/
def hostWord (path default : String) : IO String := do
  try
    return String.ofList ((← IO.FS.readFile path).toList.takeWhile (!·.isWhitespace))
  catch _ => return default

/-- The host. -/
def hostOrigin : IO Origin := do
  let os ← hostWord "/proc/sys/kernel/ostype" "unknown"
  let architecture ← hostWord "/proc/sys/kernel/arch" "unknown"
  let cores ← try
      let lines := Text.lines (← IO.FS.readFile "/proc/cpuinfo").toList
      pure (lines.filter ("processor".toList.isPrefixOf ·)).length
    catch _ => pure 1
  return ⟨version, os.toLower, architecture, UInt64.ofNat cores⟩

/-- The time. -/
def now : IO Instant := do
  let ns := (← Std.Time.Timestamp.now).toNanosecondsSinceUnixEpoch.val
  return .ofUnix (ns.fdiv 1000000000) (ns.fmod 1000000000).toNat

/-- Whether the terminal is to be sent styles. -/
def wantsColor : IO Bool := do
  match ← IO.getEnv "CLICOLOR_FORCE" with
  | some force => if force != "0" then return true
  | none => pure ()
  if (← IO.getEnv "NO_COLOR").isSome then return false
  (← IO.getStdout).isTty

end BenchReport.Main

open BenchReport in
def main (arguments : List String) : IO UInt32 := do
  let start : Program.Start := {
    arguments := arguments
    filter? := ← IO.getEnv "RUST_LOG"
    color := ← Main.wantsColor
    origin := ← Main.hostOrigin
    time := ← Main.now }
  let tree ← match CommandLine.read arguments with
    | .ok given => Main.loadTree given.settings
    | .error _ => pure ⟨[], []⟩
  let result := Program.perform start tree
  (tree.changes result.tree).forM Main.carryOut
  IO.print result.out
  IO.eprint result.err
  return result.status.toUInt32
