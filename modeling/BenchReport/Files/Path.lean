import BenchReport.Files.RawText

/-!
# Paths

Paths as they are written, and what can be read off them without looking at any file: the
parent, the last name, and the extension of a name. Repeated slashes, slashes at the end and
single dots count for nothing, but for a single dot at the start of a relative path. A path
is cut at slashes and put together with slashes, so a parent is a beginning of the path as it
was written.
-/

namespace BenchReport.Files.Path

open RawText (slash dot)

/-- What stands between the slashes, the two ends included. -/
def segments (s : List UInt8) : List (List UInt8) := s.splitOn slash

/-- Segments with slashes between them. -/
def ofSegments : List (List UInt8) → List UInt8
  | [] => []
  | [s] => s
  | s :: t :: r => s ++ slash :: ofSegments (t :: r)

/-- Whether a segment counts for nothing inside a path. -/
def isIdle (segment : List UInt8) : Bool := segment == [] || segment == [dot]

/-- Segments without the idle ones at the end. -/
def dropIdle (segments : List (List UInt8)) : List (List UInt8) :=
  (segments.reverse.dropWhile isIdle).reverse

/-- A path that is cut up. -/
structure Parts where
  /-- The slash that an absolute path starts with, the dot that a relative path may start
  with, or nothing. -/
  head : List UInt8
  /-- The segments after the head, the last of which is not idle. -/
  segments : List (List UInt8)
  deriving Repr, DecidableEq

namespace Parts

/-- The parts of a path. -/
def ofPath (path : RawText) : Parts :=
  match path.bytes with
  | slash :: r => ⟨[slash], dropIdle (Path.segments r)⟩
  | [dot] => ⟨[dot], []⟩
  | dot :: slash :: r => ⟨[dot], dropIdle (Path.segments (slash :: r))⟩
  | bytes => ⟨[], dropIdle (Path.segments bytes)⟩

/-- The path of some parts. -/
def path (p : Parts) : RawText := ⟨p.head ++ ofSegments p.segments⟩

end Parts

/-- The path without its last part, if it has one. -/
def parent? (path : RawText) : Option RawText :=
  let p := Parts.ofPath path
  if p.segments = [] then if p.head = [dot] then some "" else none
  else some (Parts.path ⟨p.head, dropIdle p.segments.dropLast⟩)

/-- The paths above some segments, which are given from the last to the first. -/
def parentsFrom (head : List UInt8) : List (List UInt8) → List RawText
  | [] => if head = [] then [] else [⟨head⟩]
  | s :: r =>
    if isIdle s then parentsFrom head r
    else ⟨head ++ ofSegments (s :: r).reverse⟩ :: parentsFrom head r

/-- A path, its parent, the parent of that, and so on. The empty path is left out. -/
def lineage (path : RawText) : List RawText :=
  let p := Parts.ofPath path
  match p.segments.reverse with
  | [] => if path = "" then [] else [path]
  | _ :: r => path :: parentsFrom p.head r

/-- The name that a path ends with. -/
def name? (path : RawText) : Option RawText :=
  match (Parts.ofPath path).segments.getLast? with
  | none => none
  | some [dot, dot] => none
  | some name => some ⟨name⟩

/-- The extension of a name: what follows the last dot, unless the name starts with it. -/
def extension? (name : RawText) : Option RawText :=
  let r := name.bytes.reverse
  match r.dropWhile (· != dot) with
  | _ :: _ :: _ => some ⟨(r.takeWhile (· != dot)).reverse⟩
  | _ => none

/-- A path that starts at another. An absolute path starts at the root whatever the other. -/
def join (base path : RawText) : RawText :=
  if path.bytes.head? = some slash then path
  else if base = "" ∨ base.bytes.getLast? = some slash then base ++ path
  else base ++ "/" ++ path

example : ["a//b/./", "/./a", "./a", ".", "..", "a", "/"].map
      (fun p : String => (parent? p).map (·.shown))
    = [some "a", some "/", some ".", some "", some "", some "", none] := by decide +kernel

example : ["a//b/./", "/./a/b", "./a", ".", "", "a/..", "/"].map
      (fun p : String => (lineage p).map (·.shown))
    = [["a//b/./", "a"], ["/./a/b", "/./a", "/"], ["./a", "."], ["."], [], ["a/..", "a"],
      ["/"]] := by decide +kernel

example : ["a/b/", "./", "a/..", "/"].map (fun p : String => (name? p).map (·.shown))
    = [some "b", none, none, none] := by decide +kernel

example : ["a.b.txt", ".txt", "a.", "a"].map (fun p : String => (extension? p).map (·.shown))
    = [some "txt", none, some "", none] := by decide +kernel

example : [join "o" "r.md", join "o/" "r.md", join "o" "/r.md", join "o" "", join "" "r"].map
      (·.shown)
    = ["o/r.md", "o/r.md", "/r.md", "o/", "r"] := by decide +kernel

end BenchReport.Files.Path
