import BenchReport.Files.Lookup

/-!
# Reading from a tree

What can be learnt at a path: whether it leads to a file or a directory, the names in a
directory, and the bytes of a file. A directory can be opened like a file, and it is only the
reading that fails then.
-/

namespace BenchReport.Files

/-- The bytes of what was opened. -/
def Node.read : Node → Except Fault (List UInt8)
  | .file bytes => .ok bytes
  | .device .null => .ok []
  | .device _ => .error .device
  | .directory => .error .directory
  | .link _ => .error .links

/-- Whether a node is a file. Of the devices, only that which fails passes for one. -/
def Node.isFile : Node → Bool
  | .file _ => true
  | .device kind => kind == .failing
  | .directory => false
  | .link _ => false

namespace Tree

/-- Opens what a path leads to. -/
def openFile (t : Tree) (path : RawText) : Except Fault Node :=
  match t.find path with
  | .error e => .error e
  | .ok (_, node) => .ok node

/-- The bytes of a file. -/
def read (t : Tree) (path : RawText) : Except Fault (List UInt8) :=
  match t.openFile path with
  | .error e => .error e
  | .ok node => node.read

/-- The text of a file. -/
def readText (t : Tree) (path : RawText) : Except Fault (List Char) :=
  match t.read path with
  | .error e => .error e
  | .ok bytes =>
    match Text.Utf8.decode? bytes with
    | none => .error .notText
    | some text => .ok text

/-- Whether a path leads to a file. -/
def isFile (t : Tree) (path : RawText) : Bool :=
  match t.openFile path with
  | .error _ => false
  | .ok node => node.isFile

/-- Whether a path leads to a directory. -/
def isDirectory (t : Tree) (path : RawText) : Bool :=
  match t.openFile path with
  | .error _ => false
  | .ok node => node == .directory

/-- The names in the directory that a path leads to, in the order of enumeration. -/
def list (t : Tree) (path : RawText) : Except Fault (List RawText) :=
  match t.find path with
  | .error e => .error e
  | .ok (loc, .directory) => .ok (t.names loc)
  | .ok _ => .error .notDirectory

end Tree

end BenchReport.Files
