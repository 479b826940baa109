import BenchReport.Files.Reading

/-!
# Writing to a tree

Writing a file, adding to the end of a file, and making directories. A file that is written
need not exist, but its directory must. Making a directory together with those above it
starts from the bottom and goes up only as far as something is missing; what was made stays
even if the rest cannot be made.
-/

namespace BenchReport.Files

/-- What came of an attempt to change a tree. -/
structure Attempt where
  /-- The tree after the attempt. -/
  tree : Tree
  /-- Why the attempt failed, if it did. -/
  fault? : Option Fault
  deriving Repr, DecidableEq

/-- Why bytes cannot be written to a device, if they cannot. Nothing can always be written. -/
def Device.refusal? (bytes : List UInt8) : Device → Option Fault
  | .failing => if bytes = [] then none else some .device
  | .null => none
  | .full => if bytes = [] then none else some .full

namespace Tree

/-- An attempt that did what it should. -/
def done (t : Tree) : Attempt := ⟨t, none⟩

/-- An attempt that failed and left this tree. -/
def failed (t : Tree) (e : Fault) : Attempt := ⟨t, some e⟩

/-- Writes a file whose bytes are made from those that are there. -/
def change (t : Tree) (path : RawText) (f : List UInt8 → List UInt8) : Attempt :=
  match t.lookup .write path with
  | .error e => t.failed e
  | .ok (.free loc) => (t.put loc (.file (f []))).done
  | .ok (.taken loc (.file bytes)) => (t.put loc (.file (f bytes))).done
  | .ok (.taken _ (.device kind)) => ⟨t, kind.refusal? (f [])⟩
  | .ok (.taken _ _) => t.failed .directory

/-- Writes a file, in place of the one that is there. -/
def write (t : Tree) (path : RawText) (bytes : List UInt8) : Attempt :=
  t.change path fun _ => bytes

/-- Adds to the end of a file. -/
def append (t : Tree) (path : RawText) (bytes : List UInt8) : Attempt :=
  t.change path fun old => old ++ bytes

/-- Opens a file to add to its end, and makes it if there is none. -/
def openEnd (t : Tree) (path : RawText) : Attempt := t.append path []

/-- Makes a directory in one that exists. -/
def makeDirectory (t : Tree) (path : RawText) : Attempt :=
  match t.lookup .make path with
  | .error e => t.failed e
  | .ok (.taken _ _) => t.failed .occupied
  | .ok (.free loc) => (t.put loc .directory).done

/-- Makes the first of some directories, each of which lies in the next. Nothing is wrong
with a directory that is there already. -/
def makeChain (t : Tree) : List RawText → Attempt
  | [] => t.done
  | path :: above =>
    let first := t.makeDirectory path
    match first.fault? with
    | none => first
    | some .missing =>
      let upper := makeChain t above
      match upper.fault? with
      | some e => upper.tree.failed e
      | none =>
        let second := upper.tree.makeDirectory path
        match second.fault? with
        | none => second
        | some e => if upper.tree.isDirectory path then upper.tree.done else upper.tree.failed e
    | some e => if t.isDirectory path then t.done else t.failed e

/-- Makes a directory and those above it, as far as they are missing. -/
def makeDirectories (t : Tree) (path : RawText) : Attempt := t.makeChain (Path.lineage path)

end Tree

end BenchReport.Files
