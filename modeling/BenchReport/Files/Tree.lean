import BenchReport.Files.RawText

/-!
# Trees of files

What a file system holds: files, directories and links, each at a location, which is the list
of names that leads to it from the root. A tree is the list of its entries, no two at one
location, and the entries of a directory are enumerated in the order of that list. The root
is a directory of every tree.
-/

namespace BenchReport.Files

/-- The names that lead from the root to a file. -/
abbrev Location := List RawText

/-- What stands at a location like a file and keeps no bytes. -/
inductive Device where
  /-- A file of which nothing can be read or written. -/
  | failing
  /-- What takes all bytes and has none. -/
  | null
  /-- What takes no bytes. -/
  | full
  deriving Repr, DecidableEq

/-- What may stand at a location. -/
inductive Node where
  /-- A file with its bytes. -/
  | file (bytes : List UInt8)
  /-- A device. -/
  | device (kind : Device)
  /-- A directory. -/
  | directory
  /-- A link to a path. -/
  | link (target : RawText)
  deriving Repr, DecidableEq

/-- What a file system holds. -/
structure Tree where
  /-- The directory at which relative paths start. -/
  start : Location
  /-- The entries. -/
  entries : List (Location × Node)
  deriving Repr, DecidableEq

namespace Tree

/-- What stands at a location. -/
def get? (t : Tree) (loc : Location) : Option Node :=
  if loc = [] then some .directory else (t.entries.find? (·.1 == loc)).map (·.2)

/-- Puts an entry in the place of the one at its location, or at the end. -/
def putEntry (loc : Location) (node : Node) : List (Location × Node) → List (Location × Node)
  | [] => [(loc, node)]
  | e :: es => if e.1 = loc then (loc, node) :: es else e :: putEntry loc node es

/-- The tree with a node at a location. -/
def put (t : Tree) (loc : Location) (node : Node) : Tree :=
  { t with entries := putEntry loc node t.entries }

/-- The tree without what stands at a location or below it. -/
def erase (t : Tree) (loc : Location) : Tree :=
  { t with entries := t.entries.filter fun e => !loc.isPrefixOf e.1 }

/-- The name that a location has within a directory, if it lies directly in it. -/
def nameIn? (directory loc : Location) : Option RawText :=
  match loc.getLast? with
  | none => none
  | some name => if loc.dropLast = directory then some name else none

/-- The names in a directory, in the order of enumeration. -/
def names (t : Tree) (directory : Location) : List RawText :=
  t.entries.filterMap fun e => nameIn? directory e.1

/-- The entries of a tree that an earlier one does not have, or has with another content. They stand
in the order of the later tree, where a directory stands before what was put into it. -/
def changes (earlier later : Tree) : List (Location × Node) :=
  later.entries.filter fun e => earlier.get? e.1 != some e.2

theorem find?_putEntry_self (loc : Location) (node : Node) (es : List (Location × Node)) :
    (putEntry loc node es).find? (·.1 == loc) = some (loc, node) := by
  induction es with
  | nil => simp [putEntry]
  | cons e es ih =>
    by_cases h : e.1 = loc
    · simp [putEntry, h]
    · simpa [putEntry, h] using ih

theorem find?_putEntry_of_ne {loc other : Location} (h : other ≠ loc) (node : Node)
    (es : List (Location × Node)) :
    (putEntry loc node es).find? (·.1 == other) = es.find? (·.1 == other) := by
  induction es with
  | nil => simp [putEntry, h.symm]
  | cons e es ih =>
    by_cases he : e.1 = loc
    · simp [putEntry, he, h.symm]
    · by_cases ho : e.1 = other
      · simp [putEntry, ho, h]
      · simpa [putEntry, he, ho] using ih

/-- What was put is found. -/
theorem get?_put_self {loc : Location} (h : loc ≠ []) (t : Tree) (node : Node) :
    (t.put loc node).get? loc = some node := by
  simp [get?, put, h, find?_putEntry_self]

/-- What stands elsewhere is not changed by putting. -/
theorem get?_put_of_ne {loc other : Location} (h : other ≠ loc) (t : Tree) (node : Node) :
    (t.put loc node).get? other = t.get? other := by
  simp [get?, put, find?_putEntry_of_ne h]

end Tree

/-- The absolute path of a location, as it is shown. -/
def Location.path (loc : Location) : String := "/" ++ "/".intercalate (loc.map RawText.shown)

end BenchReport.Files
