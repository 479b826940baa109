import BenchReport.Expression.Nesting
import BenchReport.Text.Letter
import BenchReport.Text.Lines

/-!
# Regular expressions that can be read

Which texts are regular expressions. A reader goes through a text from left to right, one
character at a time, and sees what follows; it keeps the open groups and classes and refuses
a character that cannot stand where it is.

Expressions are meant for texts and for a machine without memory: what could match a part of
a character is refused, and so are the bounds of words, unless the flag `u` is off and they are
bounds of ASCII words. Expressions have no lookaround, no references, and no braces: neither
counts nor names in braces.
-/

namespace BenchReport.Expression

/-! ### Items -/

/-- The flags that decide what can be read. -/
structure Flags where
  /-- The flag `u`, which is on at first: characters and not octets are matched. -/
  unicode : Bool := true
  /-- The flag `x`: blanks and comments between items are left out. -/
  spaced : Bool := false
  deriving Repr, DecidableEq

/-- An item that stands for one character or none. -/
inductive Item where
  /-- A character, which may be written as an octet with two digits. -/
  | char (c : Char) (octet : Bool)
  /-- A class with a letter, or all that is outside of it. -/
  | set (outside : Bool)
  /-- A class with a letter for a property. -/
  | property
  /-- A bound of the text or, if so, of a word. -/
  | bound (word : Bool)
  deriving Repr, DecidableEq

namespace Item

/-- Whether an item may stand by itself. -/
def mayStand (f : Flags) : Item → Bool
  | char c octet => f.unicode || !octet || c.toNat < 0x80
  | set outside => f.unicode || !outside
  | property => f.unicode
  | bound word => !(word && f.unicode)

/-- Whether an item may be a member of a class. -/
def mayBelong (f : Flags) : Item → Bool
  | char c _ => f.unicode || c.toNat < 0x80
  | set outside => f.unicode || !outside
  | property => f.unicode
  | bound _ => false

/-- Whether two items are the ends of a range. -/
def mayBound (f : Flags) : Item → Item → Bool
  | low@(char c _), high@(char d _) => low.mayBelong f && high.mayBelong f && c ≤ d
  | _, _ => false

end Item

/-- What the item is for that a backslash begins. -/
inductive Use where
  /-- It stands by itself. -/
  | item
  /-- It is a member of a class, or the lower end of a range. -/
  | member
  /-- It is the upper end of a range with this lower one. -/
  | upper (low : Item)
  deriving Repr, DecidableEq

/-- Where in a text its reader is. -/
inductive Place where
  /-- Between items. -/
  | item
  /-- Right after a sign of repetition. -/
  | repeated
  /-- After a backslash. -/
  | escape (use : Use)
  /-- Before so many hexadecimal digits, after digits that name a number. Two digits in all are
  those of an octet. -/
  | code (use : Use) (left number : Nat) (octet : Bool)
  /-- Before the letter of a property. -/
  | property (use : Use)
  /-- After an opening parenthesis. -/
  | opened
  /-- After the question mark of a parenthesis. -/
  | marked
  /-- Before the sign that opens the name of a group. -/
  | named
  /-- In the name of a group, after these characters. -/
  | name (begun : List Char)
  /-- After these flags of a group. -/
  | flags (seen : List Char)
  /-- After the bracket that opens a class, and the caret if there was one. -/
  | classHead (caret : Bool)
  /-- After a hyphen with which a class begins. -/
  | classHyphen
  /-- Between members of a class. -/
  | members
  /-- After an item in a class. -/
  | member (i : Item)
  /-- After the lower end and the hyphen of a range. -/
  | range (low : Item)
  /-- Before so many characters that have been seen already. -/
  | passing (more : Nat)
  deriving Repr, DecidableEq

/-- Whether blanks and comments may stand at a place, if the flag for it is on. -/
def Place.maySpace : Place → Bool
  | item | repeated | code _ _ _ _ | property _ | opened | classHead _ | classHyphen | members
  | member _ | range _ => true
  | escape _ | marked | named | name _ | flags _ | passing _ => false

/-- What a reader knows. -/
structure State where
  /-- The flags. -/
  mode : Flags := {}
  /-- Whether a comment is being read. -/
  comment : Bool := false
  /-- The names of groups. -/
  names : List (List Char) := []
  /-- What stands around the innermost open group and those around it: the flags there, and the
  branches so far. -/
  groups : List (Flags × Choice) := []
  /-- The branches of the innermost open group. -/
  branches : Choice := {}
  /-- The open classes, the innermost first. -/
  classes : List Members := []
  /-- The place. -/
  place : Place := .item
  deriving Repr, DecidableEq

/-! ### Looking ahead -/

/-- The next character that is no blank. A number sign is passed as if it were one, and only
the first. If nothing but such characters follows, it is the very next character. -/
def next? (f : Flags) (r : List Char) : Option Char :=
  if f.spaced then
    let s := match r.dropWhile Text.isBlank with
      | '#' :: s => s.dropWhile Text.isBlank
      | s => s
    match s with
    | c :: _ => some c
    | [] => r.head?
  else r.head?

/-- The classes with names in colons. -/
def asciiClasses : List String :=
  ["alnum", "alpha", "ascii", "blank", "cntrl", "digit", "graph", "lower", "print", "punct",
    "space", "upper", "word", "xdigit"]

/-- The class with a name in colons that follows a bracket: whether all outside of it is meant,
and the number of characters up to its closing bracket. -/
def asciiClass? : List Char → Option (Bool × Nat)
  | ':' :: r =>
    let outside := r.head? = some '^'
    let s := if outside then r.drop 1 else r
    let name := s.takeWhile (· != ':')
    match s.drop name.length with
    | ':' :: ']' :: _ =>
      if asciiClasses.contains (String.ofList name) then
        some (outside, (if outside then 1 else 0) + name.length + 3)
      else none
    | _ => none
  | _ => none

/-- The value of a hexadecimal digit. -/
def hexDigit? (c : Char) : Option Nat :=
  if c.isDigit then some (c.toNat - '0'.toNat)
  else if 'a' ≤ c ∧ c ≤ 'f' then some (c.toNat - 'a'.toNat + 10)
  else if 'A' ≤ c ∧ c ≤ 'F' then some (c.toNat - 'A'.toNat + 10)
  else none

/-- Whether a flag is on after some flags, of which a hyphen switches those off that follow. -/
def isOn (flag : Char) (before : Bool) (seen : List Char) : Bool :=
  if seen.contains flag then !(seen.takeWhile (· != flag)).contains '-' else before

namespace State

/-- The state at another place. -/
def go (s : State) (place : Place) : State := { s with place := place }

/-- The state after an item with some levels, outside of classes. -/
def afterItem (s : State) (depth : Nat) : State :=
  { s with branches := s.branches.push depth, place := .item }

/-- The state after a member with some levels, if the place is in a class. -/
def afterMember? (s : State) (depth : Nat) (place : Place) : Option State :=
  match s.classes with
  | [] => none
  | m :: ms => some { s with classes := m.push depth :: ms, place := place }

/-- The state after a range. -/
def afterRange? (s : State) (low high : Item) : Option State :=
  if low.mayBound s.mode high then s.afterMember? 0 .members else none

/-- The state after an item for some use. -/
def use? (s : State) (use : Use) (i : Item) : Option State :=
  match use with
  | .item => if i.mayStand s.mode then some (s.afterItem 0) else none
  | .member => some (s.go (.member i))
  | .upper low => s.afterRange? low i

/-- The state with a group open. -/
def openGroup (s : State) : State :=
  { s with groups := (s.mode, s.branches) :: s.groups, branches := {}, place := .item }

/-- The state with the innermost group closed. -/
def closeGroup? (s : State) : Option State :=
  match s.groups with
  | [] => none
  | (mode, outer) :: groups =>
    some ({ s with mode := mode, groups := groups, branches := outer }.afterItem
      (s.branches.whole + 1))

/-- The state with a class open. -/
def openClass (s : State) : State :=
  { s with classes := {} :: s.classes, place := .classHead false }

/-- The state with the innermost class closed. -/
def closeClass? (s : State) : Option State :=
  match s.classes with
  | [] => none
  | [m] => some ({ s with classes := [] }.afterItem (m.whole + 1))
  | m :: ms => { s with classes := ms }.afterMember? (m.whole + 1) .members

/-- The state after an operation between members. -/
def operate? (s : State) : Option State :=
  match s.classes with
  | [] => none
  | m :: ms => some { s with classes := m.operate :: ms, place := .passing 1 }

/-! ### One character -/

/-- After a character between items. -/
def item? (s : State) (c : Char) : Option State :=
  match c with
  | '(' => some (s.go .opened)
  | ')' => s.closeGroup?
  | '|' => some { s with branches := s.branches.next, place := .item }
  | '*' | '+' | '?' =>
    s.branches.repeatLast?.map fun b => { s with branches := b, place := .repeated }
  | '\x7b' => none
  | '[' => some s.openClass
  | '\\' => some (s.go (.escape .item))
  | '.' => if s.mode.unicode then some (s.afterItem 0) else none
  | _ => some (s.afterItem 0)

/-- After the character that a backslash stands before. -/
def escape? (s : State) (use : Use) (c : Char) : Option State :=
  match c with
  | 'd' | 's' | 'w' => s.use? use (.set false)
  | 'D' | 'S' | 'W' => s.use? use (.set true)
  | 'p' | 'P' => some (s.go (.property use))
  | 'x' => some (s.go (.code use 2 0 true))
  | 'u' => some (s.go (.code use 4 0 false))
  | 'U' => some (s.go (.code use 8 0 false))
  | 'A' | 'z' => s.use? use (.bound false)
  | 'b' | 'B' | '<' | '>' => s.use? use (.bound true)
  | 'a' => s.use? use (.char '\x07' false)
  | 'f' => s.use? use (.char '\x0c' false)
  | 't' => s.use? use (.char '\t' false)
  | 'n' => s.use? use (.char '\n' false)
  | 'r' => s.use? use (.char '\r' false)
  | 'v' => s.use? use (.char '\x0b' false)
  | c => if c.isAlphanum ∨ 0x80 ≤ c.toNat then none else s.use? use (.char c false)

/-- After a hexadecimal digit. -/
def code? (s : State) (use : Use) (left number : Nat) (octet : Bool) (c : Char) : Option State :=
  (hexDigit? c).bind fun d =>
    let n := 16 * number + d
    if 1 < left then some (s.go (.code use (left - 1) n octet))
    else if n.isValidChar then s.use? use (.char (Char.ofNat n) octet)
    else none

/-- After a character of the name of a group. A name starts with a letter or a low line, and no
two groups have one name. -/
def name? (s : State) (begun : List Char) (c : Char) : Option State :=
  if c = '>' then
    if begun = [] ∨ s.names.contains begun then none
    else some { s with names := begun :: s.names }.openGroup
  else if c = '_' ∨ (if begun = [] then Text.isAlphabetic c
      else Text.isAlphanumeric c || c == '.' || c == '[' || c == ']') then
    some (s.go (.name (begun ++ [c])))
  else none

/-- After a character of the flags of a group, which are for the group if a colon follows, and
else for what follows in the group around them. -/
def flag? (s : State) (seen : List Char) (c : Char) : Option State :=
  let mode : Flags := ⟨isOn 'u' s.mode.unicode seen, isOn 'x' s.mode.spaced seen⟩
  if c = ':' ∨ c = ')' then
    if seen.getLast? = some '-' then none
    else if c = ':' then some { s.openGroup with mode := mode }
    else if seen = [] then none
    else some { s with mode := mode, branches := s.branches.pushMark, place := .item }
  else if "imsUuRx-".toList.contains c && !seen.contains c then
    some (s.go (.flags (seen ++ [c])))
  else none

/-- After a character between members of a class, before the text `r`. -/
def members? (s : State) (c : Char) (r : List Char) : Option State :=
  if c = '[' then
    match asciiClass? r with
    | some (outside, n) =>
      if outside && !s.mode.unicode then none else s.afterMember? 0 (.passing n)
    | none => some s.openClass
  else if c = ']' then s.closeClass?
  else if (c = '&' ∨ c = '-' ∨ c = '~') ∧ r.head? = some c then s.operate?
  else if c = '\\' then some (s.go (.escape .member))
  else some (s.go (.member (.char c false)))

/-- After a character at the beginning of a class. A bracket that comes first is a member. -/
def classHead? (s : State) (caret : Bool) (c : Char) (r : List Char) : Option State :=
  if c = '^' ∧ !caret then if s.mode.unicode then some (s.go (.classHead true)) else none
  else if c = '-' then s.afterMember? 0 .classHyphen
  else if c = ']' then s.afterMember? 0 .members
  else s.members? c r

/-- After the character that follows an item in a class. A hyphen makes the item the lower end
of a range, unless a bracket or a hyphen comes next. -/
def member? (s : State) (i : Item) (c : Char) (r : List Char) : Option State :=
  if c = '-' ∧ next? s.mode r ≠ some ']' ∧ next? s.mode r ≠ some '-' then some (s.go (.range i))
  else if i.mayBelong s.mode then (s.afterMember? 0 .members).bind (·.members? c r)
  else none

/-- After a character that is no blank and in no comment, or not left out as such. -/
def read? (s : State) (c : Char) (r : List Char) : Option State :=
  match s.place with
  | .item => s.item? c
  | .repeated => if c = '?' then some (s.go .item) else s.item? c
  | .escape use => s.escape? use c
  | .code use left number octet => s.code? use left number octet c
  | .property use =>
    if "CLMNPSZclmnpsz".toList.contains c then s.use? use .property else none
  | .opened => if c = '?' then some (s.go .marked) else s.openGroup.item? c
  | .marked =>
    if c = '<' then some (s.go (.name []))
    else if c = 'P' ∧ r.head? = some '<' then some (s.go .named)
    else s.flag? [] c
  | .named => some (s.go (.name []))
  | .name begun => s.name? begun c
  | .flags seen => s.flag? seen c
  | .classHead caret => s.classHead? caret c r
  | .classHyphen => if c = '-' then s.afterMember? 0 .classHyphen else s.members? c r
  | .members => s.members? c r
  | .member i => s.member? i c r
  | .range low =>
    if c = '\\' then some (s.go (.escape (.upper low))) else s.afterRange? low (.char c false)
  | .passing more => some (s.go (if more ≤ 1 then .members else .passing (more - 1)))

/-- After a character that is followed by the text `r`. -/
def after? (s : State) (c : Char) (r : List Char) : Option State :=
  if s.comment then some { s with comment := c != '\n' }
  else if s.mode.spaced && s.place.maySpace && (Text.isBlank c || c == '#') then
    some { s with comment := c == '#', place := if s.place = .repeated then .item else s.place }
  else s.read? c r

/-- After a text. -/
def afterAll? (s : State) : List Char → Option State
  | [] => some s
  | c :: r => (s.after? c r).bind (·.afterAll? r)

/-- Whether an expression may end. -/
def isDone (s : State) : Bool :=
  (s.place = .item || s.place = .repeated) && s.groups = [] && s.branches.whole ≤ limit

end State

/-- Whether a text is a regular expression. -/
def isReadable (s : List Char) : Bool := (State.afterAll? {} s).any State.isDone

example : ["(?x)a #(", "(?-u:\\b)", "[a-]", "[]-a]", "(?x)[a - c]", "(?<a>x)(?<A>y)"].all
    (isReadable ·.toList) := by
  decide +kernel

example : ["[b-a]", "[a-\\d]", "(?-u:.)", "(?x) *", "(?<a>x)(?<a>y)", "(?-u)[^a]"].all
    (!isReadable ·.toList) := by
  decide +kernel

end BenchReport.Expression
