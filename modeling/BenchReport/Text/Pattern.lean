/-!
# Patterns

Patterns of the beginning of a text, some parts of which are kept. There may be several ways
to take the beginning of a text by a pattern. They are listed in order of preference: a run of
characters is taken as long as can be before it is taken shorter, and the first of two
alternatives before the second. The way that counts is the first that there is.
-/

namespace BenchReport.Text

/-- A pattern of the beginning of a text. -/
inductive Pattern where
  /-- Nothing at all. -/
  | nothing
  /-- A character of a class. -/
  | one (p : Char → Bool)
  /-- Any number of characters of a class, more of them rather than fewer. -/
  | many (p : Char → Bool)
  /-- One pattern and then another. -/
  | both (a b : Pattern)
  /-- One of two patterns, the first rather than the second. -/
  | either (a b : Pattern)
  /-- A pattern whose text is kept. -/
  | kept (a : Pattern)

/-- A way to take the beginning of a text. -/
structure Way where
  /-- What is taken. -/
  text : List Char
  /-- The parts of it that are kept. -/
  parts : List (List Char)
  /-- What follows. -/
  rest : List Char
  deriving Repr, DecidableEq

/-- A way after a character. -/
def Way.after (c : Char) (w : Way) : Way := ⟨c :: w.text, w.parts, w.rest⟩

/-- One way and then another through what follows it. -/
def Way.andThen (w v : Way) : Way := ⟨w.text ++ v.text, w.parts ++ v.parts, v.rest⟩

/-- A way whose text is kept, before the parts that it keeps itself. -/
def Way.keep (w : Way) : Way := ⟨w.text, w.text :: w.parts, w.rest⟩

namespace Pattern

/-- The ways to take a run of characters of a class, the longest first. -/
def manyWays (p : Char → Bool) : List Char → List Way
  | [] => [⟨[], [], []⟩]
  | c :: r => (if p c then (manyWays p r).map (.after c) else []) ++ [⟨[], [], c :: r⟩]

/-- The ways to take the beginning of a text by a pattern, in order of preference. -/
def ways : Pattern → List Char → List Way
  | nothing, s => [⟨[], [], s⟩]
  | one _, [] => []
  | one p, c :: r => if p c then [⟨[c], [], r⟩] else []
  | many p, s => manyWays p s
  | both a b, s => (a.ways s).flatMap fun w => (b.ways w.rest).map w.andThen
  | either a b, s => a.ways s ++ b.ways s
  | kept a, s => (a.ways s).map .keep

/-- The way that a pattern takes the beginning of a text, if there is one. -/
def take? (a : Pattern) (s : List Char) : Option Way := (a.ways s).head?

/-- At least one character of a class. -/
def run (p : Char → Bool) : Pattern := both (one p) (many p)

/-- A pattern or nothing. -/
def optional (a : Pattern) : Pattern := either a nothing

/-- The characters of a word. -/
def word (w : List Char) : Pattern := w.foldr (fun c a => both (one (· == c)) a) nothing

/-- Patterns one after the other. -/
def sequence (as : List Pattern) : Pattern := as.foldr both nothing

/-- The first of several words that is there. -/
def oneOf (w : List Char) (ws : List (List Char)) : Pattern :=
  match ws with
  | [] => word w
  | v :: ws => either (word w) (oneOf v ws)

end Pattern

end BenchReport.Text
