import BenchReport.Decimal.Numeral
import BenchReport.Expression.Reader
import BenchReport.Log.Event
import BenchReport.Text.Letter
import BenchReport.Text.Lines
import BenchReport.Text.Utf8

/-!
# Log filters

A filter says which events are logged. It is a list of directives, written with commas
between them: a level alone is for all sources, a level after a source and an equals sign is
for that source and for those whose names it begins, and a source alone has everything
logged. In brackets after the source, a directive may name a span that events are in, and in
braces a field that they have. No event here is in a span, and each has one field, its
message, whose value is not looked at.

The directive with the longest source counts, of two for the same source one with a field, and
of two such the later one. What no directive is for is not logged.
-/

namespace BenchReport.Log.Pattern

/-! ### Patterns of values

The value of a field stands as a number or as a regular expression. Values are never matched
here; but a filter whose value can be read as neither is no filter. -/

/-- A text without the sign that it starts with. -/
def unsigned (s : List Char) : List Char :=
  match s with
  | '+' :: r | '-' :: r => r
  | _ => s

/-- Whether a text is an exponent, or empty. -/
def isExponent : List Char → Bool
  | [] => true
  | c :: r => (c = 'e' || c = 'E') && unsigned r ≠ [] && (unsigned r).all Decimal.isDigit

/-- Whether a text is a number: digits, with a sign, a point and an exponent if there are
those, or a word for what is not finite. -/
def isNumber (s : List Char) : Bool :=
  let (whole, r) := (unsigned s).span Decimal.isDigit
  let (part, r) := match r with
    | '.' :: r => r.span Decimal.isDigit
    | r => ([], r)
  ["inf", "infinity", "nan"].contains (String.ofList ((unsigned s).map Char.toLower))
    || (whole ++ part ≠ [] && isExponent r)

/-- Whether a value of a field can be read. -/
def isValue (s : List Char) : Bool := isNumber s || Expression.isReadable s

example : ["", "a|(b*)?", "[^]a-z[:digit:]]+", "(?i)x", "(?P<n>.)\\d", "+1e5"].all
    (isValue ·.toList) := by
  decide +kernel

example : ["*", "(", "a)", "[a", "\\", "\\b", "a\x7b2", "(?=)", "+x"].all
    (!isValue ·.toList) := by
  decide +kernel

end BenchReport.Log.Pattern

namespace BenchReport.Log

/-- The least level that is logged, or none if nothing is. -/
abbrev Threshold := Option Level

namespace Threshold

/-- The thresholds by their names. -/
def names : List (String × Threshold) :=
  [("off", none), ("error", some .error), ("warn", some .warn), ("info", some .info),
    ("debug", some .debug), ("trace", some .trace)]

/-- The thresholds in the order of their numbers. -/
def numbered : List Threshold := names.map (·.2)

/-- The number that some digits name, which may follow a plus sign. -/
def number? (s : List Char) : Option Nat :=
  let ds := match s with
    | '+' :: r => r
    | s => s
  if ds ≠ [] ∧ ds.all Char.isDigit then
    some (ds.foldl (fun n c => 10 * n + (c.toNat - '0'.toNat)) 0)
  else none

/-- The threshold of a name in letters of either case, or of a number from 0 to 5. -/
def ofText? (s : List Char) : Option Threshold :=
  match number? s with
  | some n => numbered[n]?
  | none => names.lookup (String.ofList (s.map Char.toLower))

/-- Whether a threshold lets a level pass. -/
def allows (t : Threshold) (l : Level) : Bool :=
  match t with
  | none => false
  | some least => least.rank ≤ l.rank

end Threshold

/-- A field that events are to have. -/
structure Field where
  /-- The name. -/
  name : List Char
  /-- The pattern of the value, if it matters. -/
  value? : Option (List Char)
  deriving Repr, DecidableEq

namespace Field

/-- The only field of an event. -/
def ofMessage : Field := ⟨"message".toList, none⟩

/-- The field that a text names. What follows a second equals sign is left out. -/
def ofText? (s : List Char) : Option Field :=
  match s.splitOn '=' with
  | name :: value :: _ => if Pattern.isValue value then some ⟨name, some value⟩ else none
  | name :: [] => if name = [] then none else some ⟨name, none⟩
  | [] => none

end Field

/-- What is left of the text of a directive. Where its parts end is found in the text without the
blanks around it, and what they are is read at the same positions of the text as it was given: so
blanks at the end belong to the last part, and blanks at the start move all parts. Positions are
counted in bytes. -/
structure Rest where
  /-- The text as it was given. -/
  given : List Char
  /-- The position. -/
  position : Nat
  /-- What is left of the text without the blanks around it. -/
  seen : List Char

namespace Rest

/-- The whole of a text. -/
def ofText (s : List Char) : Rest := ⟨s, 0, Text.trim s⟩

/-- What is left after so many characters. -/
def skip (r : Rest) (n : Nat) : Rest :=
  { r with position := r.position + Text.Utf8.size (r.seen.take n), seen := r.seen.drop n }

/-- The part up to a later place, if the text that was given can be cut at both. -/
def part? (r later : Rest) : Option (List Char) :=
  Text.Utf8.between? r.position later.position r.given

/-- What is left from the first of certain characters on, or nothing. -/
def upTo (r : Rest) (stops : List Char) : Rest :=
  r.skip (r.seen.takeWhile (!stops.contains ·)).length

/-- The part from here to the end. -/
def last? (r : Rest) : Option (List Char) := (Text.Utf8.cutAt? r.position r.given).map (·.2)

/-- The threshold of what ends here, which is that of everything, or goes on with an equals
sign. -/
def threshold? (r : Rest) : Option Threshold :=
  match r.seen with
  | [] => some (some .trace)
  | '=' :: _ =>
    (r.skip 1).last?.bind fun level =>
      if level = [] then some (some .trace) else Threshold.ofText? level
  | _ => none

end Rest

/-- What is logged of some events. -/
structure Directive where
  /-- What the names of the sources begin with, or none for all sources. -/
  source? : Option (List Char) := none
  /-- The span that the events are in, or none if they need not be in one. -/
  span? : Option (List Char) := none
  /-- The field that the events have, or none if they need not have one. -/
  field? : Option Field := none
  /-- The least level. -/
  threshold : Threshold
  deriving Repr, DecidableEq

namespace Directive

/-- Whether a directive may start with a character, unless it starts with a bracket. -/
def mayStart (c : Char) : Bool := Text.isAlphanumeric c || c == '-' || c == ':' || c == '_'

/-- The directive for a source that goes on with a span, a field or both in brackets. A field
may stand behind no span, but nothing in brackets is a span without a name. -/
def inBrackets? (source? : Option (List Char)) (r : Rest) : Option Directive := do
  let start := r.skip 1
  let stop := start.upTo [']', '\x7b']
  let span ← start.part? stop
  match stop.seen with
  | ']' :: _ => return ⟨source?, some span, none, ← (stop.skip 1).threshold?⟩
  | '\x7b' :: _ =>
    let start := stop.skip 1
    let stop := start.upTo ['\x7d']
    match stop.seen with
    | '\x7d' :: ']' :: _ =>
      let field ← (← start.part? stop) |> Field.ofText?
      return ⟨source?, if span = [] then none else some span, some field,
        ← (stop.skip 2).threshold?⟩
    | _ => none
  | _ => none

/-- The directive that a text names. -/
def ofText? (s : List Char) : Option Directive := do
  let start := Rest.ofText s
  let stop := start.upTo ['=', '[']
  match start.seen.head? with
  | none => none
  | some '[' => inBrackets? none stop
  | some c =>
    if !mayStart c then none
    else
      match stop.seen.head? with
      | none =>
        match Threshold.ofText? s with
        | some t => some { threshold := t }
        | none => some { source? := some s, threshold := some .trace }
      | some '[' => inBrackets? (← start.part? stop) stop
      | some _ => return { source? := ← start.part? stop, threshold := ← stop.threshold? }

/-- Whether a directive is for the events of a source. -/
def covers (d : Directive) (s : Source) : Bool :=
  d.source?.all (·.isPrefixOf s.name.toList)
    && d.span?.isNone && d.field?.all (· = Field.ofMessage)

/-- How close a directive is to the events that it is for. -/
def weight (d : Directive) : Nat :=
  2 * (d.source?.map (·.length + 1)).getD 0 + d.field?.toList.length

end Directive

/-- Which events are logged. -/
structure Filter where
  /-- The directives, in the order in which they were given. -/
  directives : List Directive
  deriving Repr, DecidableEq

namespace Filter

/-- The filter that a text names. Nothing between two commas is no directive, and no directives
are the filter that nothing passes. -/
def ofText? (s : String) : Option Filter :=
  (((s.toList.splitOn ',').filter (· ≠ [])).mapM Directive.ofText?).map (⟨·⟩)

/-- The filter that a level passes, and whatever matters more. -/
def ofLevel (l : Level) : Filter := ⟨[{ threshold := some l }]⟩

/-- The filter of a run: the one that a text names if there is such a text, or else that of a
level. -/
def choose (text? : Option String) (l : Level) : Filter :=
  (text?.bind ofText?).getD (ofLevel l)

/-- The directive that decides about a source. -/
def directive? (f : Filter) (s : Source) : Option Directive :=
  (f.directives.filter (·.covers s)).foldl
    (fun best? d =>
      match best? with
      | none => some d
      | some best => if best.weight ≤ d.weight then some d else some best)
    none

/-- Whether an event is logged. -/
def passes (f : Filter) (e : Event) : Bool :=
  match f.directive? e.source with
  | none => false
  | some d => d.threshold.allows e.level

end Filter

/-- The level that is logged from, for so many requests to hear more, or a request to hear
only what matters. -/
def levelFor (verbosity : Nat) (quiet : Bool) : Level :=
  if quiet then .warn
  else
    match verbosity with
    | 0 => .info
    | 1 => .debug
    | _ => .trace

example : Filter.ofText? "bench_analyzer::inputs=debug,WARN"
    = some ⟨[{ source? := some "bench_analyzer::inputs".toList, threshold := some .debug },
      { threshold := some .warn }]⟩ := by
  decide +kernel

example : Filter.ofText? ",[\x7bmessage\x7d]=3,a[b]"
    = some ⟨[{ field? := some ⟨"message".toList, none⟩, threshold := some .info },
      { source? := some ['a'], span? := some ['b'], threshold := some .trace }]⟩ := by
  decide +kernel

example : (Filter.ofText? "info,bench_analyzer=off,bench_analyzer::timing=5").map
      (fun f => [Source.program, .timing].map fun s => (f.directive? s).map (·.threshold))
    = some [some none, some (some .trace)] := by
  decide +kernel

example : Filter.ofText? "x[y\x7bz=*\x7d]=1" = none := by decide +kernel

example : Filter.ofText? "x=loud" = none := by decide +kernel

end BenchReport.Log
