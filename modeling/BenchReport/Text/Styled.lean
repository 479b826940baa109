/-!
# Styled texts

Texts for a terminal: spans of text, each in a style. Where the terminal has no styles, a
styled text is shown as the plain text that its spans spell.
-/

namespace BenchReport.Text

/-- A style, by the parameters of the escape sequences that switch it on. A plain text has
none. -/
structure Style where
  /-- The parameters of each sequence. -/
  sequences : List String
  deriving Repr, DecidableEq

namespace Style

/-- No style. -/
def plain : Style := ⟨[]⟩

/-- Bold. -/
def bold : Style := ⟨["1"]⟩

/-- Bold and underlined. -/
def heading : Style := ⟨["1", "4"]⟩

/-- Red. -/
def red : Style := ⟨["31"]⟩

/-- Green. -/
def green : Style := ⟨["32"]⟩

/-- Yellow. -/
def yellow : Style := ⟨["33"]⟩

/-- Blue. -/
def blue : Style := ⟨["34"]⟩

/-- Purple. -/
def purple : Style := ⟨["35"]⟩

/-- Bold and red in one sequence. -/
def alert : Style := ⟨["1;31"]⟩

/-- Bold and red in two sequences. -/
def failure : Style := ⟨["1", "31"]⟩

end Style

/-- A text in a style. -/
structure Span where
  /-- The style. -/
  style : Style
  /-- The text. -/
  text : String
  deriving Repr, DecidableEq

namespace Span

/-- A text without style. -/
def plain (text : String) : Span := ⟨.plain, text⟩

/-- The span with its escape sequences, and a sequence that switches the style off. -/
def colored (s : Span) : String :=
  if s.style.sequences = [] then s.text
  else String.join (s.style.sequences.map fun p => "\x1b[" ++ p ++ "m") ++ s.text ++ "\x1b[0m"

/-- A text as it is sent to a terminal, with or without styles. -/
def render (color : Bool) (spans : List Span) : String :=
  String.join (spans.map fun s => if color then s.colored else s.text)

end Span

end BenchReport.Text
