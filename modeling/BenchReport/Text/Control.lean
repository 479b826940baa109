/-!
# Controls in a text

A terminal does not show every character that it is sent. An escape character begins a
sequence that is obeyed and not shown, and most of the other controls are obeyed as well. Here
is what remains of a text for the eye: the characters that stand outside of all sequences, and
those controls that are blanks.

A blank control is shown within a sequence too, unless the sequence is a string. Then either the
sequence ends there, or it is only interrupted: what follows is shown until a control comes that
is not shown, and from that control on the sequence goes on.
-/

namespace BenchReport.Text.Control

/-- Where in a text its reader is. -/
inductive Mode where
  /-- Outside of all sequences. -/
  | text
  /-- After an escape character. -/
  | escape
  /-- In an escape sequence that goes on. -/
  | intermediate
  /-- In a sequence with parameters, which a letter ends. -/
  | sequence
  /-- In a command to the system, which a bell ends. -/
  | command
  /-- At the beginning of a string for a device. -/
  | device
  /-- In the parameters of a string for a device. -/
  | parameters
  /-- After the parameters of a string for a device. -/
  | preamble
  /-- In a string that is not shown. -/
  | string
  deriving Repr, DecidableEq

/-- The controls that are blanks. -/
def isBlankControl (c : Char) : Bool := c == '\t' || c == '\n' || c == '\x0c' || c == '\r'

/-- Whether the encoding of a character has the octet that ends a string. -/
def endsString (c : Char) : Bool := (String.utf8EncodeChar c).contains 0x9C

/-- The mode that the character after an escape character leads to. -/
def Mode.afterEscape (c : Char) : Mode :=
  match c with
  | '[' => .sequence
  | ']' => .command
  | 'P' => .device
  | 'X' | '^' | '_' => .string
  | c =>
    if '\x20' ≤ c ∧ c ≤ '/' then .intermediate
    else if '0' ≤ c ∧ c ≤ '~' then .text
    else .escape

/-- The mode after a character that is neither a blank control nor one that cuts a sequence
short. -/
def Mode.after (m : Mode) (c : Char) : Mode :=
  match m with
  | .text => .text
  | .escape => afterEscape c
  | .intermediate => if '0' ≤ c ∧ c ≤ '~' then .text else .intermediate
  | .sequence => if '@' ≤ c ∧ c ≤ '~' then .text else .sequence
  | .command => if c = '\x07' then .text else .command
  | .device =>
    if '0' ≤ c ∧ c ≤ '?' then .parameters
    else if '\x20' ≤ c ∧ c ≤ '/' then .preamble
    else if '@' ≤ c ∧ c ≤ '~' then .string
    else .device
  | .parameters =>
    if '0' ≤ c ∧ c ≤ ';' then .parameters
    else if '\x20' ≤ c ∧ c ≤ '/' then .preamble
    else if '<' ≤ c ∧ c ≤ '~' then .string
    else .parameters
  | .preamble => if '0' ≤ c ∧ c ≤ '~' then .string else .preamble
  | .string => if endsString c then .text else .string

/-- Whether a blank control is shown. -/
def Mode.showsBlanks : Mode → Bool
  | .text | .escape | .intermediate | .sequence => true
  | .command | .device | .parameters | .preamble | .string => false

/-- A reader of a text. -/
structure Reader where
  /-- Where the reader is. -/
  mode : Mode := .text
  /-- Where the reader is again after a control that is not shown, if a sequence has been
  interrupted. -/
  interrupted? : Option Mode := none
  deriving Repr, DecidableEq

/-- The reader after a character, and whether the character is shown. -/
def Reader.step (interrupts : Bool) (r : Reader) (c : Char) : Reader × Bool :=
  if c = '\x1b' then ({ mode := .escape }, false)
  else if c = '\x18' ∨ c = '\x1a' then ({}, false)
  else if isBlankControl c then
    if r.mode = .text then (r, true)
    else if r.mode.showsBlanks then
      ({ interrupted? := if interrupts then some r.mode else none }, true)
    else (r, false)
  else if c < '\x20' ∨ c = '\x7f' then
    ({ mode := (r.interrupted?.getD r.mode).after c }, false)
  else if r.mode = .text then (if c < '\x7f' then r else {}, true)
  else ({ mode := r.mode.after c }, false)

/-- What is shown of a text, for a reader. -/
def shownTo (interrupts : Bool) (r : Reader) : List Char → List Char
  | [] => []
  | c :: s =>
    let (r, isShown) := r.step interrupts c
    if isShown then c :: shownTo interrupts r s else shownTo interrupts r s

/-- What is shown of a text where a blank control ends a sequence. -/
def shown (s : String) : String := String.ofList (shownTo false {} s.toList)

/-- What is shown of a text where a blank control interrupts a sequence. -/
def sent (s : String) : String := String.ofList (shownTo true {} s.toList)

example : shown "a\x1b[1;31mb\x07\tc\x7f" = "ab\tc" := by decide +kernel

example : shown "a\x1b]0;title\x07b\x1b(Bc\x1b" = "abc" := by decide +kernel

example : shown "a\x1bPq\x1b\\b\x1b[3\x181m" = "ab1m" := by decide +kernel

example : (shown "a\x1b\t\x07(Bb", sent "a\x1b\t\x07(Bb") = ("a\t(Bb", "a\tb") := by
  decide +kernel

end BenchReport.Text.Control
