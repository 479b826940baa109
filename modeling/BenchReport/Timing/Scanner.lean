import BenchReport.Text.Utf8
import BenchReport.Timing.Line

/-!
# Scanning for timings

A scanner draws lines from a source, one at a time, and turns those that are timing lines
into timings. The line after a timing line is drawn as well: a throughput line belongs to
the timing, any other line is kept and is the first to be looked at on the next call.

A source is the list of its answers, a line or none. After none it may answer again, and
past the end of the list it answers none for ever.

A report held as text is cut into lines. A report held as bytes, which may come from a terminal and
be broken in places, is cut at the line feeds first; each piece is then mended and loses the
carriage returns at its end.
-/

namespace BenchReport.Timing

/-- The mark of a throughput line. -/
def throughputMark : List Char := "thrpt:".toList

/-- Whether a text occurs in another. -/
def occursIn (word : List Char) : List Char → Bool
  | [] => word.isEmpty
  | c :: r => word.isPrefixOf (c :: r) || occursIn word r

/-- Whether a line is a throughput line when it follows a timing line. -/
def isThroughput (line : List Char) : Bool := occursIn throughputMark line

/-- A timing with the throughput line that follows it. -/
def annotate (t : Timing) (line : List Char) : Timing :=
  { t with throughput := some (String.ofList (Text.trim line)) }

/-- A scanner between two calls. -/
structure Scanner where
  /-- A line that was drawn and not yet looked at. -/
  pending : Option (List Char)
  /-- The answers that the source has still to give. -/
  source : List (Option (List Char))
  deriving Repr, DecidableEq

/-- The outcome of a call. -/
structure Pull where
  /-- The next timing, or none if the source had no more. -/
  timing : Option Timing
  /-- The lines that were passed over, in order. -/
  skipped : List (List Char)
  /-- The scanner after the call. -/
  scanner : Scanner
  deriving Repr

namespace Scanner

/-- A scanner of a source. -/
def ofSource (source : List (Option (List Char))) : Scanner := ⟨none, source⟩

/-- A scanner of a finite list of lines. -/
def ofLines (lines : List (List Char)) : Scanner := ofSource (lines.map some)

/-- A timing has been found: the next answer decides about its throughput. -/
def finish (t : Timing) : List (Option (List Char)) → Pull
  | [] => ⟨some t, [], ⟨none, []⟩⟩
  | none :: source => ⟨some t, [], ⟨none, source⟩⟩
  | some line :: source =>
    if isThroughput line then ⟨some (annotate t line), [], ⟨none, source⟩⟩
    else ⟨some t, [], ⟨some line, source⟩⟩

/-- Looks for a timing line among the answers to come. -/
def search : List (Option (List Char)) → Pull
  | [] => ⟨none, [], ⟨none, []⟩⟩
  | none :: source => ⟨none, [], ⟨none, source⟩⟩
  | some line :: source =>
    match ofLine? line with
    | some t => finish t source
    | none =>
      let p := search source
      { p with skipped := line :: p.skipped }

/-- The next timing. -/
def next (s : Scanner) : Pull :=
  match s.pending with
  | none => search s.source
  | some line => search (some line :: s.source)

/-- The lines and answers that a scanner has before it. -/
def size (s : Scanner) : Nat := s.source.length + (if s.pending.isSome then 1 else 0)

theorem size_finish_le (t : Timing) (source : List (Option (List Char))) :
    (finish t source).scanner.size ≤ source.length := by
  unfold finish
  split
  · simp [size]
  · simp [size]
  · split <;> simp [size]

theorem size_search_lt {source : List (Option (List Char))}
    (h : (search source).timing.isSome = true) :
    (search source).scanner.size < source.length := by
  induction source with
  | nil => simp [search] at h
  | cons a source ih =>
    cases a with
    | none => simp [search] at h
    | some line =>
      unfold search at h ⊢
      split
      · exact Nat.lt_succ_of_le (size_finish_le _ _)
      · rename_i hl
        simp only [hl] at h
        have := ih h
        simp only [List.length_cons]
        omega

/-- A call that yields a timing leaves the scanner with less before it. -/
theorem size_next_lt {s : Scanner} (h : s.next.timing.isSome = true) :
    s.next.scanner.size < s.size := by
  unfold next at h ⊢
  split at h
  · have := size_search_lt h
    unfold size at this ⊢
    simp_all
  · have := size_search_lt h
    unfold size at this ⊢
    simp_all

/-- The timings that a scanner yields until it first yields none, and the lines that it
passes over meanwhile. -/
def run (s : Scanner) : List Timing × List (List Char) :=
  match s.next, size_next_lt (s := s) with
  | ⟨none, skipped, _⟩, _ => ([], skipped)
  | ⟨some t, skipped, after⟩, h =>
    have : after.size < s.size := h rfl
    let rest := run after
    (t :: rest.1, skipped ++ rest.2)
termination_by s.size

end Scanner

/-- The timings in a list of lines. -/
def ofLines (lines : List (List Char)) : List Timing := (Scanner.ofLines lines).run.1

/-- The lines of a list that give no timing and no throughput. -/
def skippedLines (lines : List (List Char)) : List (List Char) := (Scanner.ofLines lines).run.2

/-! ### Whole reports -/

/-- The timings in a report held as text. -/
def ofText (report : List Char) : List Timing := ofLines (Text.lines report)

/-- The lines of a report held as bytes. -/
def linesOfBytes (report : List UInt8) : List (List Char) :=
  (Text.pieces (0x0A : UInt8) report).map
    fun piece => Text.trimEndBy (· == '\r') (Text.Utf8.mend piece)

/-- The timings in a report held as bytes. -/
def ofBytes (report : List UInt8) : List Timing := ofLines (linesOfBytes report)

end BenchReport.Timing
