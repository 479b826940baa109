import BenchReport.Inputs
import BenchReport.Proofs.Text.Lines
import BenchReport.Proofs.Timing.Reading
import BenchReport.Proofs.Timing.Roles

/-!
# Reports held as bytes

A report held as bytes is cut at its line feeds, and each piece is mended by itself and loses all
carriage returns at its end. A report held as text is mended as a whole, then cut into lines,
and a line loses one carriage return, or none if it is the last and no line feed ends it. The
lines of the two differ by the carriage returns that are left (`linesOfBytes_eq_map`), and no
report tells two such lines apart (`alike_withoutReturns`): the closing bracket of a timing line
and the colon of the mark stand before the returns, and a throughput is trimmed, returns being
blanks.
-/

namespace BenchReport.Timing

open Text (isBlank trimEndBy)

/-- A line without the carriage returns at its end. -/
def withoutReturns (line : List Char) : List Char := trimEndBy (· == '\r') line

/-! ### The lines -/

theorem withoutReturns_dropReturn (line : List Char) :
    withoutReturns (Text.dropReturn line) = withoutReturns line := by
  obtain ⟨r, hr, hline⟩ := Text.exists_dropReturn_append line
  rw [withoutReturns, withoutReturns, ← Text.trimEndBy_append hr, hline]

/-- The lines of the bytes are those of the mended text, without the carriage returns that are
left at their ends. -/
theorem linesOfBytes_eq_map (bytes : List UInt8) :
    linesOfBytes bytes = (Text.lines (Text.Utf8.mend bytes)).map withoutReturns := by
  have hcut := Text.cut_mend (show (0x0A : UInt8) < 0x80 by decide) bytes
  have hreturns : withoutReturns ∘ Text.dropReturn = withoutReturns :=
    funext withoutReturns_dropReturn
  calc linesOfBytes bytes
      = (Text.pieces 0x0A bytes).map (withoutReturns ∘ Text.Utf8.mend) := rfl
    _ = ((Text.cut 0x0A bytes).1.map Text.Utf8.mend).map withoutReturns ++
          (Text.lastPiece (Text.Utf8.mend (Text.cut 0x0A bytes).2)).map withoutReturns := by
      rw [Text.pieces, List.map_append, Text.lastPiece_mend, List.map_map, List.map_map]
    _ = ((Text.cut '\n' (Text.Utf8.mend bytes)).1.map Text.dropReturn).map withoutReturns ++
          (Text.lastPiece (Text.cut '\n' (Text.Utf8.mend bytes)).2).map withoutReturns := by
      rw [show '\n' = Char.ofNat (0x0A : UInt8).toNat from rfl, hcut, List.map_map, List.map_map,
        List.map_map, hreturns]
    _ = (Text.lines (Text.Utf8.mend bytes)).map withoutReturns := by
      rw [Text.lines, List.map_append]

/-! ### Carriage returns at the end of a line -/

variable {line r : List Char}

/-- A text that ends with a character that does not occur in what was added to a line stands in
the line. -/
theorem prefix_of_append_eq {u v : List Char} {c : Char} (hc : c ∉ r)
    (h : line ++ r = (u ++ [c]) ++ v) : ∃ v', line = (u ++ [c]) ++ v' ∧ v = v' ++ r := by
  rcases List.append_eq_append_iff.mp h with ⟨as, hu, hr⟩ | ⟨bs, hline, hv⟩
  · cases as using List.reverseRecOn with
    | nil =>
      rw [List.append_nil] at hu
      exact ⟨[], by rw [hu, List.append_nil], hr.symm⟩
    | append_singleton as a _ =>
      rw [← List.append_assoc] at hu
      obtain ⟨-, hlast⟩ := List.append_inj' hu rfl
      cases hlast
      refine absurd ?_ hc
      rw [hr]
      exact List.mem_append_left _ (List.mem_append_right _ List.mem_cons_self)
  · exact ⟨bs, hline, hv⟩

theorem front_eq_append (w : Written Decimal.isDigit) : ∃ u, w.front = u ++ [']'] := by
  refine ⟨w.name.chars ++ (w.afterName.chars ++ ("time:".toList ++ (w.afterWord.chars ++ (['['] ++
    (w.low.text ++ (w.afterLow.chars ++ (w.mid.text ++ (w.afterMid.chars ++ w.high.text)))))))), ?_⟩
  simp only [Written.front, List.append_assoc]

/-- What follows a line without a closing bracket makes no difference to its timing. -/
theorem ofLine?_append (hr : ']' ∉ r) (line : List Char) : ofLine? (line ++ r) = ofLine? line := by
  refine Option.ext fun t => ?_
  rw [ofLine?_eq_some_iff, ofLine?_eq_some_iff]
  constructor
  · rintro ⟨w, htext, rfl⟩
    obtain ⟨u, hu⟩ := front_eq_append w
    rw [Written.text, hu] at htext
    obtain ⟨rest, hline, -⟩ := prefix_of_append_eq hr htext.symm
    refine ⟨{ w with rest := rest }, ?_, rfl⟩
    rw [hline, ← hu]
    rfl
  · rintro ⟨w, rfl, rfl⟩
    refine ⟨{ w with rest := w.rest ++ r }, ?_, rfl⟩
    rw [Written.text, Written.text, List.append_assoc]
    rfl

/-- What follows a line without a colon makes no difference to the mark. -/
theorem mark_append_iff (hr : ':' ∉ r) (line : List Char) :
    throughputMark <:+: line ++ r ↔ throughputMark <:+: line := by
  constructor
  · rintro ⟨u, v, h⟩
    have hmark : u ++ throughputMark = (u ++ "thrpt".toList) ++ [':'] := by
      rw [List.append_assoc]
      rfl
    rw [hmark] at h
    obtain ⟨v', hline, -⟩ := prefix_of_append_eq hr h.symm
    exact ⟨u, v', by rw [hline, hmark]⟩
  · intro h
    exact h.trans (List.infix_append_of_infix_left List.infix_rfl)

/-- No report tells a line from the same line without the carriage returns at its end. -/
theorem alike_withoutReturns (line : List Char) : Alike (withoutReturns line) line := by
  obtain ⟨r, hr, hline⟩ := Text.exists_trimEndBy_append (· == '\r') line
  have hnot : ∀ c : Char, (c == '\r') = false → c ∉ r := by
    intro c hc hmem
    rw [hr c hmem] at hc
    cases hc
  have hblank : ∀ c ∈ r, isBlank c = true := by
    intro c hc
    rw [eq_of_beq (hr c hc)]
    rfl
  have hline' : withoutReturns line ++ r = line := hline
  constructor
  · rw [← ofLine?_append (hnot ']' rfl) (withoutReturns line), hline']
  · rw [← mark_append_iff (hnot ':' rfl) (withoutReturns line), hline']
  · rw [← Text.trim_append hblank (withoutReturns line), hline']

/-! ### The timings -/

/-- A report held as bytes has the timings of the mended text. -/
theorem ofBytes_eq_ofText (bytes : List UInt8) : ofBytes bytes = ofText (Text.Utf8.mend bytes) := by
  rw [ofBytes, ofText, linesOfBytes_eq_map, ofLines_map alike_withoutReturns]

/-- **A report that is read from a file has the timings of its text.** Whatever bytes can be read
at a path, the reading of timings succeeds, and gives those of the mended text, with the same
throughputs and in the same order. -/
theorem readTimings_eq_ofText {t : Files.Tree} {path : String} {bytes : List UInt8}
    (h : t.read path = .ok bytes) :
    (Inputs.readTimings t path).map TimingFile.timings = .ok (ofText (Text.Utf8.mend bytes)) := by
  rw [Files.Tree.read] at h
  rw [Inputs.readTimings, ← ofBytes_eq_ofText]
  cases hopen : t.openFile path with
  | error e =>
    rw [hopen] at h
    cases h
  | ok node =>
    rw [hopen] at h
    have hread : node.read = .ok bytes := h
    simp only [hread]
    rfl

/-- A report with repeated and lone carriage returns, and with characters that break off before a
line feed and at the end. -/
theorem readTimings_eq_ofText_mixed :
    let bytes : List UInt8 := "a time: [1 ns 2 ns 3 ns]\r\r\n thrpt: 5".toUTF8.toList ++
      [0xE2, 0x82, 0x0A] ++ "b time: [1 ns 2 ns 3 ns]\r".toUTF8.toList ++ [0xF0, 0x9F, 0x0D]
    let t : Files.Tree := ⟨[], [(["log.txt"], .file bytes)]⟩
    t.read "log.txt" = .ok bytes ∧
      (Inputs.readTimings t "log.txt").map TimingFile.timings =
        .ok (ofText (Text.Utf8.mend bytes)) ∧
      (ofText (Text.Utf8.mend bytes)).map (fun t => (t.name, t.throughput)) =
        [("a", some "thrpt: 5\ufffd"), ("b", none)] := by
  intro bytes t
  have hread : t.read "log.txt" = .ok bytes := by decide +kernel
  exact ⟨hread, readTimings_eq_ofText hread, by decide +kernel⟩

end BenchReport.Timing
