import BenchReport.Proofs.Quantity.Characters
import BenchReport.Proofs.Report.Accounts
import BenchReport.Proofs.Text.Lines
import BenchReport.Proofs.Timing.Names
import BenchReport.Proofs.Timing.Reading
import BenchReport.Proofs.Timing.Roles

/-!
# The bars of a table

A row is written with a bar after each cell and one before the first, and with those that stand in
the cells themselves (`bars_rowLine`). Quantities have none, so the rows of workloads and of their
scaling have as many bars as the heads of their tables. The label of a timing is part of a name that
is taken as it stands in the report, and such a name is free of blanks but not of bars: the row of a
timing is as wide as the heads of its table exactly if no bar stands in its label
(`rows_have_bars`).
-/

namespace BenchReport

/-! ### Names -/

namespace Timing

/-- A timing of a report has the name of one of its lines. -/
theorem exists_line_of_mem_ofLines {lines : List (List Char)} {t : Timing} (h : t ∈ ofLines lines) :
    ∃ line ∈ lines, ∃ u, ofLine? line = some u ∧ t.name = u.name := by
  rw [ofLines_eq_filterMap] at h
  obtain ⟨i, -, hi⟩ := List.mem_filterMap.mp h
  unfold timingAt? at hi
  split at hi
  · obtain ⟨u, hu, rfl⟩ := Option.map_eq_some_iff.mp hi
    obtain ⟨line, hline, hu⟩ := Option.bind_eq_some_iff.mp hu
    exact ⟨line, List.mem_of_getElem? hline, u, hu, rfl⟩
  · cases hi

/-- The name of a timing has no blanks. -/
theorem not_isBlank_of_mem_name {text : List Char} {t : Timing} (h : t ∈ ofText text) {c : Char}
    (hc : c ∈ t.name.toList) : Text.isBlank c = false := by
  obtain ⟨line, -, u, hu, hname⟩ := exists_line_of_mem_ofLines h
  obtain ⟨w, -, rfl⟩ := ofLine?_eq_some_iff.mp hu
  rw [hname] at hc
  have hmem : c ∈ w.name.chars := by simpa [Written.timing, Written.line, Line.timing] using hc
  simpa using w.name.all c hmem

/-- A label is part of a name. -/
theorem mem_name_of_mem_label {t : Timing} {category : String} {c : Char}
    (h : c ∈ (t.label category).toList) : c ∈ t.name.toList := by
  rw [label] at h
  rcases eq_append_or_labelIn_eq category t.name with hname | hname
  · rw [hname]
    simp [h]
  · rwa [hname] at h

end Timing

/-- The timings of some reports, and some measurements. -/
def Records.ofReports (reports : Keyed (List Char)) (ms : List Measurement) : Records :=
  ⟨reports.mapValues Timing.ofText, ms⟩

theorem Records.newline_not_mem_name {reports : Keyed (List Char)} {ms : List Measurement}
    {t : Timing} (h : t ∈ (Records.ofReports reports ms).allTimings) : '\n' ∉ t.name.toList := by
  intro hnewline
  simp only [allTimings, ofReports, Keyed.values, Keyed.mapValues, List.map_map, List.mem_flatten,
    List.mem_map, Function.comp_apply] at h
  obtain ⟨_, ⟨e, -, rfl⟩, ht⟩ := h
  exact absurd (Timing.not_isBlank_of_mem_name ht hnewline) (by decide)

namespace Report

open Quantity (IsPlain)

/-! ### Rows -/

/-- The number of bars in a text. -/
def bars (s : String) : Nat := s.toList.count '|'

@[simp] theorem bars_append (s t : String) : bars (s ++ t) = bars s + bars t := by simp [bars]

theorem bars_eq_zero_iff {s : String} : bars s = 0 ↔ '|' ∉ s.toList := List.count_eq_zero

/-- Whether a text can be a cell that is told from the cells and the rows around it. -/
def IsPlainCell (s : String) : Prop := '|' ∉ s.toList ∧ '\n' ∉ s.toList

theorem isPlainCell_of_isPlain {s : String} (h : IsPlain s) : IsPlainCell s :=
  ⟨h.bar_not_mem, h.newline_not_mem⟩

/-- A row has a bar more than cells, and those in its cells. -/
theorem bars_rowLine (cells : List String) :
    bars (Table.rowLine cells) = 1 + cells.length + bars (String.join cells) := by
  have hjoin : bars (String.join (cells.map fun cell => " " ++ cell ++ " |"))
      = cells.length + bars (String.join cells) := by
    induction cells with
    | nil => rfl
    | cons cell cells ih =>
      have hends : bars " " = 0 ∧ bars " |" = 1 := by decide
      rw [List.map_cons, String.join_cons, String.join_cons, bars_append, ih]
      simp only [bars_append, hends, List.length_cons]
      omega
  have hfirst : bars "|" = 1 := by decide
  rw [Table.rowLine, bars_append, hfirst, hjoin, Nat.add_assoc]

theorem newline_not_mem_rowLine {cells : List String} (h : ∀ cell ∈ cells, '\n' ∉ cell.toList) :
    '\n' ∉ (Table.rowLine cells).toList := by
  simpa [Table.rowLine] using h

/-- A row of plain cells is in one line, and has bars around its cells only. -/
theorem rowLine_of_isPlainCell {cells : List String} (h : ∀ cell ∈ cells, IsPlainCell cell) :
    '\n' ∉ (Table.rowLine cells).toList ∧ bars (Table.rowLine cells) = 1 + cells.length := by
  constructor
  · exact newline_not_mem_rowLine fun cell hcell => (h cell hcell).2
  · have hzero : bars (String.join cells) = 0 := by
      rw [bars_eq_zero_iff]
      simpa using fun cell hcell => (h cell hcell).1
    rw [bars_rowLine, hzero, Nat.add_zero]

theorem bars_timingRow (category : String) (t : Timing) :
    bars (Table.rowLine (timingRow category t)) = 4 + bars (t.label category) := by
  have hmarks : bars "[" = 0 ∧ bars " - " = 0 ∧ bars "]" = 0 ∧ bars "" = 0 := by decide
  have htime (us : Float) : bars (Quantity.time us) = 0 :=
    bars_eq_zero_iff.mpr (Quantity.isPlain_time us).bar_not_mem
  rw [bars_rowLine]
  simp [timingRow, String.join_cons, hmarks, htime]

theorem newline_not_mem_timingRow {t : Timing} (h : '\n' ∉ t.name.toList) (category : String) :
    '\n' ∉ (Table.rowLine (timingRow category t)).toList := by
  have htime (us : Float) := (Quantity.isPlain_time us).newline_not_mem
  refine newline_not_mem_rowLine ?_
  simp only [timingRow, List.forall_mem_cons]
  refine ⟨fun hlabel => h (Timing.mem_name_of_mem_label hlabel), htime _, ?_, by simp⟩
  simp [htime]

theorem isPlain_of_mem_measurementRow {m : Measurement} :
    ∀ cell ∈ measurementRow m, IsPlain cell := by
  simp only [measurementRow, threadCount, List.forall_mem_cons]
  exact ⟨Quantity.isPlain_text _, Quantity.isPlain_rate _, Quantity.isPlain_latency _,
    Quantity.isPlain_latency _, Quantity.isPlain_count _, by simp⟩

theorem isPlain_of_mem_scalingRow {p : ScalingPoint} : ∀ cell ∈ scalingRow p, IsPlain cell := by
  simp only [scalingRow, threadCount, List.forall_mem_cons]
  exact ⟨Quantity.isPlain_text _, Quantity.isPlain_rate _, Quantity.isPlain_rate _,
    Quantity.isPlain_percentage _, by simp⟩

/-! ### The lines of the report -/

/-- A line that is not broken is a line of the text that it is part of, whatever the others are. -/
theorem mem_splitOn_textOfLines {lines : List String} {l : String} (h : l ∈ lines)
    (hl : '\n' ∉ l.toList) : l.toList ∈ (textOfLines lines).toList.splitOn '\n' := by
  induction lines with
  | nil => cases h
  | cons k lines ih =>
    have hcons : (textOfLines (k :: lines)).toList
        = k.toList ++ '\n' :: (textOfLines lines).toList := by
      simp [textOfLines, String.join_cons]
    rw [hcons, List.splitOn_append_cons_self, List.mem_append]
    rcases List.mem_cons.mp h with rfl | h
    · left
      rw [List.splitOn_eq_singleton hl]
      exact List.mem_singleton.mpr rfl
    · exact .inr (ih h)

/-- The lines of the tables in a section are lines of the report. -/
theorem mem_lines_of_mem_tablesOf {a : Analysis} {title : String} {table : Table}
    (h : table ∈ tablesOf title a) {l : String} (hl : l ∈ table.lines) (generated : Instant) :
    l ∈ lines a generated := by
  obtain ⟨s, hs, htable⟩ := List.mem_flatMap.mp h
  have hsection : l ∈ s.lines := List.mem_append_right _ (List.mem_flatMap.mpr ⟨table, htable, hl⟩)
  have hsections : l ∈ (sections a).flatMap Section.lines :=
    List.mem_flatMap.mpr ⟨s, List.mem_of_mem_filter hs, hsection⟩
  simp [lines, bodyLines, hsections]

namespace Table

/-- Whether the heads and the rows of a table are lines of a text. -/
def StandsIn (t : Table) (text : String) : Prop :=
  ∀ cells ∈ t.heads :: t.rows, (rowLine cells).toList ∈ text.toList.splitOn '\n'

/-- Whether the heads and the rows of a table have a certain number of bars. -/
def HasBars (t : Table) (n : Nat) : Prop := ∀ cells ∈ t.heads :: t.rows, bars (rowLine cells) = n

/-- A table of the report stands in its text, if no row is broken. -/
theorem standsIn_text {a : Analysis} {title : String} {t : Table} (ht : t ∈ tablesOf title a)
    (hlines : ∀ cells ∈ t.heads :: t.rows, '\n' ∉ (rowLine cells).toList) (generated : Instant) :
    t.StandsIn (text a generated) := by
  intro cells hcells
  have hmem : rowLine cells ∈ t.lines := by
    rcases List.mem_cons.mp hcells with rfl | hrow
    · simp [lines]
    · simp [lines, List.mem_map_of_mem hrow]
  exact mem_splitOn_textOfLines (mem_lines_of_mem_tablesOf ht hmem generated) (hlines cells hcells)

/-- A table of plain cells stands in the text of its report, with bars around its cells only. -/
theorem standsIn_and_hasBars {a : Analysis} {title : String} {t : Table} (ht : t ∈ tablesOf title a)
    {n : Nat} (hcells : ∀ cells ∈ t.heads :: t.rows,
      cells.length = n ∧ ∀ cell ∈ cells, IsPlainCell cell) (generated : Instant) :
    t.StandsIn (text a generated) ∧ t.HasBars (1 + n) := by
  constructor
  · exact standsIn_text ht
      (fun cells hmem => (rowLine_of_isPlainCell (hcells cells hmem).2).1) generated
  · intro cells hmem
    rw [(rowLine_of_isPlainCell (hcells cells hmem).2).2, (hcells cells hmem).1]

end Table

theorem measurementTable_bars {a : Analysis} {t : Table}
    (ht : t ∈ tablesOf "Concurrent Benchmark Results" a) (generated : Instant) :
    t.StandsIn (text a generated) ∧ t.HasBars 6 := by
  refine Table.standsIn_and_hasBars ht (n := 5) ?_ generated
  rw [tablesOf_measurements, List.mem_map] at ht
  obtain ⟨g, -, rfl⟩ := ht
  simp only [measurementTable, List.forall_mem_cons, List.forall_mem_map]
  refine ⟨⟨rfl, ?_⟩, fun m _ => ⟨rfl, fun cell hcell => ?_⟩⟩
  · simp [IsPlainCell]
  · exact isPlainCell_of_isPlain (isPlain_of_mem_measurementRow cell hcell)

theorem scalingTable_bars {a : Analysis} {t : Table} (ht : t ∈ tablesOf "Scalability Analysis" a)
    (generated : Instant) : t.StandsIn (text a generated) ∧ t.HasBars 5 := by
  refine Table.standsIn_and_hasBars ht (n := 4) ?_ generated
  rw [tablesOf_scaling, List.mem_map] at ht
  obtain ⟨w, -, rfl⟩ := ht
  simp only [scalingTable, List.forall_mem_cons, List.forall_mem_map]
  refine ⟨⟨rfl, ?_⟩, fun p _ => ⟨rfl, fun cell hcell => ?_⟩⟩
  · simp [IsPlainCell]
  · exact isPlainCell_of_isPlain (isPlain_of_mem_scalingRow cell hcell)

theorem mem_allTimings {r : Records} {g : Group Timing}
    (hg : g ∈ (Analysis.ofRecords r).categories.groups) {t : Timing} (ht : t ∈ g.members) :
    t ∈ r.allTimings :=
  (Grouping.members_groupBy_perm Timing.category r.allTimings).mem_iff.mp
    (List.mem_flatMap.mpr ⟨g, hg, ht⟩)

theorem timingTable_bars {r : Records} (hnames : ∀ t ∈ r.allTimings, '\n' ∉ t.name.toList)
    {table : Table} (htable : table ∈ tablesOf "Criterion Benchmark Results" (.ofRecords r))
    (generated : Instant) :
    table.StandsIn (text (.ofRecords r) generated) ∧ bars (Table.rowLine table.heads) = 4 ∧
      ∀ row ∈ table.rows, ∃ t ∈ r.allTimings, row = timingRow table.title t := by
  have hgroup := htable
  rw [tablesOf_timings, List.mem_map] at hgroup
  obtain ⟨g, hg, rfl⟩ := hgroup
  have hplain : ∀ head ∈ (timingTable g).heads, IsPlainCell head := by
    simp [timingTable, IsPlainCell]
  obtain ⟨hheads, hbars⟩ := rowLine_of_isPlainCell hplain
  refine ⟨Table.standsIn_text htable ?_ generated, hbars, ?_⟩
  · simp only [timingTable, List.forall_mem_cons, List.forall_mem_map]
    exact ⟨hheads, fun t ht => newline_not_mem_timingRow (hnames t (mem_allTimings hg ht)) g.key⟩
  · intro row hrow
    obtain ⟨t, ht, rfl⟩ := List.mem_map.mp hrow
    exact ⟨t, mem_allTimings hg ht, rfl⟩

/-- **Which rows are as wide as their tables.** Whatever reports and measurements are shown, the
heads and the rows of all tables are lines of the report. The heads of a table of timings have four
bars, and the row of a timing has four and those in its label, so that every cell of it stands under
its head exactly if there is no bar in the label. The heads and the rows of a table of measurements
have six bars, and those of a table of scaling five. -/
theorem rows_have_bars (reports : Keyed (List Char)) (ms : List Measurement) (origin : Origin)
    (generated : Instant) :
    let r := Records.ofReports reports ms
    let a := Analysis.ofRecords r
    let report := (Composed.ofRecords r origin generated).report
    (∀ table ∈ tablesOf "Criterion Benchmark Results" a,
      table.StandsIn report ∧ bars (Table.rowLine table.heads) = 4 ∧
      ∀ row ∈ table.rows, ∃ t ∈ r.allTimings, row = timingRow table.title t ∧
        bars (Table.rowLine row) = 4 + bars (t.label table.title) ∧
        (bars (Table.rowLine row) = bars (Table.rowLine table.heads)
          ↔ '|' ∉ (t.label table.title).toList)) ∧
    (∀ table ∈ tablesOf "Concurrent Benchmark Results" a,
      table.StandsIn report ∧ table.HasBars 6) ∧
    ∀ table ∈ tablesOf "Scalability Analysis" a, table.StandsIn report ∧ table.HasBars 5 := by
  intro r a report
  have hreport : report = text a generated := by
    simp only [report, a, Composed.ofRecords]
  rw [hreport]
  refine ⟨fun table htable => ?_, fun table htable => measurementTable_bars htable generated,
    fun table htable => scalingTable_bars htable generated⟩
  obtain ⟨hstands, hheads, hrows⟩ :=
    timingTable_bars (fun t ht => Records.newline_not_mem_name ht) htable generated
  refine ⟨hstands, hheads, fun row hrow => ?_⟩
  obtain ⟨t, ht, rfl⟩ := hrows row hrow
  have hbars := bars_timingRow table.title t
  refine ⟨t, ht, rfl, hbars, ?_⟩
  rw [hbars, hheads, Nat.add_eq_left]
  exact bars_eq_zero_iff

/-- A name with a bar makes a row wider than the heads of its table. -/
theorem row_too_wide_of_bar_in_name :
    let r := Records.ofReports (.ofList [("a.txt", "a|b time: [1 ns 2 ns 3 ns]".toList)]) []
    ∃ table ∈ tablesOf "Criterion Benchmark Results" (.ofRecords r), ∃ row ∈ table.rows,
      bars (Table.rowLine table.heads) = 4 ∧ bars (Table.rowLine row) = 5 := by
  decide +kernel

end Report

end BenchReport
