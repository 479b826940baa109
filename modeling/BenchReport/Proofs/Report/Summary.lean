import BenchReport.Proofs.Analysis.Fastest
import BenchReport.Proofs.Analysis.Peak
import BenchReport.Proofs.Quantity.Characters
import BenchReport.Proofs.Text.Lines

/-!
# What the summary finds

The summary asks for the peak of two workloads and for the fastest timing, and says that nothing was
found if there is none of the three. There is a peak for a workload that has runs
(`peak?_eq_none_iff`) and a fastest timing if there is any (`fastest?_eq_none_iff`), but nobody asks
for the peaks of other workloads.
-/

namespace BenchReport

theorem Records.isEmpty_iff {r : Records} :
    r.isEmpty = true ↔ r.allTimings = [] ∧ r.measurements = [] := by
  simp [isEmpty, allTimings, List.flatten_eq_nil_iff]

namespace Report

/-! ### The lines of the summary -/

theorem summaryItems_eq_nil_iff {r : Records} :
    summaryItems (.ofRecords r) = []
      ↔ r.allTimings = [] ∧ ∀ m ∈ r.measurements, m.key ≠ "read" ∧ m.key ≠ "write" := by
  simp only [summaryItems, peakItem, fastestItem, List.append_eq_nil_iff, Option.toList_eq_nil_iff,
    Option.map_eq_none_iff, Analysis.peak?_eq_none_iff, Analysis.fastest?_eq_none_iff]
  constructor
  · rintro ⟨⟨hread, hwrite⟩, htimings⟩
    exact ⟨htimings, fun m hm => ⟨hread m hm, hwrite m hm⟩⟩
  · rintro ⟨htimings, hruns⟩
    exact ⟨⟨fun m hm => (hruns m hm).1, fun m hm => (hruns m hm).2⟩, htimings⟩

/-- A text of lines is split into these, if none of them is broken. -/
theorem splitOn_textOfLines {lines : List String} (h : ∀ l ∈ lines, '\n' ∉ l.toList) :
    (textOfLines lines).toList.splitOn '\n' = lines.map String.toList ++ [[]] := by
  induction lines with
  | nil => rfl
  | cons l lines ih =>
    obtain ⟨hl, hlines⟩ := List.forall_mem_cons.mp h
    have hcons : (textOfLines (l :: lines)).toList
        = l.toList ++ '\n' :: (textOfLines lines).toList := by
      simp [textOfLines, String.join_cons]
    rw [hcons, List.splitOn_append_cons_self, List.splitOn_eq_singleton hl, ih hlines]
    rfl

/-- An item of the summary is in one line, if no name of a timing is broken. -/
theorem exists_item_of_mem_summaryItems {r : Records}
    (hnames : ∀ t ∈ r.allTimings, '\n' ∉ t.name.toList) {l : String}
    (h : l ∈ summaryItems (.ofRecords r)) :
    ∃ name value, l = item name value ∧ '\n' ∉ name.toList ∧ '\n' ∉ value.toList := by
  simp only [summaryItems, peakItem, fastestItem, List.mem_append, Option.mem_toList,
    Option.map_eq_some_iff] at h
  rcases h with (⟨run, -, rfl⟩ | ⟨run, -, rfl⟩) | ⟨t, ht, rfl⟩
  · exact ⟨_, _, rfl, by decide, (Quantity.isPlain_rate _).newline_not_mem⟩
  · exact ⟨_, _, rfl, by decide, (Quantity.isPlain_rate _).newline_not_mem⟩
  · refine ⟨_, _, rfl, by decide, ?_⟩
    simp [timingPhrase, hnames t (Analysis.mem_of_fastest?_eq_some ht),
      (Quantity.isPlain_time _).newline_not_mem]

theorem item_ne_nothingFound (name value : String) : item name value ≠ nothingFound := by
  simp [item, nothingFound, ← String.toList_inj]

theorem newline_not_mem_item {name value : String} (hname : '\n' ∉ name.toList)
    (hvalue : '\n' ∉ value.toList) : '\n' ∉ (item name value).toList := by
  simp [item, hname, hvalue]

/-- The lines of the text of the summary are its lines. -/
theorem splitOn_summaryLines {r : Records} (hnames : ∀ t ∈ r.allTimings, '\n' ∉ t.name.toList) :
    (textOfLines (summaryLines (.ofRecords r))).toList.splitOn '\n'
      = (summaryLines (.ofRecords r)).map String.toList ++ [[]] := by
  refine splitOn_textOfLines fun l hl => ?_
  simp only [summaryLines, List.mem_append] at hl
  rcases hl with (hl | hl) | hl
  · revert l
    decide
  · split at hl
    · rw [List.mem_singleton.mp hl]
      decide
    · obtain ⟨name, value, rfl, hname, hvalue⟩ := exists_item_of_mem_summaryItems hnames hl
      exact newline_not_mem_item hname hvalue
  · rw [List.mem_singleton.mp hl]
    decide

/-- The summary says that nothing was found if it has nothing else to say. -/
theorem nothingFound_mem_summaryLines_iff {r : Records}
    (hnames : ∀ t ∈ r.allTimings, '\n' ∉ t.name.toList) :
    nothingFound ∈ summaryLines (.ofRecords r) ↔ summaryItems (.ofRecords r) = [] := by
  have hhead : nothingFound ∉ ["## Executive Summary", ""] := by decide
  have hlast : nothingFound ∉ [""] := by decide
  simp only [summaryLines, List.mem_append, hhead, hlast, false_or, or_false]
  constructor
  · intro h
    by_contra hitems
    rw [if_neg (by simpa using hitems)] at h
    obtain ⟨name, value, heq, -⟩ := exists_item_of_mem_summaryItems hnames h
    exact item_ne_nothingFound name value heq.symm
  · intro hitems
    simp [hitems]

/-- **When the report says that nothing was found.** The text of the report has the lines of the
summary after its head. One of them says that nothing was found exactly if there is no timing in any
report and no run that reads or writes; so it does if nothing was loaded, and if it does, what was
loaded are runs of other workloads. -/
theorem summary_nothing_found_iff (r : Records) (origin : Origin) (generated : Instant)
    (hnames : ∀ t ∈ r.allTimings, '\n' ∉ t.name.toList) :
    let summary := (textOfLines (summaryLines (.ofRecords r))).toList
    let found := nothingFound.toList ∈ summary.splitOn '\n'
    (∃ opening closing, (Composed.ofRecords r origin generated).report
      = textOfLines (opening ++ summaryLines (.ofRecords r) ++ closing)) ∧
    (found ↔ r.allTimings = [] ∧ ∀ m ∈ r.measurements, m.key ≠ "read" ∧ m.key ≠ "write") ∧
    (r.isEmpty = true → found) ∧
    (found → (r.isEmpty = true ↔ r.measurements = [])) := by
  intro summary found
  have hfound : found
      ↔ r.allTimings = [] ∧ ∀ m ∈ r.measurements, m.key ≠ "read" ∧ m.key ≠ "write" := by
    rw [← summaryItems_eq_nil_iff, ← nothingFound_mem_summaryLines_iff hnames]
    have hline : nothingFound.toList ≠ [] := by decide
    simp [found, summary, splitOn_summaryLines hnames, hline, String.toList_inj]
  refine ⟨?_, hfound, ?_, ?_⟩
  · refine ⟨["# Performance Analysis Report", "", generatedLine generated, "", "---", ""],
      (sections (.ofRecords r)).flatMap Section.lines ++ findingLines (.ofRecords r), ?_⟩
    have hreport : (Composed.ofRecords r origin generated).report
        = text (.ofRecords r) generated := by rw [Composed.ofRecords]
    rw [hreport, text, lines, bodyLines, List.append_assoc, List.append_assoc]
  · intro hempty
    obtain ⟨htimings, hruns⟩ := Records.isEmpty_iff.mp hempty
    exact hfound.mpr ⟨htimings, by simp [hruns]⟩
  · intro h
    rw [Records.isEmpty_iff, and_iff_right (hfound.mp h).1]

theorem summary_nothing_found_iff_timed :
    let t : Timing := ⟨"a/b", 1, 2, 3, none⟩
    let r : Records := ⟨.ofList [("a.txt", [t])], []⟩
    (∀ t ∈ r.allTimings, '\n' ∉ t.name.toList) ∧
      nothingFound.toList ∉ (textOfLines (summaryLines (.ofRecords r))).toList.splitOn '\n' := by
  intro t r
  have htimings : r.allTimings = [t] := rfl
  have hnames : ∀ t ∈ r.allTimings, '\n' ∉ t.name.toList := by
    rw [htimings]
    decide
  obtain ⟨-, hfound, -⟩ :=
    summary_nothing_found_iff r ⟨"", "", "", 1⟩ ⟨⟨2026, 1, 1⟩, 0, 0⟩ hnames
  refine ⟨hnames, fun h => ?_⟩
  simp [htimings] at hfound
  exact hfound h

/-- With a run that neither reads nor writes the report says that nothing was found, though
something was loaded. -/
theorem nothing_found_of_mixed_run :
    let r : Records := ⟨.empty, [plainRun "mixed" 2 100]⟩
    r.isEmpty = false ∧
      nothingFound.toList ∈ (textOfLines (summaryLines (.ofRecords r))).toList.splitOn '\n' := by
  decide +kernel

end Report

end BenchReport
