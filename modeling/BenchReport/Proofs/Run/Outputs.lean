import BenchReport.Proofs.Files.Path
import BenchReport.Proofs.Files.Writing
import BenchReport.Run

/-!
# The outputs of a run

After a run without a fault the snapshot is at its path, and the report is at its own unless the two
paths lead to the same place: the snapshot is written last and in the place of what is there.
-/

namespace BenchReport

open Files (RawText Tree)

namespace Writing

theorem after_eq_none {a : Files.Attempt} {output : Output} {path : RawText}
    {next : Tree → Writing} (h : (after a output path next).fault? = none) :
    a.fault? = none ∧ after a output path next = next a.tree := by
  unfold after at h ⊢
  split at h
  · cases h
  · next hnone => exact ⟨hnone, rfl⟩

/-- What is read at the paths of the outputs after both were written. -/
theorem readText_ofOutputs {t : Tree} (hplain : t.IsPlain) {s : Settings} {c : Composed}
    (hdone : (ofOutputs t s c).fault? = none) :
    (ofOutputs t s c).tree.readText s.dataPath = .ok c.snapshot.text.toList ∧
      (ofOutputs t s c).tree.readText s.reportPath
        = .ok (if t.location s.reportPath = t.location s.dataPath then c.snapshot.text.toList
            else c.report.toList) := by
  have hdirectory : (t.makeDirectories s.output).tree.IsPlain ∧
      (t.makeDirectories s.output).tree.start = t.start :=
    Tree.makeDirectories_induction (P := fun t' => t'.IsPlain ∧ t'.start = t.start)
      (fun _ _ ⟨hplain', hstart⟩ => ⟨hplain'.put rfl, hstart⟩) ⟨hplain, rfl⟩ s.output
  unfold ofOutputs at hdone ⊢
  obtain ⟨-, hnext⟩ := after_eq_none hdone
  rw [hnext] at hdone ⊢
  generalize (t.makeDirectories s.output).tree = t₁ at hdone hdirectory ⊢
  obtain ⟨hplain₁, hstart₁⟩ := hdirectory
  have hlocation : ∀ path, t₁.location path = t.location path := fun path => by
    rw [Tree.location, Tree.location, hstart₁]
  obtain ⟨hreport, hnext⟩ := after_eq_none hdone
  rw [hnext] at hdone ⊢
  obtain ⟨hdata, hnext⟩ := after_eq_none hdone
  rw [hnext]
  obtain ⟨hfind, hfind'⟩ := Tree.find_write_write hplain₁ hreport hdata
  rw [hlocation, hlocation] at hfind'
  refine ⟨Tree.readText_of_find hfind, ?_⟩
  split
  · next hsame => exact Tree.readText_of_find (by rw [hfind', if_pos hsame, bytesOf])
  · next hapart => exact Tree.readText_of_find (by rw [hfind', if_neg hapart, bytesOf])

end Writing

theorem Report.head?_text (a : Analysis) (generated : Instant) :
    (Report.text a generated).toList.head? = some '#' := by
  simp [Report.text, Report.lines, Report.textOfLines, String.join_cons]

theorem Snapshot.head?_text (s : Snapshot) : s.text.toList.head? = some '\x7b' := by
  simp [text, toJson, Json.Value.pretty, Json.Value.print, Json.Value.printMembers,
    Json.Value.enclose]

/-- A report is not the text of a snapshot. -/
theorem Composed.report_ne_text_snapshot (r : Records) (origin : Origin) (generated : Instant) :
    (ofRecords r origin generated).report.toList
      ≠ (ofRecords r origin generated).snapshot.text.toList := by
  intro hsame
  have hreport : (ofRecords r origin generated).report
      = Report.text (Analysis.ofRecords r) generated := by rw [ofRecords]
  have hhead : some '#' = some '\x7b' := by
    rw [← Snapshot.head?_text (ofRecords r origin generated).snapshot, ← hsame, hreport,
      Report.head?_text]
  cases hhead

namespace Run

open Files.Path (IsName)

/-- **After a run without a fault its outputs are read back**, as long as their paths lead to two
places. The snapshot is read at its path in any case. The report is read at its own exactly if this
leads elsewhere, and else the snapshot is read there too. Different names in the directory of the
outputs always lead to two places. -/
theorem perform_outputs_read_back (t : Tree) (hplain : t.IsPlain) (s : Settings) (origin : Origin)
    (generated : Instant) (hdone : (perform t s origin generated).writing.fault? = none) :
    let r := perform t s origin generated
    r.writing.tree.readText s.dataPath = .ok r.composed.snapshot.text.toList ∧
    (r.writing.tree.readText s.reportPath = .ok r.composed.report.toList
      ↔ t.location s.reportPath ≠ t.location s.dataPath) ∧
    (t.location s.reportPath = t.location s.dataPath →
      r.writing.tree.readText s.reportPath = .ok r.composed.snapshot.text.toList) ∧
    (IsName s.reportName → IsName s.dataName → s.reportName ≠ s.dataName →
      r.writing.tree.readText s.reportPath = .ok r.composed.report.toList) := by
  intro r
  have hwriting : r.writing = .ofOutputs t s r.composed := rfl
  have hdone' : (Writing.ofOutputs t s r.composed).fault? = none := hwriting ▸ hdone
  obtain ⟨hdata, hreport⟩ := Writing.readText_ofOutputs hplain hdone'
  rw [← hwriting] at hdata hreport
  have hdiffer : r.composed.report.toList ≠ r.composed.snapshot.text.toList :=
    Composed.report_ne_text_snapshot r.inputs.records origin generated
  have hnames : IsName s.reportName → IsName s.dataName → s.reportName ≠ s.dataName →
      t.location s.reportPath ≠ t.location s.dataPath := by
    intro hname hname' hne hsame
    rw [Settings.reportPath, Settings.dataPath, Tree.location_join hname,
      Tree.location_join hname', List.append_cancel_left_eq] at hsame
    exact hne (RawText.ofText_injective (List.singleton_inj.mp hsame))
  refine ⟨hdata, ⟨fun h hsame => ?_, fun h => ?_⟩, fun h => ?_, fun hname hname' hne => ?_⟩
  · rw [hreport, if_pos hsame] at h
    exact hdiffer (Except.ok.inj h).symm
  · rw [hreport, if_neg h]
  · rw [hreport, if_pos h]
  · rw [hreport, if_neg (hnames hname hname' hne)]

/-- A tree with nothing but the directory at which relative paths start. -/
def bare : Tree := ⟨["w"], [(["w"], .directory)]⟩

/-- Where the runs are made. -/
def somewhere : Origin := ⟨"0", "linux", "x86_64", 1⟩

/-- When the runs are made. -/
def once : Instant := ⟨⟨2024, 2, 29⟩, 0, 0⟩

theorem perform_outputs_read_back_bare :
    let r := perform bare {} somewhere once
    r.writing.fault? = none ∧
      r.writing.tree.readText "benchmark_results/analysis/analysis_report.md"
        = .ok r.composed.report.toList := by
  intro r
  have hdone : r.writing.fault? = none := by decide +kernel
  obtain ⟨-, -, -, hnames⟩ := perform_outputs_read_back bare (by decide) {} somewhere once hdone
  exact ⟨hdone, hnames (by decide +kernel) (by decide +kernel) (by decide)⟩

/-- If the outputs have the same name, the report is not at its path after a run without a
fault: the snapshot was written in its place. -/
theorem not_read_back_shared_name :
    let s : Settings := { output := "o", reportName := "x", dataName := "x" }
    let r := perform bare s somewhere once
    r.writing.fault? = none ∧
      r.writing.tree.readText s.reportPath ≠ .ok r.composed.report.toList := by
  intro s r
  have hwriting : r.writing = .ofOutputs bare s r.composed := rfl
  have hdone : r.writing.fault? = none := by decide +kernel
  obtain ⟨-, hreport⟩ := Writing.readText_ofOutputs (by decide) (hwriting ▸ hdone)
  rw [← hwriting, if_pos (by rfl)] at hreport
  refine ⟨hdone, fun h => ?_⟩
  exact Composed.report_ne_text_snapshot r.inputs.records somewhere once
    (Except.ok.inj (h.symm.trans hreport))

end Run

end BenchReport
