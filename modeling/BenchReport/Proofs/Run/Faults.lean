import BenchReport.Proofs.Files.Agree
import BenchReport.Proofs.Run.Outputs

/-!
# Why a run fails

A run fails if its output directory cannot be made, or its report or its snapshot cannot be written,
and for no other reason. What these come to depends on the ways of the paths that are made and
written, so the inputs of a run have no part in it.
-/

namespace BenchReport

open Files (RawText Tree)

namespace Settings

/-- Whether a path is one at which a run makes a directory: that of the outputs, and those above. -/
def Makes (s : Settings) (path : RawText) : Prop := path ∈ Files.Path.lineage s.output

/-- Whether a path is one at which a run writes a file. -/
def Writes (s : Settings) (path : RawText) : Prop := path = s.reportPath ∨ path = s.dataPath

/-- Whether a path is one of the outputs. -/
def IsOutput (s : Settings) (path : RawText) : Prop := s.Makes path ∨ s.Writes path

end Settings

namespace Writing

variable {t t' : Tree} {s : Settings} {c c' : Composed}

theorem after_eq_none_iff {a : Files.Attempt} {output : Output} {path : RawText}
    {next : Tree → Writing} :
    (after a output path next).fault? = none ↔ a.fault? = none ∧ (next a.tree).fault? = none := by
  unfold after
  cases ha : a.fault? with
  | none => simp
  | some e => simp

/-- Outputs are written if the directory can be made, then the report be written, and then the
snapshot. -/
theorem ofOutputs_eq_none_iff :
    let made := t.makeDirectories s.output
    let reported := made.tree.write s.reportPath (bytesOf c.report)
    let stored := reported.tree.write s.dataPath (bytesOf c.snapshot.text)
    (ofOutputs t s c).fault? = none ↔
      made.fault? = none ∧ reported.fault? = none ∧ stored.fault? = none := by
  intro made reported stored
  rw [ofOutputs, after_eq_none_iff, after_eq_none_iff, after_eq_none_iff]
  exact ⟨fun ⟨hmade, hreported, hstored, _⟩ => ⟨hmade, hreported, hstored⟩,
    fun ⟨hmade, hreported, hstored⟩ => ⟨hmade, hreported, hstored, rfl⟩⟩

theorem after_agree {known : RawText → Prop} {a a' : Files.Attempt} {output : Output}
    {path : RawText} {next next' : Tree → Writing}
    (ha : a'.fault? = a.fault? ∧ Tree.Agree known a.tree a'.tree)
    (hnext : Tree.Agree known a.tree a'.tree → (next' a'.tree).fault? = (next a.tree).fault?) :
    (after a' output path next').fault? = (after a output path next).fault? := by
  obtain ⟨hfault, hagree⟩ := ha
  unfold after
  rw [hfault]
  cases a.fault? with
  | none => exact hnext hagree
  | some e => rfl

end Writing

/-- Whether there is something to write: neither of the texts is empty. -/
def Composed.HasTexts (c : Composed) : Prop :=
  Writing.bytesOf c.report ≠ [] ∧ Writing.bytesOf c.snapshot.text ≠ []

theorem Writing.bytesOf_ne_nil {text : String} {first : Char}
    (h : text.toList.head? = some first) : bytesOf text ≠ [] := by
  intro hnil
  have hread : Text.Utf8.decode? (bytesOf text) = some text.toList := Text.Utf8.decode?_encode _
  have hnone : Text.Utf8.decode? [] = some [] := by rw [Text.Utf8.decode?]
  rw [hnil, hnone] at hread
  rw [← Option.some.inj hread] at h
  cases h

/-- A report starts with its title and a snapshot with a brace. -/
theorem Composed.hasTexts_ofRecords (r : Records) (origin : Origin) (generated : Instant) :
    (ofRecords r origin generated).HasTexts := by
  have hreport : (ofRecords r origin generated).report.toList.head? = some '#' := by
    rw [ofRecords, Report.head?_text]
  have hsnapshot := Snapshot.head?_text (ofRecords r origin generated).snapshot
  exact ⟨Writing.bytesOf_ne_nil hreport, Writing.bytesOf_ne_nil hsnapshot⟩

/-- Why outputs cannot be written is the same for all texts in all trees that agree on the paths. -/
theorem Writing.ofOutputs_agree {t t' : Tree} {s : Settings} {c c' : Composed}
    (h : Tree.Agree s.IsOutput t t') (hc : c.HasTexts) (hc' : c'.HasTexts) :
    (ofOutputs t' s c').fault? = (ofOutputs t s c).fault? := by
  unfold ofOutputs
  refine after_agree (h.makeChain fun path => .inl) fun h => ?_
  refine after_agree (h.write (.inr (.inl rfl)) hc.1 hc'.1) fun h => ?_
  exact after_agree (h.write (.inr (.inr rfl)) hc.2 hc'.2) fun _ => rfl

namespace Run

/-- **Inputs never stop a run.** It fails exactly if making the output directory fails, or writing
the report, or writing the snapshot. Two trees may have anything in their input directories, or not
have them, as long as the same kinds of node stand on the ways of the output directory, of the
directories above it and of the two files: the runs succeed in both, or fail in both for the same
reason. -/
theorem perform_fault_ignores_inputs {t : Tree} (hlinks : t.HasNoLinks) (s : Settings)
    (origin : Origin) (generated : Instant) :
    let r := perform t s origin generated
    let made := t.makeDirectories s.output
    let reported := made.tree.write s.reportPath (Writing.bytesOf r.composed.report)
    let stored := reported.tree.write s.dataPath (Writing.bytesOf r.composed.snapshot.text)
    (r.writing.fault? ≠ none ↔
      made.fault? ≠ none ∨ reported.fault? ≠ none ∨ stored.fault? ≠ none) ∧
    ∀ t' origin' generated', t'.start = t.start →
      (∀ path, s.IsOutput path → ∀ loc ∈ t.way path, t'.shapeAt loc = t.shapeAt loc) →
      (perform t' s origin' generated').writing.fault? = r.writing.fault? := by
  intro r made reported stored
  constructor
  · have hnone : r.writing.fault? = none ↔
        made.fault? = none ∧ reported.fault? = none ∧ stored.fault? = none :=
      Writing.ofOutputs_eq_none_iff
    rw [ne_eq, hnone, not_and_or, not_and_or]
  · intro t' origin' generated' hstart hshape
    exact Writing.ofOutputs_agree ⟨hstart, hlinks, hshape⟩ (Composed.hasTexts_ofRecords ..)
      (Composed.hasTexts_ofRecords ..)

/-- A tree with a measurement file that breaks off, and a directory in the place of the report. -/
def obstructed : Tree where
  start := ["w"]
  entries := [(["w"], .directory), (["w", "in"], .directory),
    (["w", "in", "run.json"], .file [0x7B]), (["w", "o"], .directory),
    (["w", "o", "analysis_report.md"], .directory)]

theorem perform_fault_ignores_inputs_obstructed :
    let s : Settings := { measurements := some "in", output := "o" }
    let t' := obstructed.erase ["w", "in"]
    obstructed.HasNoLinks ∧ t'.start = obstructed.start ∧
    (∀ path, s.IsOutput path → ∀ loc ∈ obstructed.way path,
      t'.shapeAt loc = obstructed.shapeAt loc) ∧
    (perform t' s somewhere once).writing.fault?
      = some ⟨.report, "o/analysis_report.md", .directory⟩ ∧
    (perform obstructed s somewhere once).writing.fault?
      = some ⟨.report, "o/analysis_report.md", .directory⟩ := by
  intro s t'
  have hlinks : obstructed.HasNoLinks := Tree.IsPlain.hasNoLinks (by decide)
  have hshape : ∀ path, s.IsOutput path → ∀ loc ∈ obstructed.way path,
      t'.shapeAt loc = obstructed.shapeAt loc := by
    have hlineage : ∀ path ∈ Files.Path.lineage s.output, ∀ loc ∈ obstructed.way path,
        t'.shapeAt loc = obstructed.shapeAt loc := by decide +kernel
    rintro path (hpath | rfl | rfl)
    · exact hlineage path hpath
    · decide +kernel
    · decide +kernel
  have hfault : (perform t' s somewhere once).writing.fault?
      = some ⟨.report, "o/analysis_report.md", .directory⟩ := by decide +kernel
  obtain ⟨-, hsame⟩ := perform_fault_ignores_inputs hlinks s somewhere once
  exact ⟨hlinks, rfl, hshape, hfault,
    (hsame t' somewhere once rfl hshape).symm.trans hfault⟩

end Run

end BenchReport
