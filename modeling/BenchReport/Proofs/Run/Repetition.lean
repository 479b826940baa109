import BenchReport.Proofs.Files.Again
import BenchReport.Proofs.Inputs.Growth
import BenchReport.Proofs.Run.Faults

/-!
# Repeated runs

A run changes nothing but its two files and the directories that it makes on the way to them
(`Writing.ofOutputs_grows`). So what it wrote can be written again (`Writing.ofOutputs_again`), and
a second run loads the same, unless the outputs are inputs too, or an input directory is reached by
going up from a directory that the first run has made.
-/

namespace BenchReport

open Files (Location RawText Tree)
open Files.Path (IsName)

namespace Writing

variable {t : Tree} {s : Settings} {c c' : Composed}

theorem after_tree {P : Tree → Prop} {a : Files.Attempt} {output : Output} {path : RawText}
    {next : Tree → Writing} (ha : P a.tree) (hnext : P a.tree → P (next a.tree).tree) :
    P (after a output path next).tree := by
  unfold after
  split
  · exact ha
  · exact hnext ha

/-- What a run may change, even if it fails. -/
theorem ofOutputs_grows (hlinks : t.HasNoLinks) (s : Settings) (c : Composed) :
    Tree.Grows s.Makes s.Writes t (ofOutputs t s c).tree := by
  have hmade : Tree.Grows s.Makes s.Writes t (t.makeDirectories s.output).tree :=
    (Tree.Grows.refl s.Makes s.Writes t).makeDirectories hlinks fun _ => id
  unfold ofOutputs
  refine after_tree hmade fun h => ?_
  refine after_tree (h.write hlinks (.inl rfl) _) fun h => ?_
  exact after_tree (h.write hlinks (.inr rfl) _) id

theorem ofOutputs_tree (hdone : (ofOutputs t s c).fault? = none) :
    (ofOutputs t s c).tree
      = ((((t.makeDirectories s.output).tree.write s.reportPath (bytesOf c.report)).tree.write
          s.dataPath (bytesOf c.snapshot.text))).tree := by
  unfold ofOutputs at hdone ⊢
  obtain ⟨-, hnext⟩ := after_eq_none hdone
  rw [hnext] at hdone ⊢
  obtain ⟨-, hnext⟩ := after_eq_none hdone
  rw [hnext] at hdone ⊢
  obtain ⟨-, hnext⟩ := after_eq_none hdone
  rw [hnext]

/-- Outputs that could be written can be written again: the directory is there, and so are the two
files, or the devices in their place. -/
theorem ofOutputs_again (hlinks : t.HasNoLinks) (hc : c.HasTexts) (hc' : c'.HasTexts)
    (hdone : (ofOutputs t s c).fault? = none) :
    (ofOutputs (ofOutputs t s c).tree s c').fault? = none := by
  rw [ofOutputs_tree hdone]
  obtain ⟨hmade, hreported, hstored⟩ := ofOutputs_eq_none_iff.mp hdone
  have hdirectory := Tree.isDirectory_makeDirectories hlinks hmade
  have hlinks₁ : (t.makeDirectories s.output).tree.HasNoLinks := hlinks.makeChain _
  generalize (t.makeDirectories s.output).tree = t₁ at *
  have hgrows₂ := (Tree.Grows.refl s.Makes s.Writes t₁).write hlinks₁ (.inl rfl)
    (bytesOf c.report)
  have hgrows₃ := hgrows₂.write hlinks₁ (.inr rfl) (bytesOf c.snapshot.text)
  have hlinks₂ := hgrows₂.hasNoLinks hlinks₁
  have hlinks₃ := hgrows₃.hasNoLinks hlinks₁
  have hreport := (((Tree.write_eq_none_iff hc.1).mp hreported).write hlinks₁ s.reportPath
    (bytesOf c.report)).write hlinks₂ s.dataPath (bytesOf c.snapshot.text)
  have hdata := ((Tree.write_eq_none_iff hc.2).mp hstored).write hlinks₂ s.dataPath
    (bytesOf c.snapshot.text)
  generalize ((t₁.write s.reportPath _).tree.write s.dataPath _).tree = t₃ at *
  have hagain : t₃.makeDirectories s.output = t₃.done := by
    rcases hdirectory with hempty | hdirectory
    · rw [Tree.makeDirectories, hempty, Tree.makeChain]
    · obtain ⟨loc, hfind⟩ := Tree.isDirectory_iff.mp hdirectory
      exact Tree.makeDirectories_of_isDirectory
        (Tree.isDirectory_iff.mpr ⟨loc, hgrows₃.find_directory hlinks₁ hfind⟩)
  refine ofOutputs_eq_none_iff.mpr ?_
  rw [hagain]
  refine ⟨rfl, (Tree.write_eq_none_iff hc'.1).mpr hreport, (Tree.write_eq_none_iff hc'.2).mpr ?_⟩
  exact hdata.write hlinks₃ _ _

end Writing

/-- The lines of two reports of one analysis differ in the time of their making. -/
theorem Report.text_generated (a : Analysis) (generated : Instant) :
    Report.text a generated
      = Report.textOfLines (["# Performance Analysis Report", ""]
          ++ Report.generatedLine generated :: (["", "---", ""] ++ Report.bodyLines a)) := by
  rw [Report.text, Report.lines]
  rfl

namespace Run

/-- **A run changes nothing but its outputs, and a second one does the same again.** After a run
without a fault, what stands anywhere but in the places of the two files stands there as before, but
for directories that were made, where nothing was, on the way to the output directory. Then a second
run at any other time has no fault, loads the same, leaves out the same, and its outputs differ in
the time only. No file that is listed may be in the place of an output, and no path of an input
directory may go up from a directory that the first run made to one that was there before. -/
theorem perform_repeatable {t : Tree} (hproper : t.IsProper) (hlinks : t.HasNoLinks) (s : Settings)
    (origin : Origin) (generated generated' : Instant)
    (hdone : (perform t s origin generated).writing.fault? = none)
    (hapart : ∀ f, f ∈ Inputs.listed (perform t s origin generated).writing.tree s.timingsPath
        Inputs.timingExtension ∨
      f ∈ Inputs.listed (perform t s origin generated).writing.tree s.measurementsPath
        Inputs.measurementExtension →
      ∀ path, s.Writes path → t.location f.path ≠ t.location path)
    (htimings : Inputs.WasFound t (perform t s origin generated).writing.tree s.timingsPath)
    (hmeasurements : Inputs.WasFound t (perform t s origin generated).writing.tree
      s.measurementsPath) :
    let r := perform t s origin generated
    let t' := r.writing.tree
    let r' := perform t' s origin generated'
    -- what is changed
    t'.start = t.start ∧
    (∀ loc, (∀ path, s.Writes path → loc ≠ t.location path) →
      t'.get? loc = t.get? loc ∨
      (∃ path, s.Makes path ∧ loc = t.location path) ∧ t.get? loc = none ∧
        t'.get? loc = some .directory) ∧
    -- the second run
    r'.writing.fault? = none ∧
    r'.inputs.records = r.inputs.records ∧ r'.inputs.exclusions = r.inputs.exclusions ∧
    r'.inputs.timingsScanned = r.inputs.timingsScanned ∧
    r'.inputs.measurementsScanned = r.inputs.measurementsScanned ∧
    (∃ above below,
      r.composed.report
        = Report.textOfLines (above ++ Report.generatedLine generated :: below) ∧
      r'.composed.report
        = Report.textOfLines (above ++ Report.generatedLine generated' :: below)) ∧
    r'.composed.snapshot = { r.composed.snapshot with timestamp := generated' } := by
  intro r t' r'
  have hgrows : Tree.Grows s.Makes s.Writes t t' := Writing.ofOutputs_grows hlinks s r.composed
  obtain ⟨htimingFiles, hmeasurementFiles, hexclusions⟩ :=
    Inputs.load_of_grows hgrows hproper hlinks htimings hmeasurements
      (fun f hf => hapart f (.inl hf)) fun f hf => hapart f (.inr hf)
  have hinputs : r'.inputs = Inputs.load t' s.timingsPath s.measurementsPath := rfl
  have hrecords : r'.inputs.records = r.inputs.records := by
    rw [Inputs.records, hinputs, htimingFiles, hmeasurementFiles]
    rfl
  have hcomposed : r.composed = .ofRecords r.inputs.records origin generated := rfl
  have hcomposed' : r'.composed = .ofRecords r.inputs.records origin generated' := by
    rw [← hrecords]
    rfl
  refine ⟨hgrows.start_eq, ?_, ?_, hrecords, hexclusions, ?_, ?_, ?_, ?_⟩
  · intro loc hloc
    rcases hgrows.get?_cases loc with hsame | hmade | ⟨⟨path, hpath, hplace⟩, -⟩
    · exact .inl hsame
    · exact .inr hmade
    · exact absurd hplace (hloc path hpath)
  · exact Writing.ofOutputs_again hlinks (Composed.hasTexts_ofRecords ..)
      (Composed.hasTexts_ofRecords ..) hdone
  · exact congrArg List.length htimingFiles
  · exact congrArg List.length hmeasurementFiles
  · refine ⟨["# Performance Analysis Report", ""],
      ["", "---", ""] ++ Report.bodyLines (.ofRecords r.inputs.records), ?_, ?_⟩
    · rw [hcomposed, ← Report.text_generated, Composed.ofRecords]
    · rw [hcomposed', ← Report.text_generated, Composed.ofRecords]
  · rw [hcomposed, hcomposed', Composed.ofRecords, Composed.ofRecords, Snapshot.ofAnalysis,
      Snapshot.ofAnalysis]

/-- A tree with a directory that holds a report. -/
def holding : Tree where
  start := ["w"]
  entries := [(["w"], .directory), (["w", "in"], .directory),
    (["w", "in", "a.txt"], .file (Text.Utf8.encode "a time: [1 ns 2 ns 3 ns]".toList))]

/-- When the second runs are made. -/
def later : Instant := ⟨⟨2024, 3, 1⟩, 0, 0⟩

theorem holding_isProper : holding.IsProper := by decide +kernel

theorem holding_hasNoLinks : holding.HasNoLinks := Tree.IsPlain.hasNoLinks (by decide)

/-- The outputs go into a directory of inputs, and the first run makes another that it could not
list. -/
theorem perform_repeatable_nested :
    let s : Settings :=
      { timings := some "in", measurements := some "in/o", output := "in/o", dataName := "d" }
    let r := perform holding s somewhere once
    let r' := perform r.writing.tree s somewhere later
    holding.IsProper ∧ holding.HasNoLinks ∧ r.writing.fault? = none ∧
    Inputs.WasFound holding r.writing.tree s.timingsPath ∧
    Inputs.WasFound holding r.writing.tree s.measurementsPath ∧
    r'.writing.fault? = none ∧ r'.inputs.records = r.inputs.records ∧
    r'.inputs.timingsScanned = r.inputs.timingsScanned := by
  intro s r r'
  have hdone : r.writing.fault? = none := by
    -- whatever is written: the snapshot of no records can be
    let c := (perform bare {} somewhere once).composed
    have hnone : (Writing.ofOutputs holding s c).fault? = none := by decide +kernel
    rw [← hnone]
    exact Writing.ofOutputs_agree ⟨rfl, holding_hasNoLinks, fun _ _ _ _ => rfl⟩
      (Composed.hasTexts_ofRecords ..) (Composed.hasTexts_ofRecords ..)
  have hgrows : Tree.Grows s.Makes s.Writes holding r.writing.tree :=
    Writing.ofOutputs_grows holding_hasNoLinks s r.composed
  have hapart : ∀ f, f ∈ Inputs.listed r.writing.tree s.timingsPath Inputs.timingExtension ∨
      f ∈ Inputs.listed r.writing.tree s.measurementsPath Inputs.measurementExtension →
      ∀ path, s.Writes path → holding.location f.path ≠ holding.location path := by
    rintro f (hf | hf) path (rfl | rfl) <;>
      exact Inputs.location_ne_of_extension? hgrows holding_isProper (by decide +kernel)
        (by decide +kernel) hf
  have htimings : Inputs.WasFound holding r.writing.tree s.timingsPath := by
    rintro d ⟨rfl⟩ hup
    exact absurd hup (by decide +kernel)
  have hmeasurements : Inputs.WasFound holding r.writing.tree s.measurementsPath := by
    rintro d ⟨rfl⟩ hup
    exact absurd hup (by decide +kernel)
  obtain ⟨-, -, hdone', hrecords, -, hscanned, -⟩ := perform_repeatable holding_isProper
    holding_hasNoLinks s somewhere once later hdone hapart htimings hmeasurements
  exact ⟨holding_isProper, holding_hasNoLinks, hdone, htimings, hmeasurements, hdone', hrecords,
    hscanned⟩

/-- If the path of an input directory goes up from a directory that the first run makes, only the
second run finds it. -/
theorem not_repeatable_from_new_directory :
    let s : Settings := { timings := some "o/../in", output := "o" }
    let r := perform holding s somewhere once
    let r' := perform r.writing.tree s somewhere later
    holding.IsProper ∧ holding.HasNoLinks ∧ r.writing.fault? = none ∧
    (∀ f ∈ Inputs.listed r.writing.tree s.timingsPath Inputs.timingExtension,
      ∀ path, s.Writes path → holding.location f.path ≠ holding.location path) ∧
    s.measurements = none ∧
    r.inputs.timingsScanned = 0 ∧ r'.inputs.timingsScanned ≠ 0 := by
  intro s r r'
  have hgrows : Tree.Grows s.Makes s.Writes holding r.writing.tree :=
    Writing.ofOutputs_grows holding_hasNoLinks s r.composed
  have hnone : Inputs.listed holding s.timingsPath Inputs.timingExtension = [] :=
    Inputs.listed_eq_nil fun d hd => ⟨.missing, by
      obtain rfl := Option.some.inj hd
      decide +kernel⟩
  have hlisted : (⟨"a.txt", "o/../in/a.txt"⟩ : Inputs.Listed)
      ∈ Inputs.listed r.writing.tree s.timingsPath Inputs.timingExtension :=
    Inputs.mem_listed_iff.mpr ⟨"o/../in", ["a.txt"], rfl, by decide +kernel, by simp,
      by decide +kernel, by decide +kernel⟩
  refine ⟨holding_isProper, holding_hasNoLinks, by decide +kernel, ?_, rfl, ?_, ?_⟩
  · rintro f hf path (rfl | rfl) <;>
      exact Inputs.location_ne_of_extension? hgrows holding_isProper (by decide +kernel)
        (by decide +kernel) hf
  · exact (Inputs.timingsScanned_load ..).trans (congrArg List.length hnone)
  · intro hzero
    have hlength := (Inputs.timingsScanned_load r.writing.tree s.timingsPath
      s.measurementsPath).symm.trans hzero
    rw [List.eq_nil_of_length_eq_zero hlength] at hlisted
    cases hlisted

end Run

end BenchReport
