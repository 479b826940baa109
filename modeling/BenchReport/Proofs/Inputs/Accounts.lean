import BenchReport.Proofs.Inputs.Listing
import BenchReport.Proofs.Keyed

/-!
# What becomes of the files that are listed

The records of a run and the exclusions are functions of the files that are listed, each of which
is read for itself (`timings_load`, `measurements_load`, `exclusions_load`). Each of them gives
records, or holds none, or is excluded, and none is counted twice. So the bytes of one file make no
difference to what becomes of the others.

Files meet in one place only. The timings of a report are kept under its name as it is shown, and a
name that is no text can be shown like another: then the later report takes the place of the earlier
(`get?_timings_load`, `size_timings_load_iff`).
-/

namespace BenchReport

open Files (Tree Location RawText)

namespace Inputs

variable {t : Tree} {loc : Location} {old bytes : List UInt8}

/-- The exclusion of a file whose reading failed. -/
def exclusion? {ε α : Type} (message : RawText → ε → String) (read : RawText → Except ε α)
    (f : Listed) : Option Exclusion :=
  match read f.path with
  | .error e => some ⟨f.path, message f.path e⟩
  | .ok _ => none

theorem loaded_load {α : Type} (t : Tree) (directory : Option RawText) (extension : String)
    (read : RawText → α) :
    (directory.map fun d => Intake.load t d extension read).toList.flatMap Intake.loaded
      = (listed t directory extension).map fun f => (f.name, read f.path) := by
  cases directory with
  | none => rfl
  | some d =>
    simp only [Option.map_some, Option.toList_some, List.flatMap_singleton, Intake.loaded,
      Intake.load, listed]
    cases names t d extension with
    | error e => rfl
    | ok all =>
      simp only [List.map_map]
      rfl

theorem timingFiles_load (t : Tree) (timings measurements : Option RawText) :
    (load t timings measurements).timingFiles
      = (listed t timings timingExtension).map fun f => (f.name, readTimings t f.path) :=
  loaded_load t timings timingExtension (readTimings t)

theorem measurementFiles_load (t : Tree) (timings measurements : Option RawText) :
    (load t timings measurements).measurementFiles
      = (listed t measurements measurementExtension).map
          fun f => (f.name, readMeasurement t f.path) :=
  loaded_load t measurements measurementExtension (readMeasurement t)

theorem exclusionsOf_load {ε α : Type} (message : RawText → ε → String) (t : Tree)
    (directory : Option RawText) (extension : String) (read : RawText → Except ε α) :
    (directory.map fun d => Intake.load t d extension read).toList.flatMap (exclusionsOf message)
      = (listed t directory extension).filterMap (exclusion? message read) := by
  cases directory with
  | none => rfl
  | some d =>
    simp only [Option.map_some, Option.toList_some, List.flatMap_singleton, exclusionsOf,
      Intake.loaded, Intake.load, listed]
    cases names t d extension with
    | error e => rfl
    | ok all =>
      simp only [List.filterMap_map]
      rfl

/-! ### Records -/

namespace Listed

/-- The name under which the timings of a file are kept. -/
def source (f : Listed) : String := f.name.shown

/-- The timings that are read from a file. -/
def timings (t : Tree) (f : Listed) : List Timing :=
  match readTimings t f.path with
  | .error _ => []
  | .ok file => file.timings

/-- Whether a timing report can be read and holds no timing. -/
def holdsNone (t : Tree) (f : Listed) : Bool :=
  match readTimings t f.path with
  | .error _ => false
  | .ok file => file.timings.isEmpty

/-- The measurement that is read from a file. -/
def measurement? (t : Tree) (f : Listed) : Option Measurement := (readMeasurement t f.path).toOption

/-- The exclusion of a timing report. -/
def timingExclusion? (t : Tree) (f : Listed) : Option Exclusion :=
  exclusion? TimingFileFault.message (readTimings t) f

/-- The exclusion of a measurement file. -/
def measurementExclusion? (t : Tree) (f : Listed) : Option Exclusion :=
  exclusion? MeasurementFileFault.message (readMeasurement t) f

end Listed

/-- The timing reports that are listed and have a timing. -/
def timed (t : Tree) (directory : Option RawText) : List Listed :=
  (listed t directory timingExtension).filter (·.timings t ≠ [])

theorem filterMap_timingRecord? (t : Tree) (files : List Listed) :
    (files.map fun f => (f.name, readTimings t f.path)).filterMap timingRecord?
      = (files.filter (·.timings t ≠ [])).map fun f => (f.source, f.timings t) := by
  induction files with
  | nil => rfl
  | cons f files ih =>
    rw [List.map_cons]
    cases hread : readTimings t f.path with
    | error _ =>
      have hnone : f.timings t = [] := by rw [Listed.timings, hread]
      rw [List.filterMap_cons_none rfl, ih, List.filter_cons_of_neg (by simpa using hnone)]
    | ok file =>
      have htimings : f.timings t = file.timings := by rw [Listed.timings, hread]
      by_cases hnone : f.timings t = []
      · have hrecord : timingRecord? (f.name, .ok file) = none := by
          simp [timingRecord?, ← htimings, hnone]
        rw [List.filterMap_cons_none hrecord, ih, List.filter_cons_of_neg (by simpa using hnone)]
      · have hrecord : timingRecord? (f.name, .ok file) = some (f.source, f.timings t) := by
          simp [timingRecord?, Listed.source, ← htimings, hnone]
        rw [List.filterMap_cons_some hrecord, ih, List.filter_cons_of_pos (by simpa using hnone),
          List.map_cons]

theorem flatten_timings (t : Tree) (files : List Listed) :
    ((files.filter (·.timings t ≠ [])).map (Listed.timings t)).flatten
      = files.flatMap (Listed.timings t) := by
  induction files with
  | nil => rfl
  | cons f files ih =>
    rw [List.flatMap_cons, ← ih]
    by_cases hnone : f.timings t = []
    · rw [List.filter_cons_of_neg (by simpa using hnone), hnone, List.nil_append]
    · rw [List.filter_cons_of_pos (by simpa using hnone), List.map_cons, List.flatten_cons]

section

variable (t) (timings measurements : Option RawText)

/-- The timings of the reports that have some are put in one after the other. -/
theorem timings_load :
    (load t timings measurements).records.timings
      = .ofList ((timed t timings).map fun f => (f.source, f.timings t)) := by
  rw [records, timingFiles_load, filterMap_timingRecord?, timed]

/-- What is found under a name are the timings of the last report that has some and is shown so. -/
theorem get?_timings_load (key : String) :
    (load t timings measurements).records.timings.get? key
      = (((timed t timings).filter (·.source == key)).getLast?).map (Listed.timings t) := by
  rw [timings_load, Keyed.get?_ofList, List.filter_map, List.getLast?_map, Option.map_map]
  rfl

/-- No report loses its timings to another exactly if no two that have some are shown alike. -/
theorem size_timings_load_iff :
    (load t timings measurements).records.timings.size = (timed t timings).length
      ↔ ((timed t timings).map Listed.source).Nodup := by
  have hsize := Keyed.size_ofList_eq_iff ((timed t timings).map fun f => (f.source, f.timings t))
  rwa [← timings_load t timings measurements, List.length_map, List.map_map] at hsize

/-- The entries are those of the reports, as these stand, exactly if what is shown of the names
stands in order too. -/
theorem entries_timings_load_iff :
    (load t timings measurements).records.timings.entries
        = (timed t timings).map (fun f => (f.source, f.timings t))
      ↔ ((timed t timings).map Listed.source).Pairwise (· < ·) := by
  rw [timings_load, Keyed.entries_ofList_eq_iff, List.pairwise_map, List.pairwise_map]

theorem entries_timings_load_perm (h : ((timed t timings).map Listed.source).Nodup) :
    (load t timings measurements).records.timings.entries.Perm
      ((timed t timings).map fun f => (f.source, f.timings t)) := by
  rw [timings_load]
  exact Keyed.entries_ofList_perm (by rwa [List.map_map])

theorem allTimings_load (h : ((timed t timings).map Listed.source).Pairwise (· < ·)) :
    (load t timings measurements).records.allTimings
      = (listed t timings timingExtension).flatMap (Listed.timings t) := by
  rw [Records.allTimings, Keyed.values, (entries_timings_load_iff t timings measurements).mpr h,
    List.map_map, ← flatten_timings]
  rfl

/-- Texts are shown in their order. -/
theorem sources_pairwise_of_isText (h : (t.entries.map Prod.fst).Nodup)
    (htext : ∀ f ∈ timed t timings, f.name.IsText) :
    ((timed t timings).map Listed.source).Pairwise (· < ·) := by
  rw [List.pairwise_map]
  exact ((listed_pairwise h timings timingExtension).filter _).imp_of_mem
    fun hf hg hlt => (htext _ hf).shown_lt_shown (htext _ hg) hlt

theorem measurements_load :
    (load t timings measurements).records.measurements
      = (listed t measurements measurementExtension).filterMap (Listed.measurement? t) := by
  rw [records, measurementFiles_load, List.filterMap_map]
  rfl

theorem exclusions_load :
    (load t timings measurements).exclusions
      = (listed t timings timingExtension).filterMap (Listed.timingExclusion? t)
        ++ (listed t measurements measurementExtension).filterMap
          (Listed.measurementExclusion? t) := by
  rw [exclusions]
  exact congrArg₂ _ (exclusionsOf_load ..) (exclusionsOf_load ..)

theorem timingsScanned_load :
    (load t timings measurements).timingsScanned = (listed t timings timingExtension).length := by
  rw [timingsScanned, timingFiles_load, List.length_map]

theorem measurementsScanned_load :
    (load t timings measurements).measurementsScanned
      = (listed t measurements measurementExtension).length := by
  rw [measurementsScanned, measurementFiles_load, List.length_map]

end

/-! ### Accounts -/

/-- A measurement file gives a measurement or is excluded. -/
theorem length_measurements_add_exclusions (t : Tree) (files : List Listed) :
    (files.filterMap (Listed.measurement? t)).length
      + (files.filterMap (Listed.measurementExclusion? t)).length = files.length := by
  induction files with
  | nil => rfl
  | cons f files ih =>
    cases hread : readMeasurement t f.path with
    | error e =>
      have hnone : f.measurement? t = none := by rw [Listed.measurement?, hread]; rfl
      have hsome : f.measurementExclusion? t
          = some ⟨f.path, MeasurementFileFault.message f.path e⟩ := by
        rw [Listed.measurementExclusion?, exclusion?, hread]
      rw [List.filterMap_cons_none hnone, List.filterMap_cons_some hsome, List.length_cons,
        List.length_cons, ← ih, Nat.add_assoc]
    | ok m =>
      have hsome : f.measurement? t = some m := by rw [Listed.measurement?, hread]; rfl
      have hnone : f.measurementExclusion? t = none := by
        rw [Listed.measurementExclusion?, exclusion?, hread]
      rw [List.filterMap_cons_some hsome, List.filterMap_cons_none hnone, List.length_cons,
        List.length_cons, ← ih, Nat.add_right_comm]

/-- A timing report gives timings, holds none, or is excluded. -/
theorem length_timings_add_none_add_exclusions (t : Tree) (files : List Listed) :
    (files.filter (·.timings t ≠ [])).length + files.countP (Listed.holdsNone t)
      + (files.filterMap (Listed.timingExclusion? t)).length = files.length := by
  induction files with
  | nil => rfl
  | cons f files ih =>
    cases hread : readTimings t f.path with
    | error e =>
      have hsome : f.timingExclusion? t = some ⟨f.path, TimingFileFault.message f.path e⟩ := by
        rw [Listed.timingExclusion?, exclusion?, hread]
      rw [List.filter_cons_of_neg (by simp [Listed.timings, hread]),
        List.countP_cons_of_neg (by simp [Listed.holdsNone, hread]),
        List.filterMap_cons_some hsome, List.length_cons, List.length_cons]
      omega
    | ok file =>
      have hnone : f.timingExclusion? t = none := by
        rw [Listed.timingExclusion?, exclusion?, hread]
      rw [List.filterMap_cons_none hnone, List.length_cons]
      by_cases hblank : file.timings = []
      · rw [List.filter_cons_of_neg (by simp [Listed.timings, hread, hblank]),
          List.countP_cons_of_pos (by simp [Listed.holdsNone, hread, hblank])]
        omega
      · rw [List.filter_cons_of_pos (by simp [Listed.timings, hread, hblank]),
          List.countP_cons_of_neg (by simp [Listed.holdsNone, hread, hblank]), List.length_cons]
        omega

/-! ### Isolation -/

theorem readTimings_put (h : t.get? loc = some (.file old)) {path : RawText}
    (hpath : t.leadsTo path loc = false) :
    readTimings (t.put loc (.file bytes)) path = readTimings t path := by
  rw [readTimings, readTimings, Tree.openFile_put h hpath]

theorem readMeasurement_put (h : t.get? loc = some (.file old)) {path : RawText}
    (hpath : t.leadsTo path loc = false) :
    readMeasurement (t.put loc (.file bytes)) path = readMeasurement t path := by
  rw [readMeasurement, readMeasurement, Tree.readText_put h hpath]

/-- Exclusions of files of which the reading is the same are the same. -/
theorem filter_exclusions_congr {ε α : Type} {message : RawText → ε → String}
    {read read' : RawText → Except ε α} (elsewhere : RawText → Bool)
    (h : ∀ path, elsewhere path → read' path = read path) (files : List Listed) :
    (files.filterMap (exclusion? message read')).filter (fun x => elsewhere x.path)
      = (files.filterMap (exclusion? message read)).filter (fun x => elsewhere x.path) := by
  rw [List.filter_filterMap, List.filter_filterMap]
  refine List.filterMap_congr fun f _ => ?_
  by_cases hf : elsewhere f.path
  · rw [exclusion?, exclusion?, h f.path hf]
  · have hnone : ∀ read : RawText → Except ε α,
        (exclusion? message read f).filter (fun x => elsewhere x.path) = none := by
      intro read
      rw [exclusion?]
      cases read f.path with
      | error e => simp [hf]
      | ok a => rfl
    rw [hnone, hnone]

section

variable (h : t.get? loc = some (.file old))

include h

theorem Listed.timings_put {f : Listed} (hpath : t.leadsTo f.path loc = false) :
    f.timings (t.put loc (.file bytes)) = f.timings t := by
  rw [timings, timings, readTimings_put h hpath]

theorem Listed.measurement?_put {f : Listed} (hpath : t.leadsTo f.path loc = false) :
    f.measurement? (t.put loc (.file bytes)) = f.measurement? t := by
  rw [measurement?, measurement?, readMeasurement_put h hpath]

variable (timings measurements : Option RawText)

/-- Under a name that none of the reports is shown by to which the path leads the same is found. -/
theorem get?_timings_load_put {key : String}
    (hkey : ∀ f ∈ listed t timings timingExtension, f.source = key →
      t.leadsTo f.path loc = false) :
    (load (t.put loc (.file bytes)) timings measurements).records.timings.get? key
      = (load t timings measurements).records.timings.get? key := by
  have hsame : ∀ f ∈ (timed t timings).filter (·.source == key),
      f.timings (t.put loc (.file bytes)) = f.timings t := by
    intro f hf
    obtain ⟨hf, hsource⟩ := List.mem_filter.mp hf
    exact Listed.timings_put h (hkey f (List.mem_filter.mp hf).1 (by simpa using hsource))
  have htimed : (timed (t.put loc (.file bytes)) timings).filter (·.source == key)
      = (timed t timings).filter (·.source == key) := by
    rw [timed, timed, listed_put h, List.filter_filter, List.filter_filter]
    refine List.filter_congr fun f hf => ?_
    by_cases hsource : f.source = key
    · rw [Listed.timings_put h (hkey f hf hsource)]
    · rw [beq_eq_false_iff_ne.mpr hsource, Bool.false_and, Bool.false_and]
  rw [get?_timings_load, get?_timings_load, htimed]
  exact Option.map_congr fun f hf => hsame f (List.mem_of_getLast? hf)

/-- The exclusions of the other files are the same. -/
theorem exclusions_load_put :
    (load (t.put loc (.file bytes)) timings measurements).exclusions.filter
        (fun x => !t.leadsTo x.path loc)
      = (load t timings measurements).exclusions.filter (fun x => !t.leadsTo x.path loc) := by
  rw [exclusions_load, exclusions_load, listed_put h, listed_put h, List.filter_append,
    List.filter_append]
  let elsewhere := fun path => !t.leadsTo path loc
  have helsewhere : ∀ path, elsewhere path = true → t.leadsTo path loc = false :=
    fun path hpath => by simpa [elsewhere] using hpath
  exact congrArg₂ _
    (filter_exclusions_congr elsewhere (fun p hp => readTimings_put h (helsewhere p hp)) _)
    (filter_exclusions_congr elsewhere (fun p hp => readMeasurement_put h (helsewhere p hp)) _)

end

/-- **Each file that is listed is accounted for, and none of them depends on another, unless two
reports are shown alike.** The files stand in the order of their names, and there are none where no
directory is given or it cannot be listed. The measurements are those of the files that hold one. A
report with timings is kept under its name as it is shown, and of those that are shown alike only
the last: so none of them is lost exactly if they are shown differently, as reports are of which the
names are texts, and they stand in the order of the reports exactly if what is shown of them does.
Left out are the files of which the reading failed, the reports first, each under its own path and
for its own reason. So each file that was scanned has records or is without any, or is left out. And
other bytes in one file make no difference to what is listed, and none to what becomes of a file
whose path does not lead to it, but for what is found under the name that it is shown by. -/
theorem load_accounts_for_files (t : Tree) (h : (t.entries.map Prod.fst).Nodup)
    (timings measurements : Option RawText) :
    let i := load t timings measurements
    let reports := listed t timings timingExtension
    let runs := listed t measurements measurementExtension
    let kept := timed t timings
    -- listing
    (reports.map (·.name)).Pairwise (· < ·) ∧ (runs.map (·.name)).Pairwise (· < ·) ∧
    ((∀ d, timings = some d → ∃ e, t.list d = .error e) → reports = []) ∧
    ((∀ d, measurements = some d → ∃ e, t.list d = .error e) → runs = []) ∧
    -- records
    i.records.measurements = runs.filterMap (Listed.measurement? t) ∧
    (∀ key, i.records.timings.get? key
      = ((kept.filter (·.source == key)).getLast?).map (Listed.timings t)) ∧
    (i.records.timings.size = kept.length ↔ (kept.map Listed.source).Nodup) ∧
    ((kept.map Listed.source).Nodup →
      i.records.timings.entries.Perm (kept.map fun f => (f.source, f.timings t))) ∧
    (i.records.timings.entries = kept.map (fun f => (f.source, f.timings t))
      ↔ (kept.map Listed.source).Pairwise (· < ·)) ∧
    ((kept.map Listed.source).Pairwise (· < ·) →
      i.records.allTimings = reports.flatMap (Listed.timings t)) ∧
    ((∀ f ∈ kept, f.name.IsText) → (kept.map Listed.source).Pairwise (· < ·)) ∧
    -- exclusions
    i.exclusions = reports.filterMap (Listed.timingExclusion? t)
      ++ runs.filterMap (Listed.measurementExclusion? t) ∧
    i.measurementsScanned
      = i.records.measurements.length + (runs.filterMap (Listed.measurementExclusion? t)).length ∧
    i.timingsScanned
      = kept.length + reports.countP (Listed.holdsNone t)
        + (reports.filterMap (Listed.timingExclusion? t)).length ∧
    -- isolation
    ∀ loc old bytes, t.get? loc = some (.file old) →
      let t' := t.put loc (.file bytes)
      let i' := load t' timings measurements
      listed t' timings timingExtension = reports ∧
      listed t' measurements measurementExtension = runs ∧
      (∀ f ∈ reports, t.leadsTo f.path loc = false → f.timings t' = f.timings t) ∧
      (∀ key, (∀ f ∈ reports, f.source = key → t.leadsTo f.path loc = false) →
        i'.records.timings.get? key = i.records.timings.get? key) ∧
      (∀ f ∈ runs, t.leadsTo f.path loc = false → f.measurement? t' = f.measurement? t) ∧
      i'.exclusions.filter (fun x => !t.leadsTo x.path loc)
        = i.exclusions.filter (fun x => !t.leadsTo x.path loc) := by
  intro i reports runs kept
  refine ⟨List.pairwise_map.mpr (listed_pairwise h _ _),
    List.pairwise_map.mpr (listed_pairwise h _ _), listed_eq_nil, listed_eq_nil,
    measurements_load t timings measurements, get?_timings_load t timings measurements,
    size_timings_load_iff t timings measurements, entries_timings_load_perm t timings measurements,
    entries_timings_load_iff t timings measurements, allTimings_load t timings measurements,
    sources_pairwise_of_isText t timings h, exclusions_load t timings measurements, ?_, ?_, ?_⟩
  · rw [measurements_load, length_measurements_add_exclusions, measurementsScanned_load]
  · exact (timingsScanned_load t timings measurements).trans
      (length_timings_add_none_add_exclusions t reports).symm
  · intro loc old bytes hloc t' i'
    exact ⟨listed_put hloc _ _, listed_put hloc _ _,
      fun f _ hpath => Listed.timings_put hloc hpath,
      fun key hkey => get?_timings_load_put hloc timings measurements hkey,
      fun f _ hpath => Listed.measurement?_put hloc hpath,
      exclusions_load_put hloc timings measurements⟩

/-- A directory with a report that has none, one that cannot be read, one that has a timing, and a
measurement file that breaks off. -/
def ofEachKind : Tree where
  start := []
  entries := [(["d"], .directory), (["d", "blank.txt"], .file []),
    (["d", "failing.txt"], .device .failing),
    (["d", "timed.txt"], .file (Text.Utf8.encode "a time: [1 ns 2 ns 3 ns]".toList)),
    (["d", "run.json"], .file [0x7B])]

theorem listed_ofEachKind :
    listed ofEachKind (some "d") timingExtension
      = [⟨"blank.txt", "d/blank.txt"⟩, ⟨"failing.txt", "d/failing.txt"⟩,
        ⟨"timed.txt", "d/timed.txt"⟩] := by
  rw [listed_of_pairwise ["blank.txt", "failing.txt", "timed.txt", "run.json"]
    (by decide +kernel) (by decide +kernel)]
  decide +kernel

theorem load_accounts_for_files_of_each_kind :
    let i := load ofEachKind (some "d") (some "d")
    let i' := load (ofEachKind.put ["d", "run.json"] (.file [])) (some "d") (some "d")
    (ofEachKind.entries.map Prod.fst).Nodup ∧
    ofEachKind.get? ["d", "run.json"] = some (.file [0x7B]) ∧
    i.timingsScanned = i.records.timings.size + 1 + 1 ∧
    i.records.allTimings.map (·.name) = ["a"] ∧
    (i.exclusions.map (·.path)) = ["d/failing.txt", "d/run.json"] ∧
    i'.records.timings.get? "timed.txt" = i.records.timings.get? "timed.txt" := by
  intro i i'
  have hdistinct : (ofEachKind.entries.map Prod.fst).Nodup := by decide +kernel
  have hfile : ofEachKind.get? ["d", "run.json"] = some (.file [0x7B]) := by decide +kernel
  obtain ⟨-, -, -, -, -, -, hsize, -, -, hall, htexts, hexclusions, -, hscanned, hisolated⟩ :=
    load_accounts_for_files ofEachKind hdistinct (some "d") (some "d")
  obtain ⟨-, -, -, hothers, -⟩ := hisolated _ _ [] hfile
  rw [timed] at hsize hall htexts hscanned
  rw [listed_ofEachKind] at hsize hall htexts hexclusions hscanned hothers
  have hascending := htexts (by decide +kernel)
  refine ⟨hdistinct, hfile, hscanned.trans ?_, ?_, ?_, ?_⟩
  · rw [← hsize.mpr (hascending.imp Std.ne_of_lt)]
    exact congrArg₂ _ (congrArg₂ _ rfl (by decide +kernel)) (by decide +kernel)
  · rw [hall hascending]
    decide +kernel
  · rw [hexclusions]
    decide +kernel
  · exact hothers "timed.txt" (by decide +kernel)

/-- A directory with two reports that have a timing each and that are shown alike. -/
def shownAlike : Tree where
  start := []
  entries := [(["d"], .directory),
    (["d", ⟨[0xFE, 0x2E, 0x74, 0x78, 0x74]⟩],
      .file (Text.Utf8.encode "a time: [1 ns 2 ns 3 ns]".toList)),
    (["d", ⟨[0xFF, 0x2E, 0x74, 0x78, 0x74]⟩],
      .file (Text.Utf8.encode "b time: [1 ns 2 ns 3 ns]".toList))]

theorem listed_shownAlike :
    listed shownAlike (some "d") timingExtension
      = [⟨⟨[0xFE, 0x2E, 0x74, 0x78, 0x74]⟩, "d/" ++ ⟨[0xFE, 0x2E, 0x74, 0x78, 0x74]⟩⟩,
        ⟨⟨[0xFF, 0x2E, 0x74, 0x78, 0x74]⟩, "d/" ++ ⟨[0xFF, 0x2E, 0x74, 0x78, 0x74]⟩⟩] := by
  rw [listed_of_pairwise [⟨[0xFE, 0x2E, 0x74, 0x78, 0x74]⟩, ⟨[0xFF, 0x2E, 0x74, 0x78, 0x74]⟩]
    (by decide +kernel) (by decide +kernel)]
  decide +kernel

/-- The timing of the first of two reports that are shown alike is lost, and neither of them is left
out. -/
theorem timings_lost_of_names_shown_alike :
    let i := load shownAlike (some "d") none
    let reports := listed shownAlike (some "d") timingExtension
    (shownAlike.entries.map Prod.fst).Nodup ∧
    reports.map (fun f => (f.timings shownAlike).map (·.name)) = [["a"], ["b"]] ∧
    i.timingsScanned = 2 ∧ i.exclusions = [] ∧
    i.records.timings.size = 1 ∧ i.records.allTimings.map (·.name) = ["b"] ∧
    i.timingsScanned
      ≠ i.records.timings.size + reports.countP (Listed.holdsNone shownAlike)
        + (reports.filterMap (Listed.timingExclusion? shownAlike)).length := by
  intro i reports
  have hreports : reports = _ := listed_shownAlike
  have hscanned : i.timingsScanned = 2 := by
    rw [timingsScanned_load, listed_shownAlike]
    rfl
  have hsize : i.records.timings.size = 1 := by
    rw [timings_load, timed, listed_shownAlike]
    decide +kernel
  refine ⟨by decide +kernel, ?_, hscanned, ?_, hsize, ?_, ?_⟩
  · rw [hreports]
    decide +kernel
  · rw [exclusions_load, listed_shownAlike]
    decide +kernel
  · rw [Records.allTimings, timings_load, timed, listed_shownAlike]
    decide +kernel
  · rw [hscanned, hsize, hreports]
    decide +kernel

end Inputs

end BenchReport
