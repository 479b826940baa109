import BenchReport.Proofs.Grouping.Workloads
import Mathlib.Data.List.Perm.Basic

/-!
# The report and the snapshot hold the same data

The tables of a report show the records by group, and the snapshot holds them by report and in the
order of loading. Both come from the same records on different ways, and no record is lost or
doubled on either: the groups of a grouping part the values (`members_groupBy_perm`), sorting the
members of a group rearranges them, and the scaling is filed under keys of which no two are alike
(`nodup_scaling`), so that no entry takes the place of another.
-/

namespace BenchReport

/-! ### Groups part the values -/

namespace Grouping

variable {α : Type}

/-- Parts by distinct keys, put together, hold each value as often as the whole does. -/
theorem flatMap_filter_perm (key : α → String) {keys : List String} (hkeys : keys.Nodup)
    {xs : List α} (hall : ∀ a ∈ xs, key a ∈ keys) :
    (keys.flatMap fun k => xs.filter (key · == k)).Perm xs := by
  induction keys generalizing xs with
  | nil =>
    cases xs with
    | nil => exact List.Perm.refl _
    | cons a xs => cases hall a List.mem_cons_self
  | cons k keys ih =>
    obtain ⟨hk, hkeys⟩ := List.nodup_cons.mp hkeys
    -- the other parts are those of what the first part leaves
    have hrest : (keys.flatMap fun l => xs.filter (key · == l))
        = keys.flatMap fun l => (xs.filter (!key · == k)).filter (key · == l) := by
      refine List.flatMap_congr fun l hl => ?_
      rw [List.filter_filter]
      refine List.filter_congr fun a _ => ?_
      by_cases hal : key a = l
      · have hlk : l ≠ k := fun h => hk (h ▸ hl)
        simp [hal, hlk]
      · simp [hal]
    have hleft : ∀ a ∈ xs.filter (!key · == k), key a ∈ keys := by
      intro a ha
      obtain ⟨hmem, hne⟩ := List.mem_filter.mp ha
      rcases List.mem_cons.mp (hall a hmem) with hak | hak
      · simp [hak] at hne
      · exact hak
    rw [List.flatMap_cons, hrest]
    exact ((ih hkeys hleft).append_left _).trans (List.filter_append_perm _ xs)

theorem members_groupBy (key : α → String) (xs : List α) : (groupBy key xs).members
    = (metKeys (stepsBy key xs)).flatMap fun k => xs.filter (key · == k) := by
  rw [members, (collects_groupBy key xs).groups_eq, List.flatMap_map]
  refine List.flatMap_congr fun k _ => ?_
  rw [groupOf, valuesUnder_stepsBy]

/-- The members of a group have its key. -/
theorem key_of_mem_groupBy {key : α → String} {xs : List α} {g : Group α}
    (hg : g ∈ (groupBy key xs).groups) {a : α} (ha : a ∈ g.members) : key a = g.key := by
  rw [(collects_groupBy key xs).groups_eq, List.mem_map] at hg
  obtain ⟨k, -, rfl⟩ := hg
  have hmem : a ∈ xs.filter (key · == k) := by rwa [← valuesUnder_stepsBy]
  exact beq_iff_eq.mp (List.mem_filter.mp hmem).2

theorem nodup_keys_groupBy (key : α → String) (xs : List α) :
    ((groupBy key xs).groups.map (·.key)).Nodup := by
  have hkeys : (groupBy key xs).groups.map (·.key) = metKeys (stepsBy key xs) :=
    (collects_groupBy key xs).keys_eq
  rw [hkeys]
  exact nodup_metKeys _

/-- The groups of values by a key, put together, are the values. -/
theorem members_groupBy_perm (key : α → String) (xs : List α) :
    (groupBy key xs).members.Perm xs := by
  rw [members_groupBy]
  refine flatMap_filter_perm key (nodup_metKeys _) fun a ha => ?_
  rw [mem_metKeys, map_fst_stepsBy]
  exact List.mem_map.mpr ⟨a, ha, rfl⟩

theorem members_rearrange_perm {f : List α → List α} (hf : ∀ xs, (f xs).Perm xs)
    (t : Grouping α) : (t.rearrange f).members.Perm t.members := by
  rw [members, members, rearrange, List.flatMap_map]
  exact List.Perm.flatMap_left _ fun g _ => hf g.members

end Grouping

theorem members_byWorkload_perm (ms : List Measurement) : (byWorkload ms).members.Perm ms :=
  (Grouping.members_rearrange_perm byThreads_perm _).trans
    (Grouping.members_groupBy_perm Measurement.key ms)

theorem key_of_mem_byWorkload {ms : List Measurement} {g : Group Measurement}
    (hg : g ∈ (byWorkload ms).groups) {m : Measurement} (hm : m ∈ g.members) : m.key = g.key := by
  rw [groups_byWorkload, List.mem_map] at hg
  obtain ⟨key, -, rfl⟩ := hg
  exact (mem_runsOf.mp ((byThreads_perm _).mem_iff.mp hm)).2

/-- A run is in the group of its workload and in no other. -/
theorem existsUnique_group {ms : List Measurement} {m : Measurement} (hm : m ∈ ms) :
    ∃! g, g ∈ (byWorkload ms).groups ∧ m ∈ g.members := by
  refine ⟨⟨m.key, byThreads (runsOf m.key ms)⟩, ⟨?_, ?_⟩, ?_⟩
  · rw [groups_byWorkload]
    exact List.mem_map.mpr ⟨m.key, mem_workloadsOf.mpr ⟨m, hm, rfl⟩, rfl⟩
  · exact (byThreads_perm _).mem_iff.mpr (mem_runsOf.mpr ⟨hm, rfl⟩)
  · rintro g ⟨hg, hmg⟩
    rw [groups_byWorkload, List.mem_map] at hg
    obtain ⟨key, -, rfl⟩ := hg
    obtain ⟨-, rfl⟩ := mem_runsOf.mp ((byThreads_perm _).mem_iff.mp hmg)
    rfl

/-! ### Scaling -/

namespace Scaling

/-- A run has a scaling point each, in the order of the runs, if there are at least two. -/
theorem points?_eq_some_iff {runs : List Measurement} {points : List ScalingPoint} :
    points? runs = some points ↔
      2 ≤ runs.length ∧ ∃ b, baseline? runs = some b ∧ points = runs.map (point (perThread b)) := by
  unfold points?
  split
  · next hlt =>
    constructor
    · intro h
      cases h
    · rintro ⟨hle, -⟩
      omega
  · next hge =>
    rw [Option.map_eq_some_iff]
    constructor
    · rintro ⟨b, hb, rfl⟩
      exact ⟨by omega, b, hb, rfl⟩
    · rintro ⟨-, b, hb, rfl⟩
      exact ⟨b, hb, rfl⟩

theorem isSome_baseline? {runs : List Measurement} (h : runs ≠ []) : (baseline? runs).isSome := by
  cases runs with
  | nil => exact absurd rfl h
  | cons m runs =>
    rw [baseline?, List.head?_cons, Option.or_some]
    rfl

theorem isSome_points?_iff {runs : List Measurement} :
    (points? runs).isSome ↔ 2 ≤ runs.length := by
  rw [Option.isSome_iff_exists]
  constructor
  · rintro ⟨points, h⟩
    exact (points?_eq_some_iff.mp h).1
  · intro hle
    have hne : runs ≠ [] := by
      rintro rfl
      cases hle
    obtain ⟨b, hb⟩ := Option.isSome_iff_exists.mp (isSome_baseline? hne)
    exact ⟨_, points?_eq_some_iff.mpr ⟨hle, b, hb, rfl⟩⟩

/-- A scaling point shows the threads and the throughput of its run. -/
theorem map_points {runs : List Measurement} {points : List ScalingPoint}
    (h : points? runs = some points) :
    points.map (fun p => (p.threads, p.throughput))
      = runs.map (fun m => (m.threads, m.throughput)) := by
  obtain ⟨-, b, -, rfl⟩ := points?_eq_some_iff.mp h
  rw [List.map_map]
  rfl

theorem mem_of_baseline?_eq_some {runs : List Measurement} {b : Measurement}
    (h : baseline? runs = some b) : b ∈ runs := by
  rw [baseline?, Option.or_eq_some_iff] at h
  rcases h with hfind | ⟨-, hhead⟩
  · exact List.mem_of_find?_eq_some hfind
  · exact List.mem_of_head? hhead

/-- A scaling point is that of a run against another. -/
theorem exists_point_eq {ms : List Measurement} {w : WorkloadScaling}
    (hw : w ∈ ofGroups (byWorkload ms)) {p : ScalingPoint} (hp : p ∈ w.points) :
    ∃ b ∈ ms, ∃ m ∈ ms, p = point (perThread b) m := by
  obtain ⟨g, hg, -, hpoints⟩ := workload_mem_scaling.mp hw
  obtain ⟨-, b, hb, hmap⟩ := points?_eq_some_iff.mp hpoints
  rw [groups_byWorkload, List.mem_map] at hg
  obtain ⟨key, -, rfl⟩ := hg
  have hrun {m : Measurement} (hm : m ∈ byThreads (runsOf key ms)) : m ∈ ms :=
    (mem_runsOf.mp ((byThreads_perm _).mem_iff.mp hm)).1
  rw [hmap] at hp
  obtain ⟨m, hm, rfl⟩ := List.mem_map.mp hp
  exact ⟨b, hrun (mem_of_baseline?_eq_some hb), m, hrun hm, rfl⟩

/-- The workloads with a scaling are those with two runs or more, in the order of the groups. -/
theorem map_workload_ofGroups (t : Grouping Measurement) :
    (ofGroups t).map (·.workload)
      = (t.groups.filter fun g => 2 ≤ g.members.length).map (·.key) := by
  rw [ofGroups]
  induction t.groups with
  | nil => rfl
  | cons g gs ih =>
    rw [List.filterMap_cons]
    cases hpoints : points? g.members with
    | none =>
      have hshort : ¬2 ≤ g.members.length := by
        rw [← isSome_points?_iff, hpoints]
        exact Bool.false_ne_true
      rw [List.filter_cons_of_neg (by simpa using hshort)]
      exact ih
    | some points =>
      have hlong : 2 ≤ g.members.length := (points?_eq_some_iff.mp hpoints).1
      rw [List.filter_cons_of_pos (by simpa using hlong), List.map_cons, ← ih]
      rfl

end Scaling

/-! ### Tables -/

namespace Report

/-- The tables of a report that stand in a section of a title. -/
def tablesOf (title : String) (a : Analysis) : List Table :=
  ((sections a).filter (·.title == title)).flatMap (·.tables)

/-- A section that is left out has no tables, so nothing is lost with it. -/
theorem tables_unless {left : Bool} {s : Section} (h : left = true → s.tables = [])
    (title : String) :
    ((if left = true then [] else [s]).filter (·.title == title)).flatMap (·.tables)
      = if s.title = title then s.tables else [] := by
  by_cases htitle : s.title = title
  · rw [if_pos htitle]
    split
    · next hleft => rw [h hleft, List.filter_nil, List.flatMap_nil]
    · rw [List.filter_cons_of_pos (by simpa using htitle), List.filter_nil, List.flatMap_singleton]
  · rw [if_neg htitle]
    split
    · rfl
    · rw [List.filter_cons_of_neg (by simpa using htitle), List.filter_nil, List.flatMap_nil]

theorem tablesOf_eq (title : String) (a : Analysis) :
    tablesOf title a
      = (if (timingSection a.categories).title = title then a.categories.groups.map timingTable
          else [])
        ++ (if (measurementSection a.workloads).title = title
          then a.workloads.groups.map measurementTable else [])
        ++ (if (scalingSection a.scaling).title = title then a.scaling.map scalingTable
          else []) := by
  have htimings : a.categories.isEmpty = true → (timingSection a.categories).tables = [] := by
    intro h
    rw [timingSection, List.isEmpty_iff.mp h, List.map_nil]
  have hmeasurements :
      a.workloads.isEmpty = true → (measurementSection a.workloads).tables = [] := by
    intro h
    rw [measurementSection, List.isEmpty_iff.mp h, List.map_nil]
  have hscaling : a.scaling.isEmpty = true → (scalingSection a.scaling).tables = [] := by
    intro h
    rw [scalingSection, List.isEmpty_iff.mp h, List.map_nil]
  rw [tablesOf, sections, List.filter_append, List.filter_append, List.flatMap_append,
    List.flatMap_append, tables_unless htimings, tables_unless hmeasurements,
    tables_unless hscaling]
  rfl

theorem tablesOf_timings (a : Analysis) :
    tablesOf "Criterion Benchmark Results" a = a.categories.groups.map timingTable := by
  rw [tablesOf_eq]
  simp [timingSection, measurementSection, scalingSection]

theorem tablesOf_measurements (a : Analysis) :
    tablesOf "Concurrent Benchmark Results" a = a.workloads.groups.map measurementTable := by
  rw [tablesOf_eq]
  simp [timingSection, measurementSection, scalingSection]

theorem tablesOf_scaling (a : Analysis) :
    tablesOf "Scalability Analysis" a = a.scaling.map scalingTable := by
  rw [tablesOf_eq]
  simp [timingSection, measurementSection, scalingSection]

/-- The sections of a report, of which any can be left out. -/
theorem titles_sublist (a : Analysis) :
    ((sections a).map (·.title)).Sublist
      ["Criterion Benchmark Results", "Concurrent Benchmark Results", "Scalability Analysis"] := by
  have hunless (left : Bool) (s : Section) :
      ((if left then [] else [s]).map (·.title)).Sublist [s.title] := by
    cases left with
    | true => exact List.nil_sublist _
    | false => exact List.Sublist.refl _
  rw [sections, List.map_append, List.map_append]
  exact ((hunless _ _).append (hunless _ _)).append (hunless _ _)

/-! ### The lines without tables -/

/-- Whether a line is none of a table. -/
def IsApart (l : String) : Prop := l.toList.head? ≠ some '|'

instance (l : String) : Decidable (IsApart l) := inferInstanceAs (Decidable (_ ≠ _))

/-- An item, if there is one, is none of a table. -/
theorem isApart_of_mem_items {α : Type} {o : Option α} {name value : α → String} {l : String}
    (h : l ∈ (o.map fun x => item (name x) (value x)).toList) : IsApart l := by
  obtain ⟨x, -, rfl⟩ := Option.map_eq_some_iff.mp (Option.mem_toList.mp h)
  simp [IsApart, item]

theorem isApart_of_mem_head {generated : Instant} {l : String}
    (h : l ∈ ["# Performance Analysis Report", "", generatedLine generated, "", "---", ""]) :
    IsApart l := by
  revert l
  simp [IsApart, generatedLine]

theorem isApart_of_mem_summaryLines {a : Analysis} {l : String} (h : l ∈ summaryLines a) :
    IsApart l := by
  simp only [summaryLines, List.mem_append] at h
  rcases h with (h | h) | h
  · revert l
    decide
  · split at h
    · rw [List.mem_singleton.mp h]
      decide
    · simp only [summaryItems, List.mem_append] at h
      rcases h with (h | h) | h <;> exact isApart_of_mem_items h
  · rw [List.mem_singleton.mp h]
    decide

theorem isApart_of_mem_findingLines {a : Analysis} {l : String} (h : l ∈ findingLines a) :
    IsApart l := by
  simp only [findingLines, List.mem_append, List.mem_flatMap] at h
  rcases h with ((((h | h) | h) | h) | ⟨w, -, h⟩) | h
  · revert l
    decide
  · exact isApart_of_mem_items h
  · exact isApart_of_mem_items h
  · exact isApart_of_mem_items h
  · exact isApart_of_mem_items h
  · rw [List.mem_singleton.mp h]
    decide

end Report

/-! ### Both outputs -/

theorem Snapshot.timings_composed {r : Records} (origin : Origin) (generated : Instant) :
    (Composed.ofRecords r origin generated).snapshot.timings.values.flatten
      = r.allTimings.map TimingEntry.ofTiming := by
  have hvalues : (Composed.ofRecords r origin generated).snapshot.timings.values
      = r.timings.values.map (·.map TimingEntry.ofTiming) := by
    simp [Composed.ofRecords, ofAnalysis, Keyed.values, Keyed.mapValues]
  rw [hvalues, Records.allTimings, List.map_flatten]

open Report (IsApart tablesOf) in
/-- **The report and the snapshot hold the same data.** The text of the report has its sections with
their tables in it, a line for the heads of a table and one for each row, and the other lines are
none of a table. There is a table for each category, under its key and with a row for each timing of
it. The timings of all categories are as many times the same as those of the reports, and as the
entries of the snapshot, which has a list for each report in their order. There is a table for each
workload, with a row for each of its measurements, each measurement is in the table of its workload
and in no other, and the entries of the snapshot are the measurements in the order of loading. The
snapshot has a scaling under the key of each workload with two runs or more and under no other key,
none of them in place of another, and the points under a key are those in the rows of the table of
that workload, one for each run in the order of the group. -/
theorem composed_accounts_for_records (r : Records) (origin : Origin) (generated : Instant) :
    let a := Analysis.ofRecords r
    let c := Composed.ofRecords r origin generated
    let row := fun cells : List String =>
      "|" ++ String.join (cells.map fun cell => " " ++ cell ++ " |")
    let rule := fun heads : List String =>
      "|" ++ String.join
        (heads.map fun head => String.ofList (List.replicate (head.length + 2) '-') ++ "|")
    -- the text
    (∃ opening closing : List String,
      (∀ l ∈ opening, IsApart l) ∧ (∀ l ∈ closing, IsApart l) ∧
      c.report = String.join ((opening
        ++ (Report.sections a).flatMap (fun s => ["## " ++ s.title, ""]
          ++ s.tables.flatMap fun t =>
            ["### " ++ t.title, "", row t.heads, rule t.heads] ++ t.rows.map row ++ [""])
        ++ closing).map (· ++ "\n"))) ∧
    ((Report.sections a).map (·.title)).Sublist
      ["Criterion Benchmark Results", "Concurrent Benchmark Results", "Scalability Analysis"] ∧
    -- timings
    tablesOf "Criterion Benchmark Results" a
      = a.categories.groups.map (fun g =>
        { title := g.key
          heads := ["Benchmark", "Time (median)", "Time Range"]
          rows := g.members.map fun t =>
            [t.label g.key, Quantity.time t.mid,
              "[" ++ Quantity.time t.low ++ " - " ++ Quantity.time t.high ++ "]"] }) ∧
    (a.categories.groups.map (·.key)).Nodup ∧
    (∀ g ∈ a.categories.groups, ∀ t ∈ g.members, t.category = g.key) ∧
    (a.categories.groups.flatMap (·.members)).Perm r.allTimings ∧
    ((a.categories.groups.flatMap (·.members)).map fun t =>
      (⟨t.name, t.mid, t.low, t.high⟩ : Snapshot.TimingEntry)).Perm
      c.snapshot.timings.values.flatten ∧
    c.snapshot.timings.entries
      = r.timings.entries.map (fun e => (e.1, e.2.map fun t => ⟨t.name, t.mid, t.low, t.high⟩)) ∧
    -- measurements
    tablesOf "Concurrent Benchmark Results" a
      = a.workloads.groups.map (fun g =>
        { title := Text.capitalize g.key ++ " Workload"
          heads := ["Threads", "Throughput", "Latency p50", "Latency p99", "Total Ops"]
          rows := g.members.map fun m =>
            [Decimal.text m.threads.toNat, Quantity.rate m.throughput,
              Quantity.latency m.latencies.p50, Quantity.latency m.latencies.p99,
              Quantity.count m.total.toNat] }) ∧
    (a.workloads.groups.map (·.key)).Nodup ∧
    (∀ g ∈ a.workloads.groups, ∀ m ∈ g.members, m.key = g.key) ∧
    (a.workloads.groups.flatMap (·.members)).Perm r.measurements ∧
    (∀ m ∈ r.measurements, ∃! g, g ∈ a.workloads.groups ∧ m ∈ g.members) ∧
    c.snapshot.runs
      = r.measurements.map (fun m =>
        { workload := m.workload, threads := m.threads, throughput := m.throughput,
          p50 := m.latencies.p50, p99 := m.latencies.p99, total := m.total }) ∧
    -- scaling
    tablesOf "Scalability Analysis" a
      = a.scaling.map (fun w =>
        { title := Text.capitalize w.workload ++ " Workload Scaling"
          heads := ["Threads", "Throughput", "Expected (Linear)", "Efficiency"]
          rows := w.points.map fun p =>
            [Decimal.text p.threads.toNat, Quantity.rate p.throughput, Quantity.rate p.expected,
              Quantity.percentage p.efficiency] }) ∧
    a.scaling.map (·.workload)
      = (a.workloads.groups.filter fun g => 2 ≤ g.members.length).map (·.key) ∧
    c.snapshot.scaling.entries.Perm (a.scaling.map fun w => (w.workload, w.points)) ∧
    ∀ w ∈ a.scaling, c.snapshot.scaling.get? w.workload = some w.points ∧
      ∃ g ∈ a.workloads.groups, g.key = w.workload ∧
        w.points.map (fun p => (p.threads, p.throughput))
          = g.members.map (fun m => (m.threads, m.throughput)) := by
  intro a c row rule
  have htimings : (a.categories.groups.flatMap (·.members)).Perm r.allTimings :=
    Grouping.members_groupBy_perm Timing.category r.allTimings
  have hscaling : c.snapshot.scaling = .ofList (a.scaling.map fun w => (w.workload, w.points)) :=
    rfl
  have hnodup : ((a.scaling.map fun w => (w.workload, w.points)).map Prod.fst).Nodup :=
    nodup_scaling r.measurements
  refine ⟨?_, Report.titles_sublist a, Report.tablesOf_timings a, Grouping.nodup_keys_groupBy _ _,
    fun g hg t ht => Grouping.key_of_mem_groupBy hg ht, htimings, ?_, rfl,
    Report.tablesOf_measurements a, nodup_keys_byWorkload _,
    fun g hg m hm => key_of_mem_byWorkload hg hm, members_byWorkload_perm _,
    fun m hm => existsUnique_group hm, rfl, Report.tablesOf_scaling a,
    Scaling.map_workload_ofGroups _, ?_, fun w hw => ⟨?_, ?_⟩⟩
  · have hreport : c.report = Report.text a generated := by
      simp only [c, a, Composed.ofRecords]
    refine ⟨["# Performance Analysis Report", "", Report.generatedLine generated, "", "---", ""]
      ++ Report.summaryLines a, Report.findingLines a, ?_,
      fun l => Report.isApart_of_mem_findingLines, ?_⟩
    · intro l hl
      rcases List.mem_append.mp hl with hl | hl
      · exact Report.isApart_of_mem_head hl
      · exact Report.isApart_of_mem_summaryLines hl
    · rw [hreport, Report.text, Report.lines, Report.bodyLines, ← List.append_assoc,
        ← List.append_assoc]
      rfl
  · rw [Snapshot.timings_composed]
    exact htimings.map _
  · rw [hscaling]
    exact Keyed.entries_ofList_perm hnodup
  · rw [hscaling, Keyed.get?_ofList_eq_some_iff hnodup]
    exact List.mem_map.mpr ⟨w, hw, rfl⟩
  · obtain ⟨g, hg, hkey, hpoints⟩ := workload_mem_scaling.mp hw
    exact ⟨g, hg, hkey, Scaling.map_points hpoints⟩

end BenchReport
