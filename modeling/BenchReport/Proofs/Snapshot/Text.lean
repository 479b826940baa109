import BenchReport.Proofs.Instant.Rfc3339
import BenchReport.Proofs.Json.Real
import BenchReport.Snapshot.Text

/-!
# Snapshots read back

A snapshot with finite real numbers, which was taken in the years 0 to 9999 and in no leap second,
is read back from its text (`Snapshot.exists_ofText_text`). The digits of real numbers may be read
otherwise; all else is the same (`Snapshot.Agrees`), whatever characters its texts have and whether
or not its maps and lists are empty. The text is that of a tree which means the value of the
snapshot, and each record in it is read by the layout of its fields.
-/

namespace BenchReport

open Json (Layout Reader Slot Tree Value exists_need_error word32?_of_shows word64?_of_shows)
open Json.Value (membersShow_cons_iff membersShow_nil_iff)

/-! ### Origins -/

namespace Origin

/-- The slots of an origin. -/
def layout : Layout schema where
  slots := [
    .text "version" (·.version) (fun d x => { d with version := some x }) fun _ _ => rfl,
    .text "os" (·.os) (fun d x => { d with os := some x }) fun _ _ => rfl,
    .text "architecture" (·.architecture) (fun d x => { d with architecture := some x })
      fun _ _ => rfl,
    ⟨"cpu_cores", UInt64, (·.cores), fun d x => { d with cores := some x }, .size, Tree.word64?,
      Reader.size_means, fun _ _ => rfl⟩]
  fields := rfl
  nodup := by decide
  apart := by simp [Slot.Apart, Slot.text]
  start := by simp [Slot.text, schema]
  ext := by
    rintro ⟨⟩ ⟨⟩ h
    simpa [Slot.text] using h
  whole := by
    intro d h
    dsimp only [schema]
    refine exists_need_error fun _ h₁ => exists_need_error fun _ h₂ => exists_need_error fun _ h₃ =>
      exists_need_error fun _ h₄ => ?_
    simp [Slot.text, h₁, h₂, h₃, h₄] at h

theorem meaning_of_shows {o : Origin} {t : Tree} (h : o.toJson.Shows t) :
    layout.meaning t = some o := by
  obtain ⟨ts, hshow, hmeaning⟩ := layout.exists_of_shows h rfl
  simp only [membersShow_cons_iff, membersShow_nil_iff, Value.Shows] at hshow
  obtain ⟨t₁, _, rfl, h₁, t₂, _, rfl, h₂, t₃, _, rfl, h₃, t₄, _, rfl, h₄, rfl⟩ := hshow
  rw [hmeaning]
  simp only [Layout.ofFields?, layout, List.map_cons, List.map_nil, Json.fillAll, Slot.fill,
    Slot.text, h₁, h₂, h₃, word64?_of_shows h₄, Option.map_some, Option.bind_some]
  rfl

end Origin

/-! ### Scaling points -/

namespace ScalingPoint

/-- The slots of a scaling point. -/
def layout : Layout schema where
  slots := [
    .word32 "threads" (·.threads) (fun d x => { d with threads := some x }) fun _ _ => rfl,
    .real "throughput" (·.throughput) (fun d x => { d with throughput := some x }) fun _ _ => rfl,
    .real "expected_linear" (·.expected) (fun d x => { d with expected := some x }) fun _ _ => rfl,
    .real "efficiency" (·.efficiency) (fun d x => { d with efficiency := some x }) fun _ _ => rfl]
  fields := rfl
  nodup := by decide
  apart := by simp [Slot.Apart, Slot.word32, Slot.real]
  start := by simp [Slot.word32, Slot.real, schema]
  ext := by
    rintro ⟨⟩ ⟨⟩ h
    simpa [Slot.word32, Slot.real] using h
  whole := by
    intro d h
    dsimp only [schema]
    refine exists_need_error fun _ h₁ => exists_need_error fun _ h₂ => exists_need_error fun _ h₃ =>
      exists_need_error fun _ h₄ => ?_
    simp [Slot.word32, Slot.real, h₁, h₂, h₃, h₄] at h

theorem exists_of_shows (p : ScalingPoint) (t : Tree) (h : p.toJson.Shows t) :
    ∃ p', layout.meaning t = some p' ∧ p'.threads = p.threads := by
  obtain ⟨ts, hshow, hmeaning⟩ := layout.exists_of_shows h rfl
  simp only [membersShow_cons_iff, membersShow_nil_iff, Value.Shows] at hshow
  obtain ⟨t₁, _, rfl, h₁, t₂, _, rfl, ⟨y₂, h₂⟩, t₃, _, rfl, ⟨y₃, h₃⟩, t₄, _, rfl, ⟨y₄, h₄⟩, rfl⟩ :=
    hshow
  refine ⟨⟨p.threads, y₂, y₃, y₄⟩, ?_, rfl⟩
  rw [hmeaning]
  simp only [Layout.ofFields?, layout, List.map_cons, List.map_nil, Json.fillAll, Slot.fill,
    Slot.word32, Slot.real, word32?_of_shows h₁, h₂, h₃, h₄, Option.map_some, Option.bind_some]
  rfl

/-- The real numbers of a scaling point. -/
def reals (p : ScalingPoint) : List Float := [p.throughput, p.expected, p.efficiency]

theorem reals_toJson_iff {p : Float → Prop} {point : ScalingPoint} :
    point.toJson.Reals p ↔ ∀ x ∈ point.reals, p x := by
  simp [toJson, Value.Reals, Value.MemberReals, reals]

end ScalingPoint

namespace Snapshot

/-! ### Timings -/

namespace TimingEntry

/-- The slots of a timing. -/
def layout : Layout schema where
  slots := [
    .text "name" (·.name) (fun d x => { d with name := some x }) fun _ _ => rfl,
    .real "time_mid_us" (·.mid) (fun d x => { d with mid := some x }) fun _ _ => rfl,
    .real "time_low_us" (·.low) (fun d x => { d with low := some x }) fun _ _ => rfl,
    .real "time_high_us" (·.high) (fun d x => { d with high := some x }) fun _ _ => rfl]
  fields := rfl
  nodup := by decide
  apart := by simp [Slot.Apart, Slot.text, Slot.real]
  start := by simp [Slot.text, Slot.real, schema]
  ext := by
    rintro ⟨⟩ ⟨⟩ h
    simpa [Slot.text, Slot.real] using h
  whole := by
    intro d h
    dsimp only [schema]
    refine exists_need_error fun _ h₁ => exists_need_error fun _ h₂ => exists_need_error fun _ h₃ =>
      exists_need_error fun _ h₄ => ?_
    simp [Slot.text, Slot.real, h₁, h₂, h₃, h₄] at h

theorem exists_of_shows (e : TimingEntry) (t : Tree) (h : e.toJson.Shows t) :
    ∃ e', layout.meaning t = some e' ∧ e'.name = e.name := by
  obtain ⟨ts, hshow, hmeaning⟩ := layout.exists_of_shows h rfl
  simp only [membersShow_cons_iff, membersShow_nil_iff, Value.Shows] at hshow
  obtain ⟨t₁, _, rfl, h₁, t₂, _, rfl, ⟨y₂, h₂⟩, t₃, _, rfl, ⟨y₃, h₃⟩, t₄, _, rfl, ⟨y₄, h₄⟩, rfl⟩ :=
    hshow
  refine ⟨⟨e.name, y₂, y₃, y₄⟩, ?_, rfl⟩
  rw [hmeaning]
  simp only [Layout.ofFields?, layout, List.map_cons, List.map_nil, Json.fillAll, Slot.fill,
    Slot.text, Slot.real, h₁, h₂, h₃, h₄, Option.map_some, Option.bind_some]
  rfl

/-- The real numbers of a timing. -/
def reals (e : TimingEntry) : List Float := [e.mid, e.low, e.high]

theorem reals_toJson_iff {p : Float → Prop} {e : TimingEntry} :
    e.toJson.Reals p ↔ ∀ x ∈ e.reals, p x := by
  simp [toJson, Value.Reals, Value.MemberReals, reals]

end TimingEntry

/-! ### Measurements -/

namespace RunEntry

/-- The slots of a measurement. -/
def layout : Layout schema where
  slots := [
    .text "workload" (·.workload) (fun d x => { d with workload := some x }) fun _ _ => rfl,
    .word32 "threads" (·.threads) (fun d x => { d with threads := some x }) fun _ _ => rfl,
    .real "throughput" (·.throughput) (fun d x => { d with throughput := some x }) fun _ _ => rfl,
    .real "latency_p50_ms" (·.p50) (fun d x => { d with p50 := some x }) fun _ _ => rfl,
    .real "latency_p99_ms" (·.p99) (fun d x => { d with p99 := some x }) fun _ _ => rfl,
    .word64 "total_ops" (·.total) (fun d x => { d with total := some x }) fun _ _ => rfl]
  fields := rfl
  nodup := by decide
  apart := by simp [Slot.Apart, Slot.text, Slot.word32, Slot.word64, Slot.real]
  start := by simp [Slot.text, Slot.word32, Slot.word64, Slot.real, schema]
  ext := by
    rintro ⟨⟩ ⟨⟩ h
    simpa [Slot.text, Slot.word32, Slot.word64, Slot.real] using h
  whole := by
    intro d h
    dsimp only [schema]
    refine exists_need_error fun _ h₁ => exists_need_error fun _ h₂ => exists_need_error fun _ h₃ =>
      exists_need_error fun _ h₄ => exists_need_error fun _ h₅ => exists_need_error fun _ h₆ => ?_
    simp [Slot.text, Slot.word32, Slot.word64, Slot.real, h₁, h₂, h₃, h₄, h₅, h₆] at h

/-- What a measurement keeps in the text to the last digit. -/
def exact (e : RunEntry) : String × UInt32 × UInt64 := (e.workload, e.threads, e.total)

theorem exists_of_shows (e : RunEntry) (t : Tree) (h : e.toJson.Shows t) :
    ∃ e', layout.meaning t = some e' ∧ e'.exact = e.exact := by
  obtain ⟨ts, hshow, hmeaning⟩ := layout.exists_of_shows h rfl
  simp only [membersShow_cons_iff, membersShow_nil_iff, Value.Shows] at hshow
  obtain ⟨t₁, _, rfl, h₁, t₂, _, rfl, h₂, t₃, _, rfl, ⟨y₃, h₃⟩, t₄, _, rfl, ⟨y₄, h₄⟩, t₅, _, rfl,
    ⟨y₅, h₅⟩, t₆, _, rfl, h₆, rfl⟩ := hshow
  refine ⟨⟨e.workload, e.threads, y₃, y₄, y₅, e.total⟩, ?_, rfl⟩
  rw [hmeaning]
  simp only [Layout.ofFields?, layout, List.map_cons, List.map_nil, Json.fillAll, Slot.fill,
    Slot.text, Slot.word32, Slot.word64, Slot.real, h₁, word32?_of_shows h₂, h₃, h₄, h₅,
    word64?_of_shows h₆, Option.map_some, Option.bind_some]
  rfl

/-- The real numbers of a measurement. -/
def reals (e : RunEntry) : List Float := [e.throughput, e.p50, e.p99]

theorem reals_toJson_iff {p : Float → Prop} {e : RunEntry} :
    e.toJson.Reals p ↔ ∀ x ∈ e.reals, p x := by
  simp [toJson, Value.Reals, Value.MemberReals, reals]

end RunEntry

/-! ### Snapshots -/

/-- What a text means as an instant. -/
def instant? (t : Tree) : Option Instant :=
  t.string?.bind fun s => (Instant.ofRfc3339 s.toList).toOption

theorem instant_means : Reader.instant.Means instant? :=
  ((Reader.textAs_means "an RFC 3339 formatted date and time string").verify _).congr fun t => by
    rw [instant?]
    refine Option.bind_congr fun s _ => ?_
    cases Instant.ofRfc3339 s.toList <;> rfl

/-- The slots of a snapshot. -/
def layout : Layout schema where
  slots := [
    ⟨"timestamp", Instant, (·.timestamp), fun d x => { d with timestamp := some x }, .instant,
      instant?, instant_means, fun _ _ => rfl⟩,
    ⟨"metadata", Origin, (·.origin), fun d x => { d with origin := some x }, Origin.schema.reader,
      Origin.layout.meaning, Origin.layout.reader_means, fun _ _ => rfl⟩,
    ⟨"criterion_benchmarks", Keyed (List TimingEntry), (·.timings),
      fun d x => { d with timings := some x }, TimingEntry.schema.reader.list.keyed, _,
      Reader.keyed_means (Reader.list_means TimingEntry.layout.reader_means), fun _ _ => rfl⟩,
    ⟨"concurrent_benchmarks", List RunEntry, (·.runs), fun d x => { d with runs := some x },
      RunEntry.schema.reader.list, _, Reader.list_means RunEntry.layout.reader_means,
      fun _ _ => rfl⟩,
    ⟨"scalability", Keyed (List ScalingPoint), (·.scaling), fun d x => { d with scaling := some x },
      ScalingPoint.schema.reader.list.keyed, _,
      Reader.keyed_means (Reader.list_means ScalingPoint.layout.reader_means), fun _ _ => rfl⟩]
  fields := rfl
  nodup := by decide
  apart := by simp [Slot.Apart]
  start := by simp [schema]
  ext := by
    rintro ⟨⟩ ⟨⟩ h
    simpa using h
  whole := by
    intro d h
    dsimp only [schema]
    refine exists_need_error fun _ h₁ => exists_need_error fun _ h₂ => exists_need_error fun _ h₃ =>
      exists_need_error fun _ h₄ => exists_need_error fun _ h₅ => ?_
    simp [h₁, h₂, h₃, h₄, h₅] at h

/-- Whether a snapshot has all that another has, but for the digits of real numbers. -/
structure Agrees (s s' : Snapshot) : Prop where
  timestamp : s'.timestamp = s.timestamp
  origin : s'.origin = s.origin
  /-- The same reports with as many timings, by the same names. -/
  timings : s'.timings.mapValues (·.map TimingEntry.name)
    = s.timings.mapValues (·.map TimingEntry.name)
  /-- As many measurements, of the same workloads, threads and operations. -/
  runs : s'.runs.map RunEntry.exact = s.runs.map RunEntry.exact
  /-- The same workloads with as many scaling points, of the same threads. -/
  scaling : s'.scaling.mapValues (·.map ScalingPoint.threads)
    = s.scaling.mapValues (·.map ScalingPoint.threads)

theorem exists_of_shows {s : Snapshot}
    (htimestamp : Instant.ofRfc3339 s.timestamp.rfc3339.toList = .ok s.timestamp) {t : Tree}
    (h : s.toJson.Shows t) : ∃ s', layout.meaning t = some s' ∧ s.Agrees s' := by
  obtain ⟨ts, hshow, hmeaning⟩ := layout.exists_of_shows h rfl
  simp only [membersShow_cons_iff, membersShow_nil_iff] at hshow
  obtain ⟨t₁, _, rfl, h₁, t₂, _, rfl, h₂, t₃, _, rfl, h₃, t₄, _, rfl, h₄, t₅, _, rfl, h₅, rfl⟩ :=
    hshow
  have hinstant : instant? t₁ = some s.timestamp := by
    rw [instant?, show t₁.string? = _ from h₁, Option.bind_some, htimestamp]
    rfl
  obtain ⟨timings, htimings, hnames⟩ :=
    Json.exists_keyed_of_shows TimingEntry.exists_of_shows h₃
  obtain ⟨runs, hruns, hexact⟩ := Json.exists_items_of_shows RunEntry.exists_of_shows h₄
  obtain ⟨scaling, hscaling, hthreads⟩ :=
    Json.exists_keyed_of_shows ScalingPoint.exists_of_shows h₅
  refine ⟨⟨s.timestamp, s.origin, timings, runs, scaling⟩, ?_, rfl, rfl, hnames, hexact, hthreads⟩
  rw [hmeaning]
  simp only [Layout.ofFields?, layout, List.map_cons, List.map_nil, Json.fillAll, Slot.fill,
    hinstant, Origin.meaning_of_shows h₂, htimings, hruns, hscaling, Option.map_some,
    Option.bind_some]
  rfl

/-! ### Real numbers -/

/-- The real numbers of a snapshot. -/
def reals (s : Snapshot) : List Float :=
  s.timings.values.flatten.flatMap TimingEntry.reals ++ s.runs.flatMap RunEntry.reals
    ++ s.scaling.values.flatten.flatMap ScalingPoint.reals

theorem reals_keyedLists_iff {α : Type} {p : Float → Prop} {f : α → Value} {m : Keyed (List α)} :
    (keyedLists f m).Reals p ↔ ∀ a ∈ m.values.flatten, (f a).Reals p := by
  rw [keyedLists, Value.Reals, Value.memberReals_map_iff]
  simp only [Value.Reals, Value.itemReals_map_iff, Keyed.values, List.mem_flatten, List.mem_map]
  constructor
  · rintro h a ⟨_, ⟨e, he, rfl⟩, ha⟩
    exact h e he a ha
  · intro h e he a ha
    exact h a ⟨e.2, ⟨e, he, rfl⟩, ha⟩

theorem reals_toJson_iff {p : Float → Prop} {s : Snapshot} :
    s.toJson.Reals p ↔ ∀ x ∈ s.reals, p x := by
  simp only [toJson, Value.Reals, Value.MemberReals, Origin.toJson, reals_keyedLists_iff,
    Value.itemReals_map_iff, TimingEntry.reals_toJson_iff, RunEntry.reals_toJson_iff,
    ScalingPoint.reals_toJson_iff, reals, List.forall_mem_append, List.forall_mem_flatMap, true_and,
    and_true, and_assoc]

/-! ### Reading back -/

/-- **A snapshot is read back from its text**, but for the digits of real numbers. -/
theorem exists_ofText_text {s : Snapshot} (hreals : ∀ x ∈ s.reals, x.isFinite = true)
    (hdate : s.timestamp.date.isValid = true)
    (hyear : 0 ≤ s.timestamp.date.year ∧ s.timestamp.date.year ≤ 9999)
    (hsecond : s.timestamp.second < 86400) (hnanos : s.timestamp.nanos < 1000000000) :
    ∃ s', ofText s.text.toList = .ok s' ∧ s.Agrees s' := by
  obtain ⟨t, htext, hshows⟩ := s.toJson.exists_tree 0
    (reals_toJson_iff.mpr fun x hx => Value.readable_of_isFinite (hreals x hx))
  obtain ⟨s', hmeaning, hagrees⟩ :=
    exists_of_shows (Instant.ofRfc3339_rfc3339 hdate hyear hsecond hnanos) hshows
  refine ⟨s', ?_, hagrees⟩
  have hparse := (layout.reader_means.parse_eq_ok_iff .none t .none).mpr hmeaning
  have hlist : s.text.toList = Json.Blanks.none.chars ++ (t.text ++ Json.Blanks.none.chars) := by
    simp [text, Value.pretty, htext, Json.Blanks.none]
  rw [ofText, hlist]
  exact hparse

/-- A snapshot with an empty map, an empty list, empty and awkward texts, the greatest number and
the least. -/
def awkward : Snapshot where
  timestamp := ⟨⟨2024, 2, 29⟩, 86399, 999999999⟩
  origin := ⟨"", "\"\\\x08", "\x00\n\x7f", 18446744073709551615⟩
  timings := ⟨[("", []), ("\u00b5s 𝄞", [⟨"a/b", 0.1, -0.0, 1e300⟩])], by decide +kernel⟩
  runs := [⟨"\t", 4294967295, 1.7976931348623157e308, 5e-324, 1e-5, 0⟩]
  scaling := .empty

theorem exists_ofText_text_awkward :
    (∀ x ∈ awkward.reals, x.isFinite = true) ∧
      ∃ s', ofText awkward.text.toList = .ok s' ∧ awkward.Agrees s' :=
  have hreals : ∀ x ∈ awkward.reals, x.isFinite = true := by decide +kernel
  ⟨hreals, exists_ofText_text hreals (by decide) (by decide) (by decide) (by decide)⟩

end Snapshot

end BenchReport
