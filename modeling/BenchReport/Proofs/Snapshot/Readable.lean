import BenchReport.Proofs.Json.Unread
import BenchReport.Proofs.Measurement.Finite
import BenchReport.Proofs.Report.Accounts
import BenchReport.Proofs.Snapshot.Text
import BenchReport.Timing.Scanner

/-!
# Which snapshots can be read

The text of a snapshot that was taken in the years 0 to 9999 can be read exactly if the real numbers
of the snapshot are finite (`Snapshot.exists_ofText_text_iff`); leap seconds do no harm.

The measurements that were read from texts have finite numbers only, so in the snapshot of what was
read from texts there are two places for others: a timing with too many digits or too great after it
was converted to microseconds, and the scaling of a workload, of which the expectation or the
efficiency gets too large (`Snapshot.composed_readable_iff`).
-/

namespace BenchReport

open Json (Tree Value)

/-! ### Records with numbers that are not finite -/

theorem ScalingPoint.onlyFinite (p : ScalingPoint) : p.toJson.OnlyFinite layout.meaning :=
  layout.onlyFinite rfl <| .cons (Value.onlyFinite_natural _ _) <|
    .cons (Value.onlyFinite_real _) <| .cons (Value.onlyFinite_real _) <|
    .cons (Value.onlyFinite_real _) .nil

theorem Origin.onlyFinite (o : Origin) : o.toJson.OnlyFinite layout.meaning :=
  fun _ _ _ => ⟨trivial, trivial, trivial, trivial, trivial⟩

namespace Snapshot

theorem TimingEntry.onlyFinite (e : TimingEntry) : e.toJson.OnlyFinite layout.meaning :=
  layout.onlyFinite rfl <| .cons (Value.onlyFinite_text _ _) <|
    .cons (Value.onlyFinite_real _) <| .cons (Value.onlyFinite_real _) <|
    .cons (Value.onlyFinite_real _) .nil

theorem RunEntry.onlyFinite (e : RunEntry) : e.toJson.OnlyFinite layout.meaning :=
  layout.onlyFinite rfl <| .cons (Value.onlyFinite_text _ _) <|
    .cons (Value.onlyFinite_natural _ _) <| .cons (Value.onlyFinite_real _) <|
    .cons (Value.onlyFinite_real _) <| .cons (Value.onlyFinite_real _) <|
    .cons (Value.onlyFinite_natural _ _) .nil

theorem onlyFinite (s : Snapshot) : s.toJson.OnlyFinite layout.meaning :=
  layout.onlyFinite rfl <| .cons (Value.onlyFinite_text _ _) <|
    .cons s.origin.onlyFinite <|
    .cons (Value.onlyFinite_keyed fun _ _ => Value.onlyFinite_list fun e _ => e.onlyFinite) <|
    .cons (Value.onlyFinite_list fun e _ => e.onlyFinite) <|
    .cons (Value.onlyFinite_keyed fun _ _ => Value.onlyFinite_list fun p _ => p.onlyFinite) .nil

/-! ### Reading -/

/-- A snapshot is read from a text of its value as what the value means. -/
theorem ofText_text_eq_ok_iff {s s' : Snapshot} {t : Tree} (h : t.text = s.toJson.print 0) :
    ofText s.text.toList = .ok s' ↔ layout.meaning t = some s' := by
  have hlist : s.text.toList = Json.Blanks.none.chars ++ (t.text ++ Json.Blanks.none.chars) := by
    simp [text, Value.pretty, h, Json.Blanks.none]
  rw [ofText, hlist]
  exact layout.reader_means.parse_eq_ok_iff .none t .none

/-- A snapshot is read with the instant that the text of its own names. -/
theorem exists_of_shows_settled {s : Snapshot} (hdate : s.timestamp.date.isValid = true)
    (hyear : 0 ≤ s.timestamp.date.year ∧ s.timestamp.date.year ≤ 9999)
    (hsecond : s.timestamp.second < 86400) (hnanos : s.timestamp.nanos < 2000000000) {t : Tree}
    (h : s.toJson.Shows t) : ∃ s', layout.meaning t = some s' := by
  have hinstant := Instant.ofRfc3339_settled hdate hyear hsecond hnanos
  have hrfc3339 := Instant.rfc3339_settled hnanos
  obtain ⟨timestamp, origin, timings, runs, scaling⟩ := s
  dsimp only at hinstant hrfc3339
  generalize timestamp.settled = settled at hinstant hrfc3339
  rw [toJson] at h
  dsimp only at h
  rw [← hrfc3339] at h
  obtain ⟨s', hmeaning, -⟩ :=
    exists_of_shows (s := ⟨settled, origin, timings, runs, scaling⟩) hinstant h
  exact ⟨s', hmeaning⟩

/-- **A snapshot can be read exactly if its real numbers are finite.** -/
theorem exists_ofText_text_iff {s : Snapshot} (hdate : s.timestamp.date.isValid = true)
    (hyear : 0 ≤ s.timestamp.date.year ∧ s.timestamp.date.year ≤ 9999)
    (hsecond : s.timestamp.second < 86400) (hnanos : s.timestamp.nanos < 2000000000) :
    (∃ s', ofText s.text.toList = .ok s') ↔ ∀ x ∈ s.reals, x.isFinite = true := by
  constructor
  · rintro ⟨s', hread⟩
    rw [ofText_text_eq_ok_iff (s.toJson.text_tree 0)] at hread
    exact reals_toJson_iff.mp (s.onlyFinite 0 s' hread)
  · intro hreals
    obtain ⟨t, htext, hshows⟩ := s.toJson.exists_tree 0
      (reals_toJson_iff.mpr fun x hx => Value.readable_of_isFinite (hreals x hx))
    obtain ⟨s', hmeaning⟩ := exists_of_shows_settled hdate hyear hsecond hnanos hshows
    exact ⟨s', (ofText_text_eq_ok_iff htext).mpr hmeaning⟩

/-! ### Composed snapshots -/

section Composed

variable {r : Records}

theorem mem_scaling_composed (origin : Origin) (generated : Instant) {point : ScalingPoint} :
    point ∈ (Composed.ofRecords r origin generated).snapshot.scaling.values.flatten ↔
      ∃ w ∈ (Analysis.ofRecords r).scaling, point ∈ w.points := by
  have hvalues (points : List ScalingPoint) :
      points ∈ (Composed.ofRecords r origin generated).snapshot.scaling.values ↔
        ∃ w ∈ (Analysis.ofRecords r).scaling, w.points = points := by
    refine (Keyed.mem_values_ofList (nodup_scaling r.measurements)).trans ?_
    rw [List.map_map, List.mem_map]
    rfl
  simp only [List.mem_flatten, hvalues]
  constructor
  · rintro ⟨_, ⟨w, hw, rfl⟩, hpoint⟩
    exact ⟨w, hw, hpoint⟩
  · rintro ⟨w, hw, hpoint⟩
    exact ⟨_, ⟨w, hw, rfl⟩, hpoint⟩

/-- The real numbers of a composed snapshot are those of the timings, of the measurements and of
their scaling. -/
theorem forall_mem_reals_iff {p : Float → Prop} (origin : Origin) (generated : Instant) :
    (∀ x ∈ (Composed.ofRecords r origin generated).snapshot.reals, p x) ↔
      (∀ t ∈ r.allTimings, p t.low ∧ p t.mid ∧ p t.high) ∧
      (∀ m ∈ r.measurements, p m.throughput ∧ p m.latencies.p50 ∧ p m.latencies.p99) ∧
      ∀ w ∈ (Analysis.ofRecords r).scaling, ∀ point ∈ w.points,
        p point.throughput ∧ p point.expected ∧ p point.efficiency := by
  have hruns : (Composed.ofRecords r origin generated).snapshot.runs
      = r.measurements.map RunEntry.ofMeasurement := rfl
  simp only [reals, List.forall_mem_append, List.forall_mem_flatMap, timings_composed, hruns,
    mem_scaling_composed, List.forall_mem_map, and_assoc]
  refine and_congr ?_ (and_congr ?_ ?_)
  · refine forall₂_congr fun t _ => ?_
    simp only [TimingEntry.ofTiming, TimingEntry.reals, List.forall_mem_cons, List.not_mem_nil,
      false_implies, implies_true, and_true]
    exact and_left_comm
  · simp [RunEntry.ofMeasurement, RunEntry.reals]
  · constructor
    · intro h w hw point hpoint
      simpa [ScalingPoint.reals] using h point ⟨w, hw, hpoint⟩
    · rintro h point ⟨w, hw, hpoint⟩
      simpa [ScalingPoint.reals] using h w hw point hpoint

theorem exists_ofText_composed_iff (origin : Origin) {generated : Instant}
    (hdate : generated.date.isValid = true)
    (hyear : 0 ≤ generated.date.year ∧ generated.date.year ≤ 9999)
    (hsecond : generated.second < 86400) (hnanos : generated.nanos < 2000000000) :
    (∃ s, ofText (Composed.ofRecords r origin generated).snapshot.text.toList = .ok s) ↔
      ∀ x ∈ (Composed.ofRecords r origin generated).snapshot.reals, x.isFinite = true := by
  have htimestamp : (Composed.ofRecords r origin generated).snapshot.timestamp = generated := rfl
  exact exists_ofText_text_iff (htimestamp ▸ hdate) (htimestamp ▸ hyear) (htimestamp ▸ hsecond)
    (htimestamp ▸ hnanos)

/-- The throughput of a scaling point is that of a measurement. -/
theorem exists_throughput_eq {w : WorkloadScaling} (hw : w ∈ (Analysis.ofRecords r).scaling)
    {point : ScalingPoint} (hpoint : point ∈ w.points) :
    ∃ m ∈ r.measurements, point.throughput = m.throughput := by
  have hscaling : w ∈ Scaling.ofGroups (byWorkload r.measurements) := hw
  obtain ⟨b, -, m, hm, rfl⟩ := Scaling.exists_point_eq hscaling hpoint
  exact ⟨m, hm, rfl⟩

end Composed

/-- **Which composed snapshots can be read.** Let the timings be those of some reports with distinct
names, and the measurements those of some texts, all of which are measurements. A snapshot that is
composed of these at any instant of the years 0 to 9999 can be read from its text exactly if the
times of all timings are finite and so are the expectation and the efficiency of every run in the
scaling. -/
theorem composed_readable_iff {reports : List (String × List Char)}
    (hnames : (reports.map Prod.fst).Nodup) {texts : List (List Char)} {ms : List Measurement}
    (htexts : texts.map Measurement.ofText = ms.map .ok) (origin : Origin) {generated : Instant}
    (hdate : generated.date.isValid = true)
    (hyear : 0 ≤ generated.date.year ∧ generated.date.year ≤ 9999)
    (hsecond : generated.second < 86400) (hnanos : generated.nanos < 2000000000) :
    let r : Records := ⟨.ofList (reports.map fun f => (f.1, Timing.ofText f.2)), ms⟩
    (∃ s, ofText (Composed.ofRecords r origin generated).snapshot.text.toList = .ok s) ↔
      (∀ f ∈ reports, ∀ t ∈ Timing.ofText f.2,
        t.low.isFinite = true ∧ t.mid.isFinite = true ∧ t.high.isFinite = true) ∧
      ∀ w ∈ (Analysis.ofRecords r).scaling, ∀ point ∈ w.points,
        point.expected.isFinite = true ∧ point.efficiency.isFinite = true := by
  intro r
  rw [exists_ofText_composed_iff origin hdate hyear hsecond hnanos, forall_mem_reals_iff]
  have hentries : ((reports.map fun f => (f.1, Timing.ofText f.2)).map Prod.fst).Nodup := by
    rw [List.map_map]
    exact hnames
  have htimings (t : Timing) : t ∈ r.allTimings ↔ ∃ f ∈ reports, t ∈ Timing.ofText f.2 := by
    simp [r, Records.allTimings, List.mem_flatten, Keyed.mem_values_ofList hentries]
  have hfinite : ∀ m ∈ r.measurements, ∀ x ∈ m.reals, x.isFinite = true := by
    intro m hm
    obtain ⟨text, htext⟩ := Measurement.exists_text htexts hm
    exact Measurement.isFinite_of_ofText htext
  constructor
  · rintro ⟨htimes, -, hscaling⟩
    exact ⟨fun f hf t ht => htimes t ((htimings t).mpr ⟨f, hf, ht⟩),
      fun w hw point hpoint => (hscaling w hw point hpoint).2⟩
  · rintro ⟨htimes, hscaling⟩
    refine ⟨fun t ht => ?_, fun m hm => ?_, fun w hw point hpoint => ?_⟩
    · obtain ⟨f, hf, htf⟩ := (htimings t).mp ht
      exact htimes f hf t htf
    · have hreals := hfinite m hm
      simp only [Measurement.reals, Latencies.reals, List.forall_mem_cons] at hreals
      exact ⟨hreals.1, hreals.2.2.2.2.1, hreals.2.2.2.2.2.2.1⟩
    · obtain ⟨m, hm, hthroughput⟩ := exists_throughput_eq hw hpoint
      have hpointFinite := hfinite m hm _ List.mem_cons_self
      rw [← hthroughput] at hpointFinite
      exact ⟨hpointFinite, hscaling w hw point hpoint⟩

/-! ### Two runs -/

/-- The scaling of two runs of one workload in the order of their threads. -/
theorem scaling_pair {timings : Keyed (List Timing)} {a b : Measurement} (hkey : b.key = a.key)
    (hthreads : a.threads ≤ b.threads) :
    (Analysis.ofRecords ⟨timings, [a, b]⟩).scaling
      = ((Scaling.points? [a, b]).map fun points => ⟨a.key, points⟩).toList := by
  have hworkloads : workloadsOf [a, b] = [a.key] := by
    simp [workloadsOf, Grouping.metKeys, Grouping.stepsBy, hkey, List.eraseDups_cons]
  have hruns : runsOf a.key [a, b] = [a, b] := by simp [runsOf, hkey]
  have hsorted : byThreads [a, b] = [a, b] :=
    List.mergeSort_of_pairwise (by simpa using fewerThreads_iff.mpr hthreads)
  have hgroups : (byWorkload [a, b]).groups = [⟨a.key, [a, b]⟩] := by
    rw [groups_byWorkload, hworkloads, List.map_singleton, hruns, hsorted]
  change Scaling.ofGroups (byWorkload [a, b]) = _
  rw [Scaling.ofGroups, hgroups]
  cases h : Scaling.points? [a, b] <;> simp [h]

/-- Whether the expectations and the efficiencies of two runs are finite. -/
def finitePair (a b : Measurement) : Bool :=
  ((Scaling.points? [a, b]).getD []).all fun p => p.expected.isFinite && p.efficiency.isFinite

theorem finitePair_iff {timings : Keyed (List Timing)} {a b : Measurement} (hkey : b.key = a.key)
    (hthreads : a.threads ≤ b.threads) :
    finitePair a b = true ↔ ∀ w ∈ (Analysis.ofRecords ⟨timings, [a, b]⟩).scaling,
      ∀ point ∈ w.points, point.expected.isFinite = true ∧ point.efficiency.isFinite = true := by
  rw [scaling_pair hkey hthreads, finitePair]
  cases Scaling.points? [a, b] <;> simp

/-- The texts of two runs of one workload, with one thread and with two. A measurement may be
written as the list of its values. -/
def pairTexts (throughput : String) : List (List Char) :=
  ["1", "2"].map fun threads =>
    ("[\"read\", " ++ threads ++ ", 1, 1, 1, 0, " ++ throughput ++ ", [1, 1, 1, 1, 1, 1]]").toList

/-- The measurements of the two texts, if they are what they should be, with a property. -/
def pairWith (throughput : String) (p : Measurement → Measurement → Bool) : Bool :=
  match (pairTexts throughput).map Measurement.ofText with
  | [.ok a, .ok b] => b.key == a.key && decide (a.threads ≤ b.threads) && p a b
  | _ => false

theorem exists_of_pairWith {throughput : String} {p : Measurement → Measurement → Bool}
    (h : pairWith throughput p = true) : ∃ a b, (pairTexts throughput).map Measurement.ofText
      = [a, b].map .ok ∧ b.key = a.key ∧ a.threads ≤ b.threads ∧ p a b = true := by
  unfold pairWith at h
  split at h
  · next a b heq =>
    simp only [Bool.and_eq_true, beq_iff_eq, decide_eq_true_eq] at h
    exact ⟨a, b, heq, h.1.1, h.1.2, h.2⟩
  · cases h

/-- The snapshot of a timing and two ordinary runs, composed in a leap second, can be read. -/
theorem composed_readable_iff_ordinary :
    let reports := [("a.txt", "a/b  time: [1.5 ns 2 \u00b5s 3 ms]".toList)]
    ∃ ms, (pairTexts "100.5").map Measurement.ofText = ms.map .ok ∧
      ∃ s, ofText (Composed.ofRecords
        ⟨.ofList (reports.map fun f => (f.1, Timing.ofText f.2)), ms⟩
        ⟨"0.1.0", "linux", "x86_64", 8⟩
        ⟨⟨2016, 12, 31⟩, 86399, 1500000000⟩).snapshot.text.toList = .ok s := by
  intro reports
  have hpair : pairWith "100.5" finitePair = true := by decide +kernel
  obtain ⟨a, b, htexts, hkey, hthreads, hfinite⟩ := exists_of_pairWith hpair
  have htimings : ∀ f ∈ reports, ∀ t ∈ Timing.ofText f.2,
      t.low.isFinite = true ∧ t.mid.isFinite = true ∧ t.high.isFinite = true := by decide +kernel
  refine ⟨[a, b], htexts, ?_⟩
  exact (composed_readable_iff (by decide) htexts _ (by decide) (by decide) (by decide)
    (by decide)).mpr ⟨htimings, (finitePair_iff hkey hthreads).mp hfinite⟩

/-- With twice as many threads as a run with a throughput of `1e308`, a run is expected to reach
more than the greatest number, and the snapshot cannot be read. -/
theorem not_readable_of_great_throughput :
    ∃ ms, (pairTexts "1e308").map Measurement.ofText = ms.map .ok ∧
      ∀ s, ofText (Composed.ofRecords ⟨.ofList [], ms⟩ ⟨"0.1.0", "linux", "x86_64", 8⟩
        ⟨⟨1970, 1, 1⟩, 0, 0⟩).snapshot.text.toList ≠ .ok s := by
  have hpair : pairWith "1e308" (fun a b => !finitePair a b) = true := by decide +kernel
  obtain ⟨a, b, htexts, hkey, hthreads, hgreat⟩ := exists_of_pairWith hpair
  refine ⟨[a, b], htexts, fun s hread => ?_⟩
  have hreals := (exists_ofText_composed_iff _ (by decide) (by decide) (by decide)
    (by decide)).mp ⟨s, hread⟩
  obtain ⟨-, -, hscaling⟩ := (forall_mem_reals_iff _ _).mp hreals
  have hfinite : finitePair a b = true :=
    (finitePair_iff hkey hthreads).mpr fun w hw point hpoint => (hscaling w hw point hpoint).2
  rw [hfinite] at hgreat
  cases hgreat

end Snapshot

end BenchReport
