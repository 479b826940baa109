import BenchReport.Proofs.Analysis.FirstLeast
import BenchReport.Proofs.Decimal.Products

/-!
# The scaling of a workload

The runs of a workload ascend by their threads, so its first run has the fewest, and a run with a
single thread stands before all others. Whether the baseline is taken as the first run with a single
thread or as the first of all, it is the same run (`baseline?_eq_head?`): the first to be loaded of
those with the fewest threads. Every point of the scaling has the threads and the throughput of its
run, with what the baseline lets expect of so many threads and how much of it was reached
(`IsPointOf`). A baseline with a single thread is expected to reach what it does reach, to the last
bit, because neither one thread as a divisor nor one as a factor is rounded.
-/

namespace BenchReport.Scaling

/-! ### The baseline -/

/-- The baseline of runs in the order of their threads is the first of them. -/
theorem baseline?_eq_head? {runs : List Measurement}
    (hsorted : runs.Pairwise fun a b => a.threads ≤ b.threads)
    (hthreads : ∀ m ∈ runs, 1 ≤ m.threads) : baseline? runs = runs.head? := by
  cases runs with
  | nil => rfl
  | cons m runs =>
    rw [baseline?, List.head?_cons]
    by_cases hone : m.threads = 1
    · rw [List.find?_cons_of_pos (by simp [hone]), Option.some_or]
    · have hmore : ∀ run ∈ m :: runs, ¬(run.threads == 1) = true := by
        intro run hrun heq
        have hle : m.threads ≤ run.threads := by
          rcases List.mem_cons.mp hrun with rfl | hrun
          · exact UInt32.le_refl _
          · exact (List.pairwise_cons.mp hsorted).1 run hrun
        rw [beq_iff_eq.mp heq] at hle
        exact hone (UInt32.le_antisymm hle (hthreads m List.mem_cons_self))
      rw [List.find?_eq_none.mpr hmore, Option.none_or]

theorem baseline?_byThreads {runs : List Measurement} (hthreads : ∀ m ∈ runs, 1 ≤ m.threads) :
    baseline? (byThreads runs) = (byThreads runs).head? :=
  baseline?_eq_head? (byThreads_ascending runs) fun m hm =>
    hthreads m ((byThreads_perm runs).mem_iff.mp hm)

theorem exists_head?_byThreads {runs : List Measurement} {m : Measurement} (hm : m ∈ runs) :
    ∃ b, (byThreads runs).head? = some b := by
  have hmem : m ∈ byThreads runs := (byThreads_perm runs).mem_iff.mpr hm
  exact Option.isSome_iff_exists.mp (List.isSome_head?.mpr (List.ne_nil_of_mem hmem))

/-- The first of the runs in the order of their threads is the first with the fewest. -/
theorem firstLeast_of_head? {runs : List Measurement} {b : Measurement}
    (h : (byThreads runs).head? = some b) : FirstLeast (·.threads.toNat) b runs := by
  obtain ⟨rest, hrest⟩ := List.head?_eq_some_iff.mp h
  have hfirst : FirstLeast (fun _ => ()) b (byThreads runs) := hrest ▸ FirstLeast.head b rest
  obtain ⟨before, after, rfl, hbefore, hafter⟩ := hfirst.of_arranged (arranged_byThreads runs)
  refine ⟨before, after, rfl, fun m hm => ?_, fun m hm => ?_⟩
  · simpa [Prod.Lex.toLex_lt_toLex] using hbefore m hm
  · simpa [Prod.Lex.toLex_le_toLex] using hafter m hm

/-- If there are runs with a single thread, the first of the runs in the order of their threads is
the first of these. -/
theorem head?_of_find? {runs : List Measurement} (hthreads : ∀ m ∈ runs, 1 ≤ m.threads)
    {m : Measurement} (h : runs.find? (·.threads == 1) = some m) :
    (byThreads runs).head? = some m := by
  obtain ⟨b, hb⟩ := exists_head?_byThreads (List.mem_of_find?_eq_some h)
  have hfirst := firstLeast_of_head? hb
  have hone : m.threads = 1 := by simpa using List.find?_some h
  have hbone : b.threads = 1 := by
    refine UInt32.le_antisymm (UInt32.le_iff_toNat_le.mpr ?_) (hthreads b hfirst.mem)
    rw [← hone]
    exact hfirst.le (List.mem_of_find?_eq_some h)
  obtain ⟨before, after, rfl, hbefore, -⟩ := hfirst
  have hbefore : ∀ run ∈ before, ¬(run.threads == 1) = true := by
    intro run hrun heq
    have hlt : b.threads.toNat < run.threads.toNat := hbefore run hrun
    rw [hbone, beq_iff_eq.mp heq] at hlt
    exact Nat.lt_irrefl _ hlt
  rw [List.find?_append, List.find?_eq_none.mpr hbefore, Option.none_or,
    List.find?_cons_of_pos (by simp [hbone])] at h
  rw [hb, h]

/-! ### Points -/

/-- The point of a run against a baseline. -/
structure IsPointOf (baseline run : Measurement) (p : ScalingPoint) : Prop where
  threads_eq : p.threads = run.threads
  throughput_eq : p.throughput = run.throughput
  expected_eq :
    p.expected = baseline.throughput / baseline.threads.toFloat * run.threads.toFloat
  efficiency_of_pos : 0.0 < p.expected → p.efficiency = run.throughput / p.expected * 100.0
  efficiency_of_not_pos : ¬0.0 < p.expected → p.efficiency = 0.0

theorem isPointOf_point (b m : Measurement) : IsPointOf b m (point (perThread b) m) where
  threads_eq := rfl
  throughput_eq := rfl
  expected_eq := rfl
  efficiency_of_pos h := if_pos h
  efficiency_of_not_pos h := if_neg h

/-- A run with a single thread against itself. -/
theorem IsPointOf.self {m : Measurement} {p : ScalingPoint} (h : IsPointOf m m p)
    (hone : m.threads = 1) (hpos : 0.0 < m.throughput) (hfinite : m.throughput.isFinite = true) :
    p.expected = p.throughput ∧ p.efficiency = 100.0 := by
  have hfloat : (1 : UInt32).toFloat = 1.0 := rfl
  have hexpected : p.expected = m.throughput := by
    rw [h.expected_eq, hone, hfloat, Decimal.div_one, Decimal.mul_one]
  refine ⟨hexpected.trans h.throughput_eq.symm, ?_⟩
  have hnumber := Decimal.isNaN_of_isFinite hfinite
  have hzero := Decimal.beq_zero_eq_false_of_pos hnumber hpos
  rw [h.efficiency_of_pos (hexpected ▸ hpos), hexpected, Decimal.div_self hfinite hzero]
  rfl

/-- The points of the runs of a workload, whose group has them in the order of their threads. -/
structure IsScalingOf (runs members : List Measurement) (points : List ScalingPoint) : Prop where
  arranged : Arranged (·.threads.toNat) runs members
  onePerRun : ∃ b, baseline? members = some b ∧ List.Forall₂ (IsPointOf b) members points
  ascending : points.Pairwise fun p q => p.threads ≤ q.threads
  lastGreatest : ∃ p, points.getLast? = some p ∧ ∀ m ∈ runs, m.threads ≤ p.threads
  firstFull : ∀ m, runs.find? (·.threads == 1) = some m → 0.0 < m.throughput →
    m.throughput.isFinite = true → ∃ p, points.head? = some p ∧
      p.throughput = m.throughput ∧ p.expected = p.throughput ∧ p.efficiency = 100.0

/-- The last of the points in the order of their threads has the most. -/
theorem exists_last {runs : List Measurement} (hne : runs ≠ []) (f : Measurement → ScalingPoint)
    (hf : ∀ m, (f m).threads = m.threads) :
    ∃ p, ((byThreads runs).map f).getLast? = some p ∧ ∀ m ∈ runs, m.threads ≤ p.threads := by
  have hsorted : byThreads runs ≠ [] := fun h =>
    hne (List.perm_nil.mp (h ▸ (byThreads_perm runs).symm))
  obtain ⟨front, last, hlast⟩ := (List.eq_nil_or_concat' (byThreads runs)).resolve_left hsorted
  refine ⟨f last, by rw [hlast, List.map_append, List.map_singleton, List.getLast?_concat], ?_⟩
  intro m hm
  rw [hf]
  have hascending := byThreads_ascending runs
  have hm : m ∈ byThreads runs := (byThreads_perm runs).mem_iff.mpr hm
  rw [hlast, List.pairwise_append] at hascending
  rw [hlast, List.mem_append, List.mem_singleton] at hm
  rcases hm with hm | rfl
  · exact hascending.2.2 m hm last (List.mem_singleton.mpr rfl)
  · exact UInt32.le_refl _

theorem isScalingOf_of_points? {runs : List Measurement} (hthreads : ∀ m ∈ runs, 1 ≤ m.threads)
    {points : List ScalingPoint} (h : points? (byThreads runs) = some points) :
    IsScalingOf runs (byThreads runs) points := by
  obtain ⟨hlong, b, hb, rfl⟩ := points?_eq_some_iff.mp h
  have hne : runs ≠ [] := by
    rintro rfl
    rw [(byThreads_perm []).length_eq] at hlong
    exact absurd hlong (by decide)
  refine ⟨arranged_byThreads runs, ⟨b, hb, ?_⟩, ?_, exists_last hne _ fun _ => rfl,
    fun m hm hpos hfinite => ?_⟩
  · rw [List.forall₂_map_right_iff]
    exact List.forall₂_same.mpr fun m _ => isPointOf_point b m
  · exact (byThreads_ascending runs).map _ fun _ _ hle => hle
  · have hhead := head?_of_find? hthreads hm
    rw [baseline?_byThreads hthreads, hhead, Option.some.injEq] at hb
    subst hb
    refine ⟨point (perThread m) m, by rw [List.head?_map, hhead, Option.map_some], rfl, ?_⟩
    exact (isPointOf_point m m).self (by simpa using List.find?_some hm) hpos hfinite

/-! ### Workloads -/

/-- The workloads with a scaling are those with two runs or more, in the order in which they were
met. -/
theorem map_workload_byWorkload (ms : List Measurement) :
    (ofGroups (byWorkload ms)).map (·.workload)
      = (workloadsOf ms).filter fun key => 2 ≤ (runsOf key ms).length := by
  rw [map_workload_ofGroups, groups_byWorkload, List.filter_map, List.map_map]
  refine (List.map_id _).trans (List.filter_congr fun key _ => ?_)
  rw [Function.comp_apply, (byThreads_perm _).length_eq]

/-- The workloads stand in the order in which they were met. -/
theorem workloadsOf_pairwise (ms : List Measurement) : (workloadsOf ms).Pairwise fun a b =>
    (ms.map Measurement.key).idxOf a < (ms.map Measurement.key).idxOf b := by
  have hmet := Grouping.metKeys_pairwise (Grouping.stepsBy Measurement.key ms)
  rwa [Grouping.map_fst_stepsBy] at hmet

/-- **The scaling of runs.** Let all runs have a thread. There is a scaling of each workload with
two runs or more and of no other, in the order in which the workloads were met. The baseline of
each workload is the first run of its group: the first to be loaded of those with the fewest
threads. The points of a workload are those of its runs against this baseline, in the order of
their threads, so that the last point has the most; and if the first run with a single thread has a
positive and finite throughput, the first point is that of this run and is expected to reach what it
reaches, with an efficiency of 100. -/
theorem scaling_by_first_run (ms : List Measurement) (hthreads : ∀ m ∈ ms, 1 ≤ m.threads) :
    (ofGroups (byWorkload ms)).map (·.workload)
      = (workloadsOf ms).filter (fun key => 2 ≤ (runsOf key ms).length) ∧
    (workloadsOf ms).Pairwise (fun a b =>
      (ms.map Measurement.key).idxOf a < (ms.map Measurement.key).idxOf b) ∧
    (∀ key, key ∈ workloadsOf ms ↔ ∃ m ∈ ms, m.key = key) ∧
    (∀ g ∈ (byWorkload ms).groups, ∃ b, baseline? g.members = some b ∧
      g.members.head? = some b ∧ FirstLeast (·.threads.toNat) b (runsOf g.key ms)) ∧
    ∀ w ∈ ofGroups (byWorkload ms), ∃ members, (byWorkload ms).get? w.workload = some members ∧
      IsScalingOf (runsOf w.workload ms) members w.points := by
  have hruns (key : String) : ∀ m ∈ runsOf key ms, 1 ≤ m.threads := fun m hm =>
    hthreads m (mem_runsOf.mp hm).1
  refine ⟨map_workload_byWorkload ms, workloadsOf_pairwise ms, fun _ => mem_workloadsOf,
    fun g hg => ?_, fun w hw => ?_⟩
  · rw [groups_byWorkload, List.mem_map] at hg
    obtain ⟨key, hkey, rfl⟩ := hg
    obtain ⟨m, hm, hmkey⟩ := mem_workloadsOf.mp hkey
    obtain ⟨b, hb⟩ := exists_head?_byThreads (mem_runsOf.mpr ⟨hm, hmkey⟩)
    exact ⟨b, (baseline?_byThreads (hruns key)).trans hb, hb, firstLeast_of_head? hb⟩
  · obtain ⟨g, hg, hkey, hpoints⟩ := workload_mem_scaling.mp hw
    rw [groups_byWorkload, List.mem_map] at hg
    obtain ⟨key, hmet, rfl⟩ := hg
    obtain rfl : key = w.workload := hkey
    refine ⟨_, ?_, isScalingOf_of_points? (hruns _) hpoints⟩
    rw [get?_byWorkload, if_pos (List.mem_map.mpr (mem_workloadsOf.mp hmet))]

/-- Of three workloads one has a scaling. Its runs with a single thread came after one with eight,
and the first of the two is the baseline. -/
theorem scaling_by_first_run_mixed :
    let ms := [plainRun "Read" 8 5000, plainRun "write" 2 700, plainRun "READ" 1 900,
      plainRun "read" 1 1000, plainRun "mixed" 4 10]
    (∀ m ∈ ms, 1 ≤ m.threads) ∧ (ofGroups (byWorkload ms)).map (·.workload) = ["read"] ∧
    ∃ w ∈ ofGroups (byWorkload ms),
      (∃ p, w.points.head? = some p ∧ p.throughput = 900 ∧ p.expected = 900 ∧
        p.efficiency = 100) ∧
      ∃ p, w.points.getLast? = some p ∧ 8 ≤ p.threads := by
  intro ms
  have hthreads : ∀ m ∈ ms, 1 ≤ m.threads := by decide
  obtain ⟨hworkloads, -, -, -, hscaling⟩ := scaling_by_first_run ms hthreads
  have hread : (ofGroups (byWorkload ms)).map (·.workload) = ["read"] :=
    hworkloads.trans (by decide +kernel)
  obtain ⟨w, hw, hkey⟩ : ∃ w ∈ ofGroups (byWorkload ms), w.workload = "read" :=
    List.mem_map.mp (hread ▸ List.mem_singleton.mpr rfl)
  obtain ⟨members, -, h⟩ := hscaling w hw
  rw [hkey] at h
  have hkeys : ms.map Measurement.key = ["read", "write", "read", "read", "mixed"] := by
    decide +kernel
  simp only [ms, List.map_cons, List.map_nil, List.cons.injEq, and_true] at hkeys
  obtain ⟨h₁, h₂, h₃, h₄, h₅⟩ := hkeys
  have hruns : runsOf "read" ms
      = [plainRun "Read" 8 5000, plainRun "READ" 1 900, plainRun "read" 1 1000] := by
    simp [ms, runsOf, h₁, h₂, h₃, h₄, h₅]
  rw [hruns] at h
  obtain ⟨first, hfirst, hthroughput, hexpected, hefficiency⟩ :=
    h.firstFull (plainRun "READ" 1 900) rfl (by decide +kernel) (by decide +kernel)
  obtain ⟨last, hlast, hgreatest⟩ := h.lastGreatest
  refine ⟨hthreads, hread, w, hw, ⟨first, hfirst, ?_, ?_, ?_⟩, last, hlast, ?_⟩
  · exact hthroughput
  · exact hexpected.trans hthroughput
  · exact hefficiency.trans (by decide +kernel)
  · exact hgreatest _ List.mem_cons_self

end BenchReport.Scaling
