import BenchReport.Proofs.Analysis.FirstLeast
import BenchReport.Proofs.Decimal.Order
import BenchReport.Report

/-!
# The peak of a workload

The runs of a workload are gone through in the order of their threads, and a run takes the place of
the best so far if its throughput is greater. So the peak is a run of the greatest throughput, of
these one with the fewest threads, and of these the first that was loaded (`peak?_greatest`). The
first two do not depend on the order of loading, so a report shows the same peak for any order.
-/

namespace BenchReport.Analysis

open Decimal (rank lt_iff_rank_lt le_iff_rank_le beq_iff_rank_eq)

variable {r : Records} {workload : String}

/-- A workload has a peak unless it has no runs. -/
theorem peak?_eq_none_iff :
    (ofRecords r).peak? workload = none ↔ ∀ m ∈ r.measurements, m.key ≠ workload := by
  have hgroup : (ofRecords r).workloads.get? workload = _ := get?_byWorkload r.measurements workload
  rw [peak?, hgroup]
  by_cases hmem : workload ∈ r.measurements.map Measurement.key
  · obtain ⟨m, hm, hkey⟩ := List.mem_map.mp hmem
    rw [if_pos hmem, Option.bind_some, best?_eq_none_iff]
    constructor
    · intro hnil
      have hmem : m ∈ byThreads (runsOf workload r.measurements) :=
        (byThreads_perm _).mem_iff.mpr (mem_runsOf.mpr ⟨hm, hkey⟩)
      simp [hnil] at hmem
    · intro hnone
      exact absurd hkey (hnone m hm)
  · rw [if_neg hmem, Option.bind_none]
    simp only [true_iff]
    exact fun m hm hkey => hmem (List.mem_map.mpr ⟨m, hm, hkey⟩)

/-- The peak is the best of the runs of its workload in the order of their threads. -/
theorem best?_of_peak?_eq_some {m : Measurement} (h : (ofRecords r).peak? workload = some m) :
    best? (fun run best => best.throughput < run.throughput)
      (byThreads (runsOf workload r.measurements)) = some m := by
  have hgroup : (ofRecords r).workloads.get? workload = _ := get?_byWorkload r.measurements workload
  rw [peak?, hgroup] at h
  split at h
  · exact h
  · cases h

/-- The peak is the first run of its workload with the greatest throughput and, of these, with the
fewest threads. -/
theorem peak?_firstLeast (hnumbers : ∀ m ∈ r.measurements, m.throughput.isNaN = false)
    {m : Measurement} (h : (ofRecords r).peak? workload = some m) :
    FirstLeast (fun run : Measurement => toLex (-rank run.throughput, run.threads.toNat)) m
      (runsOf workload r.measurements) := by
  suffices hfirst : FirstLeast (fun run : Measurement => -rank run.throughput) m
      (byThreads (runsOf workload r.measurements)) from hfirst.of_arranged (arranged_byThreads _)
  have hnumber : ∀ run ∈ byThreads (runsOf workload r.measurements),
      run.throughput.isNaN = false := fun run hrun =>
    hnumbers run (mem_runsOf.mp ((byThreads_perm _).mem_iff.mp hrun)).1
  refine firstLeast_of_best?_eq_some (best?_of_peak?_eq_some h) fun b hb c hc => ?_
  rw [decide_eq_true_iff, lt_iff_rank_lt (hnumber c hc) (hnumber b hb), neg_lt_neg_iff]

/-! ### What the peak is -/

/-- A run that is the peak of a workload among some runs: none has a greater throughput, none of
the same throughput has fewer threads, and none that is alike in both was loaded before it. -/
structure IsPeak (ms : List Measurement) (workload : String) (m : Measurement) : Prop where
  mem : m ∈ ms
  key_eq : m.key = workload
  greatest : ∀ run ∈ ms, run.key = workload → run.throughput ≤ m.throughput
  fewest : ∀ run ∈ ms, run.key = workload → (run.throughput == m.throughput) = true →
    m.threads ≤ run.threads
  first : ∃ before after, ms = before ++ m :: after ∧ ∀ run ∈ before, run.key = workload →
    (run.throughput == m.throughput) = true → run.threads ≠ m.threads

theorem isPeak_of_peak?_eq_some (hnumbers : ∀ m ∈ r.measurements, m.throughput.isNaN = false)
    {m : Measurement} (h : (ofRecords r).peak? workload = some m) :
    IsPeak r.measurements workload m := by
  have hfirst := peak?_firstLeast hnumbers h
  obtain ⟨hmem, hkey⟩ := mem_runsOf.mp hfirst.mem
  have hnumber := hnumbers m hmem
  -- a run of the same throughput is not before the peak unless it has more threads
  have hle {run : Measurement} (hrun : run ∈ r.measurements) (hworkload : run.key = workload) :
      rank run.throughput < rank m.throughput ∨
        rank run.throughput = rank m.throughput ∧ m.threads.toNat ≤ run.threads.toNat := by
    have hle := hfirst.le (mem_runsOf.mpr ⟨hrun, hworkload⟩)
    rw [Prod.Lex.toLex_le_toLex] at hle
    dsimp only at hle
    omega
  refine ⟨hmem, hkey, fun run hrun hworkload => ?_, fun run hrun hworkload hequal => ?_, ?_⟩
  · rw [le_iff_rank_le (hnumbers run hrun) hnumber]
    rcases hle hrun hworkload with hlt | ⟨heq, -⟩
    · exact hlt.le
    · exact heq.le
  · rw [beq_iff_rank_eq (hnumbers run hrun) hnumber] at hequal
    rcases hle hrun hworkload with hlt | ⟨-, hthreads⟩
    · exact absurd hequal hlt.ne
    · exact UInt32.le_iff_toNat_le.mpr hthreads
  · obtain ⟨before, after, hsplit, hbefore⟩ := hfirst.exists_split
    refine ⟨before, after, hsplit, fun run hrun hworkload hequal hthreads => ?_⟩
    have hmem : run ∈ r.measurements := hsplit ▸ List.mem_append_left _ hrun
    rw [beq_iff_rank_eq (hnumbers run hmem) hnumber] at hequal
    have hlt := hbefore run hrun (by simpa using hworkload)
    rw [Prod.Lex.toLex_lt_toLex, hequal, hthreads] at hlt
    dsimp only at hlt
    omega

/-! ### Other orders of loading -/

/-- The peaks of the same runs in two orders are alike in throughput and threads. -/
theorem IsPeak.alike {ms ms' : List Measurement} (hperm : ms'.Perm ms)
    (hnumbers : ∀ m ∈ ms, m.throughput.isNaN = false) {m m' : Measurement}
    (h : IsPeak ms workload m) (h' : IsPeak ms' workload m') :
    (m.throughput == m'.throughput) = true ∧ m.threads = m'.threads := by
  have hmem' : m' ∈ ms := hperm.mem_iff.mp h'.mem
  have hmem : m ∈ ms' := hperm.mem_iff.mpr h.mem
  have hm := hnumbers m h.mem
  have hm' := hnumbers m' hmem'
  have hrank : rank m.throughput = rank m'.throughput :=
    le_antisymm ((le_iff_rank_le hm hm').mp (h'.greatest m hmem h.key_eq))
      ((le_iff_rank_le hm' hm).mp (h.greatest m' hmem' h'.key_eq))
  have hequal := (beq_iff_rank_eq hm hm').mpr hrank
  have hequal' := (beq_iff_rank_eq hm' hm).mpr hrank.symm
  exact ⟨hequal, UInt32.le_antisymm (h.fewest m' hmem' h'.key_eq hequal')
    (h'.fewest m hmem h.key_eq hequal)⟩

/-- Equal numbers are the same unless they are zeros. -/
theorem eq_of_beq {x y : Float} (h : (x == y) = true) (hzero : (x == 0.0) = false) : x = y := by
  obtain ⟨-, -, rfl | ⟨rfl, -⟩ | ⟨rfl, -⟩⟩ := Float.beq_iff_ne_nan_and_eq.mp h
  · rfl
  · cases hzero
  · cases hzero

/-- **The peak of a workload.** A workload has a peak unless it has no runs. The peak is a run of
the workload with the greatest throughput, with the fewest threads of those with this throughput,
and the first to be loaded of those that are alike in both. If the runs are loaded in another order,
the peak has an equal throughput and as many threads, and unless its throughput is zero, which has
two signs, the lines of the report about it are the same. -/
theorem peak?_greatest (r : Records) (workload : String)
    (hnumbers : ∀ m ∈ r.measurements, m.throughput.isNaN = false) :
    ((ofRecords r).peak? workload = none ↔ ∀ m ∈ r.measurements, m.key ≠ workload) ∧
    (∀ m, (ofRecords r).peak? workload = some m → IsPeak r.measurements workload m) ∧
    ∀ r' : Records, r'.measurements.Perm r.measurements →
      Option.Rel
        (fun m m' => (m.throughput == m'.throughput) = true ∧ m.threads = m'.threads)
        ((ofRecords r).peak? workload) ((ofRecords r').peak? workload) ∧
      ((∀ m, (ofRecords r).peak? workload = some m → (m.throughput == 0.0) = false) →
        (∀ name, Report.peakItem name ((ofRecords r).peak? workload)
          = Report.peakItem name ((ofRecords r').peak? workload)) ∧
        Report.peakFinding workload ((ofRecords r).peak? workload)
          = Report.peakFinding workload ((ofRecords r').peak? workload)) := by
  refine ⟨peak?_eq_none_iff, fun m => isPeak_of_peak?_eq_some hnumbers, fun r' hperm => ?_⟩
  have hnumbers' : ∀ m ∈ r'.measurements, m.throughput.isNaN = false :=
    fun m hm => hnumbers m (hperm.mem_iff.mp hm)
  have hnone : (ofRecords r).peak? workload = none ↔ (ofRecords r').peak? workload = none := by
    simp only [peak?_eq_none_iff, hperm.mem_iff]
  cases h : (ofRecords r).peak? workload with
  | none =>
    rw [hnone.mp h]
    exact ⟨.none, fun _ => ⟨fun _ => rfl, rfl⟩⟩
  | some m =>
    cases h' : (ofRecords r').peak? workload with
    | none => cases h.symm.trans (hnone.mpr h')
    | some m' =>
      have halike := (isPeak_of_peak?_eq_some hnumbers h).alike hperm hnumbers
        (isPeak_of_peak?_eq_some hnumbers' h')
      refine ⟨.some halike, fun hzero => ?_⟩
      have hthroughput := eq_of_beq halike.1 (hzero m rfl)
      simp only [Report.peakItem, Report.peakFinding, Option.map_some, hthroughput, halike.2,
        implies_true, and_self]

/-- Runs of one workload under three labels. Three have the greatest throughput, two of these the
fewest threads, and the first of the two is the peak. -/
theorem peak?_greatest_tied :
    let ms := [plainRun "Read" 8 900, plainRun "read" 2 900, plainRun "write" 1 5000,
      plainRun "READ" 2 900, plainRun "read" 1 100]
    (∀ m ∈ ms, m.throughput.isNaN = false) ∧ ms.reverse.Perm ms ∧
    (ofRecords ⟨.empty, ms⟩).peak? "read" = some (plainRun "read" 2 900) ∧
    Report.peakFinding "read" ((ofRecords ⟨.empty, ms⟩).peak? "read")
      = Report.peakFinding "read" ((ofRecords ⟨.empty, ms.reverse⟩).peak? "read") := by
  intro ms
  have hnumbers : ∀ m ∈ ms, m.throughput.isNaN = false := by decide +kernel
  have hzero : ∀ m ∈ ms, (m.throughput == 0.0) = false := by decide +kernel
  have hkey : (plainRun "Read" 8 900).key = "read" ∧ (plainRun "read" 2 900).key = "read" ∧
      (plainRun "write" 1 5000).key ≠ "read" := by decide +kernel
  have hless : ¬(plainRun "Read" 8 900).throughput ≤ (plainRun "read" 1 100).throughput := by
    decide +kernel
  obtain ⟨hnone, hpeak, hreordered⟩ := peak?_greatest ⟨.empty, ms⟩ "read" hnumbers
  obtain ⟨-, hlines⟩ := hreordered ⟨.empty, ms.reverse⟩ (List.reverse_perm ms)
  obtain ⟨m, hm⟩ : ∃ m, (ofRecords ⟨.empty, ms⟩).peak? "read" = some m := by
    rw [← Option.ne_none_iff_exists', ne_eq, hnone]
    exact fun h => h _ List.mem_cons_self hkey.1
  obtain ⟨hmem, hmkey, hgreatest, hfewest, before, after, hsplit, hbefore⟩ := hpeak m hm
  refine ⟨hnumbers, List.reverse_perm ms, ?_, (hlines fun m' hm' => hzero m' (hpeak m' hm').mem).2⟩
  rw [hm]
  simp only [ms, List.mem_cons, List.not_mem_nil, or_false] at hmem
  rcases hmem with rfl | rfl | rfl | rfl | rfl
  · have hthreads := hfewest (plainRun "read" 2 900) (by simp [ms]) hkey.2.1 (by decide +kernel)
    exact absurd hthreads (by decide)
  · rfl
  · exact absurd hmkey hkey.2.2
  · -- the run with two threads that was loaded before
    have hearlier : plainRun "read" 2 900 ∈ before := by
      rcases before with _ | ⟨x, _ | ⟨y, before⟩⟩
      · simp [ms, plainRun] at hsplit
      · simp [ms, plainRun] at hsplit
      · simp_all [ms]
    exact (hbefore (plainRun "read" 2 900) hearlier hkey.2.1 (by decide +kernel) rfl).elim
  · exact absurd (hgreatest (plainRun "Read" 8 900) (by simp [ms]) hkey.1) hless

end BenchReport.Analysis
