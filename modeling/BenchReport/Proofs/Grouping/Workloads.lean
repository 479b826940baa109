import BenchReport.Proofs.Grouping.Pushes
import BenchReport.Proofs.Keyed
import BenchReport.Run
import Mathlib.Data.List.Perm.Basic

/-!
# Workloads do not depend on the order of loading

The runs of a workload are sorted by their threads, and the sort is stable: it leaves runs with
equally many threads as they stood (`filter_mergeSort`). A list that ascends by a key is known by
its parts of one key each (`eq_of_ascending_of_filter_eq`), so the sorted runs of a workload are
the same for all orders of loading in which runs of one workload with equally many threads stand
alike (`Reordered`). The groups themselves stand in the order in which the workloads were met,
which may differ; but a look-up by key, the peak of a workload and the scaling in a snapshot ask
for the group of a key only.
-/

namespace BenchReport

/-! ### Stable sorting -/

/-- An element of one list is one of another with the same parts. -/
theorem mem_of_filter_threads_eq {xs ys : List Measurement}
    (h : ∀ n, xs.filter (·.threads == n) = ys.filter (·.threads == n)) {m : Measurement}
    (hm : m ∈ xs) : m ∈ ys := by
  have hpart : m ∈ xs.filter (·.threads == m.threads) := List.mem_filter.mpr ⟨hm, by simp⟩
  rw [h] at hpart
  exact List.mem_of_mem_filter hpart

/-- Runs that ascend by their threads are known by the parts with equally many threads. -/
theorem eq_of_ascending_of_filter_eq {xs ys : List Measurement}
    (hx : xs.Pairwise fun a b => a.threads ≤ b.threads)
    (hy : ys.Pairwise fun a b => a.threads ≤ b.threads)
    (h : ∀ n, xs.filter (·.threads == n) = ys.filter (·.threads == n)) : xs = ys := by
  induction xs generalizing ys with
  | nil =>
    cases ys with
    | nil => rfl
    | cons b ys => cases mem_of_filter_threads_eq (fun n => (h n).symm) (List.mem_cons_self (a := b))
  | cons a xs ih =>
    cases ys with
    | nil => cases mem_of_filter_threads_eq h (List.mem_cons_self (a := a))
    | cons b ys =>
      rw [List.pairwise_cons] at hx hy
      -- each of the two heads is an element of the other list, and so not the lesser one
      have hab : a.threads ≤ b.threads := by
        rcases List.mem_cons.mp (mem_of_filter_threads_eq (fun n => (h n).symm) List.mem_cons_self)
          with rfl | hb
        · exact UInt32.le_refl _
        · exact hx.1 b hb
      have hba : b.threads ≤ a.threads := by
        rcases List.mem_cons.mp (mem_of_filter_threads_eq h List.mem_cons_self) with rfl | ha
        · exact UInt32.le_refl _
        · exact hy.1 a ha
      have hthreads : a.threads = b.threads := UInt32.le_antisymm hab hba
      have hhead := h a.threads
      rw [List.filter_cons_of_pos (by simp), List.filter_cons_of_pos (by simp [hthreads]),
        List.cons.injEq] at hhead
      obtain ⟨rfl, -⟩ := hhead
      have htail : ∀ n, xs.filter (·.threads == n) = ys.filter (·.threads == n) := by
        intro n
        have hn := h n
        rw [List.filter_cons, List.filter_cons] at hn
        split at hn
        · exact List.tail_eq_of_cons_eq hn
        · exact hn
      rw [ih hx.2 hy.2 htail]

theorem fewerThreads_iff {a b : Measurement} : a.fewerThreads b = true ↔ a.threads ≤ b.threads := by
  rw [Measurement.fewerThreads, decide_eq_true_iff]

theorem fewerThreads_trans (a b c : Measurement) (hab : a.fewerThreads b = true)
    (hbc : b.fewerThreads c = true) : a.fewerThreads c = true :=
  fewerThreads_iff.mpr (UInt32.le_trans (fewerThreads_iff.mp hab) (fewerThreads_iff.mp hbc))

theorem fewerThreads_total (a b : Measurement) : (a.fewerThreads b || b.fewerThreads a) = true := by
  rw [Bool.or_eq_true, fewerThreads_iff, fewerThreads_iff]
  exact UInt32.le_total a.threads b.threads

/-- The runs sorted by their threads. -/
def byThreads (ms : List Measurement) : List Measurement := ms.mergeSort Measurement.fewerThreads

theorem byThreads_perm (ms : List Measurement) : (byThreads ms).Perm ms := List.mergeSort_perm ms _

theorem byThreads_ascending (ms : List Measurement) :
    (byThreads ms).Pairwise fun a b => a.threads ≤ b.threads :=
  (List.pairwise_mergeSort fewerThreads_trans fewerThreads_total ms).imp fewerThreads_iff.mp

/-- Sorting leaves runs with equally many threads as they stood. -/
theorem filter_byThreads (n : UInt32) (ms : List Measurement) :
    (byThreads ms).filter (·.threads == n) = ms.filter (·.threads == n) := by
  have halike : (ms.filter (·.threads == n)).Pairwise fun a b => a.fewerThreads b = true := by
    refine List.pairwise_of_forall_mem_list fun a ha b hb => fewerThreads_iff.mpr ?_
    have ha : a.threads = n := by simpa using (List.mem_filter.mp ha).2
    have hb : b.threads = n := by simpa using (List.mem_filter.mp hb).2
    rw [ha, hb]
    exact UInt32.le_refl n
  have hsub : (ms.filter (·.threads == n)).Sublist (byThreads ms) :=
    List.sublist_mergeSort fewerThreads_trans fewerThreads_total halike List.filter_sublist
  have hsub := hsub.filter (·.threads == n)
  rw [List.filter_filter, List.filter_congr (fun _ _ => Bool.and_self _)] at hsub
  exact (hsub.eq_of_length ((byThreads_perm ms).filter _).length_eq.symm).symm

/-! ### The groups -/

/-- The runs of a workload, in the order of loading. -/
def runsOf (key : String) (ms : List Measurement) : List Measurement := ms.filter (·.key == key)

theorem mem_runsOf {key : String} {ms : List Measurement} {m : Measurement} :
    m ∈ runsOf key ms ↔ m ∈ ms ∧ m.key = key := by
  rw [runsOf, List.mem_filter, beq_iff_eq]

namespace Grouping

variable {α : Type}

/-- What is pushed in order to group values by a key. -/
def stepsBy (key : α → String) (xs : List α) : List (String × α) := xs.map fun a => (key a, a)

theorem collects_groupBy (key : α → String) (xs : List α) :
    Collects (stepsBy key xs) (groupBy key xs) := collects_pushAll _

theorem map_fst_stepsBy (key : α → String) (xs : List α) :
    (stepsBy key xs).map Prod.fst = xs.map key := by
  rw [stepsBy, List.map_map]
  rfl

theorem valuesUnder_stepsBy (key : α → String) (k : String) (xs : List α) :
    valuesUnder k (stepsBy key xs) = xs.filter (key · == k) := by
  rw [valuesUnder, stepsBy, List.filter_map, List.map_map]
  exact List.map_id _

theorem get?_rearrange (f : List α → List α) (t : Grouping α) (key : String) :
    (t.rearrange f).get? key = (t.get? key).map f := by
  unfold get? rearrange
  cases t.index.get? key with
  | none => rfl
  | some place =>
    simp only [List.getElem?_map, Option.map_map]
    rfl

end Grouping

open Grouping (metKeys stepsBy)

/-- The workloads in the order in which they were met. -/
def workloadsOf (ms : List Measurement) : List String := metKeys (stepsBy Measurement.key ms)

theorem mem_workloadsOf {ms : List Measurement} {key : String} :
    key ∈ workloadsOf ms ↔ ∃ m ∈ ms, m.key = key := by
  rw [workloadsOf, Grouping.mem_metKeys, Grouping.map_fst_stepsBy, List.mem_map]

theorem groups_byWorkload (ms : List Measurement) :
    (byWorkload ms).groups = (workloadsOf ms).map fun key => ⟨key, byThreads (runsOf key ms)⟩ := by
  rw [byWorkload, Grouping.rearrange, (Grouping.collects_groupBy Measurement.key ms).groups_eq,
    List.map_map, workloadsOf]
  refine List.map_congr_left fun key _ => ?_
  rw [Function.comp_apply, Grouping.groupOf, Grouping.valuesUnder_stepsBy, byThreads, runsOf]

/-- Sorting the groups leaves the index right: the group that is found under a key is the sorted
runs of that workload. -/
theorem get?_byWorkload (ms : List Measurement) (key : String) :
    (byWorkload ms).get? key
      = if key ∈ ms.map Measurement.key then some (byThreads (runsOf key ms)) else none := by
  rw [byWorkload, Grouping.get?_rearrange,
    (Grouping.collects_groupBy Measurement.key ms).get?_eq, Grouping.map_fst_stepsBy,
    Grouping.valuesUnder_stepsBy]
  split
  · rfl
  · rfl

theorem nodup_keys_byWorkload (ms : List Measurement) :
    ((byWorkload ms).groups.map (·.key)).Nodup := by
  rw [groups_byWorkload, List.map_map]
  exact (List.map_id (workloadsOf ms)).symm ▸ Grouping.nodup_metKeys (stepsBy Measurement.key ms)

/-! ### The scaling of a snapshot -/

theorem workload_mem_scaling {t : Grouping Measurement} {s : WorkloadScaling} :
    s ∈ Scaling.ofGroups t ↔
      ∃ g ∈ t.groups, g.key = s.workload ∧ Scaling.points? g.members = some s.points := by
  rw [Scaling.ofGroups, List.mem_filterMap]
  refine exists_congr fun g => and_congr_right fun _ => ?_
  rw [Option.map_eq_some_iff]
  constructor
  · rintro ⟨points, hpoints, rfl⟩
    exact ⟨rfl, hpoints⟩
  · rintro ⟨hkey, hpoints⟩
    exact ⟨s.points, hpoints, by rw [hkey]⟩

/-- The scaling names each workload once. -/
theorem nodup_scaling (ms : List Measurement) :
    (((Scaling.ofGroups (byWorkload ms)).map fun s => (s.workload, s.points)).map
      Prod.fst).Nodup := by
  have hnames : ∀ gs : List (Group Measurement),
      (((gs.filterMap fun g => (Scaling.points? g.members).map fun points =>
        (⟨g.key, points⟩ : WorkloadScaling)).map fun s => (s.workload, s.points)).map
        Prod.fst).Sublist (gs.map (·.key)) := by
    intro gs
    induction gs with
    | nil => exact List.Sublist.refl _
    | cons g gs ih =>
      rw [List.filterMap_cons]
      cases Scaling.points? g.members with
      | none => exact ih.cons _
      | some points => exact ih.cons_cons _
  exact (hnames (byWorkload ms).groups).nodup (nodup_keys_byWorkload ms)

/-- The scaling that a snapshot has under a key is that of the runs found under the key. -/
theorem get?_scaling (r : Records) (origin : Origin) (generated : Instant) (key : String) :
    (Composed.ofRecords r origin generated).snapshot.scaling.get? key
      = ((byWorkload r.measurements).get? key).bind Scaling.points? := by
  refine Option.ext fun points => ?_
  have hcomposed : (Composed.ofRecords r origin generated).snapshot.scaling
      = .ofList ((Scaling.ofGroups (byWorkload r.measurements)).map
        fun s => (s.workload, s.points)) := rfl
  rw [hcomposed, Keyed.get?_ofList_eq_some_iff (nodup_scaling r.measurements), List.mem_map,
    get?_byWorkload]
  constructor
  · rintro ⟨s, hs, hpair⟩
    obtain ⟨rfl, rfl⟩ := Prod.mk.inj hpair
    obtain ⟨g, hg, hkey, hpoints⟩ := workload_mem_scaling.mp hs
    rw [groups_byWorkload, List.mem_map] at hg
    obtain ⟨k, hk, rfl⟩ := hg
    obtain rfl : k = s.workload := hkey
    rw [if_pos (List.mem_map.mpr (mem_workloadsOf.mp hk))]
    exact hpoints
  · intro hbind
    split at hbind
    · next hkey =>
      refine ⟨⟨key, points⟩, workload_mem_scaling.mpr ⟨⟨key, _⟩, ?_, rfl, hbind⟩, rfl⟩
      rw [groups_byWorkload]
      exact List.mem_map.mpr ⟨key, mem_workloadsOf.mpr (List.mem_map.mp hkey), rfl⟩
    · cases hbind

/-! ### Other orders of loading -/

/-- The same runs in another order of loading, in which those of one workload with equally many
threads stand as they stood. -/
structure Reordered (ms ms' : List Measurement) : Prop where
  perm : ms.Perm ms'
  sameOrder : ∀ (key : String) (n : UInt32),
    ms.filter (fun m => m.key == key && m.threads == n)
      = ms'.filter (fun m => m.key == key && m.threads == n)

theorem Reordered.byThreads_eq {ms ms' : List Measurement} (h : Reordered ms ms') (key : String) :
    byThreads (runsOf key ms) = byThreads (runsOf key ms') := by
  refine eq_of_ascending_of_filter_eq (byThreads_ascending _) (byThreads_ascending _) fun n => ?_
  rw [filter_byThreads, filter_byThreads, runsOf, runsOf, List.filter_filter, List.filter_filter]
  simpa only [Bool.and_comm] using h.sameOrder key n

theorem Reordered.get?_eq {ms ms' : List Measurement} (h : Reordered ms ms') (key : String) :
    (byWorkload ms).get? key = (byWorkload ms').get? key := by
  have hmem : key ∈ ms.map Measurement.key ↔ key ∈ ms'.map Measurement.key :=
    (h.perm.map Measurement.key).mem_iff
  simp only [get?_byWorkload, h.byThreads_eq, hmem]

/-- **The analysis by workload does not depend on the order of loading.** If the runs are loaded
in another order, and those of one workload with equally many threads stand alike in both, then
the same runs are found under each key, each workload has the same peak, and the snapshots have
the same scaling. In any case a group ascends by the threads, holds the runs of its workload and
no others, and leaves those with equally many threads in the order of loading. -/
theorem byWorkload_reordered :
    (∀ (timings : Keyed (List Timing)) (ms ms' : List Measurement) (origin : Origin)
        (generated : Instant), Reordered ms ms' →
      (∀ key, (byWorkload ms).get? key = (byWorkload ms').get? key) ∧
      (∀ key, (Analysis.ofRecords ⟨timings, ms⟩).peak? key
        = (Analysis.ofRecords ⟨timings, ms'⟩).peak? key) ∧
      (Composed.ofRecords ⟨timings, ms⟩ origin generated).snapshot.scaling
        = (Composed.ofRecords ⟨timings, ms'⟩ origin generated).snapshot.scaling) ∧
    ∀ (ms : List Measurement), ∀ g ∈ (byWorkload ms).groups,
      g.members.Pairwise (fun a b => a.threads ≤ b.threads) ∧
      g.members.Perm (ms.filter (·.key == g.key)) ∧
      ∀ n, g.members.filter (·.threads == n)
        = (ms.filter (·.key == g.key)).filter (·.threads == n) := by
  constructor
  · intro timings ms ms' origin generated h
    refine ⟨h.get?_eq, fun key => ?_, Keyed.ext_get? fun key => ?_⟩
    · have hworkloads : ∀ ms, (Analysis.ofRecords ⟨timings, ms⟩).workloads = byWorkload ms :=
        fun _ => rfl
      rw [Analysis.peak?, Analysis.peak?, hworkloads, hworkloads, h.get?_eq]
    · rw [get?_scaling, get?_scaling, h.get?_eq]
  · intro ms g hg
    rw [groups_byWorkload, List.mem_map] at hg
    obtain ⟨key, -, rfl⟩ := hg
    exact ⟨byThreads_ascending _, byThreads_perm _, fun n => filter_byThreads n _⟩

/-- A run of which only the workload, the threads and the throughput matter. -/
def plainRun (workload : String) (threads : UInt32) (throughput : Float) : Measurement :=
  ⟨workload, threads, 1, 0, 0, 0, throughput, ⟨0, 0, 0, 0, 0, 0⟩⟩

/-- Two workloads with labels in different letter case, of which one has two runs with a single
thread. -/
theorem byWorkload_reordered_mixed :
    let a := plainRun "Read" 8 5000
    let b := plainRun "write" 2 700
    let c := plainRun "READ" 1 900
    let d := plainRun "read" 1 1000
    Reordered [a, b, c, d] [c, b, d, a] ∧
      (byWorkload [a, b, c, d]).get? "read" = (byWorkload [c, b, d, a]).get? "read" ∧
      (byWorkload [a, b, c, d]).keys = ["read", "write"] := by
  intro a b c d
  have hkeys : a.key = "read" ∧ b.key = "write" ∧ c.key = "read" ∧ d.key = "read" := by
    decide +kernel
  have hthreads : a.threads = 8 ∧ b.threads = 2 ∧ c.threads = 1 ∧ d.threads = 1 := ⟨rfl, rfl, rfl, rfl⟩
  have h : Reordered [a, b, c, d] [c, b, d, a] := by
    clear_value a b c d
    obtain ⟨ha, hb, hc, hd⟩ := hkeys
    obtain ⟨hta, htb, htc, htd⟩ := hthreads
    constructor
    · refine ((List.Perm.swap b a _).trans ?_).trans (List.Perm.swap c b _)
      refine List.Perm.cons b ((List.Perm.swap c a _).trans ?_)
      exact List.Perm.cons c (List.Perm.swap d a _)
    · intro key n
      simp only [List.filter_cons, List.filter_nil, ha, hb, hc, hd, hta, htb, htc, htd]
      by_cases hn : n = 8
      · subst hn
        simp
      · by_cases hkey : key = "write"
        · subst hkey
          simp
        · simp [Ne.symm hn, Ne.symm hkey]
  exact ⟨h, (byWorkload_reordered.1 .empty _ _ ⟨"", "", "", 1⟩ ⟨⟨2026, 1, 1⟩, 0, 0⟩ h).1 "read",
    by decide +kernel⟩

end BenchReport
