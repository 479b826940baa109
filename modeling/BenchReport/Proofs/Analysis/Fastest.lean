import BenchReport.Proofs.Analysis.FirstLeast
import BenchReport.Proofs.Decimal.Order

/-!
# The fastest timing

The timings are gone through category after category, and a timing takes the place of the best so
far if its median is lesser. So the fastest is a timing of the least median, of these one in the
category that was met first, and of these the first in the order of the reports
(`fastest?_first_row`). It is the first row with this median in the tables of the report, which need
not be the first timing with it.
-/

namespace BenchReport

open Decimal (rank lt_iff_rank_lt le_iff_rank_le beq_iff_rank_eq)

namespace Analysis

variable {r : Records}

theorem members_categories_perm (r : Records) :
    (ofRecords r).categories.members.Perm r.allTimings :=
  Grouping.members_groupBy_perm Timing.category r.allTimings

theorem fastest?_eq_none_iff :
    (ofRecords r).fastest? = none ↔ r.allTimings = [] := by
  have hperm := members_categories_perm r
  rw [fastest?, best?_eq_none_iff]
  exact ⟨fun h => (h ▸ hperm).nil_eq.symm, fun h => (h ▸ hperm).eq_nil⟩

theorem mem_of_fastest?_eq_some {t : Timing} (h : (ofRecords r).fastest? = some t) :
    t ∈ r.allTimings :=
  (members_categories_perm r).mem_iff.mp (mem_of_best?_eq_some h)

/-- The fastest timing is the first of the least median in the tables of the report. -/
theorem fastest?_firstLeast (hnumbers : ∀ t ∈ r.allTimings, t.mid.isNaN = false) {t : Timing}
    (h : (ofRecords r).fastest? = some t) :
    FirstLeast (fun t : Timing => rank t.mid) t (ofRecords r).categories.members := by
  have hnumber : ∀ t ∈ (ofRecords r).categories.members, t.mid.isNaN = false := fun t ht =>
    hnumbers t ((members_categories_perm r).mem_iff.mp ht)
  refine firstLeast_of_best?_eq_some h fun b hb c hc => ?_
  rw [decide_eq_true_iff, lt_iff_rank_lt (hnumber b hb) (hnumber c hc)]

/-! ### What the fastest timing is -/

/-- A timing that is the fastest of some: none has a lesser median, none with the same median is in
a category that was met before its own, and none of its category with the same median came before
it. -/
structure IsFastest (ts : List Timing) (t : Timing) : Prop where
  mem : t ∈ ts
  least : ∀ other ∈ ts, t.mid ≤ other.mid
  firstCategory : ∀ other ∈ ts, (other.mid == t.mid) = true →
    (ts.map Timing.category).idxOf t.category ≤ (ts.map Timing.category).idxOf other.category
  firstMember : ∃ before after, ts = before ++ t :: after ∧ ∀ other ∈ before,
    other.category = t.category → (other.mid == t.mid) = false

theorem isFastest_of_fastest?_eq_some (hnumbers : ∀ t ∈ r.allTimings, t.mid.isNaN = false)
    {t : Timing} (h : (ofRecords r).fastest? = some t) : IsFastest r.allTimings t := by
  have hfirst := (fastest?_firstLeast hnumbers h).of_arranged
    (Grouping.arranged_members_groupBy Timing.category r.allTimings)
  have hnumber := hnumbers t hfirst.mem
  have hle {other : Timing} (hother : other ∈ r.allTimings) := hfirst.le hother
  simp only [Prod.Lex.toLex_le_toLex] at hle
  refine ⟨hfirst.mem, fun other hother => ?_, fun other hother hequal => ?_, ?_⟩
  · rw [le_iff_rank_le hnumber (hnumbers other hother)]
    rcases hle hother with hlt | ⟨heq, -⟩
    · exact hlt.le
    · exact heq.le
  · rw [beq_iff_rank_eq (hnumbers other hother) hnumber] at hequal
    rcases hle hother with hlt | ⟨-, hcategory⟩
    · exact absurd hequal hlt.ne'
    · exact hcategory
  · obtain ⟨before, after, hsplit, hbefore, -⟩ := hfirst
    refine ⟨before, after, hsplit, fun other hother hcategory => ?_⟩
    have hmem : other ∈ r.allTimings := hsplit ▸ List.mem_append_left _ hother
    have hlt := hbefore other hother
    rw [Prod.Lex.toLex_lt_toLex, hcategory] at hlt
    rw [Bool.eq_false_iff, ne_eq, beq_iff_rank_eq (hnumbers other hmem) hnumber]
    rcases hlt with hlt | ⟨-, hlt⟩
    · exact hlt.ne'
    · exact absurd hlt (lt_irrefl _)

/-- **The fastest timing.** There is a fastest timing unless there is none in any report. It is one
of the least median, in the category that was met first of those that have this median, and the
first with it in this category. It is the first row with this median in the tables of categories,
and its median is the least of the entries of any snapshot. -/
theorem fastest?_first_row (r : Records) (hnumbers : ∀ t ∈ r.allTimings, t.mid.isNaN = false) :
    ((ofRecords r).fastest? = none ↔ ∀ ts ∈ r.timings.values, ts = []) ∧
    ∀ t, (ofRecords r).fastest? = some t →
      IsFastest r.allTimings t ∧
      (∃ before after, (ofRecords r).categories.groups.flatMap (·.members) = before ++ t :: after ∧
        ∀ other ∈ before, t.mid < other.mid) ∧
      ∀ (origin : Origin) (generated : Instant),
        let entries := (Composed.ofRecords r origin generated).snapshot.timings.values.flatten
        (∃ e ∈ entries, e.mid = t.mid) ∧ ∀ e ∈ entries, t.mid ≤ e.mid := by
  refine ⟨?_, fun t h => ?_⟩
  · rw [fastest?_eq_none_iff, Records.allTimings, List.flatten_eq_nil_iff]
  have hfastest := isFastest_of_fastest?_eq_some hnumbers h
  refine ⟨hfastest, ?_, fun origin generated => ?_⟩
  · obtain ⟨before, after, hsplit, hbefore, -⟩ := fastest?_firstLeast hnumbers h
    refine ⟨before, after, hsplit, fun other hother => ?_⟩
    have hmem : other ∈ (ofRecords r).categories.members := hsplit ▸ List.mem_append_left _ hother
    rw [lt_iff_rank_lt (hnumbers t hfastest.mem)
      (hnumbers other ((members_categories_perm r).mem_iff.mp hmem))]
    exact hbefore other hother
  · rw [Snapshot.timings_composed]
    simp only [List.mem_map, exists_exists_and_eq_and, forall_exists_index, and_imp,
      forall_apply_eq_imp_iff₂]
    exact ⟨⟨t, hfastest.mem, rfl⟩, hfastest.least⟩

/-- Two timings have the least median. The fastest is the one in the category that was met first,
though the other was read before it. -/
theorem fastest?_first_row_tied :
    let r : Records := ⟨.ofList [("b.txt", [⟨"scan/2", 1, 1, 1, none⟩]),
      ("a.txt", [⟨"scan/1", 5, 5, 5, none⟩, ⟨"read/1", 1, 1, 1, none⟩])], []⟩
    (∀ t ∈ r.allTimings, t.mid.isNaN = false) ∧
    r.allTimings.map (·.name) = ["scan/1", "read/1", "scan/2"] ∧
    ∃ t, (ofRecords r).fastest? = some t ∧ t.name = "scan/2" ∧ IsFastest r.allTimings t := by
  intro r
  have hnumbers : ∀ t ∈ r.allTimings, t.mid.isNaN = false := by decide +kernel
  have hname : (ofRecords r).fastest?.map (·.name) = some "scan/2" := by decide +kernel
  obtain ⟨t, ht, hscan⟩ := Option.map_eq_some_iff.mp hname
  exact ⟨hnumbers, by decide +kernel, t, ht, hscan,
    ((fastest?_first_row r hnumbers).2 t ht).1⟩

end Analysis

end BenchReport
