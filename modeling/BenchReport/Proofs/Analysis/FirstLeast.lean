import BenchReport.Proofs.Report.Accounts
import Mathlib.Data.Prod.Lex

/-!
# The first value of the least rank

`Analysis.best?` goes through a list once and keeps a value until a later one beats it. If the
values that beat others are those of a lesser rank, it ends with the first value of the least rank
(`firstLeast_of_best?_eq_some`): each value that is gone through leaves it the first of those that
were gone through so far (`FirstLeast.push`).

The lists that it goes through are arranged: they ascend by a key, and values of one key stand as
they stood in the list from which they were arranged. The first value of the least rank in the
arranged list is then the first of the least rank and, among those, of the least key in the other
(`FirstLeast.of_arranged`). The order of the other list decides only where both are equal. So are
the runs of a workload arranged by their threads (`arranged_byThreads`), and the members of all
groups by where their keys were first met (`arranged_members_groupBy`).
-/

namespace BenchReport

variable {α ι κ : Type} [LinearOrder ι] [LinearOrder κ]

/-- A value has the least rank of a list and is the first that has it. -/
def FirstLeast (rank : α → ι) (a : α) (xs : List α) : Prop :=
  ∃ before after, xs = before ++ a :: after ∧
    (∀ b ∈ before, rank a < rank b) ∧ ∀ b ∈ after, rank a ≤ rank b

namespace FirstLeast

variable {rank : α → ι} {key : α → κ} {a : α} {xs ys : List α}

theorem mem (h : FirstLeast rank a xs) : a ∈ xs := by
  obtain ⟨before, after, rfl, -, -⟩ := h
  exact List.mem_append_right _ List.mem_cons_self

theorem le (h : FirstLeast rank a xs) {b : α} (hb : b ∈ xs) : rank a ≤ rank b := by
  obtain ⟨before, after, rfl, hbefore, hafter⟩ := h
  rw [List.mem_append, List.mem_cons] at hb
  rcases hb with hb | rfl | hb
  · exact (hbefore b hb).le
  · exact le_rfl
  · exact hafter b hb

theorem singleton (a : α) : FirstLeast rank a [a] :=
  ⟨[], [], rfl, fun _ hb => (List.not_mem_nil hb).elim, fun _ hb => (List.not_mem_nil hb).elim⟩

/-- The first value of a list is that of the least rank if all have the same. -/
theorem head (a : α) (xs : List α) : FirstLeast (fun _ => ()) a (a :: xs) :=
  ⟨[], xs, rfl, fun _ hb => (List.not_mem_nil hb).elim, fun _ _ => le_rfl⟩

/-- One value more takes the place of the first of the least rank if its rank is lesser. -/
theorem push (h : FirstLeast rank a xs) (b : α) :
    FirstLeast rank (if rank b < rank a then b else a) (xs ++ [b]) := by
  split
  · next hlt =>
    exact ⟨xs, [], rfl, fun c hc => hlt.trans_le (h.le hc),
      fun c hc => (List.not_mem_nil hc).elim⟩
  · next hge =>
    obtain ⟨before, after, rfl, hbefore, hafter⟩ := h
    refine ⟨before, after ++ [b], by rw [List.append_assoc, List.cons_append], hbefore, ?_⟩
    intro c hc
    rw [List.mem_append, List.mem_singleton] at hc
    rcases hc with hc | rfl
    · exact hafter c hc
    · exact not_lt.mp hge

/-- The values of a part of a list, with the place that the first has in the whole list. -/
theorem exists_split {p : α → Bool} (h : FirstLeast rank a (xs.filter p)) :
    ∃ before after, xs = before ++ a :: after ∧ ∀ b ∈ before, p b = true → rank a < rank b := by
  obtain ⟨before, after, hsplit, hbefore, -⟩ := h
  obtain ⟨front, rest, rfl, rfl, hrest⟩ := List.filter_eq_append_iff.mp hsplit
  obtain ⟨skipped, back, rfl, hskipped, -⟩ := List.filter_eq_cons_iff.mp hrest
  refine ⟨front ++ skipped, back, (List.append_assoc ..).symm, fun b hb hp => ?_⟩
  rw [List.mem_append] at hb
  rcases hb with hb | hb
  · exact hbefore b (List.mem_filter.mpr ⟨hb, hp⟩)
  · exact absurd hp (hskipped b hb)

end FirstLeast

/-! ### The best of a list -/

namespace Analysis

variable {rank : α → ι} {beats : α → α → Bool} {xs : List α}

theorem best?_eq_none_iff : best? beats xs = none ↔ xs = [] := by
  cases xs <;> simp [best?]

theorem mem_of_best?_eq_some {a : α} (h : best? beats xs = some a) : a ∈ xs := by
  cases xs with
  | nil => cases h
  | cons x xs =>
    obtain rfl := Option.some.inj h
    refine List.foldlRecOn (motive := fun best => best ∈ x :: xs) _ _ List.mem_cons_self ?_
    intro best hbest b hb
    split
    · exact List.mem_cons_of_mem _ hb
    · exact hbest

/-- What is kept after some values is the first of the least rank among them. -/
theorem firstLeast_foldl {seen : List α} {a : α} (h : FirstLeast rank a seen)
    (hbeats : ∀ b ∈ seen ++ xs, ∀ c ∈ seen ++ xs, beats b c = true ↔ rank b < rank c) :
    FirstLeast rank (xs.foldl (fun best b => if beats b best then b else best) a)
      (seen ++ xs) := by
  induction xs generalizing seen a with
  | nil => rwa [List.append_nil]
  | cons b xs ih =>
    have hpush := h.push b
    have hstep : beats b a = true ↔ rank b < rank a :=
      hbeats b (List.mem_append_right _ List.mem_cons_self) a (List.mem_append_left _ h.mem)
    have hassoc : seen ++ b :: xs = (seen ++ [b]) ++ xs := by
      rw [List.append_assoc, List.singleton_append]
    rw [hassoc] at hbeats ⊢
    rw [List.foldl_cons]
    simp only [hstep]
    exact ih hpush hbeats

/-- The best is the first of the least rank, if those of lesser rank beat others. -/
theorem firstLeast_of_best?_eq_some {a : α} (h : best? beats xs = some a)
    (hbeats : ∀ b ∈ xs, ∀ c ∈ xs, beats b c = true ↔ rank b < rank c) :
    FirstLeast rank a xs := by
  cases xs with
  | nil => cases h
  | cons x xs =>
    obtain rfl := Option.some.inj h
    exact firstLeast_foldl (.singleton x) hbeats

end Analysis

/-! ### Arranged lists -/

/-- The values of a list in the order of a key, and those of one key as they stood. -/
structure Arranged (key : α → κ) (xs ys : List α) : Prop where
  perm : ys.Perm xs
  ascending : ys.Pairwise fun a b => key a ≤ key b
  sameOrder : ∀ a ∈ xs, ys.filter (key · = key a) = xs.filter (key · = key a)

/-- The first of the least rank in an arranged list comes first of the least rank and key. -/
theorem FirstLeast.of_arranged {rank : α → ι} {key : α → κ} {a : α} {xs ys : List α}
    (hys : Arranged key xs ys) (h : FirstLeast rank a ys) :
    FirstLeast (fun b => toLex (rank b, key b)) a xs := by
  have hmem : a ∈ xs := hys.perm.mem_iff.mp h.mem
  have hle {b : α} (hb : b ∈ xs) : rank a ≤ rank b := h.le (hys.perm.mem_iff.mpr hb)
  obtain ⟨before, after, rfl, hbefore, -⟩ := h
  -- a value with the rank of the first stands after it, and so its key is not lesser
  have hkey {b : α} (hb : b ∈ xs) (hrank : rank a = rank b) : key a ≤ key b := by
    have hb := hys.perm.mem_iff.mpr hb
    rw [List.mem_append, List.mem_cons] at hb
    rcases hb with hb | rfl | hb
    · exact absurd hrank (hbefore b hb).ne
    · exact le_rfl
    · exact (List.pairwise_cons.mp (List.pairwise_append.mp hys.ascending).2.1).1 b hb
  -- among the values of its key it stands in the other list as in the arranged one
  have hpart : FirstLeast rank a (xs.filter (key · = key a)) := by
    rw [← hys.sameOrder a hmem, List.filter_append, List.filter_cons_of_pos (by simp)]
    exact ⟨_, _, rfl, fun b hb => hbefore b (List.mem_of_mem_filter hb),
      fun b hb => hle (hys.perm.mem_iff.mp (List.mem_append_right _
        (List.mem_cons_of_mem _ (List.mem_of_mem_filter hb))))⟩
  obtain ⟨before', after', rfl, hbefore'⟩ := hpart.exists_split
  refine ⟨before', after', rfl, fun b hb => ?_, fun b hb => ?_⟩
  · have hb' : b ∈ before' ++ a :: after' := List.mem_append_left _ hb
    rw [Prod.Lex.toLex_lt_toLex]
    rcases (hle hb').lt_or_eq with hlt | heq
    · exact .inl hlt
    · refine .inr ⟨heq, (hkey hb' heq).lt_of_ne fun hsame => ?_⟩
      exact (hbefore' b hb (by simpa using hsame.symm)).ne heq
  · have hb' : b ∈ before' ++ a :: after' :=
      List.mem_append_right _ (List.mem_cons_of_mem _ hb)
    rw [Prod.Lex.toLex_le_toLex]
    rcases (hle hb').lt_or_eq with hlt | heq
    · exact .inl hlt
    · exact .inr ⟨heq, hkey hb' heq⟩

/-! ### Runs by threads and members by groups -/

theorem arranged_byThreads (ms : List Measurement) :
    Arranged (·.threads.toNat) ms (byThreads ms) where
  perm := byThreads_perm ms
  ascending := (byThreads_ascending ms).imp UInt32.le_iff_toNat_le.mp
  sameOrder m _ := by
    simp only [UInt32.toNat_inj]
    exact filter_byThreads m.threads ms

namespace Grouping

variable {key : α → String} {xs : List α}

/-- The part of one key in the parts of all keys, put together. -/
theorem filter_flatMap_filter {keys : List String} (hkeys : keys.Nodup) {k : String}
    (hk : k ∈ keys) :
    (keys.flatMap fun l => xs.filter (key · == l)).filter (key · == k)
      = xs.filter (key · == k) := by
  obtain ⟨front, back, rfl⟩ := List.append_of_mem hk
  have hdisjoint := List.nodup_append.mp hkeys
  have hothers {others : List String} (hnot : k ∉ others) :
      (others.flatMap fun l => xs.filter (key · == l)).filter (key · == k) = [] := by
    rw [List.filter_eq_nil_iff]
    intro a ha
    obtain ⟨l, hl, hal⟩ := List.mem_flatMap.mp ha
    have hal : key a = l := by simpa using (List.mem_filter.mp hal).2
    rw [beq_iff_eq, hal]
    rintro rfl
    exact hnot hl
  have hfront : k ∉ front := fun h => hdisjoint.2.2 k h k List.mem_cons_self rfl
  have hback : k ∉ back := (List.nodup_cons.mp hdisjoint.2.1).1
  rw [List.flatMap_append, List.flatMap_cons, List.filter_append, List.filter_append,
    hothers hfront, hothers hback, List.nil_append, List.append_nil, List.filter_filter]
  exact List.filter_congr fun a _ => Bool.and_self _

/-- Groups stand in the order in which their keys were first met, and members as they came. -/
theorem arranged_members_groupBy (key : α → String) (xs : List α) :
    Arranged (fun a => (xs.map key).idxOf (key a)) xs (groupBy key xs).members where
  perm := members_groupBy_perm key xs
  ascending := by
    have hmet := metKeys_pairwise (stepsBy key xs)
    rw [map_fst_stepsBy] at hmet
    have hkey {k : String} {a : α} (ha : a ∈ xs.filter (key · == k)) : key a = k := by
      simpa using (List.mem_filter.mp ha).2
    rw [members_groupBy, List.pairwise_flatMap]
    refine ⟨fun k _ => List.pairwise_of_forall_mem_list fun a ha b hb => ?_,
      hmet.imp fun hlt a ha b hb => ?_⟩
    · rw [hkey ha, hkey hb]
    · rw [hkey ha, hkey hb]
      exact hlt.le
  sameOrder a ha := by
    have hplace : ∀ b ∈ xs,
        decide ((xs.map key).idxOf (key b) = (xs.map key).idxOf (key a)) = (key b == key a) := by
      intro b hb
      exact decide_eq_decide.mpr (List.idxOf_inj (List.mem_map_of_mem hb))
    have hmem : key a ∈ metKeys (stepsBy key xs) := by
      rw [mem_metKeys, map_fst_stepsBy]
      exact List.mem_map_of_mem ha
    rw [List.filter_congr hplace, List.filter_congr fun b hb =>
      hplace b ((members_groupBy_perm key xs).mem_iff.mp hb), members_groupBy]
    exact filter_flatMap_filter (nodup_metKeys _) hmem

end Grouping

end BenchReport
