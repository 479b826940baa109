import BenchReport.Files.Reading
import BenchReport.Proofs.Files.Lookup
import BenchReport.Proofs.Files.Rewriting
import Mathlib.Data.List.Nodup

/-!
# The order of enumeration

A directory is enumerated in the order in which the entries of its tree stand. Trees with the same
entries in different orders have the same at each location, so a path leads to the same in both
(`SameEntries.find_eq`), and a directory has the same names in some order (`SameEntries.list_perm`).
Each order of these names is that of a tree with the same entries (`exists_sameEntries`).
-/

namespace BenchReport.Files.Tree

variable {t t' : Tree} {loc : Location} {node : Node} {path : RawText}

/-- Whether two trees have the same entries, in whatever order. -/
structure SameEntries (t t' : Tree) : Prop where
  start_eq : t'.start = t.start
  perm : t'.entries.Perm t.entries

theorem map_find?_eq_some_iff {es : List (Location × Node)} (h : (es.map Prod.fst).Nodup) :
    (es.find? (·.1 == loc)).map Prod.snd = some node ↔ (loc, node) ∈ es := by
  induction es with
  | nil => simp
  | cons e es ih =>
    obtain ⟨hnew, hes⟩ := List.nodup_cons.mp h
    obtain ⟨there, found⟩ := e
    by_cases hthere : there = loc
    · subst hthere
      have hnot : ∀ node, (there, node) ∉ es :=
        fun node hmem => hnew (List.mem_map.mpr ⟨_, hmem, rfl⟩)
      simp [hnot, eq_comm]
    · simp [hthere, Ne.symm hthere, ← ih hes]

/-- What stands at the locations of a tree tells its entries. -/
theorem get?_eq_some_iff (h : (t.entries.map Prod.fst).Nodup) (hne : loc ≠ []) :
    t.get? loc = some node ↔ (loc, node) ∈ t.entries := by
  rw [get?, if_neg hne, map_find?_eq_some_iff h]

theorem SameEntries.get?_eq (hsame : t.SameEntries t') (h : (t.entries.map Prod.fst).Nodup)
    (loc : Location) : t'.get? loc = t.get? loc := by
  by_cases hroot : loc = []
  · rw [get?, get?, if_pos hroot, if_pos hroot]
  have h' : (t'.entries.map Prod.fst).Nodup := (hsame.perm.map _).nodup_iff.mpr h
  refine Option.ext fun node => ?_
  rw [get?_eq_some_iff h' hroot, get?_eq_some_iff h hroot, hsame.perm.mem_iff]

/-! ### Paths -/

theorem walk_congr (hget : ∀ loc, t'.get? loc = t.get? loc) (intent : Intent)
    (k : Location → List RawText → Except Fault Place) (here : Location) (steps : List RawText) :
    t'.walk intent k here steps = t.walk intent k here steps := by
  induction steps generalizing here with
  | nil => rfl
  | cons step rest ih => simp only [walk, hget, ih]

/-- Where a path leads depends on what stands at the locations. -/
theorem lookup_congr (hstart : t'.start = t.start) (hget : ∀ loc, t'.get? loc = t.get? loc)
    (intent : Intent) (path : RawText) : t'.lookup intent path = t.lookup intent path := by
  refine lookup_rel (R := fun r r' => r' = r) t t' intent intent hstart (fun _ => rfl)
    (fun k k' hk here steps => ?_) path
  obtain rfl : k' = k := funext fun here => funext fun steps => hk here steps
  exact walk_congr hget intent k' here steps

namespace SameEntries

variable (hsame : t.SameEntries t') (h : (t.entries.map Prod.fst).Nodup)

include hsame h

theorem find_eq (path : RawText) : t'.find path = t.find path := by
  rw [find, find, lookup_congr hsame.start_eq (hsame.get?_eq h)]

theorem openFile_eq (path : RawText) : t'.openFile path = t.openFile path := by
  rw [openFile, openFile, hsame.find_eq h]

theorem isFile_eq (path : RawText) : t'.isFile path = t.isFile path := by
  rw [isFile, isFile, hsame.openFile_eq h]

theorem readText_eq (path : RawText) : t'.readText path = t.readText path := by
  rw [readText, readText, read, read, hsame.openFile_eq h]

omit h in
theorem names_perm (directory : Location) : (t'.names directory).Perm (t.names directory) :=
  hsame.perm.filterMap _

/-- A directory has the same names in both trees, or cannot be listed in either. -/
theorem list_perm (path : RawText) :
    (∃ e, t'.list path = .error e ∧ t.list path = .error e) ∨
      ∃ found' found, t'.list path = .ok found' ∧ t.list path = .ok found ∧ found'.Perm found := by
  rw [list, list, hsame.find_eq h]
  cases t.find path with
  | error e => exact .inl ⟨e, rfl, rfl⟩
  | ok r =>
    obtain ⟨there, node⟩ := r
    cases node with
    | directory => exact .inr ⟨_, _, rfl, rfl, hsame.names_perm there⟩
    | file _ | device _ | link _ => exact .inl ⟨_, rfl, rfl⟩

end SameEntries

/-! ### All orders -/

/-- An order of what the members of a list give is that of an order of the members. -/
theorem exists_perm_filterMap {α β : Type} {f : α → Option β} {bs bs' : List β}
    (h : bs'.Perm bs) {as : List α} (has : as.filterMap f = bs) :
    ∃ as' : List α, as'.Perm as ∧ as'.filterMap f = bs' := by
  induction h generalizing as with
  | nil => exact ⟨as, .refl as, has⟩
  | cons b _ ih =>
    obtain ⟨front, a, back, rfl, hfront, ha, hback⟩ := List.filterMap_eq_cons_iff.mp has
    obtain ⟨back', hperm, hback'⟩ := ih hback
    refine ⟨front ++ a :: back', (hperm.cons a).append_left front, ?_⟩
    rw [List.filterMap_append, List.filterMap_eq_nil_iff.mpr hfront, List.nil_append,
      List.filterMap_cons_some ha, hback']
  | swap b b' _ =>
    obtain ⟨front, a, _, rfl, hfront, ha, hrest⟩ := List.filterMap_eq_cons_iff.mp has
    obtain ⟨middle, a', back, rfl, hmiddle, ha', hback⟩ := List.filterMap_eq_cons_iff.mp hrest
    have hmove : ((middle ++ [a']) ++ a :: back).Perm (a :: ((middle ++ [a']) ++ back)) :=
      List.perm_middle
    refine ⟨front ++ ((middle ++ [a']) ++ a :: back), ?_, ?_⟩
    · simpa using hmove.append_left front
    · simp [List.filterMap_append, List.filterMap_eq_nil_iff.mpr hfront,
        List.filterMap_eq_nil_iff.mpr hmiddle, ha, ha', hback]
  | trans _ _ ih ih' =>
    obtain ⟨as', hperm, has'⟩ := ih' has
    obtain ⟨as'', hperm', has''⟩ := ih has'
    exact ⟨as'', hperm'.trans hperm, has''⟩

/-- Each order of the names in a directory is that of a tree with the same entries. -/
theorem exists_sameEntries (h : (t.entries.map Prod.fst).Nodup) {found found' : List RawText}
    (hfound : t.list path = .ok found) (hperm : found'.Perm found) :
    ∃ t', t.SameEntries t' ∧ t'.list path = .ok found' := by
  cases hr : t.find path with
  | error e => simp [list, hr] at hfound
  | ok r =>
    obtain ⟨there, node⟩ := r
    cases node with
    | file _ | device _ | link _ => simp [list, hr] at hfound
    | directory =>
      have hnames : t.names there = found := by simpa [list, hr] using hfound
      obtain ⟨es, hes, hnames'⟩ := exists_perm_filterMap hperm hnames
      have hsame : t.SameEntries ⟨t.start, es⟩ := ⟨rfl, hes⟩
      refine ⟨⟨t.start, es⟩, hsame, ?_⟩
      rw [list, hsame.find_eq h, hr]
      exact congrArg Except.ok hnames'

end BenchReport.Files.Tree
