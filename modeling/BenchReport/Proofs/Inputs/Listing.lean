import BenchReport.Inputs
import BenchReport.Proofs.Files.RawText
import BenchReport.Proofs.Files.Rewriting

/-!
# The files that are listed

The files with an extension that a directory holds, in the order of the bytes of their names and
each name once (`listed_pairwise`). Other bytes in a file make no difference to what is listed
(`listed_put`).
-/

namespace BenchReport.Inputs

open Files (Tree Location RawText)

variable {t : Tree} {loc : Location} {old bytes : List UInt8}

/-- A file that is listed. -/
structure Listed where
  /-- Its name in the directory. -/
  name : RawText
  /-- The path at which it is read. -/
  path : RawText
  deriving Repr, DecidableEq

/-- The files with an extension that are listed in a directory: none, if no directory is given
or the directory cannot be listed. -/
def listed (t : Tree) (directory : Option RawText) (extension : String) : List Listed :=
  match directory with
  | none => []
  | some d =>
    match names t d extension with
    | .error _ => []
    | .ok all => all.map fun name => ⟨name, Files.Path.join d name⟩

/-- Nothing is listed where no directory is given, or none that can be listed. -/
theorem listed_eq_nil {t : Tree} {directory : Option RawText} {extension : String}
    (h : ∀ d, directory = some d → ∃ e, t.list d = .error e) :
    listed t directory extension = [] := by
  cases directory with
  | none => rfl
  | some d =>
    obtain ⟨e, he⟩ := h d rfl
    rw [listed, names, he]

/-- A directory that is enumerated in order is listed in this order. -/
theorem listed_of_pairwise {d : RawText} {extension : String} (found : List RawText)
    (hlist : t.list d = .ok found)
    (hsorted : (found.filter (isInput t d extension)).Pairwise (· ≤ ·)) :
    listed t (some d) extension
      = (found.filter (isInput t d extension)).map fun name => ⟨name, Files.Path.join d name⟩ := by
  rw [listed, names, hlist]
  exact congrArg _ (List.mergeSort_of_pairwise (hsorted.imp decide_eq_true))

theorem pairwise_names (h : (t.entries.map Prod.fst).Nodup) {d : RawText} {extension : String}
    {all : List RawText} (hall : names t d extension = .ok all) : all.Pairwise (· < ·) := by
  unfold names at hall
  cases hlist : t.list d with
  | error e => simp [hlist] at hall
  | ok found =>
    rw [hlist] at hall
    obtain rfl := Except.ok.inj hall
    let inputs := found.filter (isInput t d extension)
    have hnodup : (inputs.mergeSort (· ≤ ·)).Nodup :=
      (List.mergeSort_perm _ _).nodup_iff.mpr ((Tree.nodup_list h hlist).filter _)
    have hsorted : (inputs.mergeSort (· ≤ ·)).Pairwise (· ≤ ·) := by
      have htrans : ∀ a b c : RawText, (a ≤ b) = true → (b ≤ c) = true → (a ≤ c) = true := by
        simpa using fun a b c => Std.le_trans
      have htotal : ∀ a b : RawText, (decide (a ≤ b) || decide (b ≤ a)) = true := by
        simpa using fun a b : RawText => Std.le_total (a := a) (b := b)
      exact (List.pairwise_mergeSort (by simpa using htrans) htotal inputs).imp (by simp)
    exact (hsorted.and hnodup).imp fun ⟨hle, hne⟩ => Std.lt_of_le_of_ne hle hne

/-- What is listed: the files of the directory with the extension, at their paths. -/
theorem mem_listed_iff {directory : Option RawText} {extension : String} {f : Listed} :
    f ∈ listed t directory extension ↔
      ∃ d found, directory = some d ∧ t.list d = .ok found ∧ f.name ∈ found ∧
        isInput t d extension f.name = true ∧ f.path = Files.Path.join d f.name := by
  cases directory with
  | none => simp [listed]
  | some d =>
    cases hlist : t.list d with
    | error e => simp [listed, names, hlist]
    | ok found =>
      obtain ⟨name, path⟩ := f
      simp only [listed, names, hlist, List.mem_map, List.mem_mergeSort, List.mem_filter,
        Listed.mk.injEq, Option.some.injEq]
      constructor
      · rintro ⟨_, ⟨hfound, hinput⟩, rfl, rfl⟩
        exact ⟨d, found, rfl, hlist, hfound, hinput, rfl⟩
      · rintro ⟨_, _, rfl, hlist', hfound, hinput, rfl⟩
        obtain rfl := Except.ok.inj (hlist.symm.trans hlist')
        exact ⟨name, ⟨hfound, hinput⟩, rfl, rfl⟩

/-- The files that are listed stand in the order of their names, each name once. -/
theorem listed_pairwise (h : (t.entries.map Prod.fst).Nodup) (directory : Option RawText)
    (extension : String) : (listed t directory extension).Pairwise fun f g => f.name < g.name := by
  unfold listed
  split
  · exact .nil
  · next d =>
    split
    · exact .nil
    · next all hall => exact (pairwise_names h hall).map _ fun _ _ hlt => hlt

/-- Other bytes in a file leave the files that are listed as they are. -/
theorem listed_put (h : t.get? loc = some (.file old)) (directory : Option RawText)
    (extension : String) :
    listed (t.put loc (.file bytes)) directory extension = listed t directory extension := by
  have hnames : ∀ d, names (t.put loc (.file bytes)) d extension = names t d extension := by
    intro d
    have hinput : isInput (t.put loc (.file bytes)) d extension = isInput t d extension := by
      funext name
      rw [isInput, isInput, Tree.isFile_put h]
    rw [names, names, Tree.list_put h, hinput]
  cases directory with
  | none => rfl
  | some d => rw [listed, listed, hnames]

end BenchReport.Inputs
