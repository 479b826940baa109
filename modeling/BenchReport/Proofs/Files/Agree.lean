import BenchReport.Proofs.Files.Way

/-!
# Trees that agree on some paths

Two trees agree on a path if the same kinds of node stand on its way. Making directories and writing
files at such paths fails in both for the same reason, or in neither, and the trees agree on these
paths afterwards. So what stands elsewhere makes no difference, and neither do the bytes that stand
in a file, or those that are written to it unless there are none.
-/

namespace BenchReport.Files.Tree

variable {t t' : Tree} {known : RawText → Prop} {path : RawText} {loc : Location}
variable {bytes bytes' : List UInt8}

/-- Whether two trees agree on some paths, and the first of them has no links. -/
structure Agree (known : RawText → Prop) (t t' : Tree) : Prop where
  start_eq : t'.start = t.start
  hasNoLinks : t.HasNoLinks
  shape_eq : ∀ path, known path → ∀ loc ∈ t.way path, t'.shapeAt loc = t.shapeAt loc

namespace Agree

theorem lookup (h : Agree known t t') (hpath : known path) (intent : Intent) :
    (∃ e, t.lookup intent path = .error e ∧ t'.lookup intent path = .error e) ∨
    (∃ loc, t.lookup intent path = .ok (.free loc) ∧ t'.lookup intent path = .ok (.free loc)) ∨
    ∃ loc node node', t.lookup intent path = .ok (.taken loc node) ∧
      t'.lookup intent path = .ok (.taken loc node') ∧ node'.shape = node.shape :=
  lookup_shape h.hasNoLinks h.start_eq (h.shape_eq path hpath) intent

/-- Nodes of one kind at the same location. -/
theorem put (h : Agree known t t') {node node' : Node} (hnode : ∀ target, node ≠ .link target)
    (hshape : node'.shape = node.shape) (loc : Location) :
    Agree known (t.put loc node) (t'.put loc node') := by
  refine ⟨h.start_eq, h.hasNoLinks.put hnode loc, ?_⟩
  intro path hpath there hthere
  have hbefore := h.shape_eq path hpath there hthere
  unfold shapeAt at hbefore ⊢
  by_cases hroot : there = []
  · subst hroot
    rfl
  by_cases hsame : there = loc
  · subst hsame
    rw [get?_put_self hroot, get?_put_self hroot, Option.map_some, Option.map_some, hshape]
  · rw [get?_put_of_ne hsame, get?_put_of_ne hsame, hbefore]

/-! ### Directories -/

theorem isDirectory_eq (h : Agree known t t') (hpath : known path) :
    t'.isDirectory path = t.isDirectory path := by
  unfold isDirectory openFile find
  rcases h.lookup hpath .find with ⟨e, hp, hp'⟩ | ⟨loc, hp, hp'⟩ |
    ⟨loc, node, node', hp, hp', hshape⟩
  · rw [hp, hp']
  · rw [hp, hp']
  · have hdirectory : node' = .directory ↔ node = .directory := by
      rw [← Node.shape_eq_directory_iff, hshape, Node.shape_eq_directory_iff]
    simp [hp, hp', hdirectory]

theorem makeDirectory (h : Agree known t t') (hpath : known path) :
    (t'.makeDirectory path).fault? = (t.makeDirectory path).fault? ∧
      Agree known (t.makeDirectory path).tree (t'.makeDirectory path).tree := by
  unfold Tree.makeDirectory
  rcases h.lookup hpath .make with ⟨e, hp, hp'⟩ | ⟨loc, hp, hp'⟩ |
    ⟨loc, node, node', hp, hp', -⟩
  · rw [hp, hp']
    exact ⟨rfl, h⟩
  · rw [hp, hp']
    exact ⟨rfl, h.put (by simp) rfl loc⟩
  · rw [hp, hp']
    exact ⟨rfl, h⟩

theorem makeChain (h : Agree known t t') {paths : List RawText} (hpaths : ∀ p ∈ paths, known p) :
    (t'.makeChain paths).fault? = (t.makeChain paths).fault? ∧
      Agree known (t.makeChain paths).tree (t'.makeChain paths).tree := by
  induction paths with
  | nil => exact ⟨rfl, h⟩
  | cons path above ih =>
    obtain ⟨hpath, habove⟩ := List.forall_mem_cons.mp hpaths
    obtain ⟨hfirst, hmade⟩ := h.makeDirectory hpath
    obtain ⟨hupper, hagree⟩ := ih habove
    obtain ⟨hsecond, hmade'⟩ := hagree.makeDirectory hpath
    simp only [Tree.makeChain, hfirst, hupper, hsecond, h.isDirectory_eq hpath,
      hagree.isDirectory_eq hpath]
    split
    · exact ⟨hfirst, hmade⟩
    · split
      · exact ⟨rfl, hagree⟩
      · split
        · exact ⟨hsecond, hmade'⟩
        · split
          · exact ⟨rfl, hagree⟩
          · exact ⟨rfl, hagree⟩
    · split
      · exact ⟨rfl, h⟩
      · exact ⟨rfl, h⟩

/-! ### Files -/

theorem refusal?_of_ne_nil {kind : Device} (hbytes : bytes ≠ []) (hbytes' : bytes' ≠ []) :
    kind.refusal? bytes' = kind.refusal? bytes := by
  cases kind <;> simp [Device.refusal?, hbytes, hbytes']

/-- What is written need not be the same, unless it is nothing: nothing goes to any device. -/
theorem write (h : Agree known t t') (hpath : known path) (hbytes : bytes ≠ [])
    (hbytes' : bytes' ≠ []) :
    (t'.write path bytes').fault? = (t.write path bytes).fault? ∧
      Agree known (t.write path bytes).tree (t'.write path bytes').tree := by
  have hput : ∀ loc, Agree known (t.put loc (.file bytes)) (t'.put loc (.file bytes')) :=
    h.put (by simp) rfl
  unfold Tree.write change
  rcases h.lookup hpath .write with ⟨e, hp, hp'⟩ | ⟨loc, hp, hp'⟩ |
    ⟨loc, node, node', hp, hp', hshape⟩
  · rw [hp, hp']
    exact ⟨rfl, h⟩
  · rw [hp, hp']
    exact ⟨rfl, hput loc⟩
  · rw [hp, hp']
    rcases Node.eq_or_files_of_shape hshape with rfl | ⟨old, old', rfl, rfl⟩
    · cases node' with
      | file old => exact ⟨rfl, hput loc⟩
      | device kind => exact ⟨refusal?_of_ne_nil hbytes hbytes', h⟩
      | directory | link _ => exact ⟨rfl, h⟩
    · exact ⟨rfl, hput loc⟩

end Agree

end BenchReport.Files.Tree
