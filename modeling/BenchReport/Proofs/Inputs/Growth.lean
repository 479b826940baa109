import BenchReport.Proofs.Files.Growth
import BenchReport.Proofs.Inputs.Accounts

/-!
# Inputs in a tree that has grown

Directories that were made and files that were written in other places than those of inputs make no
difference to what is listed (`listed_eq_of_grows`) and to what is read (`load_of_grows`). A
directory that is new holds nothing but what is new, so nothing is listed in it. The one way in
which growth is seen is a path that goes up from a new directory to one that was there before.
-/

namespace BenchReport.Inputs

open Files (Location RawText Tree)
open Files.Path (IsName)

variable {t t' : Tree} {directory : Option RawText} {extension : String} {f : Listed}

theorem list_eq_ok_iff {d : RawText} {found : List RawText} :
    t.list d = .ok found ↔ ∃ loc, t.find d = .ok (loc, .directory) ∧ t.names loc = found := by
  unfold Tree.list
  cases t.find d with
  | error e => simp
  | ok r =>
    obtain ⟨loc, node⟩ := r
    cases node <;> simp [Prod.ext_iff]

/-- What is listed: what stands in the directory, is a file and has the extension. -/
theorem mem_listed_iff_find :
    f ∈ listed t directory extension ↔
      ∃ d loc node, directory = some d ∧ t.find d = .ok (loc, .directory) ∧
        t.get? (loc ++ [f.name]) = some node ∧ isInput t d extension f.name = true ∧
        f.path = Files.Path.join d f.name := by
  rw [mem_listed_iff]
  constructor
  · rintro ⟨d, found, hd, hlist, hmem, hinput, hpath⟩
    obtain ⟨loc, hfind, rfl⟩ := list_eq_ok_iff.mp hlist
    obtain ⟨node, hnode⟩ := Tree.mem_names_iff.mp hmem
    exact ⟨d, loc, node, hd, hfind, hnode, hinput, hpath⟩
  · rintro ⟨d, loc, node, hd, hfind, hnode, hinput, hpath⟩
    exact ⟨d, _, hd, list_eq_ok_iff.mpr ⟨loc, hfind, rfl⟩,
      Tree.mem_names_iff.mpr ⟨node, hnode⟩, hinput, hpath⟩

/-- Whether a directory that is found in a later tree was found before or was not there, if its path
goes up. -/
def WasFound (t t' : Tree) (directory : Option RawText) : Prop :=
  ∀ d, directory = some d → ↑".." ∈ Files.stepsOf d → t'.isDirectory d = true →
    t.isDirectory d = true ∨ t.get? (t.location d) ≠ some .directory

section

variable {made written : RawText → Prop} (hgrows : Tree.Grows made written t t')
  (hproper : t.IsProper) (hlinks : t.HasNoLinks)

include hgrows hproper hlinks

theorem mem_listed_of_grows (hf : f ∈ listed t directory extension) :
    f ∈ listed t' directory extension := by
  obtain ⟨d, loc, node, hd, hfind, hnode, hinput, hpath⟩ := mem_listed_iff_find.mp hf
  have hname := hproper.isName_of_get? hnode
  have hshape := hgrows.shapeAt_eq hnode
  rw [Tree.shapeAt, Tree.shapeAt, hnode] at hshape
  obtain ⟨node', hnode', -⟩ := Option.map_eq_some_iff.mp hshape
  refine mem_listed_iff_find.mpr
    ⟨d, loc, node', hd, hgrows.find_directory hlinks hfind, hnode', ?_, hpath⟩
  rw [isInput, hgrows.isFile_join hlinks hfind hname hnode]
  exact hinput

theorem find_of_wasFound {d : RawText} {loc : Location} (hfound : WasFound t t' (some d))
    (hdirectory : t.get? loc = some .directory) (hfind : t'.find d = .ok (loc, .directory)) :
    t.find d = .ok (loc, .directory) := by
  obtain rfl := hgrows.location_of_find hlinks hfind
  by_cases hup : ↑".." ∈ Files.stepsOf d
  · rcases hfound d rfl hup (Tree.isDirectory_iff.mpr ⟨_, hfind⟩) with hbefore | hnew
    · obtain ⟨loc, hfind'⟩ := Tree.isDirectory_iff.mp hbefore
      rw [hfind', Tree.location_of_find hlinks hfind']
    · exact absurd hdirectory hnew
  · exact hgrows.find_directory_of_no_up hproper hlinks hup hdirectory hfind

omit hlinks in
/-- A file that is listed is none that was written under a name with another extension. -/
theorem location_ne_of_extension? {base name : RawText} (hname : IsName name)
    (hextension : Files.Path.extension? name ≠ some extension)
    (hf : f ∈ listed t' directory extension) :
    t.location f.path ≠ t.location (Files.Path.join base name) := by
  obtain ⟨d, loc, node, -, -, hnode, hinput, hpath⟩ := mem_listed_iff_find.mp hf
  rw [hpath, Tree.location_join (hgrows.isName_of_get? hproper hnode), Tree.location_join hname]
  intro hsame
  have hlast : f.name = name := List.singleton_inj.mp (List.append_inj' hsame rfl).2
  rw [isInput, hlast, Bool.and_eq_true, beq_iff_eq] at hinput
  exact hextension hinput.2

theorem mem_listed_before (hfound : WasFound t t' directory)
    (hapart : ∀ path, written path → t.location f.path ≠ t.location path)
    (hf : f ∈ listed t' directory extension) : f ∈ listed t directory extension := by
  obtain ⟨d, loc, node, rfl, hfind, hnode, hinput, hpath⟩ := mem_listed_iff_find.mp hf
  have hname := hgrows.isName_of_get? hproper hnode
  have hjoin : t.location f.path = loc ++ [f.name] := by
    rw [hpath, Tree.location_join hname, hgrows.location_of_find hlinks hfind]
  have hfile : node.isFile = true := by
    obtain ⟨node', -, hfile, hnode'⟩ := Tree.find_of_isFile (hgrows.hasNoLinks hlinks)
      (Bool.and_eq_true_iff.mp hinput).1
    rw [← hpath, hgrows.location_eq, hjoin, hnode] at hnode'
    rw [Option.some.inj hnode']
    exact hfile
  have hbefore : t.get? (loc ++ [f.name]) = some node := by
    rcases hgrows.get?_cases (loc ++ [f.name]) with hsame | ⟨-, -, hdirectory⟩ |
      ⟨⟨path, hpath, hplace⟩, -⟩
    · exact hsame.symm.trans hnode
    · obtain rfl := Option.some.inj (hnode.symm.trans hdirectory)
      cases hfile
    · exact absurd (hjoin.trans hplace) (hapart path hpath)
  have hfind' : t.find d = .ok (loc, .directory) :=
    find_of_wasFound hgrows hproper hlinks hfound (hproper.get?_front hbefore) hfind
  refine mem_listed_iff_find.mpr ⟨d, loc, node, rfl, hfind', hbefore, ?_, hpath⟩
  rw [isInput, ← hgrows.isFile_join hlinks hfind' hname hbefore]
  exact hinput

/-- The same files are listed, if none of them was written. -/
theorem listed_eq_of_grows (hfound : WasFound t t' directory)
    (hapart : ∀ f ∈ listed t' directory extension, ∀ path, written path →
      t.location f.path ≠ t.location path) :
    listed t' directory extension = listed t directory extension := by
  have hirrefl : ∀ {f g : Listed}, f.name < g.name → f ≠ g := by
    rintro f g hlt rfl
    exact Std.lt_irrefl hlt
  have hascending := listed_pairwise hproper.distinct directory extension
  have hascending' := listed_pairwise (hgrows.distinct hproper.distinct) directory extension
  have hperm : (listed t' directory extension).Perm (listed t directory extension) := by
    refine (List.perm_ext_iff_of_nodup (hascending'.imp hirrefl) (hascending.imp hirrefl)).mpr ?_
    intro f
    exact ⟨fun hf => mem_listed_before hgrows hproper hlinks hfound (hapart f hf) hf,
      mem_listed_of_grows hgrows hproper hlinks⟩
  refine hperm.eq_of_pairwise (fun f g _ _ hfg hgf => ?_) hascending' hascending
  exact absurd (Std.lt_trans hfg hgf) Std.lt_irrefl

/-- A file that is listed is read as before, if it was not written. -/
theorem openFile_of_grows (hapart : ∀ path, written path → t.location f.path ≠ t.location path)
    (hf : f ∈ listed t directory extension) : t'.openFile f.path = t.openFile f.path := by
  obtain ⟨d, loc, node, rfl, hfind, hnode, hinput, hpath⟩ := mem_listed_iff_find.mp hf
  have hname := hproper.isName_of_get? hnode
  have hjoin : t.location f.path = loc ++ [f.name] := by
    rw [hpath, Tree.location_join hname, Tree.location_of_find hlinks hfind]
  have hkept : t'.get? (loc ++ [f.name]) = t.get? (loc ++ [f.name]) := by
    rcases hgrows.get?_cases (loc ++ [f.name]) with hsame | ⟨-, hfree, -⟩ |
      ⟨⟨path, hpath, hplace⟩, -⟩
    · exact hsame
    · cases hfree.symm.trans hnode
    · exact absurd (hjoin.trans hplace) (hapart path hpath)
  rw [hpath]
  exact hgrows.openFile_join hlinks hfind hname hnode (Bool.and_eq_true_iff.mp hinput).1 hkept

variable {timings measurements : Option RawText}

/-- **What is loaded is the same in a tree that has grown**, if no file that is listed was written
and no path goes up from a new directory to one that was there before. -/
theorem load_of_grows (hfound : WasFound t t' timings) (hfound' : WasFound t t' measurements)
    (hapart : ∀ f ∈ listed t' timings timingExtension, ∀ path, written path →
      t.location f.path ≠ t.location path)
    (hapart' : ∀ f ∈ listed t' measurements measurementExtension, ∀ path, written path →
      t.location f.path ≠ t.location path) :
    (load t' timings measurements).timingFiles = (load t timings measurements).timingFiles ∧
    (load t' timings measurements).measurementFiles
      = (load t timings measurements).measurementFiles ∧
    (load t' timings measurements).exclusions = (load t timings measurements).exclusions := by
  have hlisted := listed_eq_of_grows hgrows hproper hlinks hfound hapart
  have hlisted' := listed_eq_of_grows hgrows hproper hlinks hfound' hapart'
  rw [hlisted] at hapart
  rw [hlisted'] at hapart'
  have htimings : ∀ f ∈ listed t timings timingExtension,
      readTimings t' f.path = readTimings t f.path := by
    intro f hf
    rw [readTimings, readTimings, openFile_of_grows hgrows hproper hlinks (hapart f hf) hf]
  have hmeasurements : ∀ f ∈ listed t measurements measurementExtension,
      readMeasurement t' f.path = readMeasurement t f.path := by
    intro f hf
    rw [readMeasurement, readMeasurement, Tree.readText, Tree.readText, Tree.read, Tree.read,
      openFile_of_grows hgrows hproper hlinks (hapart' f hf) hf]
  refine ⟨?_, ?_, ?_⟩
  · rw [timingFiles_load, timingFiles_load, hlisted]
    exact List.map_congr_left fun f hf => by rw [htimings f hf]
  · rw [measurementFiles_load, measurementFiles_load, hlisted']
    exact List.map_congr_left fun f hf => by rw [hmeasurements f hf]
  · rw [exclusions_load, exclusions_load, hlisted, hlisted']
    refine congrArg₂ _ (List.filterMap_congr fun f hf => ?_) (List.filterMap_congr fun f hf => ?_)
    · rw [Listed.timingExclusion?, Listed.timingExclusion?, exclusion?, exclusion?, htimings f hf]
    · rw [Listed.measurementExclusion?, Listed.measurementExclusion?, exclusion?, exclusion?,
        hmeasurements f hf]

end

end BenchReport.Inputs
