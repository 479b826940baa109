import BenchReport.Proofs.Files.Rewriting
import BenchReport.Proofs.Files.Way
import Mathlib.Data.List.Induction

/-!
# Trees that have grown

Making directories and writing files leaves a tree as it was, but for directories where nothing was
and for the bytes of files (`Grows`). A directory that was found is found afterwards, and so is a
file in it, with its bytes unless it was written (`Grows.openFile_join`). In a proper tree whatever
stands somewhere stands in a directory, so a directory that is new has nothing in it but what is
new.
-/

namespace BenchReport.Files.Tree

variable {t t' : Tree} {loc : Location} {node : Node} {path name : RawText}

/-! ### Proper trees -/

/-- Whether a tree is one that a file system can hold: each location has one entry, is made of names
and lies in a directory. -/
structure IsProper (t : Tree) : Prop where
  distinct : (t.entries.map Prod.fst).Nodup
  names : ∀ e ∈ t.entries, ∀ name ∈ e.1, Path.IsName name
  inDirectory : ∀ e ∈ t.entries, t.get? e.1.dropLast = some .directory
  startNames : ∀ name ∈ t.start, Path.IsName name

instance (t : Tree) : Decidable t.IsProper :=
  decidable_of_iff ((t.entries.map Prod.fst).Nodup ∧
      (∀ e ∈ t.entries, ∀ name ∈ e.1, Path.IsName name) ∧
      (∀ e ∈ t.entries, t.get? e.1.dropLast = some .directory) ∧
      ∀ name ∈ t.start, Path.IsName name)
    ⟨fun ⟨h₁, h₂, h₃, h₄⟩ => ⟨h₁, h₂, h₃, h₄⟩, fun ⟨h₁, h₂, h₃, h₄⟩ => ⟨h₁, h₂, h₃, h₄⟩⟩

theorem mem_names_iff {directory : Location} :
    name ∈ t.names directory ↔ ∃ node, t.get? (directory ++ [name]) = some node := by
  rw [names_eq, List.mem_filterMap]
  constructor
  · rintro ⟨loc, hloc, hname⟩
    rw [nameIn?_eq_some_iff] at hname
    subst hname
    obtain ⟨e, he, hloc⟩ := List.mem_map.mp hloc
    have hfound : (t.entries.find? (·.1 == directory ++ [name])).isSome := by
      rw [List.find?_isSome]
      exact ⟨e, he, by simp [hloc]⟩
    obtain ⟨e', he'⟩ := Option.isSome_iff_exists.mp hfound
    exact ⟨e'.2, by simp [get?, he']⟩
  · rintro ⟨node, hnode⟩
    exact ⟨_, List.mem_map.mpr ⟨_, mem_entries_of_get? (by simp) hnode, rfl⟩,
      nameIn?_eq_some_iff.mpr rfl⟩

namespace IsProper

variable (h : t.IsProper)

include h

theorem isName_of_get? (hnode : t.get? (loc ++ [name]) = some node) : Path.IsName name :=
  h.names _ (mem_entries_of_get? (by simp) hnode) name (by simp)

/-- What stands somewhere stands in a directory. -/
theorem get?_front (hnode : t.get? (loc ++ [name]) = some node) :
    t.get? loc = some .directory := by
  simpa using h.inDirectory _ (mem_entries_of_get? (by simp) hnode)

theorem get?_prefix {rest : List RawText} (hnode : t.get? (loc ++ rest) = some .directory) :
    t.get? loc = some .directory := by
  induction rest using List.reverseRecOn with
  | nil => simpa using hnode
  | append_singleton rest name ih =>
    rw [← List.append_assoc] at hnode
    exact ih (h.get?_front hnode)

end IsProper

/-- The names of a place are names. -/
theorem isName_of_mem_descend {here : Location} {steps : List RawText}
    (hhere : ∀ name ∈ here, Path.IsName name) (hsteps : ∀ step ∈ steps, RawText.slash ∉ step.bytes)
    (hname : name ∈ descend here steps) : Path.IsName name := by
  induction steps generalizing here with
  | nil => exact hhere name hname
  | cons step rest ih =>
    obtain ⟨hstep, hrest⟩ := List.forall_mem_cons.mp hsteps
    rw [descend] at hname
    split at hname
    · exact ih hhere hrest hname
    · next hidle =>
      split at hname
      · exact ih (fun name hname => hhere name (List.dropLast_subset _ hname)) hrest hname
      · next hup =>
        apply ih _ hrest hname
        intro name hname
        rcases List.mem_append.mp hname with hname | hname
        · exact hhere name hname
        · obtain rfl := List.mem_singleton.mp hname
          exact ⟨hstep, fun h => hidle (.inl h), fun h => hidle (.inr h), hup⟩

theorem isName_of_mem_location (h : t.IsProper) (path : RawText)
    (hname : name ∈ t.location path) : Path.IsName name := by
  apply isName_of_mem_descend _ _ hname
  · intro name hname
    split at hname
    · cases hname
    · exact h.startNames name hname
  · intro step hstep
    obtain ⟨piece, hpiece, rfl⟩ := List.mem_map.mp hstep
    exact Text.not_mem_of_mem_splitOn hpiece

theorem putEntry_of_not_mem {es : List (Location × Node)} (h : loc ∉ es.map Prod.fst) :
    putEntry loc node es = es ++ [(loc, node)] := by
  induction es with
  | nil => rfl
  | cons e es ih =>
    rw [List.map_cons, List.mem_cons, not_or] at h
    rw [putEntry, if_neg (Ne.symm h.1), ih h.2, List.cons_append]

theorem nodup_putEntry {es : List (Location × Node)} (h : (es.map Prod.fst).Nodup) :
    ((putEntry loc node es).map Prod.fst).Nodup := by
  by_cases hloc : loc ∈ es.map Prod.fst
  · rw [map_fst_putEntry hloc]
    exact h
  · rw [putEntry_of_not_mem hloc, List.map_append, List.map_singleton]
    refine List.nodup_append.mpr ⟨h, List.nodup_singleton _, ?_⟩
    intro there hthere last hlast hsame
    rw [hsame, List.mem_singleton.mp hlast] at hthere
    exact hloc hthere

/-! ### Growth -/

/-- Whether a tree comes of another by making directories and writing files, at paths for each of
the two. -/
structure Grows (made written : RawText → Prop) (t t' : Tree) : Prop where
  start_eq : t'.start = t.start
  distinct : (t.entries.map Prod.fst).Nodup → (t'.entries.map Prod.fst).Nodup
  get?_cases : ∀ loc, t'.get? loc = t.get? loc ∨
    (∃ path, made path ∧ loc = t.location path) ∧ t.get? loc = none ∧
      t'.get? loc = some .directory ∨
    (∃ path, written path ∧ loc = t.location path) ∧ t.IsOpen loc ∧
      ∃ bytes, t'.get? loc = some (.file bytes)

namespace Grows

variable {made written : RawText → Prop}

theorem refl (made written : RawText → Prop) (t : Tree) : Grows made written t t :=
  ⟨rfl, id, fun _ => .inl rfl⟩

variable (h : Grows made written t t')

include h

/-- A node that is new, or other bytes, where the growth allows for it. -/
theorem put (hne : loc ≠ [])
    (hloc : (∃ path, made path ∧ loc = t.location path) ∧ t.get? loc = none ∧ node = .directory ∨
      (∃ path, written path ∧ loc = t.location path) ∧ t.IsOpen loc ∧
        ∃ bytes, node = .file bytes) :
    Grows made written t (t'.put loc node) := by
  refine ⟨h.start_eq, ?_, ?_⟩
  · intro hdistinct
    exact nodup_putEntry (h.distinct hdistinct)
  · intro other
    by_cases hother : other = loc
    · subst hother
      rw [get?_put_self hne]
      simpa using .inr hloc
    · rw [get?_put_of_ne hother]
      exact h.get?_cases other

theorem putDirectory (hpath : made path) (hfree : t'.get? (t.location path) = none) :
    Grows made written t (t'.put (t.location path) .directory) := by
  have hbefore : t.get? (t.location path) = none := by
    rcases h.get?_cases (t.location path) with hsame | ⟨-, -, hdirectory⟩ | ⟨-, -, bytes, hfile⟩
    · exact hsame.symm.trans hfree
    · cases hfree.symm.trans hdirectory
    · cases hfree.symm.trans hfile
  exact h.put (IsOpen.ne_nil (.inl hfree)) (.inl ⟨⟨path, hpath, rfl⟩, hbefore, rfl⟩)

theorem putFile (hpath : written path) (hopen : t'.IsOpen (t.location path))
    (bytes : List UInt8) : Grows made written t (t'.put (t.location path) (.file bytes)) := by
  have hbefore : t.IsOpen (t.location path) := by
    rcases h.get?_cases (t.location path) with hsame | ⟨-, -, hdirectory⟩ | ⟨-, hbefore, -⟩
    · rw [IsOpen, ← hsame]
      exact hopen
    · simp [IsOpen, hdirectory] at hopen
    · exact hbefore
  exact h.put hopen.ne_nil (.inr ⟨⟨path, hpath, rfl⟩, hbefore, bytes, rfl⟩)

theorem hasNoLinks (hlinks : t.HasNoLinks) : t'.HasNoLinks := by
  intro loc target hlink
  rcases h.get?_cases loc with hsame | ⟨-, -, hdirectory⟩ | ⟨-, -, bytes, hfile⟩
  · exact hlinks loc target (hsame.symm.trans hlink)
  · cases hdirectory.symm.trans hlink
  · cases hfile.symm.trans hlink

theorem location_eq (path : RawText) : t'.location path = t.location path := by
  rw [location, location, h.start_eq]

theorem way_eq (path : RawText) : t'.way path = t.way path := by
  rw [way, way, h.start_eq]

theorem location_of_find (hlinks : t.HasNoLinks) (hfind : t'.find path = .ok (loc, node)) :
    t.location path = loc := by
  rw [← h.location_eq]
  exact Tree.location_of_find (h.hasNoLinks hlinks) hfind

theorem makeDirectory (hlinks : t.HasNoLinks) (hpath : made path) :
    Grows made written t (t'.makeDirectory path).tree := by
  unfold Tree.makeDirectory
  split
  · exact h
  · exact h
  · next loc hp =>
    have hfree : t'.get? loc = none := stands_of_lookup hp
    obtain rfl : loc = t.location path := by
      rw [← h.location_eq]
      exact location_of_lookup (h.hasNoLinks hlinks) hp
    exact h.putDirectory hpath hfree

theorem makeDirectories (hlinks : t.HasNoLinks) (hpaths : ∀ p ∈ Path.lineage path, made p) :
    Grows made written t (t'.makeDirectories path).tree :=
  makeChain_induction (fun _ p hp h => h.makeDirectory hlinks (hpaths p hp)) h

/-- Writing a file changes what stands at the location of its path, or nothing. -/
theorem write (hlinks : t.HasNoLinks) (hpath : written path) (bytes : List UInt8) :
    Grows made written t (t'.write path bytes).tree := by
  rcases write_tree_cases (h.hasNoLinks hlinks) path bytes with htree | ⟨hopen, htree⟩
  · rw [htree]
    exact h
  · rw [htree, h.location_eq]
    exact h.putFile hpath (h.location_eq path ▸ hopen) bytes

/-! ### What is found in a tree that has grown -/

/-- What stands somewhere keeps its kind. -/
theorem shapeAt_eq (hnode : t.get? loc = some node) : t'.shapeAt loc = t.shapeAt loc := by
  unfold shapeAt
  rcases h.get?_cases loc with hsame | ⟨-, hfree, -⟩ | ⟨-, hopen, bytes, hfile⟩
  · rw [hsame]
  · cases hfree.symm.trans hnode
  · rcases hopen with hfree | ⟨old, hold⟩
    · cases hfree.symm.trans hnode
    · rw [hold, hfile]
      rfl

/-- What is new has a name as well. -/
theorem isName_of_get? (hproper : t.IsProper) (hnode : t'.get? (loc ++ [name]) = some node) :
    Path.IsName name := by
  rcases h.get?_cases (loc ++ [name]) with hsame | ⟨⟨path, -, hplace⟩, -⟩ | ⟨⟨path, -, hplace⟩, -⟩
  · exact hproper.isName_of_get? (hsame.symm.trans hnode)
  · exact isName_of_mem_location hproper path (by simp [← hplace])
  · exact isName_of_mem_location hproper path (by simp [← hplace])

theorem find_directory (hlinks : t.HasNoLinks) (hfind : t.find path = .ok (loc, .directory)) :
    t'.find path = .ok (loc, .directory) := by
  apply find_of_shape hlinks h.start_eq _ hfind (.inl rfl)
  intro there hthere
  exact h.shapeAt_eq (way_of_find_directory hlinks hfind hthere)

/-- A directory that was there before is found as before by a path that does not go up. -/
theorem find_directory_of_no_up (hproper : t.IsProper) (hlinks : t.HasNoLinks)
    (hup : ↑".." ∉ stepsOf path) (hdirectory : t.get? (t.location path) = some .directory)
    (hfind : t'.find path = .ok (loc, .directory)) : t.find path = .ok (loc, .directory) := by
  apply find_of_shape (h.hasNoLinks hlinks) h.start_eq.symm _ hfind (.inl rfl)
  intro there hthere
  rw [h.way_eq] at hthere
  obtain ⟨rest, hrest⟩ := prefix_of_mem_way hup hthere
  rw [← hrest] at hdirectory
  exact (h.shapeAt_eq (hproper.get?_prefix hdirectory)).symm

variable {directory : RawText} (hlinks : t.HasNoLinks)
  (hfind : t.find directory = .ok (loc, .directory)) (hname : Path.IsName name)
  (hnode : t.get? (loc ++ [name]) = some node)

include hlinks hfind hname hnode

theorem shapeAt_way_join {there : Location} (hthere : there ∈ t.way (Path.join directory name)) :
    t'.shapeAt there = t.shapeAt there := by
  rcases (mem_way_join_iff hname t directory).mp hthere with hway | hend
  · exact h.shapeAt_eq (way_of_find_directory hlinks hfind hway)
  · rw [hend, Tree.location_of_find hlinks hfind]
    exact h.shapeAt_eq hnode

theorem isFile_join :
    t'.isFile (Path.join directory name) = t.isFile (Path.join directory name) :=
  isFile_of_shape hlinks h.start_eq fun _ => h.shapeAt_way_join hlinks hfind hname hnode

/-- A file is found as before unless something was written there. -/
theorem openFile_join (hfile : t.isFile (Path.join directory name) = true)
    (hkept : t'.get? (loc ++ [name]) = t.get? (loc ++ [name])) :
    t'.openFile (Path.join directory name) = t.openFile (Path.join directory name) := by
  have hloc : t.location (Path.join directory name) = loc ++ [name] := by
    rw [location_join hname, Tree.location_of_find hlinks hfind]
  obtain ⟨found, hfound, -, hstands⟩ := find_of_isFile hlinks hfile
  rw [hloc] at hfound hstands
  have hfound' : t'.find (Path.join directory name) = .ok (loc ++ [name], found) :=
    find_of_shape hlinks h.start_eq (fun _ => h.shapeAt_way_join hlinks hfind hname hnode) hfound
      (.inr (hkept.trans hstands))
  rw [openFile, openFile, hfound, hfound']

end Grows

end BenchReport.Files.Tree
