import BenchReport.Files.Reading
import BenchReport.Proofs.Files.Path
import BenchReport.Proofs.Files.Writing

/-!
# The way of a path

Without links a path comes by the locations that its text tells. What a look-up comes to depends on
what kind of node stands at each of these, and on nothing else in the tree (`lookup_shape`). What is
found depends on the node at the end besides (`find_of_shape`). A path that leads to a directory
comes by nothing but directories (`way_of_find_directory`).
-/

namespace BenchReport.Files

/-- A node without the bytes that it may have. -/
def Node.shape : Node → Node := refill []

@[simp] theorem Node.shape_eq_directory_iff {node : Node} :
    node.shape = .directory ↔ node = .directory := by
  cases node <;> simp [shape, refill]

/-- Nodes of one kind differ in the bytes of a file only. -/
theorem Node.eq_or_files_of_shape {node node' : Node} (h : node'.shape = node.shape) :
    node' = node ∨ ∃ old old', node = .file old ∧ node' = .file old' := by
  cases node <;> cases node' <;> simp_all [shape, refill]

theorem Node.isFile_of_shape {node node' : Node} (h : node'.shape = node.shape) :
    node'.isFile = node.isFile := by
  rcases eq_or_files_of_shape h with rfl | ⟨old, old', rfl, rfl⟩
  · rfl
  · rfl

/-- A place without the bytes that a file there may have. -/
def Place.shape : Place → Place
  | .taken there node => .taken there node.shape
  | .free there => .free there

namespace Tree

variable {t t' : Tree} {intent : Intent} {path : RawText} {loc : Location}
variable {k k' : Location → List RawText → Except Fault Place}

/-- The locations that steps come by, if no link is among them. -/
def passes (here : Location) : List RawText → List Location
  | [] => []
  | step :: rest =>
    if step = "" ∨ step = "." then passes here rest
    else if step = ".." then passes here.dropLast rest
    else (here ++ [step]) :: passes (here ++ [step]) rest

/-- The locations that a path comes by, if no link is among them. -/
def way (t : Tree) (path : RawText) : List Location :=
  passes (if isAbsolute path then [] else t.start) (stepsOf path)

/-- What kind of node stands at a location. -/
def shapeAt (t : Tree) (loc : Location) : Option Node := (t.get? loc).map Node.shape

theorem passes_append (here : Location) (steps rest : List RawText) :
    passes here (steps ++ rest) = passes here steps ++ passes (descend here steps) rest := by
  fun_induction passes here steps with
  | case1 => rfl
  | case2 here step steps hidle ih =>
    rw [List.cons_append, passes, if_pos hidle, ih, descend, if_pos hidle]
  | case3 here steps hidle ih =>
    rw [List.cons_append, passes, if_neg hidle, if_pos rfl, ih, descend, if_neg hidle, if_pos rfl]
  | case4 here step steps hidle hup ih =>
    rw [List.cons_append, passes, if_neg hidle, if_neg hup, ih, descend, if_neg hidle, if_neg hup,
      List.cons_append]

theorem prefix_descend {steps : List RawText} (h : ↑".." ∉ steps) (here : Location) :
    here <+: descend here steps := by
  fun_induction descend here steps with
  | case1 => exact List.prefix_rfl
  | case2 _ _ _ _ ih => exact ih (List.not_mem_of_not_mem_cons h)
  | case3 => simp at h
  | case4 here step rest _ _ ih =>
    exact (List.prefix_append here [step]).trans (ih (List.not_mem_of_not_mem_cons h))

theorem prefix_of_mem_passes {here : Location} {steps : List RawText} (h : ↑".." ∉ steps)
    (hloc : loc ∈ passes here steps) : loc <+: descend here steps := by
  fun_induction passes here steps with
  | case1 => cases hloc
  | case2 here step rest hidle ih =>
    rw [descend, if_pos hidle]
    exact ih (List.not_mem_of_not_mem_cons h) hloc
  | case3 => simp at h
  | case4 here step rest hidle hup ih =>
    have hrest : ↑".." ∉ rest := List.not_mem_of_not_mem_cons h
    rw [descend, if_neg hidle, if_neg hup]
    rcases List.mem_cons.mp hloc with rfl | hloc
    · exact prefix_descend hrest _
    · exact ih hrest hloc

/-- A path that does not go up comes by nothing but what is above the location that it leads to. -/
theorem prefix_of_mem_way (h : ↑".." ∉ stepsOf path) (hloc : loc ∈ t.way path) :
    loc <+: t.location path :=
  prefix_of_mem_passes h hloc

/-! ### What a look-up depends on -/

theorem arrive_shape (hlinks : t.HasNoLinks) {here there : Location} {rest : List RawText}
    (hthere : t'.shapeAt there = t.shapeAt there)
    (hwalk : (t'.walk intent k' there rest).map Place.shape
      = (t.walk intent k there rest).map Place.shape) :
    (t'.arrive intent k' here there rest (t'.get? there)).map Place.shape
      = (t.arrive intent k here there rest (t.get? there)).map Place.shape := by
  unfold shapeAt at hthere
  cases hfound : t.get? there with
  | none =>
    have hnone : t'.get? there = none := by simpa [hfound] using hthere
    rw [hnone]
    rfl
  | some node =>
    obtain ⟨node', hfound', hshape⟩ : ∃ node', t'.get? there = some node' ∧
        node'.shape = node.shape := by
      simpa [hfound] using hthere
    rw [hfound']
    rcases Node.eq_or_files_of_shape hshape with rfl | ⟨old, old', rfl, rfl⟩
    · cases node' with
      | link target => exact absurd hfound (hlinks there target)
      | directory => exact hwalk
      | file _ | device _ => rfl
    · simp only [arrive]
      split <;> rfl

theorem walk_shape (hlinks : t.HasNoLinks) {here : Location} {steps : List RawText}
    (h : ∀ loc ∈ passes here steps, t'.shapeAt loc = t.shapeAt loc) :
    (t'.walk intent k' here steps).map Place.shape
      = (t.walk intent k here steps).map Place.shape := by
  induction steps generalizing here with
  | nil => rfl
  | cons step rest ih =>
    by_cases hidle : step = "" ∨ step = "."
    · simp only [passes, walk, if_pos hidle] at h ⊢
      exact ih h
    by_cases hup : step = ".."
    · simp only [passes, walk, if_neg hidle, if_pos hup] at h ⊢
      exact ih h
    by_cases hslash : intent = .write ∧ isLast rest ∧ rest ≠ []
    · simp only [walk, if_neg hidle, if_neg hup, if_pos hslash]
    by_cases hlong : 255 < step.bytes.length
    · simp only [walk, if_neg hidle, if_neg hup, if_neg hslash, if_pos hlong]
    · simp only [passes, if_neg hidle, if_neg hup, List.forall_mem_cons] at h
      rw [walk_name hidle hup hslash hlong rfl, walk_name hidle hup hslash hlong rfl]
      exact arrive_shape hlinks h.1 (ih h.2)

/-- A look-up depends on the kinds of node that stand on the way of the path: it fails in both
trees, or comes to the same free place, or to nodes of one kind. -/
theorem lookup_shape (hlinks : t.HasNoLinks) (hstart : t'.start = t.start)
    (h : ∀ loc ∈ t.way path, t'.shapeAt loc = t.shapeAt loc) (intent : Intent) :
    (∃ e, t.lookup intent path = .error e ∧ t'.lookup intent path = .error e) ∨
    (∃ loc, t.lookup intent path = .ok (.free loc) ∧ t'.lookup intent path = .ok (.free loc)) ∨
    ∃ loc node node', t.lookup intent path = .ok (.taken loc node) ∧
      t'.lookup intent path = .ok (.taken loc node') ∧ node'.shape = node.shape := by
  have hshape : (t'.lookup intent path).map Place.shape
      = (t.lookup intent path).map Place.shape := by
    rcases lookup_eq path with ⟨e, he⟩ | heq
    · rw [he, he]
    · rw [heq, heq, hstart]
      exact walk_shape hlinks h
  generalize t.lookup intent path = r at hshape ⊢
  generalize t'.lookup intent path = r' at hshape ⊢
  rcases r with e | ⟨loc, node⟩ | loc <;> rcases r' with e' | ⟨loc', node'⟩ | loc' <;>
    simp_all [Except.map, Place.shape]

theorem find_eq_ok_iff {node : Node} :
    t.find path = .ok (loc, node) ↔ t.lookup .find path = .ok (.taken loc node) := by
  unfold find
  split <;> simp_all

theorem location_of_find (hlinks : t.HasNoLinks) {node : Node}
    (h : t.find path = .ok (loc, node)) : t.location path = loc :=
  (location_of_lookup hlinks (find_eq_ok_iff.mp h)).symm

/-- What is found depends on the kinds of node on the way, and on the node at the end. -/
theorem find_of_shape (hlinks : t.HasNoLinks) (hstart : t'.start = t.start)
    (h : ∀ loc ∈ t.way path, t'.shapeAt loc = t.shapeAt loc) {node : Node}
    (hfind : t.find path = .ok (loc, node))
    (hend : node = .directory ∨ t'.get? loc = some node) : t'.find path = .ok (loc, node) := by
  rw [find_eq_ok_iff] at hfind ⊢
  rcases lookup_shape hlinks hstart h .find with ⟨e, hp, -⟩ | ⟨there, hp, -⟩ |
    ⟨there, found, node', hp, hp', hshape⟩
  · cases hp.symm.trans hfind
  · cases hp.symm.trans hfind
  · obtain ⟨rfl, rfl⟩ := Place.taken.inj (Except.ok.inj (hp.symm.trans hfind))
    rw [hp']
    rcases hend with rfl | hend
    · rw [Node.shape_eq_directory_iff.mp hshape]
    · rcases stands_of_lookup hp' with rfl | hstands
      · rw [Node.shape_eq_directory_iff.mp hshape.symm]
      · rw [Option.some.inj (hend.symm.trans hstands)]

theorem isFile_of_shape (hlinks : t.HasNoLinks) (hstart : t'.start = t.start)
    (h : ∀ loc ∈ t.way path, t'.shapeAt loc = t.shapeAt loc) : t'.isFile path = t.isFile path := by
  unfold isFile openFile find
  rcases lookup_shape hlinks hstart h .find with ⟨e, hp, hp'⟩ | ⟨there, hp, hp'⟩ |
    ⟨there, node, node', hp, hp', hshape⟩
  · rw [hp, hp']
  · rw [hp, hp']
  · rw [hp, hp']
    exact Node.isFile_of_shape hshape

/-- What a path to a file leads to. -/
theorem find_of_isFile (hlinks : t.HasNoLinks) (h : t.isFile path = true) :
    ∃ node, t.find path = .ok (t.location path, node) ∧ node.isFile = true ∧
      t.get? (t.location path) = some node := by
  unfold isFile openFile at h
  cases hr : t.find path with
  | error e => simp [hr] at h
  | ok r =>
    obtain ⟨loc, node⟩ := r
    have hfile : node.isFile = true := by simpa [hr] using h
    obtain rfl := location_of_find hlinks hr
    rcases stands_of_lookup (find_eq_ok_iff.mp hr) with rfl | hstands
    · cases hfile
    · exact ⟨node, rfl, hfile, hstands⟩

/-! ### Directories on the way -/

theorem isDirectory_iff :
    t.isDirectory path = true ↔ ∃ loc, t.find path = .ok (loc, .directory) := by
  unfold isDirectory openFile
  cases t.find path with
  | error e => simp
  | ok r => simp [Prod.ext_iff]

theorem walk_find_directory (hlinks : t.HasNoLinks) {here : Location} {steps : List RawText}
    (h : t.walk .find k here steps = .ok (.taken loc .directory)) {there : Location}
    (hthere : there ∈ passes here steps) : t.get? there = some .directory := by
  fun_induction walk t .find k here steps with
  | case1 => cases hthere
  | case2 here step rest hidle ih =>
    rw [passes, if_pos hidle] at hthere
    exact ih h hthere
  | case3 here rest hidle ih =>
    rw [passes, if_neg hidle, if_pos rfl] at hthere
    exact ih h hthere
  | case4 | case5 | case6 | case7 | case12 => simp_all
  | case8 _ _ _ _ _ _ _ there' target hlink | case9 _ _ _ _ _ _ _ there' target hlink =>
    exact absurd hlink (hlinks there' target)
  | case10 here step rest hidle hup _ _ there' hdirectory ih =>
    rw [passes, if_neg hidle, if_neg hup, List.mem_cons] at hthere
    rcases hthere with rfl | hthere
    · exact hdirectory
    · exact ih h hthere
  | case11 => simp_all

/-- A path that leads to a directory comes by nothing but directories. -/
theorem way_of_find_directory (hlinks : t.HasNoLinks) (h : t.find path = .ok (loc, .directory))
    {there : Location} (hthere : there ∈ t.way path) : t.get? there = some .directory := by
  rw [find_eq_ok_iff] at h
  rcases lookup_eq path with ⟨e, he⟩ | heq
  · rw [he] at h
    cases h
  · rw [heq] at h
    exact walk_find_directory hlinks h hthere

/-- The way of a path that is joined with a name. -/
theorem mem_way_join_iff {name : RawText} (h : Path.IsName name) (t : Tree) (base : RawText) :
    loc ∈ t.way (Path.join base name) ↔ loc ∈ t.way base ∨ loc = t.location base ++ [name] := by
  obtain ⟨habsolute, front, hjoined, hbase⟩ := stepsOf_join h base
  obtain ⟨-, hempty, hdot, hdots⟩ := h
  rw [way, way, location, habsolute, hjoined, passes_append]
  rcases hbase with hbase | hbase
  · rw [hbase]
    simp [passes, hempty, hdot, hdots]
  · rw [hbase, passes_append, descend_append]
    simp [passes, descend, hempty, hdot, hdots]

end Tree

end BenchReport.Files
