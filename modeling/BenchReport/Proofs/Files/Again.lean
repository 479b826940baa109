import BenchReport.Proofs.Files.Growth

/-!
# Making and writing again

A directory that could be made is there (`isDirectory_makeDirectories`), and making one that is
there changes nothing (`makeDirectories_of_isDirectory`). A file that could be written can be
written again, with other bytes and after other files were written (`Accepts.write`).
-/

namespace BenchReport.Files

/-- The paths above a path stand after it. -/
theorem Path.lineage_cases (path : RawText) :
    lineage path = [] ∨ ∃ above, lineage path = path :: above := by
  unfold lineage
  dsimp only
  split
  · split
    · exact .inl rfl
    · exact .inr ⟨[], rfl⟩
  · exact .inr ⟨_, rfl⟩

/-- Whether a place takes bytes. -/
def Place.accepts : Place → Bool
  | .free _ => true
  | .taken _ (.file _) => true
  | .taken _ (.device kind) => kind == .null
  | .taken _ _ => false

theorem Place.accepts_refill {p : Place} (h : p.accepts = true) (loc : Location)
    (bytes : List UInt8) : (p.refill loc bytes).accepts = true := by
  cases p with
  | free there =>
    rw [refill]
    split <;> rfl
  | taken there node =>
    rw [refill]
    cases node with
    | file old => split <;> rfl
    | device kind => split <;> exact h
    | directory | link _ => cases h

namespace Tree

variable {t : Tree} {path : RawText} {loc : Location} {bytes : List UInt8}
variable {k k' : Location → List RawText → Except Fault Place}

/-! ### Directories -/

/-- What is found is in the way of a new directory. -/
theorem walk_make_of_find
    (hk : ∀ here steps loc node, k here steps = .ok (.taken loc node) →
      ∃ loc' node', k' here steps = .ok (.taken loc' node'))
    {here : Location} {steps : List RawText} {node : Node}
    (h : t.walk .find k here steps = .ok (.taken loc node)) :
    ∃ loc' node', t.walk .make k' here steps = .ok (.taken loc' node') := by
  fun_induction walk t .find k here steps with
  | case1 => exact ⟨_, _, rfl⟩
  | case2 here step rest hidle ih =>
    rw [walk, if_pos hidle]
    exact ih h
  | case3 here rest hidle ih =>
    rw [walk, if_neg hidle, if_pos rfl]
    exact ih h
  | case4 | case5 | case6 | case7 | case12 => cases h
  | case8 here step rest _ _ _ _ _ target _ hmake => exact absurd hmake.1 (by simp)
  | case9 here step rest hidle hup _ hlong _ target hlink _ =>
    rw [walk_name hidle hup (by simp) hlong hlink, arrive]
    split
    · exact ⟨_, _, rfl⟩
    · exact hk _ _ _ _ h
  | case10 here step rest hidle hup _ hlong _ hdirectory ih =>
    rw [walk_name hidle hup (by simp) hlong hdirectory]
    exact ih h
  | case11 here step rest hidle hup _ hlong _ found hlink hdirectory hfound hend =>
    rw [walk_name hidle hup (by simp) hlong hfound]
    have hrest : rest = [] := by simpa using hend
    rw [arrive, if_pos (.inl hrest)]
    · exact ⟨_, _, rfl⟩
    · exact hlink
    · exact hdirectory

theorem lookup_make_of_find {node : Node} (h : t.find path = .ok (loc, node)) :
    ∃ loc' node', t.lookup .make path = .ok (.taken loc' node') :=
  lookup_rel (R := fun r r' => (∃ loc node, r = .ok (.taken loc node)) →
      ∃ loc' node', r' = .ok (.taken loc' node'))
    t t .find .make rfl (by simp)
    (fun _ _ hk _ _ ⟨_, _, h⟩ => walk_make_of_find (fun _ _ _ _ h => hk _ _ ⟨_, _, h⟩) h)
    path ⟨loc, node, find_eq_ok_iff.mp h⟩

/-- Making a directory that is there changes nothing and is no fault. -/
theorem makeDirectories_of_isDirectory (h : t.isDirectory path = true) :
    t.makeDirectories path = t.done := by
  obtain ⟨loc, hfind⟩ := isDirectory_iff.mp h
  obtain ⟨loc', node', hlookup⟩ := lookup_make_of_find hfind
  have hfirst : t.makeDirectory path = t.failed .occupied := by rw [makeDirectory, hlookup]
  rcases Path.lineage_cases path with hnone | ⟨above, habove⟩
  · rw [makeDirectories, hnone, makeChain]
  · simp [makeDirectories, habove, makeChain, hfirst, failed, h]

theorem walk_of_isLast {intent : Intent} {rest : List RawText} (h : isLast rest)
    (here : Location) : t.walk intent k here rest = .ok (.taken here .directory) := by
  induction rest with
  | nil => rfl
  | cons step rest ih =>
    simp only [isLast, List.all_cons, Bool.and_eq_true, beq_iff_eq] at h
    rw [walk, if_pos (.inl h.1)]
    exact ih h.2

/-- A directory that is put in a free place is found there. -/
theorem walk_find_put (hlinks : t.HasNoLinks) (hfree : t.get? loc = none) {here : Location}
    {steps : List RawText} (h : t.walk .make k here steps = .ok (.free loc)) :
    (t.put loc .directory).walk .find k' here steps = .ok (.taken loc .directory) := by
  fun_induction walk t .make k here steps with
  | case1 => cases h
  | case2 here step rest hidle ih =>
    rw [walk, if_pos hidle]
    exact ih h
  | case3 here rest hidle ih =>
    rw [walk, if_neg hidle, if_pos rfl]
    exact ih h
  | case4 | case5 | case7 | case12 => cases h
  | case6 here step rest hidle hup _ hlong there hnone hend =>
    have hlast : isLast rest := by simpa using hend
    obtain rfl : there = loc := by simpa using h
    rw [walk_name hidle hup (by simp) hlong (get?_put_self (by simp) t .directory)]
    exact walk_of_isLast hlast there
  | case8 _ _ _ _ _ _ _ there target hlink => exact absurd hlink (hlinks there target)
  | case9 _ _ _ _ _ _ _ there target hlink => exact absurd hlink (hlinks there target)
  | case10 here step rest hidle hup _ hlong there hdirectory ih =>
    have hne : there ≠ loc := by
      rintro rfl
      cases hfree.symm.trans hdirectory
    rw [walk_name hidle hup (by simp) hlong ((get?_put_of_ne hne t .directory).trans hdirectory)]
    exact ih h
  | case11 => cases h

theorem find_put_of_lookup_make (hlinks : t.HasNoLinks)
    (h : t.lookup .make path = .ok (.free loc)) :
    (t.put loc .directory).find path = .ok (loc, .directory) := by
  have hfree : t.get? loc = none := stands_of_lookup h
  rw [find_eq_ok_iff]
  exact lookup_rel (R := fun r r' => r = .ok (.free loc) → r' = .ok (.taken loc .directory))
    t (t.put loc .directory) .make .find rfl (by simp)
    (fun _ _ _ _ _ => walk_find_put hlinks hfree) path h

theorem isDirectory_makeDirectory (hlinks : t.HasNoLinks)
    (h : (t.makeDirectory path).fault? = none) :
    (t.makeDirectory path).tree.isDirectory path = true := by
  unfold makeDirectory at h ⊢
  cases hp : t.lookup .make path with
  | error e => simp [hp, failed] at h
  | ok p =>
    cases p with
    | taken there node => simp [hp, failed] at h
    | free loc => exact isDirectory_iff.mpr ⟨loc, find_put_of_lookup_make hlinks hp⟩

theorem HasNoLinks.makeChain (hlinks : t.HasNoLinks) (paths : List RawText) :
    (t.makeChain paths).tree.HasNoLinks := by
  apply makeChain_induction _ hlinks
  intro t path _ hlinks
  unfold makeDirectory
  split
  · exact hlinks
  · exact hlinks
  · exact hlinks.put (by simp) _

/-- A directory that could be made is there, unless its path is empty. -/
theorem isDirectory_makeDirectories (hlinks : t.HasNoLinks)
    (h : (t.makeDirectories path).fault? = none) :
    Path.lineage path = [] ∨ (t.makeDirectories path).tree.isDirectory path = true := by
  rcases Path.lineage_cases path with hnone | ⟨above, habove⟩
  · exact .inl hnone
  right
  unfold makeDirectories at h ⊢
  rw [habove, makeChain] at h ⊢
  dsimp only at h ⊢
  have hupper := hlinks.makeChain above
  generalize t.makeChain above = upper at h hupper ⊢
  -- each branch that ends without a fault has made the directory, or has seen that it is there
  split
  · next hfirst => exact isDirectory_makeDirectory hlinks hfirst
  · next hfirst =>
    rw [hfirst] at h
    split
    · next e hfault => simp [hfault, failed] at h
    · next hfault =>
      rw [hfault] at h
      split
      · next hsecond => exact isDirectory_makeDirectory hupper hsecond
      · next e hsecond =>
        by_cases hthere : upper.tree.isDirectory path = true
        · rw [if_pos hthere]
          exact hthere
        · simp [hsecond, hthere, failed] at h
  · next e _ hfirst =>
    by_cases hthere : t.isDirectory path = true
    · rw [if_pos hthere]
      exact hthere
    · simp [hfirst, hthere, failed] at h

/-! ### Files -/

/-- Whether a file can be written at a path. -/
def Accepts (t : Tree) (path : RawText) : Prop :=
  ∃ p, t.lookup .write path = .ok p ∧ p.accepts = true

theorem write_eq_none_iff (hbytes : bytes ≠ []) :
    (t.write path bytes).fault? = none ↔ t.Accepts path := by
  unfold write change Accepts
  cases t.lookup .write path with
  | error e => simp [failed]
  | ok p =>
    rcases p with ⟨loc, bytes | kind | _ | target⟩ | loc
    · simp [done, Place.accepts]
    · cases kind <;> simp [Device.refusal?, Place.accepts, hbytes]
    · simp [failed, Place.accepts]
    · simp [failed, Place.accepts]
    · simp [done, Place.accepts]

/-- Where a file can be written, one can be written after another was. -/
theorem Accepts.write (h : t.Accepts path) (hlinks : t.HasNoLinks) (path' : RawText)
    (bytes : List UInt8) : (t.write path' bytes).tree.Accepts path := by
  obtain ⟨p, hp, haccepts⟩ := h
  rcases write_tree_cases hlinks path' bytes with htree | ⟨hopen, htree⟩
  · rw [htree]
    exact ⟨p, hp, haccepts⟩
  · rw [htree]
    refine ⟨p.refill (t.location path') bytes, ?_, Place.accepts_refill haccepts _ _⟩
    rw [lookup_put hopen fun _ => ⟨p, hp⟩, hp, Except.map]

end Tree

end BenchReport.Files
