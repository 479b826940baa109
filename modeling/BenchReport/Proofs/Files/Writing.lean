import BenchReport.Proofs.Files.Lookup
import BenchReport.Proofs.Text.Utf8

/-!
# What was written is read

In a tree of files and directories a file that was written without a fault is read under its path
(`write_eq_put`), until something is written at the same location.
-/

namespace BenchReport.Files

/-! ### Plain trees -/

/-- Whether a node is a file or a directory. -/
def Node.isPlain : Node → Bool
  | .file _ => true
  | .directory => true
  | .device _ => false
  | .link _ => false

namespace Tree

variable {t : Tree} {path : RawText} {bytes : List UInt8} {loc : Location} {node : Node}

/-- Whether nothing but files and directories stands in a tree. -/
def IsPlain (t : Tree) : Prop := ∀ e ∈ t.entries, e.2.isPlain = true

instance : Decidable t.IsPlain := inferInstanceAs (Decidable (∀ e ∈ t.entries, _))

theorem IsPlain.isPlain_of_get? (h : t.IsPlain) (hnode : t.get? loc = some node) :
    node.isPlain = true := by
  unfold get? at hnode
  split at hnode
  · cases hnode
    rfl
  · obtain ⟨e, he, rfl⟩ := Option.map_eq_some_iff.mp hnode
    exact h e (List.mem_of_find?_eq_some he)

theorem IsPlain.hasNoLinks (h : t.IsPlain) : t.HasNoLinks := by
  intro loc target hlink
  exact absurd (h.isPlain_of_get? hlink) (by simp [Node.isPlain])

theorem mem_putEntry {es : List (Location × Node)} {e : Location × Node}
    (h : e ∈ putEntry loc node es) : e = (loc, node) ∨ e ∈ es := by
  induction es with
  | nil => exact .inl (List.mem_singleton.mp h)
  | cons d es ih =>
    rw [putEntry] at h
    split at h
    · rcases List.mem_cons.mp h with rfl | h
      · exact .inl rfl
      · exact .inr (List.mem_cons_of_mem _ h)
    · rcases List.mem_cons.mp h with rfl | h
      · exact .inr List.mem_cons_self
      · exact (ih h).imp_right (List.mem_cons_of_mem _)

theorem IsPlain.put (h : t.IsPlain) (hnode : node.isPlain = true) : (t.put loc node).IsPlain := by
  intro e he
  rcases mem_putEntry he with rfl | he
  · exact hnode
  · exact h e he

/-! ### Making directories -/

/-- What is kept when one of some directories is made is kept when all of them are. -/
theorem makeChain_induction {P : Tree → Prop} {paths : List RawText}
    (hmake : ∀ t, ∀ path ∈ paths, P t → P (t.makeDirectory path).tree) (h : P t) :
    P (t.makeChain paths).tree := by
  induction paths with
  | nil => exact h
  | cons path above ih =>
    have hupper := ih fun t path hpath => hmake t path (List.mem_cons_of_mem _ hpath)
    unfold makeChain
    dsimp only
    split
    · exact hmake t path List.mem_cons_self h
    · split
      · exact hupper
      · split
        · exact hmake _ path List.mem_cons_self hupper
        · split <;> exact hupper
    · split <;> exact h

/-- What is kept when a directory is put somewhere is kept when directories are made. -/
theorem makeDirectories_induction {P : Tree → Prop}
    (hput : ∀ t loc, P t → P (t.put loc .directory)) (h : P t) (path : RawText) :
    P (t.makeDirectories path).tree := by
  refine makeChain_induction (fun t path _ h => ?_) h
  unfold makeDirectory
  split
  · exact h
  · exact h
  · exact hput t _ h

/-! ### Writing a file -/

/-- What stands at a place. A directory need not be an entry: the root is none. -/
def Stands (t : Tree) : Place → Prop
  | .taken loc node => node = .directory ∨ t.get? loc = some node
  | .free loc => t.get? loc = none

theorem stands_of_walk {intent : Intent} {k : Location → List RawText → Except Fault Place}
    (hk : ∀ here steps p, k here steps = .ok p → t.Stands p) {here : Location}
    {steps : List RawText} {p : Place} (h : t.walk intent k here steps = .ok p) : t.Stands p := by
  fun_induction walk t intent k here steps with
  | case1 =>
    cases h
    exact .inl rfl
  | case2 _ _ _ _ ih => exact ih h
  | case3 _ _ _ ih => exact ih h
  | case4 | case5 | case7 | case12 => cases h
  | case6 _ _ _ _ _ _ _ _ hnone =>
    cases h
    exact hnone
  | case8 _ _ _ _ _ _ _ _ _ hlink =>
    cases h
    exact .inr hlink
  | case9 => exact hk _ _ _ h
  | case10 _ _ _ _ _ _ _ _ _ ih => exact ih h
  | case11 _ _ _ _ _ _ _ _ _ _ _ hnode =>
    cases h
    exact .inr hnode

theorem stands_of_lookup {intent : Intent} {p : Place} (h : t.lookup intent path = .ok p) :
    t.Stands p :=
  lookup_induction (fun _ hk _ _ _ => stands_of_walk hk) h

theorem find_put_of_lookup_write {p : Place} (hopen : t.IsOpen loc)
    (hp : t.lookup .write path = .ok p)
    (hrefill : p.refill loc bytes = .taken loc (.file bytes)) :
    (t.put loc (.file bytes)).find path = .ok (loc, .file bytes) := by
  refine find_of_lookup_write ?_
  rw [lookup_put hopen fun _ => ⟨p, hp⟩, hp, Except.map, hrefill]

/-- What writing comes to: nothing is changed, or the bytes are put where the path leads. -/
theorem write_tree_cases (hlinks : t.HasNoLinks) (path : RawText) (bytes : List UInt8) :
    (t.write path bytes).tree = t ∨
      t.IsOpen (t.location path) ∧
        (t.write path bytes).tree = t.put (t.location path) (.file bytes) := by
  cases hp : t.lookup .write path with
  | error e => exact .inl (by simp [write, change, hp, failed])
  | ok p =>
    rw [← location_of_lookup hlinks hp]
    have hstands := stands_of_lookup hp
    cases p with
    | free loc => exact .inr ⟨.inl hstands, by simp [write, change, hp, done, Place.location]⟩
    | taken loc node =>
      cases node with
      | file old =>
        have hfile : t.get? loc = some (.file old) := by simpa [Stands] using hstands
        exact .inr ⟨.inr ⟨old, hfile⟩, by simp [write, change, hp, done, Place.location]⟩
      | directory | link _ | device _ => exact .inl (by simp [write, change, hp, failed])

/-- A file that was written without a fault stands where its path leads, nothing else was changed,
and the path leads to it. -/
theorem write_eq_put (hplain : t.IsPlain) (h : (t.write path bytes).fault? = none) :
    t.IsOpen (t.location path) ∧
      (t.write path bytes).tree = t.put (t.location path) (.file bytes) ∧
      (t.write path bytes).tree.find path = .ok (t.location path, .file bytes) := by
  cases hp : t.lookup .write path with
  | error e => simp [write, change, hp, failed] at h
  | ok p =>
    have hlocation := location_of_lookup hplain.hasNoLinks hp
    have hstands := stands_of_lookup hp
    cases p with
    | free loc =>
      obtain rfl : loc = t.location path := hlocation
      have htree : (t.write path bytes).tree = t.put (t.location path) (.file bytes) := by
        simp [write, change, hp, done]
      have hopen : t.IsOpen (t.location path) := .inl hstands
      exact ⟨hopen, htree, htree ▸ find_put_of_lookup_write hopen hp (by simp [Place.refill])⟩
    | taken loc node =>
      obtain rfl : loc = t.location path := hlocation
      cases node with
      | file old =>
        have htree : (t.write path bytes).tree = t.put (t.location path) (.file bytes) := by
          simp [write, change, hp, done]
        have hopen : t.IsOpen (t.location path) := .inr ⟨old, by simpa [Stands] using hstands⟩
        exact ⟨hopen, htree,
          htree ▸ find_put_of_lookup_write hopen hp (by simp [Place.refill, Node.refill])⟩
      | directory | link _ => simp [write, change, hp, failed] at h
      | device kind =>
        have hnode : t.get? (t.location path) = some (.device kind) := by
          simpa [Stands] using hstands
        exact absurd (hplain.isPlain_of_get? hnode) (by simp [Node.isPlain])

/-- What is found at the paths of two files that were written one after the other. -/
theorem find_write_write (hplain : t.IsPlain) {path' : RawText} {bytes' : List UInt8}
    (h : (t.write path bytes).fault? = none)
    (h' : ((t.write path bytes).tree.write path' bytes').fault? = none) :
    ((t.write path bytes).tree.write path' bytes').tree.find path'
        = .ok (t.location path', .file bytes') ∧
      ((t.write path bytes).tree.write path' bytes').tree.find path
        = .ok (t.location path,
            .file (if t.location path = t.location path' then bytes' else bytes)) := by
  obtain ⟨-, htree, hfind⟩ := write_eq_put hplain h
  have hplain₁ : (t.write path bytes).tree.IsPlain := htree ▸ hplain.put rfl
  have hlocation : (t.write path bytes).tree.location path' = t.location path' := by
    rw [htree]
    rfl
  obtain ⟨hopen, htree', hfind'⟩ := write_eq_put hplain₁ h'
  rw [hlocation] at hopen htree' hfind'
  refine ⟨hfind', ?_⟩
  rw [htree', find_put hopen fun _ => ⟨_, hfind⟩, hfind]
  by_cases hsame : t.location path = t.location path'
  · simp only [Except.map, if_pos hsame, Node.refill]
  · simp only [Except.map, if_neg hsame]

theorem readText_of_find {text : List Char}
    (h : t.find path = .ok (loc, .file (Text.Utf8.encode text))) :
    t.readText path = .ok text := by
  simp [readText, read, openFile, h, Node.read, Text.Utf8.decode?_encode]

end Tree

end BenchReport.Files
