import BenchReport.Files.Reading
import BenchReport.Proofs.Files.Lookup
import Mathlib.Data.List.Nodup

/-!
# Other bytes in a file

The locations in a tree and the names in its directories do not depend on the bytes of its files,
and neither does where a path leads, or whether there is a file (`list_put`, `isFile_put`). Only
what is read at the paths that lead to a file depends on its bytes (`openFile_put`).
-/

namespace BenchReport.Files.Tree

variable {t : Tree} {loc : Location} {node : Node} {old bytes : List UInt8}

theorem map_fst_putEntry {es : List (Location × Node)} (h : loc ∈ es.map Prod.fst) :
    (putEntry loc node es).map Prod.fst = es.map Prod.fst := by
  induction es with
  | nil => simp at h
  | cons e es ih =>
    by_cases he : e.1 = loc
    · simp [putEntry, he]
    · have htail : loc ∈ es.map Prod.fst := by simpa [Ne.symm he] using h
      simpa [putEntry, he] using ih htail

theorem mem_entries_of_get? (hne : loc ≠ []) (h : t.get? loc = some node) :
    (loc, node) ∈ t.entries := by
  rw [get?, if_neg hne, Option.map_eq_some_iff] at h
  obtain ⟨e, he, rfl⟩ := h
  have hloc : e.1 = loc := by simpa using List.find?_some he
  rw [← hloc]
  exact List.mem_of_find?_eq_some he

theorem mem_locations_of_get? (h : t.get? loc = some (.file old)) :
    loc ∈ t.entries.map Prod.fst :=
  List.mem_map.mpr ⟨_, mem_entries_of_get? (IsOpen.ne_nil (.inr ⟨old, h⟩)) h, rfl⟩

theorem names_eq (t : Tree) (directory : Location) :
    t.names directory = (t.entries.map Prod.fst).filterMap (nameIn? directory) := by
  rw [names, List.filterMap_map]
  rfl

theorem locations_put (h : t.get? loc = some (.file old)) :
    (t.put loc (.file bytes)).entries.map Prod.fst = t.entries.map Prod.fst :=
  map_fst_putEntry (mem_locations_of_get? h)

theorem names_put (h : t.get? loc = some (.file old)) (directory : Location) :
    (t.put loc (.file bytes)).names directory = t.names directory := by
  rw [names_eq, names_eq, locations_put h]

theorem nameIn?_eq_some_iff {directory : Location} {name : RawText} :
    nameIn? directory loc = some name ↔ loc = directory ++ [name] := by
  unfold nameIn?
  rcases List.eq_nil_or_concat loc with rfl | ⟨front, last, rfl⟩
  · simp
  · rw [List.concat_eq_append, List.getLast?_concat, List.dropLast_concat]
    simp only [Option.ite_none_right_eq_some, Option.some.injEq]
    constructor
    · rintro ⟨rfl, rfl⟩
      rfl
    · intro h
      exact List.append_inj' h rfl |>.imp_right (by simp)

/-- The names in a directory are distinct. -/
theorem nodup_names (h : (t.entries.map Prod.fst).Nodup) (directory : Location) :
    (t.names directory).Nodup := by
  rw [names_eq]
  refine h.filterMap fun a b name ha hb => ?_
  rw [Option.mem_def, nameIn?_eq_some_iff] at ha hb
  rw [ha, hb]

theorem nodup_list (h : (t.entries.map Prod.fst).Nodup) {path : RawText} {all : List RawText}
    (hall : t.list path = .ok all) : all.Nodup := by
  unfold list at hall
  split at hall
  · cases hall
  · obtain rfl := Except.ok.inj hall
    exact nodup_names h _
  · cases hall

/-! ### Reading -/

/-- Whether a path leads to a location. -/
def leadsTo (t : Tree) (path : RawText) (loc : Location) : Bool :=
  match t.find path with
  | .error _ => false
  | .ok (there, _) => there == loc

theorem find_put_file (h : t.get? loc = some (.file old)) (path : RawText) :
    (t.put loc (.file bytes)).find path
      = (t.find path).map fun r => (r.1, if r.1 = loc then r.2.refill bytes else r.2) :=
  find_put (.inr ⟨old, h⟩) fun hnone => by simp [h] at hnone

theorem openFile_put (h : t.get? loc = some (.file old)) {path : RawText}
    (hpath : t.leadsTo path loc = false) :
    (t.put loc (.file bytes)).openFile path = t.openFile path := by
  rw [openFile, openFile, find_put_file h]
  unfold leadsTo at hpath
  cases hr : t.find path with
  | error e => rfl
  | ok r =>
    have hne : r.1 ≠ loc := by simpa [hr] using hpath
    simp [Except.map, hne]

theorem isFile_put (h : t.get? loc = some (.file old)) (path : RawText) :
    (t.put loc (.file bytes)).isFile path = t.isFile path := by
  rw [isFile, isFile, openFile, openFile, find_put_file h]
  cases t.find path with
  | error e => rfl
  | ok r =>
    obtain ⟨there, node⟩ := r
    simp only [Except.map]
    split
    · cases node <;> rfl
    · rfl

theorem list_put (h : t.get? loc = some (.file old)) (path : RawText) :
    (t.put loc (.file bytes)).list path = t.list path := by
  rw [list, list, find_put_file h]
  cases t.find path with
  | error e => rfl
  | ok r =>
    obtain ⟨there, node⟩ := r
    simp only [Except.map]
    cases node with
    | directory =>
      simp only [Node.refill, ite_self]
      rw [names_put h]
    | file _ | device _ | link _ =>
      by_cases hthere : there = loc
      · simp only [if_pos hthere, Node.refill]
      · simp only [if_neg hthere]

theorem read_put (h : t.get? loc = some (.file old)) {path : RawText}
    (hpath : t.leadsTo path loc = false) :
    (t.put loc (.file bytes)).read path = t.read path := by
  rw [read, read, openFile_put h hpath]

theorem readText_put (h : t.get? loc = some (.file old)) {path : RawText}
    (hpath : t.leadsTo path loc = false) :
    (t.put loc (.file bytes)).readText path = t.readText path := by
  rw [readText, readText, read_put h hpath]

end BenchReport.Files.Tree
