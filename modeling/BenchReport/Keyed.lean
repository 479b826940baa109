/-!
# Maps in key order

A map from texts to values, held as a list of entries in strictly ascending order of their
keys. Each key has one entry, and two maps with the same entries are equal.
-/

namespace BenchReport

/-- A map from texts to values. -/
structure Keyed (α : Type) where
  /-- The entries. -/
  entries : List (String × α)
  /-- The keys ascend. -/
  ascending : entries.Pairwise (fun a b => a.1 < b.1)

namespace Keyed

variable {α β : Type}

/-- The map without entries. -/
def empty : Keyed α := ⟨[], .nil⟩

/-- Puts an entry in its place, instead of the entry with its key if there is one. -/
def insertEntry (key : String) (value : α) : List (String × α) → List (String × α)
  | [] => [(key, value)]
  | e :: es =>
    if e.1 = key then (key, value) :: es
    else if key < e.1 then (key, value) :: e :: es
    else e :: insertEntry key value es

theorem mem_insertEntry {key : String} {value : α} {es : List (String × α)} {e : String × α}
    (h : e ∈ insertEntry key value es) : e = (key, value) ∨ e ∈ es := by
  induction es with
  | nil => simpa [insertEntry] using h
  | cons d es ih =>
    unfold insertEntry at h
    split at h
    · rcases List.mem_cons.1 h with rfl | h
      · exact .inl rfl
      · exact .inr (List.mem_cons_of_mem _ h)
    split at h
    · rcases List.mem_cons.1 h with rfl | h
      · exact .inl rfl
      · exact .inr h
    · rcases List.mem_cons.1 h with rfl | h
      · exact .inr List.mem_cons_self
      · rcases ih h with rfl | h
        · exact .inl rfl
        · exact .inr (List.mem_cons_of_mem _ h)

theorem ascending_insertEntry (key : String) (value : α) {es : List (String × α)}
    (h : es.Pairwise (fun a b => a.1 < b.1)) :
    (insertEntry key value es).Pairwise (fun a b => a.1 < b.1) := by
  induction es with
  | nil => simp [insertEntry]
  | cons e es ih =>
    obtain ⟨he, hes⟩ := List.pairwise_cons.1 h
    unfold insertEntry
    split
    · rename_i hk
      exact List.pairwise_cons.2 ⟨fun d hd => hk ▸ he d hd, hes⟩
    split
    · rename_i hk
      refine List.pairwise_cons.2 ⟨fun d hd => ?_, h⟩
      rcases List.mem_cons.1 hd with rfl | hd
      · exact hk
      · exact String.lt_trans hk (he d hd)
    · rename_i hne hge
      refine List.pairwise_cons.2 ⟨fun d hd => ?_, ih hes⟩
      rcases mem_insertEntry hd with rfl | hd
      · exact Std.lt_of_le_of_ne (String.not_lt.1 hge) hne
      · exact he d hd

/-- The map with an entry put in, instead of the entry with its key if there is one. -/
def insert (m : Keyed α) (key : String) (value : α) : Keyed α :=
  ⟨insertEntry key value m.entries, ascending_insertEntry key value m.ascending⟩

/-- The map of some entries, put in one after the other. -/
def ofList (es : List (String × α)) : Keyed α := es.foldl (fun m e => m.insert e.1 e.2) empty

/-- The value of a key. -/
def get? (m : Keyed α) (key : String) : Option α :=
  (m.entries.find? (·.1 == key)).map (·.2)

/-- The keys in ascending order. -/
def keys (m : Keyed α) : List String := m.entries.map (·.1)

/-- The values in the order of their keys. -/
def values (m : Keyed α) : List α := m.entries.map (·.2)

/-- The number of entries. -/
def size (m : Keyed α) : Nat := m.entries.length

/-- The map with its values replaced by their images. -/
def mapValues (f : α → β) (m : Keyed α) : Keyed β :=
  ⟨m.entries.map fun e => (e.1, f e.2), m.ascending.map _ fun _ _ h => h⟩

theorem find?_insertEntry_self (key : String) (value : α) (es : List (String × α)) :
    (insertEntry key value es).find? (·.1 == key) = some (key, value) := by
  fun_induction insertEntry key value es with
  | case1 => simp
  | case2 => simp
  | case3 => simp
  | case4 e es h _ ih => simpa [h] using ih

theorem find?_insertEntry_of_ne {key other : String} (h : other ≠ key) (value : α)
    (es : List (String × α)) :
    (insertEntry key value es).find? (·.1 == other) = es.find? (·.1 == other) := by
  fun_induction insertEntry key value es with
  | case1 => simp [h.symm]
  | case2 e es he => simp [he, h.symm]
  | case3 e es => simp [h.symm]
  | case4 e es _ _ ih => by_cases he : e.1 = other <;> simp_all

/-- What was put in is found. -/
theorem get?_insert_self (m : Keyed α) (key : String) (value : α) :
    (m.insert key value).get? key = some value := by
  simp [get?, insert, find?_insertEntry_self]

/-- The values of other keys stay as they are. -/
theorem get?_insert_of_ne {key other : String} (h : other ≠ key) (m : Keyed α) (value : α) :
    (m.insert key value).get? other = m.get? other := by
  simp [get?, insert, find?_insertEntry_of_ne h]

end Keyed

end BenchReport
