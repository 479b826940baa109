import BenchReport.Keyed
import Mathlib.Data.List.Basic
import Mathlib.Data.List.Induction
import Mathlib.Data.List.Perm.Subperm
import Mathlib.Data.List.Sort

/-!
# What a map in key order holds

A map is known by its look-ups: the entries are exactly the pairs that are found
(`mem_entries_iff`), and two maps in which the same is found under every key are equal
(`ext_get?`). A map that is filled from a list of entries with distinct keys holds these entries
and no others, so that none of them is lost by another that is put in its place
(`entries_ofList_perm`). In general the last entry with a key is the one that is found under it
(`get?_ofList`).
-/

namespace BenchReport.Keyed

variable {α β : Type}

theorem nodup_keys (m : Keyed α) : m.keys.Nodup := by
  rw [keys, List.Nodup, List.pairwise_map]
  refine m.ascending.imp fun {a b} hab heq => ?_
  rw [heq] at hab
  exact String.lt_irrefl _ hab

theorem mem_entries_iff {m : Keyed α} {key : String} {value : α} :
    (key, value) ∈ m.entries ↔ m.get? key = some value := by
  have hnodup : (m.entries.map Prod.fst).Nodup := m.nodup_keys
  rw [get?, Option.map_eq_some_iff]
  constructor
  · intro hmem
    cases hfind : m.entries.find? (·.1 == key) with
    | none =>
      have hnot := List.find?_eq_none.mp hfind _ hmem
      simp at hnot
    | some e =>
      have hkey : e.1 = key := by simpa using List.find?_some hfind
      have heq : e = (key, value) :=
        List.inj_on_of_nodup_map hnodup (List.mem_of_find?_eq_some hfind) hmem hkey
      exact ⟨e, rfl, by rw [heq]⟩
  · rintro ⟨e, hfind, rfl⟩
    have hkey : e.1 = key := by simpa using List.find?_some hfind
    rw [← hkey]
    exact List.mem_of_find?_eq_some hfind

/-- Two maps in which the same is found under every key are equal. -/
theorem ext_get? {m m' : Keyed α} (h : ∀ key, m.get? key = m'.get? key) : m = m' := by
  have hmem : ∀ e, e ∈ m.entries ↔ e ∈ m'.entries := by
    rintro ⟨key, value⟩
    rw [mem_entries_iff, mem_entries_iff, h]
  have hperm : m.entries.Perm m'.entries :=
    (List.perm_ext_iff_of_nodup (List.Nodup.of_map _ m.nodup_keys)
      (List.Nodup.of_map _ m'.nodup_keys)).mpr hmem
  have hentries : m.entries = m'.entries := by
    refine hperm.eq_of_pairwise (fun a b _ _ hab hba => ?_) m.ascending m'.ascending
    exact absurd (String.lt_trans hab hba) (String.lt_irrefl _)
  cases m
  cases m'
  exact (mk.injEq ..).mpr hentries

theorem ofList_append_singleton (es : List (String × α)) (e : String × α) :
    ofList (es ++ [e]) = (ofList es).insert e.1 e.2 := by
  rw [ofList, List.foldl_append]
  rfl

/-- In a map that is filled from entries the last of them with a key is found under it. -/
theorem get?_ofList (es : List (String × α)) (key : String) :
    (ofList es).get? key = ((es.filter (·.1 == key)).getLast?).map Prod.snd := by
  induction es using List.reverseRecOn with
  | nil => rfl
  | append_singleton es e ih =>
    rw [ofList_append_singleton, List.filter_append]
    by_cases hkey : e.1 = key
    · subst hkey
      rw [get?_insert_self, List.filter_cons_of_pos (by simp), List.filter_nil,
        List.getLast?_concat]
      rfl
    · rw [get?_insert_of_ne (Ne.symm hkey), ih, List.filter_cons_of_neg (by simpa using hkey),
        List.filter_nil, List.append_nil]

/-- What is found under a key is the value of an entry with it. -/
theorem mem_of_get?_ofList {es : List (String × α)} {key : String} {value : α}
    (h : (ofList es).get? key = some value) : (key, value) ∈ es := by
  rw [get?_ofList, Option.map_eq_some_iff] at h
  obtain ⟨e, he, rfl⟩ := h
  obtain ⟨hmem, hkey⟩ := List.mem_filter.mp (List.mem_of_getLast? he)
  obtain rfl : e.1 = key := by simpa using hkey
  exact hmem

/-- In a map that is filled from entries with distinct keys these entries are found, and nothing
else. -/
theorem get?_ofList_eq_some_iff {es : List (String × α)} (h : (es.map Prod.fst).Nodup)
    {key : String} {value : α} : (ofList es).get? key = some value ↔ (key, value) ∈ es := by
  refine ⟨mem_of_get?_ofList, fun hmem => ?_⟩
  have honly : ∀ e ∈ es.filter (·.1 == key), e = (key, value) := by
    intro e he
    obtain ⟨hin, hkey⟩ := List.mem_filter.mp he
    exact List.inj_on_of_nodup_map h hin hmem (by simpa using hkey)
  have hfound : (key, value) ∈ es.filter (·.1 == key) := List.mem_filter.mpr ⟨hmem, by simp⟩
  obtain ⟨last, hlast⟩ := Option.isSome_iff_exists.mp
    (List.getLast?_isSome.mpr (List.ne_nil_of_mem hfound))
  rw [get?_ofList, hlast, honly last (List.mem_of_getLast? hlast)]
  rfl

/-- A map that is filled from entries with distinct keys loses none of them. -/
theorem entries_ofList_perm {es : List (String × α)} (h : (es.map Prod.fst).Nodup) :
    (ofList es).entries.Perm es := by
  refine (List.perm_ext_iff_of_nodup (List.Nodup.of_map _ (ofList es).nodup_keys)
    (List.Nodup.of_map _ h)).mpr ?_
  rintro ⟨key, value⟩
  rw [mem_entries_iff, get?_ofList_eq_some_iff h]

theorem mem_values_ofList {es : List (String × α)} (h : (es.map Prod.fst).Nodup) {value : α} :
    value ∈ (ofList es).values ↔ value ∈ es.map Prod.snd :=
  ((entries_ofList_perm h).map Prod.snd).mem_iff

/-- A map that is filled from entries in ascending order has these entries. -/
theorem ofList_eq {es : List (String × α)} (h : es.Pairwise fun a b => a.1 < b.1) :
    ofList es = ⟨es, h⟩ := by
  refine ext_get? fun key => Option.ext fun value => ?_
  have hnodup : (es.map Prod.fst).Nodup := nodup_keys ⟨es, h⟩
  rw [get?_ofList_eq_some_iff hnodup, ← mem_entries_iff]

/-- A map has as many entries as were put in exactly if their keys are distinct. -/
theorem size_ofList_eq_iff (es : List (String × α)) :
    (ofList es).size = es.length ↔ (es.map Prod.fst).Nodup := by
  constructor
  · intro hsize
    have hsubset : (ofList es).keys ⊆ es.map Prod.fst := by
      intro key hkey
      obtain ⟨⟨_, value⟩, he, rfl⟩ := List.mem_map.mp hkey
      exact List.mem_map.mpr ⟨_, mem_of_get?_ofList (mem_entries_iff.mp he), rfl⟩
    have hlength : (es.map Prod.fst).length ≤ (ofList es).keys.length := by
      rw [List.length_map, keys, List.length_map, ← hsize, size]
    have hperm := ((ofList es).nodup_keys.subperm hsubset).perm_of_length_le hlength
    exact hperm.nodup_iff.mp (ofList es).nodup_keys
  · intro hnodup
    exact (entries_ofList_perm hnodup).length_eq

/-- A map has the entries that were put in, as they stand, exactly if their keys ascend. -/
theorem entries_ofList_eq_iff {es : List (String × α)} :
    (ofList es).entries = es ↔ es.Pairwise fun a b => a.1 < b.1 := by
  constructor
  · intro h
    have hascending := (ofList es).ascending
    rwa [h] at hascending
  · intro h
    rw [ofList_eq h]

end BenchReport.Keyed
