import BenchReport.Grouping
import Mathlib.Data.List.Basic
import Mathlib.Data.List.Induction

/-!
# What a grouping holds after any pushes

A grouping keeps its groups in a list and the place of each key in an index, and a push
changes one or both of them. The specification knows neither: it speaks of the pushes only.
The keys stand in the order in which they were first pushed (`metKeys`), and the group of a
key holds the values that were pushed under it, in their order (`valuesUnder`).

The invariant `Collects` ties a grouping to the pushes that made it: its groups are those of
the specification, and its index gives the place of each key among the keys, and no place for
any other text. Both branches of a push keep it (`Collects.push`), and so it holds after any
pushes on the empty grouping.
-/

namespace BenchReport.Grouping

variable {α : Type}

/-! ### What the pushes say -/

/-- The keys that were pushed, each where it was first met. -/
def metKeys (steps : List (String × α)) : List String := (steps.map Prod.fst).eraseDups

/-- The values that were pushed under a key, in their order. -/
def valuesUnder (key : String) (steps : List (String × α)) : List α :=
  (steps.filter (·.1 == key)).map Prod.snd

/-- The group that the pushes make for a key. -/
def groupOf (steps : List (String × α)) (key : String) : Group α := ⟨key, valuesUnder key steps⟩

theorem metKeys_push_of_mem {steps : List (String × α)} {key : String}
    (h : key ∈ steps.map Prod.fst) (a : α) : metKeys (steps ++ [(key, a)]) = metKeys steps := by
  have hnew : [key].removeAll (steps.map Prod.fst) = [] := by
    rw [List.removeAll, List.filter_eq_nil_iff]
    intro k hk
    rw [List.mem_singleton] at hk
    simpa [hk] using h
  rw [metKeys, List.map_append, List.map_singleton, List.eraseDups_append, hnew,
    List.eraseDups_nil, List.append_nil, metKeys]

theorem metKeys_push_of_not_mem {steps : List (String × α)} {key : String}
    (h : key ∉ steps.map Prod.fst) (a : α) :
    metKeys (steps ++ [(key, a)]) = metKeys steps ++ [key] := by
  have hnew : [key].removeAll (steps.map Prod.fst) = [key] := by
    rw [List.removeAll, List.filter_eq_self]
    intro k hk
    rw [List.mem_singleton] at hk
    simpa [hk] using h
  rw [metKeys, List.map_append, List.map_singleton, List.eraseDups_append, hnew]
  rfl

theorem mem_metKeys {steps : List (String × α)} {key : String} :
    key ∈ metKeys steps ↔ key ∈ steps.map Prod.fst := by
  induction steps using List.reverseRecOn with
  | nil => rfl
  | append_singleton steps step ih =>
    by_cases h : step.1 ∈ steps.map Prod.fst
    · rw [metKeys_push_of_mem h, ih]
      simp only [List.map_append, List.map_singleton, List.mem_append, List.mem_singleton]
      constructor
      · exact Or.inl
      · rintro (hk | rfl)
        · exact hk
        · exact h
    · rw [metKeys_push_of_not_mem h, List.mem_append, ih, List.map_append, List.mem_append]
      rfl

/-- The keys stand in the order of their first pushes. -/
theorem metKeys_pairwise (steps : List (String × α)) :
    (metKeys steps).Pairwise fun a b =>
      (steps.map Prod.fst).idxOf a < (steps.map Prod.fst).idxOf b := by
  induction steps using List.reverseRecOn with
  | nil => exact List.Pairwise.nil
  | append_singleton steps step ih =>
    -- a key that was met before is still first met at the same push
    have hold : (metKeys steps).Pairwise fun a b =>
        ((steps ++ [step]).map Prod.fst).idxOf a < ((steps ++ [step]).map Prod.fst).idxOf b := by
      refine ih.imp_of_mem fun {a b} ha hb hab => ?_
      rw [List.map_append, List.idxOf_append_of_mem (mem_metKeys.mp ha),
        List.idxOf_append_of_mem (mem_metKeys.mp hb)]
      exact hab
    by_cases h : step.1 ∈ steps.map Prod.fst
    · rw [metKeys_push_of_mem h]
      exact hold
    · rw [metKeys_push_of_not_mem h, List.pairwise_append]
      refine ⟨hold, List.pairwise_singleton _ _, fun a ha b hb => ?_⟩
      have ha := mem_metKeys.mp ha
      rw [List.mem_singleton.mp hb, List.map_append, List.idxOf_append_of_mem ha,
        List.idxOf_append_of_notMem h]
      exact Nat.lt_add_right _ (List.idxOf_lt_length_of_mem ha)

theorem nodup_metKeys (steps : List (String × α)) : (metKeys steps).Nodup := by
  refine (metKeys_pairwise steps).imp fun {a b} hab => ?_
  rintro rfl
  exact Nat.lt_irrefl _ hab

theorem valuesUnder_push_self (key : String) (a : α) (steps : List (String × α)) :
    valuesUnder key (steps ++ [(key, a)]) = valuesUnder key steps ++ [a] := by
  simp [valuesUnder]

theorem valuesUnder_push_of_ne {key other : String} (h : other ≠ key) (a : α)
    (steps : List (String × α)) :
    valuesUnder other (steps ++ [(key, a)]) = valuesUnder other steps := by
  simp [valuesUnder, h.symm]

/-- Nothing was pushed under a key that was not met. -/
theorem valuesUnder_eq_nil_iff {key : String} {steps : List (String × α)} :
    valuesUnder key steps = [] ↔ key ∉ steps.map Prod.fst := by
  simp only [valuesUnder, List.map_eq_nil_iff, List.filter_eq_nil_iff, beq_iff_eq, List.mem_map,
    not_exists, not_and]

/-! ### One push -/

/-- The invariant: the groups are those that the pushes ask for, and the index gives the place
of each key among them. -/
structure Collects (steps : List (String × α)) (t : Grouping α) : Prop where
  groups_eq : t.groups = (metKeys steps).map (groupOf steps)
  get?_index : ∀ key place, t.index.get? key = some place ↔ (metKeys steps)[place]? = some key

theorem collects_empty : Collects [] (empty : Grouping α) := by
  refine ⟨rfl, fun key place => ?_⟩
  constructor
  · intro h
    cases h
  · intro h
    cases h

theorem Collects.get?_index_eq_none_iff {steps : List (String × α)} {t : Grouping α}
    (h : Collects steps t) {key : String} :
    t.index.get? key = none ↔ key ∉ steps.map Prod.fst := by
  rw [← mem_metKeys, List.mem_iff_getElem?, Option.eq_none_iff_forall_ne_some]
  simp only [ne_eq, h.get?_index, not_exists]

theorem Collects.length_groups {steps : List (String × α)} {t : Grouping α}
    (h : Collects steps t) : t.groups.length = (metKeys steps).length := by
  rw [h.groups_eq, List.length_map]

/-- The first branch of a push: the key was met before, and its group grows in its place. -/
theorem Collects.push_of_mem {steps : List (String × α)} {t : Grouping α} {key : String}
    {place : Nat} (h : Collects steps t) (hp : t.index.get? key = some place) (a : α) :
    Collects (steps ++ [(key, a)]) { t with groups := t.groups.modify place (·.add a) } := by
  have hkey := (h.get?_index key place).mp hp
  have hmem : key ∈ steps.map Prod.fst := mem_metKeys.mp (List.mem_of_getElem? hkey)
  refine ⟨?_, fun k p => by rw [metKeys_push_of_mem hmem]; exact h.get?_index k p⟩
  rw [metKeys_push_of_mem hmem, h.groups_eq]
  refine List.ext_getElem? fun j => ?_
  rw [List.getElem?_modify, List.getElem?_map, List.getElem?_map]
  by_cases hj : place = j
  · subst hj
    simp [hkey, groupOf, Group.add, valuesUnder_push_self]
  · cases hother : (metKeys steps)[j]? with
    | none => simp [hj]
    | some other =>
      -- keys in different places differ
      have hne : other ≠ key := by
        rintro rfl
        have := (h.get?_index other j).mpr hother
        rw [hp, Option.some.injEq] at this
        exact hj this
      simp [hj, groupOf, valuesUnder_push_of_ne hne]

/-- The second branch of a push: the key is new, and its group is opened at the end. -/
theorem Collects.push_of_not_mem {steps : List (String × α)} {t : Grouping α} {key : String}
    (h : Collects steps t) (hp : t.index.get? key = none) (a : α) :
    Collects (steps ++ [(key, a)])
      ⟨t.groups ++ [⟨key, [a]⟩], t.index.insert key t.groups.length⟩ := by
  have hmem : key ∉ steps.map Prod.fst := h.get?_index_eq_none_iff.mp hp
  have hmet : key ∉ metKeys steps := fun hk => hmem (mem_metKeys.mp hk)
  constructor
  · have hold : (metKeys steps).map (groupOf (steps ++ [(key, a)]))
        = (metKeys steps).map (groupOf steps) := by
      refine List.map_congr_left fun k hk => ?_
      have hne : k ≠ key := fun e => hmet (e ▸ hk)
      rw [groupOf, valuesUnder_push_of_ne hne, groupOf]
    have hnew : groupOf (steps ++ [(key, a)]) key = ⟨key, [a]⟩ := by
      rw [groupOf, valuesUnder_push_self, valuesUnder_eq_nil_iff.mpr hmem]
      rfl
    rw [metKeys_push_of_not_mem hmem, List.map_append, List.map_singleton, hold, hnew,
      ← h.groups_eq]
  · intro k place
    rw [metKeys_push_of_not_mem hmem]
    by_cases hk : k = key
    · subst hk
      have hold : (metKeys steps)[place]? ≠ some k := fun hp => hmet (List.mem_of_getElem? hp)
      rw [Keyed.get?_insert_self, h.length_groups, List.getElem?_append]
      split
      · next hlt => simp [hold, Nat.ne_of_gt hlt]
      · next hge =>
        rw [List.getElem?_singleton]
        split <;> simp <;> omega
    · rw [Keyed.get?_insert_of_ne hk, h.get?_index, List.getElem?_append]
      split
      · rfl
      · next hge =>
        rw [List.getElem?_eq_none (Nat.le_of_not_lt hge), List.getElem?_singleton]
        split <;> simp [Ne.symm hk]

/-- A push keeps the invariant. -/
theorem Collects.push {steps : List (String × α)} {t : Grouping α} (h : Collects steps t)
    (key : String) (a : α) : Collects (steps ++ [(key, a)]) (t.push key a) := by
  unfold Grouping.push
  split
  · next place hp => exact h.push_of_mem hp a
  · next hp => exact h.push_of_not_mem hp a

/-! ### Any pushes -/

/-- A run of pushes keeps the invariant. -/
theorem Collects.pushAll {steps : List (String × α)} {t : Grouping α} (h : Collects steps t)
    (more : List (String × α)) : Collects (steps ++ more) (t.pushAll more) := by
  induction more generalizing steps t with
  | nil => rwa [List.append_nil]
  | cons step more ih =>
    have := ih (h.push step.1 step.2)
    rwa [List.append_assoc, List.singleton_append] at this

/-- The invariant holds of every grouping that was made by pushes alone. -/
theorem collects_pushAll (steps : List (String × α)) : Collects steps (empty.pushAll steps) :=
  collects_empty.pushAll steps

/-! ### What can be asked of a grouping -/

section Collects

variable {steps : List (String × α)} {t : Grouping α}

theorem Collects.keys_eq (h : Collects steps t) : t.keys = metKeys steps := by
  rw [Grouping.keys, h.groups_eq, List.map_map]
  exact List.map_id _

theorem Collects.isEmpty_iff (h : Collects steps t) : t.isEmpty = true ↔ steps = [] := by
  rw [isEmpty, List.isEmpty_iff, h.groups_eq, List.map_eq_nil_iff]
  constructor
  · intro hnil
    cases steps with
    | nil => rfl
    | cons step more =>
      have : step.1 ∈ metKeys (step :: more) := mem_metKeys.mpr List.mem_cons_self
      rw [hnil] at this
      cases this
  · rintro rfl
    rfl

/-- A group is never empty. -/
theorem Collects.members_ne_nil (h : Collects steps t) {g : Group α} (hg : g ∈ t.groups) :
    g.members ≠ [] := by
  rw [h.groups_eq, List.mem_map] at hg
  obtain ⟨key, hkey, rfl⟩ := hg
  intro hnil
  exact valuesUnder_eq_nil_iff.mp hnil (mem_metKeys.mp hkey)

/-- The index gives the place of the group of a key, and of no other group. -/
theorem Collects.get?_index_iff_group (h : Collects steps t) (key : String) (place : Nat) :
    t.index.get? key = some place ↔ ∃ g, t.groups[place]? = some g ∧ g.key = key := by
  rw [h.get?_index, h.groups_eq, List.getElem?_map]
  constructor
  · intro hkey
    exact ⟨groupOf steps key, by rw [hkey]; rfl, rfl⟩
  · rintro ⟨g, hg, rfl⟩
    obtain ⟨key, hkey, rfl⟩ := Option.map_eq_some_iff.mp hg
    exact hkey

theorem Collects.get?_eq (h : Collects steps t) (key : String) :
    t.get? key = if key ∈ steps.map Prod.fst then some (valuesUnder key steps) else none := by
  unfold Grouping.get?
  split
  · next place hp =>
    have hkey := (h.get?_index key place).mp hp
    rw [if_pos (mem_metKeys.mp (List.mem_of_getElem? hkey)), h.groups_eq, List.getElem?_map, hkey]
    rfl
  · next hp => rw [if_neg (h.get?_index_eq_none_iff.mp hp)]

/-- A push makes one member more, under a new key or an old one. -/
theorem Collects.total_push (h : Collects steps t) (key : String) (a : α) :
    (t.push key a).total = t.total + 1 := by
  unfold Grouping.push
  split
  · next place hp =>
    obtain ⟨g, hg, -⟩ := (h.get?_index_iff_group key place).mp hp
    obtain ⟨hlt, -⟩ := List.getElem?_eq_some_iff.mp hg
    obtain ⟨before, g, after, heq, -, hmod⟩ := List.exists_of_modify (·.add a) hlt
    rw [total, total, ← List.sum_eq_foldr, ← List.sum_eq_foldr, hmod, heq]
    simp only [List.map_append, List.map_cons, List.sum_append, List.sum_cons, Group.add,
      List.length_append, List.length_singleton]
    omega
  · rw [total, total, ← List.sum_eq_foldr, ← List.sum_eq_foldr, List.map_append, List.sum_append]
    rfl

/-- There are as many members as pushes. -/
theorem Collects.total_pushAll (h : Collects steps t) (more : List (String × α)) :
    (t.pushAll more).total = t.total + more.length := by
  induction more generalizing steps t with
  | nil => rfl
  | cons step more ih =>
    have hpush := h.push step.1 step.2
    rw [Grouping.pushAll, List.foldl_cons, ← Grouping.pushAll, ih hpush, h.total_push,
      List.length_cons]
    omega

end Collects

/-- **A grouping is the plain grouping of what was pushed.** After any pushes its groups are
those of the keys in the order of their first pushes, each key once, each with the values that
were pushed under it and never empty; a key that was pushed is looked up with these values and
any other text without; and the index gives for a key the place of its group and no other. -/
theorem pushAll_groups_by_key (steps : List (String × α)) :
    (empty.pushAll steps).groups
        = (metKeys steps).map (fun key => ⟨key, valuesUnder key steps⟩) ∧
      (metKeys steps).Pairwise
        (fun a b => (steps.map Prod.fst).idxOf a < (steps.map Prod.fst).idxOf b) ∧
      (metKeys steps).Nodup ∧
      (∀ key, key ∈ metKeys steps ↔ key ∈ steps.map Prod.fst) ∧
      (∀ g ∈ (empty.pushAll steps).groups, g.members ≠ []) ∧
      (∀ key, (empty.pushAll steps).get? key
        = if key ∈ steps.map Prod.fst then some (valuesUnder key steps) else none) ∧
      (empty.pushAll steps).keys = metKeys steps ∧
      (empty.pushAll steps).size = (metKeys steps).length ∧
      ((empty.pushAll steps).isEmpty = true ↔ steps = []) ∧
      (empty.pushAll steps).total = steps.length ∧
      ∀ key place, (empty.pushAll steps).index.get? key = some place ↔
        ∃ g, (empty.pushAll steps).groups[place]? = some g ∧ g.key = key := by
  have h : Collects steps (empty.pushAll steps) := collects_pushAll steps
  have htotal : (empty.pushAll steps).total = steps.length := by
    rw [collects_empty.total_pushAll]
    exact Nat.zero_add _
  refine ⟨h.groups_eq, metKeys_pairwise steps, nodup_metKeys steps, fun _ => mem_metKeys,
    fun g => h.members_ne_nil, h.get?_eq, h.keys_eq, h.length_groups, h.isEmpty_iff, htotal,
    h.get?_index_iff_group⟩

end BenchReport.Grouping
