import BenchReport.Proofs.Json.Record
import Mathlib.Data.List.Perm.Basic
import Mathlib.Logic.Relation

/-!
# Other ways to write a record

A record can be written in other ways that leave the values of its fields as they are
(`Rewritten.fields?_eq`): the members of an object may come in another order, with other blanks and
with their keys spelled otherwise; members of other names may be added or left out; and in place of
the object there may be the list of the values.
-/

namespace BenchReport.Json

theorem mapM_eq_filterMap {α β : Type} {f : α → Option β} {as : List α}
    (h : ∀ a ∈ as, (f a).isSome = true) : as.mapM f = some (as.filterMap f) := by
  induction as with
  | nil => rfl
  | cons a as ih =>
    obtain ⟨ha, h⟩ := List.forall_mem_cons.mp h
    obtain ⟨b, hb⟩ := Option.isSome_iff_exists.mp ha
    rw [List.mapM_cons, hb, ih h, List.filterMap_cons_some hb]
    rfl

theorem mapM_congr {α β : Type} {f g : α → Option β} {as : List α} (h : ∀ a ∈ as, f a = g a) :
    as.mapM f = as.mapM g := by
  induction as with
  | nil => rfl
  | cons a as ih =>
    obtain ⟨ha, h⟩ := List.forall_mem_cons.mp h
    rw [List.mapM_cons, List.mapM_cons, ha, ih h]

theorem mapM_eq_none_iff {α β : Type} {f : α → Option β} {as : List α} :
    as.mapM f = none ↔ ∃ a ∈ as, f a = none := by
  constructor
  · intro h
    by_contra hne
    push Not at hne
    rw [mapM_eq_filterMap fun a ha => Option.isSome_iff_ne_none.mpr (hne a ha)] at h
    cases h
  · rintro ⟨a, ha, hnone⟩
    cases h : as.mapM f with
    | none => rfl
    | some bs =>
      obtain ⟨b, hb⟩ := exists_of_mapM_eq_some h ha
      rw [hnone] at hb
      cases hb

theorem valuesOf_append (name : String) (ms ms' : List (String × Tree)) :
    valuesOf name (ms ++ ms') = valuesOf name ms ++ valuesOf name ms' := by
  rw [valuesOf, List.filter_append, List.map_append, valuesOf, valuesOf]

/-- The value of a name that occurs once does not depend on the order of the members. -/
theorem once?_perm {ms ms' : List (String × Tree)} (h : ms.Perm ms') (name : String) :
    once? name ms = once? name ms' := by
  have hvalues : (valuesOf name ms).Perm (valuesOf name ms') := (h.filter _).map _
  refine Option.ext fun t => ?_
  rw [once?_eq_some_iff, once?_eq_some_iff]
  constructor
  · intro heq
    rw [heq] at hvalues
    exact List.perm_singleton.mp hvalues.symm
  · intro heq
    rw [heq] at hvalues
    exact List.perm_singleton.mp hvalues

/-- The value of a member counts if no other member has its name. -/
theorem once?_append_cons (name : String) (t : Tree) (ms ms' : List (String × Tree)) :
    once? name (ms ++ (name, t) :: ms')
      = if valuesOf name ms = [] ∧ valuesOf name ms' = [] then some t else none := by
  rw [once?, valuesOf_append, valuesOf_cons_self]
  match hms : valuesOf name ms, hms' : valuesOf name ms' with
  | [], [] => rfl
  | [], _ :: _ => simp
  | [_], _ => simp
  | _ :: _ :: _, _ => simp

/-- One way to write a record in place of another; `names` are the names of its fields. -/
inductive Rewritten (names : List String) : Tree → Tree → Prop
  /-- The members come in another order. -/
  | permuted {members members' : List (Member Tree)} {close close' : Blanks}
      (h : (members.map Member.named?).Perm (members'.map Member.named?)) :
      Rewritten names (.object members close) (.object members' close')
  /-- A member of another name is added. -/
  | added {before after : List (Member Tree)} {m : Member Tree} {close : Blanks} {name : String}
      (hname : m.name? = some name) (hnot : name ∉ names) :
      Rewritten names (.object (before ++ after) close) (.object (before ++ m :: after) close)
  /-- The values of the fields are listed in their order. -/
  | listed {members : List (Member Tree)} {items : List (Item Tree)} {close close' : Blanks}
      (h : (Tree.object members close).fields? names = some (items.map Item.value)) :
      Rewritten names (.object members close) (.list items close')

namespace Rewritten

variable {names : List String}

theorem fields?_permuted {members members' : List (Member Tree)} {close close' : Blanks}
    (h : (members.map Member.named?).Perm (members'.map Member.named?)) :
    (Tree.object members close).fields? names = (Tree.object members' close').fields? names := by
  by_cases hall : ∀ m ∈ members, (Member.named? m).isSome = true
  · have hall' : ∀ m ∈ members', (Member.named? m).isSome = true := by
      intro m hm
      obtain ⟨m', hm', heq⟩ := List.mem_map.mp (h.mem_iff.mpr (List.mem_map_of_mem hm))
      rw [← heq]
      exact hall m' hm'
    have hperm : (members.filterMap Member.named?).Perm (members'.filterMap Member.named?) := by
      have hfilter := h.filterMap id
      rwa [List.filterMap_map, List.filterMap_map] at hfilter
    rw [Tree.fields?, Tree.fields?, mapM_eq_filterMap hall, mapM_eq_filterMap hall']
    simp only [Option.bind_some, once?_perm hperm]
  · push Not at hall
    obtain ⟨m, hm, hnone⟩ := hall
    obtain ⟨m', hm', heq⟩ := List.mem_map.mp (h.mem_iff.mp (List.mem_map_of_mem hm))
    have hnone : Member.named? m = none := by simpa using hnone
    rw [Tree.fields?, Tree.fields?, mapM_eq_none_iff.mpr ⟨m, hm, hnone⟩,
      mapM_eq_none_iff.mpr ⟨m', hm', heq.trans hnone⟩]

theorem fields?_added {before after : List (Member Tree)} {m : Member Tree} {close : Blanks}
    {name : String} (hname : m.name? = some name) (hnot : name ∉ names) :
    (Tree.object (before ++ after) close).fields? names
      = (Tree.object (before ++ m :: after) close).fields? names := by
  have hnamed : Member.named? m = some (name, m.value) := by rw [Member.named?, hname]; rfl
  rw [Tree.fields?, Tree.fields?, List.mapM_append, List.mapM_append, List.mapM_cons, hnamed]
  cases before.mapM Member.named? with
  | none => rfl
  | some ms =>
    cases after.mapM Member.named? with
    | none => rfl
    | some ms' =>
      have honce : ∀ n ∈ names, once? n (ms ++ ms') = once? n (ms ++ (name, m.value) :: ms') := by
        intro n hn
        have hne : name ≠ n := fun h => hnot (h ▸ hn)
        rw [once?, once?, valuesOf_append, valuesOf_append, valuesOf_cons_of_ne hne]
      exact mapM_congr honce

/-- **The fields have the same values.** -/
theorem fields?_eq {t t' : Tree} (h : Rewritten names t t') :
    t.fields? names = t'.fields? names := by
  cases h with
  | permuted h => exact fields?_permuted h
  | added hname hnot => exact fields?_added hname hnot
  | @listed members items close close' h =>
    have hlength : items.length = names.length := by
      rw [Tree.fields?, Option.bind_eq_some_iff] at h
      obtain ⟨ms, -, hms⟩ := h
      rw [(mapM_eq_some_iff.mp hms).length_eq, List.length_map]
    rw [h, Tree.fields?, if_pos hlength]

end Rewritten

end BenchReport.Json
