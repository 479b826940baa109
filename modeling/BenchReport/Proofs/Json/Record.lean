import BenchReport.Proofs.Json.Containers
import BenchReport.Json.Record
import Mathlib.Data.List.Forall2
import Mathlib.Data.List.Nodup
import Mathlib.Data.List.Pairwise

/-!
# What records mean

A kind of record has a slot for each of its fields (`Slot`): where the value is kept while the
record is in the making, how it is read and what a value means to it. The slots do not touch each
other (`Layout`).

A record is read from an object in which each of the names of its fields occurs exactly once, other
names being passed over, or from a list of as many elements as it has fields; what counts is the
values of the fields in their order (`Tree.fields?`), and the record is what is made of these
(`Layout.reader_means`). For an object the members are run through one after the other, and the
invariant says what each slot holds after some members: what the values of its name among them mean
(`Layout.run_eq_some_iff`).
-/

namespace BenchReport.Json

variable {α σ : Type}

theorem mapM_eq_some_iff {α β : Type} {f : α → Option β} {as : List α} {bs : List β} :
    as.mapM f = some bs ↔ List.Forall₂ (fun a b => f a = some b) as bs := by
  induction as generalizing bs with
  | nil => simp [eq_comm]
  | cons a as ih =>
    rw [List.mapM_cons, List.forall₂_cons_left_iff]
    simp only [Option.bind_eq_bind, Option.bind_eq_some_iff, Option.pure_def, Option.some.injEq, ih]
    constructor
    · rintro ⟨b, hb, bs', hbs, rfl⟩
      exact ⟨b, bs', hb, hbs, rfl⟩
    · rintro ⟨b, bs', hb, hbs, rfl⟩
      exact ⟨b, hb, bs', hbs, rfl⟩

theorem exists_mapM_eq_some {α β : Type} {f : α → Option β} {as : List α}
    (h : ∀ a ∈ as, ∃ b, f a = some b) : ∃ bs, as.mapM f = some bs := by
  induction as with
  | nil => exact ⟨[], rfl⟩
  | cons a as ih =>
    obtain ⟨⟨b, hb⟩, h⟩ := List.forall_mem_cons.mp h
    obtain ⟨bs, hbs⟩ := ih h
    exact ⟨b :: bs, mapM_eq_some_iff.mpr (.cons hb (mapM_eq_some_iff.mp hbs))⟩

theorem exists_of_mapM_eq_some {α β : Type} {f : α → Option β} {as : List α} {bs : List β}
    (h : as.mapM f = some bs) {a : α} (ha : a ∈ as) : ∃ b, f a = some b := by
  have hforall := mapM_eq_some_iff.mp h
  obtain ⟨i, hi, rfl⟩ := List.mem_iff_getElem.mp ha
  exact ⟨_, (List.forall₂_iff_get.mp hforall).2 i hi (hforall.length_eq ▸ hi)⟩

/-! ### The values of the fields -/

/-- The values of the members of a name. -/
def valuesOf (name : String) (members : List (String × Tree)) : List Tree :=
  (members.filter (·.1 == name)).map (·.2)

/-- The value of a name that occurs exactly once. -/
def once? (name : String) (members : List (String × Tree)) : Option Tree :=
  match valuesOf name members with
  | [t] => some t
  | _ => none

/-- The values of the fields of a record in their order: in an object each of the names occurs
exactly once, and a list has as many elements. -/
def Tree.fields? (names : List String) : Tree → Option (List Tree)
  | object members _ => (members.mapM Member.named?).bind fun ms => names.mapM (once? · ms)
  | list items _ => if items.length = names.length then some (items.map Item.value) else none
  | _ => none

theorem once?_eq_some_iff {name : String} {members : List (String × Tree)} {t : Tree} :
    once? name members = some t ↔ valuesOf name members = [t] := by
  unfold once?
  split
  · next u h => rw [h, Option.some.injEq, List.cons.injEq, and_iff_left rfl]
  · next h =>
    constructor
    · intro h'
      cases h'
    · intro h'
      exact absurd h' (h t)

theorem valuesOf_cons_self (name : String) (t : Tree) (members : List (String × Tree)) :
    valuesOf name ((name, t) :: members) = t :: valuesOf name members := by
  simp [valuesOf]

theorem valuesOf_cons_of_ne {name other : String} (h : other ≠ name) (t : Tree)
    (members : List (String × Tree)) :
    valuesOf name ((other, t) :: members) = valuesOf name members := by
  simp [valuesOf, h]

theorem valuesOf_zip {names : List String} (hnodup : names.Nodup) {ts : List Tree}
    {name : String} {t : Tree} (h : (name, t) ∈ names.zip ts) :
    valuesOf name (names.zip ts) = [t] := by
  induction names generalizing ts with
  | nil => cases h
  | cons name' names ih =>
    obtain _ | ⟨t', ts⟩ := ts
    · cases h
    obtain ⟨hnew, hnodup⟩ := List.nodup_cons.mp hnodup
    rw [List.zip_cons_cons] at h ⊢
    rcases List.mem_cons.mp h with heq | h
    · obtain ⟨rfl, rfl⟩ := Prod.mk.inj heq
      have hnone : valuesOf name (names.zip ts) = [] := by
        rw [valuesOf, List.filter_eq_nil_iff.mpr, List.map_nil]
        rintro ⟨other, u⟩ hmem
        have : other ≠ name := fun heq => hnew (heq ▸ (List.of_mem_zip hmem).1)
        simpa using this
      rw [valuesOf_cons_self, hnone]
    · have hne : name' ≠ name := fun heq => hnew (heq ▸ (List.of_mem_zip h).1)
      rw [valuesOf_cons_of_ne hne, ih hnodup h]

/-! ### Slots -/

/-- A field of a record in the making, with what a value means to it. -/
structure Slot (σ : Type) where
  /-- The name. -/
  name : String
  Value : Type
  /-- The value that is kept. -/
  get : σ → Option Value
  /-- Keeps a value. -/
  set : σ → Value → σ
  reader : Reader Value
  meaning : Tree → Option Value
  means : reader.Means meaning
  get_set : ∀ st v, get (set st v) = some v

namespace Slot

section Kinds

variable (name : String)

/-- A slot for a string. -/
def text (get : σ → Option String) (set : σ → String → σ)
    (get_set : ∀ st v, get (set st v) = some v) : Slot σ :=
  ⟨name, String, get, set, .text, Tree.string?, Reader.text_means, get_set⟩

/-- A slot for a number. -/
def real (get : σ → Option Float) (set : σ → Float → σ)
    (get_set : ∀ st v, get (set st v) = some v) : Slot σ :=
  ⟨name, Float, get, set, .real, Tree.real?, Reader.real_means, get_set⟩

/-- A slot for a whole number of 32 bits. -/
def word32 (get : σ → Option UInt32) (set : σ → UInt32 → σ)
    (get_set : ∀ st v, get (set st v) = some v) : Slot σ :=
  ⟨name, UInt32, get, set, .word32, Tree.word32?, Reader.word32_means, get_set⟩

/-- A slot for a whole number of 64 bits. -/
def word64 (get : σ → Option UInt64) (set : σ → UInt64 → σ)
    (get_set : ∀ st v, get (set st v) = some v) : Slot σ :=
  ⟨name, UInt64, get, set, .word64, Tree.word64?, Reader.word64_means, get_set⟩

end Kinds

/-- The field of a slot. -/
def field (s : Slot σ) : Field σ := .of s.name s.get s.set s.reader

/-- Keeps what a value means. -/
def fill (s : Slot σ) (st : σ) (t : Tree) : Option σ := (s.meaning t).map (s.set st)

/-- Keeps what a value means, if none is kept yet. -/
def add (s : Slot σ) (st : σ) (t : Tree) : Option σ :=
  if (s.get st).isSome then none else s.fill st t

theorem add_eq_some_iff {s : Slot σ} {st st' : σ} {t : Tree} :
    s.add st t = some st' ↔ s.get st = none ∧ ∃ v, s.meaning t = some v ∧ s.set st v = st' := by
  rw [add, fill]
  split
  · next h => simp [Option.ne_none_iff_isSome.mpr h]
  · next h => simp [Option.not_isSome_iff_eq_none.mp h]

/-- Neither of two slots changes what the other keeps. -/
def Apart (s s' : Slot σ) : Prop :=
  (∀ st v, s'.get (s.set st v) = s'.get st) ∧ ∀ st v, s.get (s'.set st v) = s.get st

instance : Std.Symm (@Apart σ) := ⟨fun _ _ h => ⟨h.2, h.1⟩⟩

/-- What a slot keeps after some values of its name: the same as before if there are none, and what
the value means if there is one and nothing was kept before. -/
def Goes (s : Slot σ) (before : Option s.Value) : List Tree → Option s.Value → Prop
  | [], after => after = before
  | [t], after => before = none ∧ ∃ v, s.meaning t = some v ∧ after = some v
  | _, _ => False

theorem goes_cons_iff {s : Slot σ} {before after : Option s.Value} {t : Tree} {ts : List Tree} :
    s.Goes before (t :: ts) after
      ↔ before = none ∧ ∃ v, s.meaning t = some v ∧ s.Goes (some v) ts after := by
  cases ts with
  | nil => exact Iff.rfl
  | cons u us => cases us <;> simp [Goes]

end Slot

/-- Keeps what values mean in as many slots. -/
def fillAll : List (Slot σ) → σ → List Tree → Option σ
  | [], st, [] => some st
  | s :: slots, st, t :: ts => (s.fill st t).bind (fillAll slots · ts)
  | _, _, _ => none

theorem fillAll_of_length_ne {slots : List (Slot σ)} {st : σ} {ts : List Tree}
    (h : ts.length ≠ slots.length) : fillAll slots st ts = none := by
  induction slots generalizing st ts with
  | nil =>
    cases ts with
    | nil => exact absurd rfl h
    | cons t ts => rfl
  | cons s slots ih =>
    cases ts with
    | nil => rfl
    | cons t ts =>
      rw [fillAll, Option.bind_eq_none_iff]
      exact fun st' _ => ih fun heq => h (congrArg Nat.succ heq)

/-- The slots of a kind of record. -/
structure Layout (k : Schema σ α) where
  slots : List (Slot σ)
  fields : k.fields = slots.map Slot.field
  /-- No two fields have one name. -/
  nodup : (slots.map Slot.name).Nodup
  apart : slots.Pairwise Slot.Apart
  /-- Nothing is kept at first. -/
  start : ∀ s ∈ slots, s.get k.start = none
  /-- The slots are all there is to a record in the making. -/
  ext : ∀ st st', (∀ s ∈ slots, s.get st = s.get st') → st = st'
  /-- A record is finished with all its fields only. -/
  whole : ∀ st, (∃ s ∈ slots, s.get st = none) → ∃ name, k.finish st = .error name

/-- A record is not finished if what comes after one of its fields fails. -/
theorem exists_need_error {β : Type} {field : String} {v? : Option β} {f : β → Except String α}
    (h : ∀ v, v? = some v → ∃ name, f v = .error name) :
    ∃ name, (need field v? >>= f) = .error name := by
  cases v? with
  | none => exact ⟨field, rfl⟩
  | some v => exact h v rfl

namespace Layout

variable {k : Schema σ α} (l : Layout k)

/-- The names of the fields. -/
def names : List String := l.slots.map Slot.name

/-- The record that is made of the values of its fields. -/
def ofFields? (ts : List Tree) : Option α :=
  (fillAll l.slots k.start ts).bind fun st => (k.finish st).toOption

/-- What is done with a member: its value is kept in the slot of its name, if there is one. -/
def step (st : σ) (key : String) (t : Tree) : Option σ :=
  match l.slots.find? (·.name == key) with
  | none => some st
  | some s => s.add st t

theorem members_mean : k.members.Mean l.step := by
  intro st key
  rw [Schema.members, l.fields, List.find?_map]
  have hfind : l.slots.find? ((fun f : Field σ => f.name == key) ∘ Slot.field)
      = l.slots.find? (·.name == key) := rfl
  unfold step
  rw [hfind]
  cases l.slots.find? (·.name == key) with
  | none => exact Reader.skip_means.map _
  | some s =>
    simp only [Option.map_some]
    by_cases h : (s.get st).isSome = true
    · have hfilled : s.field.filled st = true := h
      simp only [hfilled, if_true]
      intro t
      rw [Slot.add, if_pos h]
    · have hfilled : s.field.filled st = false := Bool.eq_false_iff.mpr h
      simp only [hfilled, Bool.false_eq_true, if_false]
      refine (s.means.map (s.set st)).congr fun t => ?_
      rw [Slot.add, if_neg h, Slot.fill]

theorem find?_name {s : Slot σ} (hs : s ∈ l.slots) :
    l.slots.find? (·.name == s.name) = some s := by
  cases hfind : l.slots.find? (·.name == s.name) with
  | none =>
    have hnot := List.find?_eq_none.mp hfind s hs
    simp at hnot
  | some s' =>
    have hname : s'.name = s.name := by simpa using List.find?_some hfind
    rw [List.inj_on_of_nodup_map l.nodup (List.mem_of_find?_eq_some hfind) hs hname]

theorem get_set_of_ne {s s' : Slot σ} (hs : s ∈ l.slots) (hs' : s' ∈ l.slots)
    (hne : s.name ≠ s'.name) (st : σ) (v : s.Value) : s'.get (s.set st v) = s'.get st := by
  have hapart : s.Apart s' := l.apart.forall hs hs' fun h => hne (by rw [h])
  exact hapart.1 st v

/-! #### Objects -/

/-- A member of a slot's name goes into that slot, which must be empty, and into no other. -/
theorem forall_goes_cons_iff {s₀ : Slot σ} (hs₀ : s₀ ∈ l.slots) {t : Tree}
    {members : List (String × Tree)} {st st' : σ} :
    (∀ s ∈ l.slots, s.Goes (s.get st) (valuesOf s.name ((s₀.name, t) :: members)) (s.get st'))
      ↔ s₀.get st = none ∧ ∃ v, s₀.meaning t = some v ∧
        ∀ s ∈ l.slots, s.Goes (s.get (s₀.set st v)) (valuesOf s.name members) (s.get st') := by
  constructor
  · intro h
    have hgoes := h s₀ hs₀
    rw [valuesOf_cons_self, Slot.goes_cons_iff] at hgoes
    obtain ⟨hempty, v, hv, hgoes⟩ := hgoes
    refine ⟨hempty, v, hv, fun s hs => ?_⟩
    by_cases hname : s₀.name = s.name
    · obtain rfl : s₀ = s := List.inj_on_of_nodup_map l.nodup hs₀ hs hname
      rw [s₀.get_set]
      exact hgoes
    · have hother := h s hs
      rwa [valuesOf_cons_of_ne hname, ← l.get_set_of_ne hs₀ hs hname st v] at hother
  · rintro ⟨hempty, v, hv, h⟩ s hs
    have hgoes := h s hs
    by_cases hname : s₀.name = s.name
    · obtain rfl : s₀ = s := List.inj_on_of_nodup_map l.nodup hs₀ hs hname
      rw [s₀.get_set] at hgoes
      rw [valuesOf_cons_self, Slot.goes_cons_iff]
      exact ⟨hempty, v, hv, hgoes⟩
    · rw [valuesOf_cons_of_ne hname]
      rwa [l.get_set_of_ne hs₀ hs hname] at hgoes

/-- **What the slots keep after some members**: each keeps what the values of its name mean. The
induction is on the members; a member of another name, or of none, leaves a slot as it is. -/
theorem run_eq_some_iff {members : List (String × Tree)} {st st' : σ} :
    runMembers l.step st members = some st'
      ↔ ∀ s ∈ l.slots, s.Goes (s.get st) (valuesOf s.name members) (s.get st') := by
  induction members generalizing st with
  | nil =>
    constructor
    · intro h s _
      obtain rfl : st = st' := Option.some.inj h
      rfl
    · intro h
      exact congrArg some (l.ext st st' fun s hs => (h s hs).symm)
  | cons m members ih =>
    obtain ⟨key, t⟩ := m
    have hrun : runMembers l.step st ((key, t) :: members)
        = (l.step st key t).bind fun st => runMembers l.step st members := List.foldlM_cons ..
    rw [hrun]
    cases hfind : l.slots.find? (·.name == key) with
    | none =>
      have hne : ∀ s ∈ l.slots, key ≠ s.name := fun s hs h => by
        have := List.find?_eq_none.mp hfind s hs
        simp [h] at this
      rw [step, hfind, Option.bind_some, ih]
      refine forall₂_congr fun s hs => ?_
      rw [valuesOf_cons_of_ne (hne s hs)]
    | some s₀ =>
      have hs₀ := List.mem_of_find?_eq_some hfind
      obtain rfl : s₀.name = key := by simpa using List.find?_some hfind
      rw [step, hfind, l.forall_goes_cons_iff hs₀, Option.bind_eq_some_iff]
      simp only [Slot.add_eq_some_iff]
      constructor
      · rintro ⟨st₁, ⟨hempty, v, hv, rfl⟩, hrest⟩
        exact ⟨hempty, v, hv, ih.mp hrest⟩
      · rintro ⟨hempty, v, hv, h⟩
        exact ⟨_, ⟨hempty, v, hv, rfl⟩, ih.mpr h⟩

/-- The record that is made of members. -/
def ofMembers? (members : List (String × Tree)) : Option α :=
  (runMembers l.step k.start members).bind fun st => (k.finish st).toOption

/-- Filling slots is running through members that have the names of the slots. -/
theorem run_zip {slots : List (Slot σ)} (hslots : ∀ s ∈ slots, s ∈ l.slots)
    (hnodup : (slots.map Slot.name).Nodup) {st : σ} (hempty : ∀ s ∈ slots, s.get st = none)
    {ts : List Tree} (hlength : ts.length = slots.length) :
    runMembers l.step st ((slots.map Slot.name).zip ts) = fillAll slots st ts := by
  induction slots generalizing st ts with
  | nil =>
    obtain rfl := List.eq_nil_of_length_eq_zero hlength
    rfl
  | cons s slots ih =>
    obtain _ | ⟨t, ts⟩ := ts
    · cases hlength
    obtain ⟨hs, hslots⟩ := List.forall_mem_cons.mp hslots
    obtain ⟨hnew, hnodup⟩ := List.nodup_cons.mp hnodup
    have hstep : l.step st s.name t = s.fill st t := by
      rw [step, l.find?_name hs]
      simp [Slot.add, hempty s List.mem_cons_self]
    have hrun : runMembers l.step st (((s :: slots).map Slot.name).zip (t :: ts))
        = (l.step st s.name t).bind
          fun st => runMembers l.step st ((slots.map Slot.name).zip ts) := List.foldlM_cons ..
    rw [hrun, hstep, fillAll, Slot.fill]
    cases s.meaning t with
    | none => rfl
    | some v =>
      refine ih hslots hnodup (fun s' hs' => ?_) (Nat.succ.inj hlength)
      have hne : s.name ≠ s'.name := fun h => hnew (h ▸ List.mem_map_of_mem hs')
      rw [l.get_set_of_ne hs (hslots s' hs') hne]
      exact hempty s' (List.mem_cons_of_mem _ hs')

/-- A finished record has all its fields, so each name occurred exactly once. -/
theorem exists_mapM_once? {members : List (String × Tree)} {st : σ}
    (hrun : runMembers l.step k.start members = some st) (hfinish : (k.finish st).toOption ≠ none) :
    ∃ ts, l.names.mapM (once? · members) = some ts := by
  have hfilled : ∀ s ∈ l.slots, s.get st ≠ none := fun s hs hget => by
    obtain ⟨name, herror⟩ := l.whole st ⟨s, hs, hget⟩
    rw [herror] at hfinish
    exact hfinish rfl
  refine exists_mapM_eq_some fun name hname => ?_
  obtain ⟨s, hs, rfl⟩ := List.mem_map.mp hname
  have hgoes := l.run_eq_some_iff.mp hrun s hs
  rw [l.start s hs] at hgoes
  match hvalues : valuesOf s.name members with
  | [] =>
    rw [hvalues] at hgoes
    exact absurd hgoes (hfilled s hs)
  | [t] => exact ⟨t, once?_eq_some_iff.mpr hvalues⟩
  | _ :: _ :: _ =>
    rw [hvalues] at hgoes
    exact hgoes.elim

/-- Where each name occurs once, a field has the same values as in the members in the order of the
fields. -/
theorem valuesOf_eq_zip {members : List (String × Tree)} {ts : List Tree}
    (hts : l.names.mapM (once? · members) = some ts) {s : Slot σ} (hs : s ∈ l.slots) :
    valuesOf s.name members = valuesOf s.name (l.names.zip ts) := by
  have hforall := mapM_eq_some_iff.mp hts
  have hnodup : l.names.Nodup := l.nodup
  have hname : s.name ∈ l.names := List.mem_map_of_mem hs
  obtain ⟨i, hi, hget⟩ := List.mem_iff_getElem.mp hname
  have hi' : i < ts.length := hforall.length_eq ▸ hi
  have hmem : (s.name, ts[i]) ∈ l.names.zip ts :=
    List.mem_iff_getElem.mpr ⟨i, by rw [List.length_zip]; exact lt_min hi hi', by simp [hget]⟩
  have honce := (List.forall₂_iff_get.mp hforall).2 i hi hi'
  rw [List.get_eq_getElem, List.get_eq_getElem, hget] at honce
  rw [once?_eq_some_iff.mp honce, valuesOf_zip hnodup hmem]

/-- Members make the record that is made of the values of the fields, if each name occurs exactly
once among them, and else none. -/
theorem ofMembers?_eq (members : List (String × Tree)) :
    l.ofMembers? members = (l.names.mapM (once? · members)).bind l.ofFields? := by
  cases hfields : l.names.mapM (once? · members) with
  | none =>
    rw [Option.bind_none, ofMembers?, Option.bind_eq_none_iff]
    intro st hrun
    by_contra hfinish
    obtain ⟨ts, hts⟩ := l.exists_mapM_once? hrun hfinish
    rw [hts] at hfields
    cases hfields
  | some ts =>
    have hlength : ts.length = l.slots.length := by
      rw [← (mapM_eq_some_iff.mp hfields).length_eq, names, List.length_map]
    have hrun : runMembers l.step k.start members = fillAll l.slots k.start ts := by
      rw [← l.run_zip (fun _ h => h) l.nodup l.start hlength]
      refine Option.ext fun st => ?_
      rw [l.run_eq_some_iff, l.run_eq_some_iff]
      refine forall₂_congr fun s hs => ?_
      rw [l.valuesOf_eq_zip hfields hs]
      rfl
    rw [Option.bind_some, ofMembers?, hrun, ofFields?]

/-! #### Lists -/

theorem answers_complete (st : σ) (rest : List Char) :
    Answers (k.finish st).toOption rest (k.complete st rest) := by
  unfold Schema.complete
  cases k.finish st with
  | error name => exact Answers.error _
  | ok a => exact Answers.ok a

theorem readListEnd_nil (first : Bool) (after close : Blanks) (rest : List Char) :
    Schema.readListEnd (goingOn first after ']' close rest []) = .ok rest := by
  obtain ⟨b, hb⟩ := exists_goingOn_nil first after ']' close rest
  rw [hb, Schema.readListEnd, skipSpace_append_cons b (by decide)]
  rfl

/-- A list that goes on has not ended. -/
theorem readListEnd_cons (first : Bool) (after close : Blanks) (rest : List Char) (i : Item Tree)
    (items : List (Item Tree)) :
    ∃ f, Schema.readListEnd
      (goingOn first after ']' close rest ((i :: items).map Item.text)) = .error f := by
  have hfront : ∃ c u, skipSpace (goingOn first after ']' close rest ((i :: items).map Item.text))
      = c :: u ∧ c ≠ ']' := by
    cases first with
    | true =>
      obtain ⟨c, u, hskip, hc, -⟩ := Tree.exists_skipSpace i.before i.value
        (i.after.chars ++ afterPart ']' close rest (items.map Item.text))
      refine ⟨c, u, ?_, hc.ne_close .square⟩
      rw [← hskip, goingOn, if_pos rfl, List.map_cons, afterOpening, Item.text]
      simp only [List.append_assoc]
    | false =>
      exact ⟨',', _, skipSpace_append_cons after (by decide) _, by decide⟩
  obtain ⟨c, u, hskip, hc⟩ := hfront
  rw [Schema.readListEnd, hskip]
  simp only [hc, if_false]
  split
  · split
    · exact ⟨_, rfl⟩
    · split <;> exact ⟨_, rfl⟩
  · exact ⟨_, rfl⟩

/-- Reads the values of fields and the end of the list. -/
def readFieldsToEnd (k : Schema σ α) (index : Nat) (st : σ) (fields : List (Field σ))
    (s : List Char) : Except Failure (α × List Char) :=
  match k.readFields index st fields s with
  | .error f => .error f
  | .ok (st, s) =>
    match Schema.readListEnd s with
    | .error f => .error f
    | .ok rest => k.complete st rest

/-- The values of fields are read from as many elements of a list. -/
theorem answers_readFieldsToEnd (slots : List (Slot σ)) (index : Nat) (st : σ)
    (after close : Blanks) (rest : List Char) (items : List (Item Tree)) :
    Answers ((fillAll slots st (items.map Item.value)).bind fun st => (k.finish st).toOption) rest
      (readFieldsToEnd k index st (slots.map Slot.field)
        (goingOn (index == 0) after ']' close rest (items.map Item.text))) := by
  induction slots generalizing index st after items with
  | nil =>
    rw [readFieldsToEnd, List.map_nil, Schema.readFields]
    cases items with
    | nil =>
      simp only [List.map_nil, readListEnd_nil]
      exact answers_complete st rest
    | cons i items =>
      obtain ⟨f, hf⟩ := readListEnd_cons (index == 0) after close rest i items
      simp only [hf]
      exact Answers.error f
  | cons s slots ih =>
    rw [readFieldsToEnd, List.map_cons, Schema.readFields]
    cases items with
    | nil =>
      simp only [List.map_nil, nextElement_nil]
      exact Answers.error _
    | cons i items =>
      have hread := (s.means.map (s.set st)).text i.value
        (ends_goingOn i.after (show continuesNumber ']' = false by decide) close rest
          (items.map Item.text))
      rw [List.map_cons (f := Item.value), fillAll, Slot.fill]
      simp only [nextElement_cons, show s.field.reader st = s.reader.map (s.set st) from rfl]
      obtain ⟨st', hfill, hread⟩ | ⟨hfill, f, hread⟩ := hread.cases
      · rw [hfill]
        simp only [hread]
        exact ih (index + 1) st' i.after items
      · rw [hfill]
        simp only [hread]
        exact Answers.error f

/-! #### Records -/

/-- What a value means as a record: what is made of the values of its fields. -/
def meaning (t : Tree) : Option α := (t.fields? l.names).bind l.ofFields?

/-- **A record is read as what is made of the values of its fields.** -/
theorem reader_means : k.reader.Means l.meaning := by
  intro b t rest hrest
  obtain ⟨c, u, hskip, hc, htext⟩ := Tree.exists_skipSpace b t rest
  have hrefuse (h1 : c ≠ '[') (h2 : c ≠ '\x7b') :
      Answers none rest (k.readRecord (b.chars ++ (t.text ++ rest))) := by
    rw [Schema.readRecord, hskip]
    simp only [h1, h2, if_false]
    exact answers_refuse _ _
  cases t with
  | word w => rcases hc with rfl | rfl | rfl <;> exact hrefuse (by decide) (by decide)
  | number n =>
    rcases hc with rfl | hc
    · exact hrefuse (by decide) (by decide)
    · exact hrefuse (isDigit_ne hc (by decide)) (isDigit_ne hc (by decide))
  | string ps => cases hc; exact hrefuse (by decide) (by decide)
  | list items close =>
    have hread : k.reader.read (b.chars ++ ((Tree.list items close).text ++ rest))
        = readFieldsToEnd k 0 k.start (l.slots.map Slot.field)
          (goingOn true .none ']' close rest (items.map Item.text)) := by
      show k.readRecord _ = _
      rw [Tree.text_list_append, Schema.readRecord, skipSpace_append_cons b (by decide),
        ← l.fields]
      rfl
    have hanswers := answers_readFieldsToEnd (k := k) l.slots 0 k.start .none close rest items
    have hmeaning : ((Tree.list items close).fields? l.names).bind l.ofFields?
        = l.ofFields? (items.map Item.value) := by
      rw [Tree.fields?]
      split
      · rfl
      · next hne =>
        have hlength : (items.map Item.value).length ≠ l.slots.length := by
          simpa [names] using hne
        rw [ofFields?, fillAll_of_length_ne hlength]
        rfl
    rw [hread, meaning, hmeaning]
    exact hanswers
  | object members close =>
    have hread : k.reader.read (b.chars ++ ((Tree.object members close).text ++ rest))
        = (readMembers k.members true k.start
          (goingOn true .none '\x7d' close rest (members.map Member.text))).bind
            fun x => k.complete x.1 x.2 := by
      show k.readRecord _ = _
      rw [Tree.text_object_append, Schema.readRecord, skipSpace_append_cons b (by decide)]
      simp only [Schema.readObject, show ('\x7b' : Char) ≠ '[' by decide, if_true, if_false,
        goingOn]
      cases readMembers k.members true k.start
        (afterOpening '\x7d' close rest (members.map Member.text)) <;> rfl
    have hmeaning : ((Tree.object members close).fields? l.names).bind l.ofFields?
        = ((members.mapM Member.named?).bind (runMembers l.step k.start)).bind
          fun st => (k.finish st).toOption := by
      rw [Tree.fields?]
      cases members.mapM Member.named? with
      | none => rfl
      | some ms => exact (l.ofMembers?_eq ms).symm
    rw [hread, meaning, hmeaning]
    exact (answers_readMembers l.members_mean true .none close rest k.start members).bind
      fun st => answers_complete st rest

end Layout

end BenchReport.Json
