import BenchReport.Proofs.Text.Runs
import BenchReport.Text.Pattern
import Mathlib.Data.List.Basic

/-!
# What patterns take

The texts that a pattern takes, and the parts of them that it keeps, without regard to order
(`Takes`). The ways of a pattern through a text are these and no others (`mem_ways_iff`): the
order of preference decides which way comes first, and never whether there is one. Where all ways
through a text agree, the preferred way is any of them.
-/

namespace BenchReport.Text

namespace Pattern

/-- A pattern takes a text and keeps some parts of it. -/
def Takes : Pattern → List Char → List (List Char) → Prop
  | nothing, text, parts => text = [] ∧ parts = []
  | one p, text, parts => ∃ c, p c = true ∧ text = [c] ∧ parts = []
  | many p, text, parts => (∀ c ∈ text, p c = true) ∧ parts = []
  | both a b, text, parts => ∃ text₁ parts₁ text₂ parts₂, a.Takes text₁ parts₁ ∧
      b.Takes text₂ parts₂ ∧ text = text₁ ++ text₂ ∧ parts = parts₁ ++ parts₂
  | either a b, text, parts => a.Takes text parts ∨ b.Takes text parts
  | kept a, text, parts => ∃ parts₁, a.Takes text parts₁ ∧ parts = text :: parts₁

theorem mem_manyWays_iff {p : Char → Bool} {s : List Char} {w : Way} :
    w ∈ manyWays p s ↔ (∀ c ∈ w.text, p c = true) ∧ w.parts = [] ∧ w.text ++ w.rest = s := by
  induction s generalizing w with
  | nil =>
    obtain ⟨text, parts, rest⟩ := w
    simp only [manyWays, List.mem_singleton, Way.mk.injEq, List.append_eq_nil_iff]
    constructor
    · rintro ⟨rfl, rfl, rfl⟩
      exact ⟨fun c hc => absurd hc List.not_mem_nil, rfl, rfl, rfl⟩
    · rintro ⟨-, rfl, rfl, rfl⟩
      exact ⟨rfl, rfl, rfl⟩
  | cons c s ih =>
    rw [manyWays, List.mem_append, List.mem_singleton]
    constructor
    · rintro (h | rfl)
      · split at h
        · next hc =>
          obtain ⟨v, hv, rfl⟩ := List.mem_map.mp h
          obtain ⟨hall, hparts, htext⟩ := ih.mp hv
          refine ⟨fun d hd => ?_, hparts, congrArg (c :: ·) htext⟩
          rcases List.mem_cons.mp hd with rfl | hd
          · exact hc
          · exact hall d hd
        · cases h
      · exact ⟨fun d hd => absurd hd List.not_mem_nil, rfl, rfl⟩
    · obtain ⟨text, parts, rest⟩ := w
      rintro ⟨hall, rfl, htext⟩
      cases text with
      | nil => exact Or.inr (by rw [← htext]; rfl)
      | cons d text =>
        obtain ⟨rfl, hrest⟩ := List.cons.inj htext
        have hw : (⟨text, [], rest⟩ : Way) ∈ manyWays p s :=
          ih.mpr ⟨fun e he => hall e (List.mem_cons_of_mem d he), rfl, hrest⟩
        left
        rw [if_pos (hall d List.mem_cons_self)]
        exact List.mem_map.mpr ⟨_, hw, rfl⟩

/-- **The ways of a pattern through a text** are the beginnings of the text that it takes, each
with the parts that it keeps. -/
theorem mem_ways_iff {a : Pattern} {s : List Char} {w : Way} :
    w ∈ a.ways s ↔ a.Takes w.text w.parts ∧ w.text ++ w.rest = s := by
  induction a generalizing s w with
  | nothing =>
    obtain ⟨text, parts, rest⟩ := w
    simp only [ways, Takes, List.mem_singleton, Way.mk.injEq]
    constructor
    · rintro ⟨rfl, rfl, rfl⟩
      exact ⟨⟨rfl, rfl⟩, rfl⟩
    · rintro ⟨⟨rfl, rfl⟩, rfl⟩
      exact ⟨rfl, rfl, rfl⟩
  | one p =>
    obtain ⟨text, parts, rest⟩ := w
    simp only [Takes]
    cases s with
    | nil =>
      simp only [ways, List.not_mem_nil, false_iff, not_and, forall_exists_index]
      rintro c ⟨-, rfl, -⟩ h
      cases h
    | cons d s =>
      simp only [ways]
      constructor
      · intro h
        split at h
        · next hd =>
          cases List.mem_singleton.mp h
          exact ⟨⟨d, hd, rfl, rfl⟩, rfl⟩
        · cases h
      · rintro ⟨⟨c, hc, rfl, rfl⟩, h⟩
        obtain ⟨rfl, rfl⟩ := List.cons.inj h
        rw [if_pos hc]
        exact List.mem_singleton_self _
  | many p =>
    rw [ways, mem_manyWays_iff, Takes, and_assoc]
  | both a b iha ihb =>
    simp only [ways, List.mem_flatMap, List.mem_map, iha, ihb, Takes]
    constructor
    · rintro ⟨v, ⟨hv, rfl⟩, u, ⟨hu, hrest⟩, rfl⟩
      refine ⟨⟨v.text, v.parts, u.text, u.parts, hv, hu, rfl, rfl⟩, ?_⟩
      rw [Way.andThen, ← hrest, List.append_assoc]
    · rintro ⟨⟨text₁, parts₁, text₂, parts₂, ha, hb, htext, hparts⟩, rfl⟩
      refine ⟨⟨text₁, parts₁, text₂ ++ w.rest⟩, ⟨ha, ?_⟩, ⟨text₂, parts₂, w.rest⟩, ⟨hb, rfl⟩, ?_⟩
      · rw [htext, List.append_assoc]
      · rw [Way.andThen, ← htext, ← hparts]
  | either a b iha ihb =>
    rw [ways, List.mem_append, iha, ihb, Takes, or_and_right]
  | kept a iha =>
    simp only [ways, List.mem_map, iha, Takes]
    constructor
    · rintro ⟨v, ⟨hv, rfl⟩, rfl⟩
      exact ⟨⟨v.parts, hv, rfl⟩, rfl⟩
    · obtain ⟨text, parts, rest⟩ := w
      rintro ⟨⟨parts₁, ha, hparts⟩, rfl⟩
      exact ⟨⟨text, parts₁, rest⟩, ⟨ha, rfl⟩, congrArg (Way.mk text · rest) hparts.symm⟩

/-- The preferred way is a way. -/
theorem take?_mem {a : Pattern} {s : List Char} {w : Way} (h : a.take? s = some w) :
    a.Takes w.text w.parts ∧ w.text ++ w.rest = s := mem_ways_iff.mp (List.mem_of_head? h)

/-- There is a preferred way where there is a way. -/
theorem exists_take? {a : Pattern} {text : List Char} {parts : List (List Char)}
    (h : a.Takes text parts) (rest : List Char) : ∃ w, a.take? (text ++ rest) = some w := by
  have hmem : (⟨text, parts, rest⟩ : Way) ∈ a.ways (text ++ rest) := mem_ways_iff.mpr ⟨h, rfl⟩
  cases hways : a.ways (text ++ rest) with
  | nil =>
    rw [hways] at hmem
    cases hmem
  | cons w ws => exact ⟨w, by rw [take?, hways]; rfl⟩

/-! ### Composed patterns -/

theorem takes_run {p : Char → Bool} {text : List Char} {parts : List (List Char)} :
    (run p).Takes text parts ↔ ∃ u : Run p, text = u.chars ∧ parts = [] := by
  simp only [run, Takes]
  constructor
  · rintro ⟨_, _, s, _, ⟨c, hc, rfl, rfl⟩, ⟨hs, rfl⟩, rfl, rfl⟩
    refine ⟨⟨c :: s, List.cons_ne_nil c s, fun d hd => ?_⟩, rfl, rfl⟩
    rcases List.mem_cons.mp hd with rfl | hd
    · exact hc
    · exact hs d hd
  · rintro ⟨⟨chars, hne, hall⟩, htext, rfl⟩
    subst htext
    cases text with
    | nil => exact absurd rfl hne
    | cons c s =>
      exact ⟨[c], [], s, [], ⟨c, hall c List.mem_cons_self, rfl, rfl⟩,
        ⟨fun d hd => hall d (List.mem_cons_of_mem c hd), rfl⟩, rfl, rfl⟩

theorem takes_word {v text : List Char} {parts : List (List Char)} :
    (word v).Takes text parts ↔ text = v ∧ parts = [] := by
  induction v generalizing text parts with
  | nil => rfl
  | cons c v ih =>
    rw [word, List.foldr_cons, ← word, Takes]
    constructor
    · rintro ⟨_, _, _, _, ⟨d, hd, rfl, rfl⟩, h, rfl, rfl⟩
      obtain ⟨rfl, rfl⟩ := ih.mp h
      rw [eq_of_beq hd]
      exact ⟨rfl, rfl⟩
    · rintro ⟨rfl, rfl⟩
      exact ⟨[c], [], v, [], ⟨c, beq_self_eq_true c, rfl, rfl⟩, ih.mpr ⟨rfl, rfl⟩, rfl, rfl⟩

theorem takes_oneOf {v text : List Char} {vs parts : List (List Char)} :
    (oneOf v vs).Takes text parts ↔ text ∈ v :: vs ∧ parts = [] := by
  induction vs generalizing v with
  | nil => rw [oneOf, takes_word, List.mem_singleton]
  | cons u vs ih =>
    rw [oneOf, Takes, takes_word, ih, ← or_and_right]
    simp only [List.mem_cons]

end Pattern

end BenchReport.Text
