import BenchReport.Text.Lines
import Mathlib.Data.List.TakeWhile

/-!
# Runs of characters

A run is a text of at least one character, all of one class. Where a run is followed by a text
that does not begin with a character of its class (`Stops`), the two can be told apart: taking
characters of the class takes the run and leaves the text, and there is no other way to cut
the whole into a run and such a text (`Run.append_inj`).
-/

namespace BenchReport.Text

section

variable {α : Type} {p : α → Bool}

/-- A text that does not begin with a character of a class. -/
def Stops (p : α → Bool) (r : List α) : Prop := ∀ c ∈ r.head?, p c = false

theorem stops_nil : Stops p [] := by
  intro c hc
  cases hc

theorem stops_cons {c : α} {r : List α} (h : p c = false) : Stops p (c :: r) := by
  intro d hd
  cases hd
  exact h

theorem Stops.takeWhile {r : List α} (h : Stops p r) : r.takeWhile p = [] := by
  cases r with
  | nil => rfl
  | cons c r =>
    rw [List.takeWhile_cons_of_neg]
    simpa using h c rfl

theorem Stops.dropWhile {r : List α} (h : Stops p r) : r.dropWhile p = r := by
  cases r with
  | nil => rfl
  | cons c r =>
    rw [List.dropWhile_cons_of_neg]
    simpa using h c rfl

theorem takeWhile_append_stops {s r : List α} (hs : ∀ c ∈ s, p c = true) (hr : Stops p r) :
    (s ++ r).takeWhile p = s := by
  rw [List.takeWhile_append_of_pos hs, hr.takeWhile, List.append_nil]

theorem dropWhile_append_stops {s r : List α} (hs : ∀ c ∈ s, p c = true) (hr : Stops p r) :
    (s ++ r).dropWhile p = r := by
  rw [List.dropWhile_append_of_pos hs, hr.dropWhile]

/-- There is one way only to cut a text into characters of a class and a text that does not
begin with one. -/
theorem append_inj_of_stops {s s' r r' : List α} (hs : ∀ c ∈ s, p c = true)
    (hs' : ∀ c ∈ s', p c = true) (hr : Stops p r) (hr' : Stops p r')
    (h : s ++ r = s' ++ r') : s = s' ∧ r = r' := by
  constructor
  · rw [← takeWhile_append_stops hs hr, h, takeWhile_append_stops hs' hr']
  · rw [← dropWhile_append_stops hs hr, h, dropWhile_append_stops hs' hr']

end

variable {p q : Char → Bool}

/-- Characters of a class, at least one. -/
@[ext]
structure Run (p : Char → Bool) where
  /-- The characters. -/
  chars : List Char
  ne_nil : chars ≠ []
  all : ∀ c ∈ chars, p c = true

/-- A run does not begin with a character of a class that has none of its own. -/
theorem Run.stops (u : Run p) (hpq : ∀ c, p c = true → q c = false) (r : List Char) :
    Stops q (u.chars ++ r) := by
  obtain ⟨s, hne, hall⟩ := u
  cases s with
  | nil => exact absurd rfl hne
  | cons c s => exact stops_cons (hpq c (hall c List.mem_cons_self))

/-- A run and what follows it are found again in the whole. -/
theorem Run.append_inj {u u' : Run p} {r r' : List Char} (hr : Stops p r) (hr' : Stops p r')
    (h : u.chars ++ r = u'.chars ++ r') : u = u' ∧ r = r' := by
  obtain ⟨hchars, hrest⟩ := append_inj_of_stops u.all u'.all hr hr' h
  exact ⟨Run.ext hchars, hrest⟩

end BenchReport.Text
