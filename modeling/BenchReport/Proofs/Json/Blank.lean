import BenchReport.Json.Skip
import BenchReport.Proofs.Text.Runs

/-!
# Blanks, and what ends a value

Between the parts of a JSON text stand blanks. A value of several characters ends where a character
stands that it cannot go on with: for a number that is any character but a digit, a point or the
letter of an exponent (`Ends`), and what follows a value in a JSON text always begins so.
-/

namespace BenchReport.Json

open Decimal (isDigit)
open Text (Stops stops_cons stops_nil)

/-- Blanks, perhaps none. -/
@[ext]
structure Blanks where
  /-- The characters. -/
  chars : List Char
  all : ∀ c ∈ chars, isSpace c = true

namespace Blanks

/-- No blanks. -/
def none : Blanks := ⟨[], by simp⟩

/-- Blanks after blanks. -/
def append (b d : Blanks) : Blanks where
  chars := b.chars ++ d.chars
  all c hc := by
    rcases List.mem_append.mp hc with hc | hc
    · exact b.all c hc
    · exact d.all c hc

end Blanks

theorem skipSpace_append (b : Blanks) (s : List Char) : skipSpace (b.chars ++ s) = skipSpace s := by
  rw [skipSpace, List.dropWhile_append_of_pos b.all, skipSpace]

theorem skipSpace_chars (b : Blanks) : skipSpace b.chars = [] := by
  have h := skipSpace_append b []
  rwa [List.append_nil] at h

theorem skipSpace_cons {c : Char} (h : isSpace c = false) (s : List Char) :
    skipSpace (c :: s) = c :: s := by
  rw [skipSpace, List.dropWhile_cons_of_neg (by simp [h])]

/-- The first character after blanks is found. -/
theorem skipSpace_append_cons (b : Blanks) {c : Char} (h : isSpace c = false) (s : List Char) :
    skipSpace (b.chars ++ c :: s) = c :: s := by
  rw [skipSpace_append, skipSpace_cons h]

/-! ### What ends a value -/

/-- Whether a number may go on with a character. -/
def continuesNumber (c : Char) : Bool := isDigit c || c == '.' || c == 'e' || c == 'E'

/-- A text that no number goes on with. -/
def Ends (r : List Char) : Prop := Stops continuesNumber r

theorem ends_nil : Ends [] := stops_nil

theorem ends_cons {c : Char} (h : continuesNumber c = false) (r : List Char) : Ends (c :: r) :=
  stops_cons h

theorem not_continuesNumber_of_isSpace {c : Char} (h : isSpace c = true) :
    continuesNumber c = false := by
  simp only [isSpace, Bool.or_eq_true, beq_iff_eq] at h
  rcases h with ((rfl | rfl) | rfl) | rfl <;> decide

theorem ends_append_cons (b : Blanks) {c : Char} (h : continuesNumber c = false) (r : List Char) :
    Ends (b.chars ++ c :: r) := by
  cases hb : b.chars with
  | nil => exact ends_cons h r
  | cons d ds =>
    have hd : isSpace d = true := b.all d (by simp [hb])
    exact ends_cons (not_continuesNumber_of_isSpace hd) _

theorem ends_chars (b : Blanks) : Ends b.chars := by
  cases hb : b.chars with
  | nil => exact ends_nil
  | cons d ds =>
    have hd : isSpace d = true := b.all d (by simp [hb])
    exact ends_cons (not_continuesNumber_of_isSpace hd) _

theorem Ends.stops_isDigit {r : List Char} (h : Ends r) : Stops isDigit r := by
  intro c hc
  have := h c hc
  simp only [continuesNumber, Bool.or_eq_false_iff] at this
  exact this.1.1.1

end BenchReport.Json
