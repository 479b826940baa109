import BenchReport.Json.Fault

/-!
# Outcomes of reading

What is known of reading a part of a text whose meaning is known: the part is read as what it means,
and the text after it is left; or it means nothing, and reading fails.
-/

namespace BenchReport.Json

variable {α β : Type}

theorem error_or_ok (x : Except Failure α) : (∃ f, x = .error f) ∨ ∃ a, x = .ok a := by
  cases x with
  | error f => exact .inl ⟨f, rfl⟩
  | ok a => exact .inr ⟨a, rfl⟩

/-- The outcome of reading before the text `rest`: what is to be read, or a failure where that is
nothing. -/
def Answers (a? : Option α) (rest : List Char) (e : Except Failure (α × List Char)) : Prop :=
  match a? with
  | some a => e = .ok (a, rest)
  | none => ∃ f, e = .error f

namespace Answers

variable {a? : Option α} {rest : List Char} {e : Except Failure (α × List Char)}

theorem ok (a : α) : Answers (some a) rest (.ok (a, rest)) := rfl

theorem error (f : Failure) : Answers (none : Option α) rest (.error f) := ⟨f, rfl⟩

theorem cases (h : Answers a? rest e) :
    (∃ a, a? = some a ∧ e = .ok (a, rest)) ∨ (a? = none ∧ ∃ f, e = .error f) := by
  cases a? with
  | some a => exact .inl ⟨a, rfl, h⟩
  | none => exact .inr ⟨rfl, h⟩

theorem map (h : Answers a? rest e) (f : α → β) :
    Answers (a?.map f) rest (e.map fun x => (f x.1, x.2)) := by
  obtain ⟨a, rfl, rfl⟩ | ⟨rfl, failure, rfl⟩ := h.cases
  · exact ok (f a)
  · exact error failure

/-- Reading goes on with what has been read. -/
theorem bind {next : α → Option β} {rest' : List Char}
    {go : α × List Char → Except Failure (β × List Char)} (h : Answers a? rest e)
    (hgo : ∀ a, Answers (next a) rest' (go (a, rest))) :
    Answers (a?.bind next) rest' (e.bind go) := by
  obtain ⟨a, rfl, rfl⟩ | ⟨rfl, failure, rfl⟩ := h.cases
  · exact hgo a
  · exact error failure

end Answers

end BenchReport.Json
