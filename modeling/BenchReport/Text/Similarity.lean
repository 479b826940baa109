/-!
# Similarity of texts

The Jaro similarity of two texts, between 0 and 1: the mean of the share of each text that
finds a match in the other and the share of the matches that are in order. A character
matches an equal one that no other has taken and that stands at most half the longer length,
less one, away.
-/

namespace BenchReport.Text.Similarity

/-- The matches found so far. -/
structure Matches where
  /-- The positions that are taken. -/
  taken : List Nat
  /-- The number of matches. -/
  count : Nat
  /-- The number of matches that stand before the match found just before them. -/
  disordered : Nat
  /-- The position of the last match. -/
  last : Nat

/-- The first position from a start to an end where a character stands that is not taken. -/
def position? (c : Char) (taken : List Nat) (first last : Nat) (s : List Char) : Option Nat :=
  (s.zipIdx.find? fun d => d.1 == c && first ≤ d.2 && d.2 ≤ last && !taken.contains d.2).map (·.2)

/-- Looks for a match of the character at a position. -/
def Matches.add (reach : Nat) (s : List Char) (m : Matches) (c : Char × Nat) : Matches :=
  match position? c.1 m.taken (c.2 - reach) (c.2 + reach) s with
  | none => m
  | some p =>
    { taken := p :: m.taken
      count := m.count + 1
      disordered := if p < m.last then m.disordered + 1 else m.disordered
      last := p }

/-- The similarity of two texts. -/
def jaro (a b : List Char) : Float :=
  if a = [] ∧ b = [] then 1.0
  else
    let reach := max a.length b.length / 2 - 1
    let m := a.zipIdx.foldl (Matches.add reach b) ⟨[], 0, 0, 0⟩
    if m.count = 0 then 0.0
    else
      let n := m.count.toFloat
      (1.0 / 3.0) * (n / a.length.toFloat + n / b.length.toFloat
        + (n - m.disordered.toFloat) / n)

/-- The one of some texts that is most similar to a text, if it is similar enough; of equally
similar ones the last. -/
def nearest? (s : String) (choices : List String) : Option String :=
  (choices.foldl
    (fun best? choice =>
      let similarity := jaro s.toList choice.toList
      if 0.7 < similarity then
        match best? with
        | none => some (choice, similarity)
        | some best => if best.2 ≤ similarity then some (choice, similarity) else some best
      else best?)
    none).map (·.1)

end BenchReport.Text.Similarity
