import BenchReport.Proofs.Timing.Written
import Mathlib.Data.List.Basic

/-!
# Reading a timing line

The reader of timing lines takes one part after the other and never goes back. Each function
that takes a part has two lemmas here: it takes the part that is written when what follows does
not run into it (`…_append`), and what it takes is written so (`exists_of_…`). Put together they
say that the reader accepts the lines of the grammar and no others, and reads from them what is
written: `ofLine?_eq_some_iff`.
-/

namespace BenchReport.Timing

open Text (isBlank Run Stops takeWhile_append_stops dropWhile_append_stops)
open Decimal (Numeral isDigit)

/-! ### Blanks and names -/

theorem takeBlanks?_append (u : Run isBlank) {r : List Char} (hr : Stops isBlank r) :
    takeBlanks? (u.chars ++ r) = some r := by
  obtain ⟨s, hne, hall⟩ := u
  cases s with
  | nil => exact absurd rfl hne
  | cons c s =>
    have hc : isBlank c = true := hall c List.mem_cons_self
    have hs : ∀ d ∈ s, isBlank d = true := fun d hd => hall d (List.mem_cons_of_mem c hd)
    rw [List.cons_append, takeBlanks?, if_pos hc, dropWhile_append_stops hs hr]

theorem exists_of_takeBlanks? {s r : List Char} (h : takeBlanks? s = some r) :
    ∃ u : Run isBlank, s = u.chars ++ r := by
  cases s with
  | nil => cases h
  | cons c s =>
    rw [takeBlanks?] at h
    split at h
    · next hc =>
      cases h
      refine ⟨⟨c :: s.takeWhile isBlank, List.cons_ne_nil _ _, fun d hd => ?_⟩, ?_⟩
      · rcases List.mem_cons.mp hd with rfl | hd
        · exact hc
        · exact List.mem_takeWhile_imp hd
      · rw [List.cons_append, List.takeWhile_append_dropWhile]
    · cases h

theorem takeName?_append (u : Run (!isBlank ·)) {r : List Char} (hr : Stops (!isBlank ·) r) :
    takeName? (u.chars ++ r) = some (u.chars, r) := by
  rw [takeName?, takeWhile_append_stops u.all hr, dropWhile_append_stops u.all hr]
  split
  · next hnil => exact absurd hnil u.ne_nil
  · rfl

theorem exists_of_takeName? {s name r : List Char} (h : takeName? s = some (name, r)) :
    ∃ u : Run (!isBlank ·), u.chars = name ∧ s = u.chars ++ r := by
  unfold takeName? at h
  split at h
  · cases h
  · next hne =>
    cases h
    refine ⟨⟨s.takeWhile (!isBlank ·), hne, fun d hd => ?_⟩, rfl,
      List.takeWhile_append_dropWhile.symm⟩
    exact List.mem_takeWhile_imp (p := (!isBlank ·)) hd

/-! ### Numerals -/

theorem take?_of_point {s whole r : List Char} (hne : whole ≠ [])
    (hwhole : s.takeWhile isDigit = whole) (hrest : s.dropWhile isDigit = '.' :: r) :
    Numeral.take? s = some (⟨whole, r.takeWhile isDigit⟩, r.dropWhile isDigit) := by
  rw [Numeral.take?, hwhole, hrest]
  cases whole with
  | nil => exact absurd rfl hne
  | cons c whole => rfl

theorem take?_of_no_point {s whole r : List Char} (hne : whole ≠ [])
    (hwhole : s.takeWhile isDigit = whole) (hrest : s.dropWhile isDigit = r)
    (hr : Stops (· == '.') r) : Numeral.take? s = some (⟨whole, []⟩, r) := by
  rw [Numeral.take?, hwhole, hrest]
  split
  · exact absurd rfl hne
  · cases hr '.' rfl
  · rfl

theorem take?_append (n : WrittenNumeral isDigit) {r : List Char} (hr : Stops isDigit r)
    (hp : Stops (· == '.') r) : Numeral.take? (n.text ++ r) = some (n.numeral, r) := by
  obtain ⟨whole, part⟩ := n
  have hstop : Stops isDigit (partText part ++ r) :=
    stops_digits_of_part isDigitClass_isDigit part hr
  have hwhole := takeWhile_append_stops whole.all hstop
  have hrest := dropWhile_append_stops whole.all hstop
  rw [WrittenNumeral.text, List.append_assoc]
  cases part with
  | none => exact take?_of_no_point whole.ne_nil hwhole hrest hp
  | some s =>
    rw [take?_of_point (r := s.val ++ r) whole.ne_nil hwhole hrest,
      takeWhile_append_stops s.property hr, dropWhile_append_stops s.property hr]
    rfl

theorem exists_of_take? {s : List Char} {n : Numeral} {r : List Char}
    (h : Numeral.take? s = some (n, r)) :
    ∃ w : WrittenNumeral isDigit, w.numeral = n ∧ s = w.text ++ r := by
  have hcut : s.takeWhile isDigit ++ s.dropWhile isDigit = s := List.takeWhile_append_dropWhile
  unfold Numeral.take? at h
  split at h
  · cases h
  · next r' heq hne =>
    cases h
    refine ⟨⟨⟨s.takeWhile isDigit, hne, fun _ hd => List.mem_takeWhile_imp hd⟩,
      some ⟨r'.takeWhile isDigit, fun _ hd => List.mem_takeWhile_imp hd⟩⟩, rfl, ?_⟩
    rw [WrittenNumeral.text, partText, List.append_assoc, List.cons_append,
      List.takeWhile_append_dropWhile, ← heq, hcut]
  · next hne _ =>
    cases h
    exact ⟨⟨⟨s.takeWhile isDigit, hne, fun _ hd => List.mem_takeWhile_imp hd⟩, none⟩, rfl, by
      rw [WrittenNumeral.text, partText, List.append_nil, hcut]⟩

/-! ### Units and times -/

theorem takeUnit?_append (u : UnitSpelling) (r : List Char) :
    takeUnit? (u.text ++ r) = some (u.unit, r) := by
  cases u <;> rfl

theorem exists_of_ofSymbol? {s : List Char} {u : TimeUnit} (h : TimeUnit.ofSymbol? s = some u) :
    ∃ v : UnitSpelling, v.unit = u ∧ s = v.text := by
  unfold TimeUnit.ofSymbol? at h
  split at h
  · cases h
    exact ⟨.ns, rfl, rfl⟩
  · cases h
    exact ⟨.microSign, rfl, rfl⟩
  · cases h
    exact ⟨.greekMu, rfl, rfl⟩
  · cases h
    exact ⟨.us, rfl, rfl⟩
  · cases h
    exact ⟨.ms, rfl, rfl⟩
  · cases h

theorem exists_of_takeUnit? {s : List Char} {u : TimeUnit} {r : List Char}
    (h : takeUnit? s = some (u, r)) : ∃ v : UnitSpelling, v.unit = u ∧ s = v.text ++ r := by
  unfold takeUnit? at h
  split at h
  · next a b r' =>
    obtain ⟨u', hu', heq⟩ := Option.map_eq_some_iff.mp h
    cases heq
    obtain ⟨v, hv, htext⟩ := exists_of_ofSymbol? hu'
    exact ⟨v, hv, by rw [← htext]; rfl⟩
  · cases h

/-- The time that is written. -/
def WrittenMeasure.measure (m : WrittenMeasure isDigit) : Measure := ⟨m.value.numeral, m.unit.unit⟩

theorem stops_point_of_blanks (g : Run isBlank) (r : List Char) :
    Stops (· == '.') (g.chars ++ r) := by
  refine g.stops (fun c hc => ?_) r
  rw [beq_eq_false_iff_ne]
  rintro rfl
  cases hc

theorem takeMeasure?_append (m : WrittenMeasure isDigit) (r : List Char) :
    takeMeasure? (m.text ++ r) = some (m.measure, r) := by
  rw [WrittenMeasure.text, List.append_assoc, List.append_assoc, takeMeasure?,
    take?_append m.value (stops_digits_of_blanks isDigitClass_isDigit m.gap _)
      (stops_point_of_blanks m.gap _)]
  simp only [Option.bind_eq_bind, Option.bind_some,
    takeBlanks?_append m.gap (stops_blanks_of_unit m.unit r), takeUnit?_append]
  rfl

theorem exists_of_takeMeasure? {s : List Char} {m : Measure} {r : List Char}
    (h : takeMeasure? s = some (m, r)) :
    ∃ w : WrittenMeasure isDigit, w.measure = m ∧ s = w.text ++ r := by
  simp only [takeMeasure?, Option.bind_eq_bind, Option.bind_eq_some_iff, Prod.exists] at h
  obtain ⟨n, s₁, hn, s₂, hg, u, s₃, hu, heq⟩ := h
  cases heq
  obtain ⟨value, rfl, rfl⟩ := exists_of_take? hn
  obtain ⟨gap, rfl⟩ := exists_of_takeBlanks? hg
  obtain ⟨unit, rfl, rfl⟩ := exists_of_takeUnit? hu
  exact ⟨⟨value, gap, unit⟩, rfl, by simp only [WrittenMeasure.text, List.append_assoc]⟩

/-! ### Lines -/

/-- The parts of the line that is written. -/
def Written.line (w : Written isDigit) : Line :=
  ⟨w.name.chars, w.low.measure, w.mid.measure, w.high.measure⟩

/-- The reader reads what is written. -/
theorem ofText?_text (w : Written isDigit) : Line.ofText? w.text = some w.line := by
  have hd := isDigitClass_isDigit
  have hword (p s : List Char) : p.isPrefixOf? (p ++ s) = some s :=
    List.isPrefixOf?_eq_some_iff_append_eq.mpr rfl
  simp only [Written.text, Written.front, List.append_assoc]
  rw [Line.ofText?, takeName?_append w.name (stops_name_of_blanks w.afterName _)]
  simp only [Option.bind_eq_bind, Option.bind_some,
    takeBlanks?_append w.afterName (stops_blanks_of_word _), hword,
    takeBlanks?_append w.afterWord (stops_blanks_of_bracket _), takeMeasure?_append,
    takeBlanks?_append w.afterLow (stops_blanks_of_measure hd w.mid _),
    takeBlanks?_append w.afterMid (stops_blanks_of_measure hd w.high _)]
  rfl

/-- What the reader reads is written. -/
theorem exists_of_ofText? {s : List Char} {l : Line} (h : Line.ofText? s = some l) :
    ∃ w : Written isDigit, w.line = l ∧ w.text = s := by
  simp only [Line.ofText?, Option.bind_eq_bind, Option.bind_eq_some_iff, Prod.exists,
    List.isPrefixOf?_eq_some_iff_append_eq] at h
  obtain ⟨name, s₁, hname, s₂, hafterName, s₃, rfl, s₄, hafterWord, s₅, rfl, low, s₆, hlow, s₇,
    hafterLow, mid, s₈, hmid, s₉, hafterMid, high, s₁₀, hhigh, rest, rfl, heq⟩ := h
  cases heq
  obtain ⟨name, rfl, rfl⟩ := exists_of_takeName? hname
  obtain ⟨afterName, rfl⟩ := exists_of_takeBlanks? hafterName
  obtain ⟨afterWord, rfl⟩ := exists_of_takeBlanks? hafterWord
  obtain ⟨low, rfl, rfl⟩ := exists_of_takeMeasure? hlow
  obtain ⟨afterLow, rfl⟩ := exists_of_takeBlanks? hafterLow
  obtain ⟨mid, rfl, rfl⟩ := exists_of_takeMeasure? hmid
  obtain ⟨afterMid, rfl⟩ := exists_of_takeBlanks? hafterMid
  obtain ⟨high, rfl, rfl⟩ := exists_of_takeMeasure? hhigh
  exact ⟨⟨name, afterName, afterWord, low, afterLow, mid, afterMid, high, rest⟩, rfl, by
    simp only [Written.text, Written.front, List.append_assoc]⟩

/-- A line gives a timing if and only if it is written by the grammar, and the timing is the one
that is written. -/
theorem ofLine?_eq_some_iff {s : List Char} {t : Timing} :
    ofLine? s = some t ↔ ∃ w : Written isDigit, w.text = s ∧ w.timing = t := by
  rw [ofLine?, Option.map_eq_some_iff]
  constructor
  · rintro ⟨l, hl, rfl⟩
    obtain ⟨w, rfl, htext⟩ := exists_of_ofText? hl
    exact ⟨w, htext, rfl⟩
  · rintro ⟨w, rfl, rfl⟩
    exact ⟨w.line, ofText?_text w, rfl⟩

end BenchReport.Timing
