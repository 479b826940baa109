import BenchReport.Proofs.Text.Pattern
import BenchReport.Proofs.Timing.Reading
import BenchReport.Timing.Pattern

/-!
# Timing lines by their pattern

The pattern of timing lines takes what the grammar writes with digits of its class, and keeps the
name, the numerals and the units (`takes_linePatternOf`). Since a text is written in one way only,
the preferred way of the pattern is the only one, up to how digits are shared out between its two
runs of them. A line with digits of another script has a way through the pattern, but no numeral
is read from it. So the pattern gives the timings that the grammar gives, and the reader, which
knows the digits 0 to 9 only and never goes back, gives them too.
-/

namespace BenchReport.Timing

open Text (isBlank isDecimalDigit Run Pattern)
open Text.Pattern (Takes takes_run takes_word takes_oneOf take?_mem exists_take?)
open Decimal (Numeral isDigit)

variable {digit p : Char → Bool} {text : List Char} {kept : List (List Char)} {as : List Pattern}

/-! ### Numerals and units -/

theorem takes_optional_point : (Pattern.optional (.one (· == '.'))).Takes text kept ↔
    (text = ['.'] ∨ text = []) ∧ kept = [] := by
  simp only [Pattern.optional, Takes]
  constructor
  · rintro (⟨c, hc, rfl, rfl⟩ | ⟨rfl, rfl⟩)
    · exact ⟨Or.inl (by rw [eq_of_beq hc]), rfl⟩
    · exact ⟨Or.inr rfl, rfl⟩
  · rintro ⟨rfl | rfl, rfl⟩
    · exact Or.inl ⟨'.', rfl, rfl, rfl⟩
    · exact Or.inr ⟨rfl, rfl⟩

/-- The pattern of a numeral, its parts one after the other. -/
theorem takes_numeralPattern_iff : (numeralPattern digit).Takes text kept ↔
    ∃ (u : Run digit) (point s : List Char), (point = ['.'] ∨ point = []) ∧
      (∀ c ∈ s, digit c = true) ∧ text = u.chars ++ (point ++ s) ∧ kept = [] := by
  simp only [numeralPattern, Pattern.sequence, List.foldr_cons, List.foldr_nil, Takes,
    takes_run, takes_optional_point]
  constructor
  · rintro ⟨_, _, _, _, ⟨u, rfl, rfl⟩, ⟨point, _, _, _, ⟨hpoint, rfl⟩, ⟨s, _, _, _, ⟨hs, rfl⟩,
      ⟨rfl, rfl⟩, rfl, rfl⟩, rfl, rfl⟩, rfl, rfl⟩
    exact ⟨u, point, s, hpoint, hs, by rw [List.append_nil], rfl⟩
  · rintro ⟨u, point, s, hpoint, hs, rfl, rfl⟩
    exact ⟨_, _, _, _, ⟨u, rfl, rfl⟩, ⟨point, _, _, _, ⟨hpoint, rfl⟩, ⟨s, _, _, _, ⟨hs, rfl⟩,
      ⟨rfl, rfl⟩, (List.append_nil s).symm, rfl⟩, rfl, rfl⟩, rfl, rfl⟩

theorem takes_numeralPattern : (numeralPattern digit).Takes text kept ↔
    ∃ n : WrittenNumeral digit, text = n.text ∧ kept = [] := by
  rw [takes_numeralPattern_iff]
  constructor
  · rintro ⟨u, point, s, rfl | rfl, hs, rfl, rfl⟩
    · exact ⟨⟨u, some ⟨s, hs⟩⟩, rfl, rfl⟩
    · -- without a point the second run of digits only goes on with the first
      refine ⟨⟨⟨u.chars ++ s, ?_, fun c hc => ?_⟩, none⟩, (List.append_nil _).symm, rfl⟩
      · exact fun h => u.ne_nil (List.append_eq_nil_iff.mp h).1
      · rcases List.mem_append.mp hc with hc | hc
        · exact u.all c hc
        · exact hs c hc
  · rintro ⟨⟨u, part⟩, rfl, rfl⟩
    cases part with
    | none => exact ⟨u, [], [], Or.inr rfl, fun c hc => absurd hc List.not_mem_nil, rfl, rfl⟩
    | some s => exact ⟨u, ['.'], s.val, Or.inl rfl, s.property, rfl, rfl⟩

theorem takes_unitPattern : unitPattern.Takes text kept ↔
    ∃ u : UnitSpelling, text = u.text ∧ kept = [] := by
  rw [unitPattern, takes_oneOf]
  constructor
  · rintro ⟨hmem, rfl⟩
    simp only [List.mem_cons, List.not_mem_nil, or_false] at hmem
    rcases hmem with rfl | rfl | rfl | rfl | rfl
    · exact ⟨.ns, rfl, rfl⟩
    · exact ⟨.microSign, rfl, rfl⟩
    · exact ⟨.greekMu, rfl, rfl⟩
    · exact ⟨.us, rfl, rfl⟩
    · exact ⟨.ms, rfl, rfl⟩
  · rintro ⟨u, rfl, rfl⟩
    cases u <;> exact ⟨by decide, rfl⟩

/-! ### One pattern after the other -/

theorem takes_run_cons : (Pattern.sequence (.run p :: as)).Takes text kept ↔
    ∃ (u : Run p) (t : List Char), (Pattern.sequence as).Takes t kept ∧ text = u.chars ++ t := by
  constructor
  · rintro ⟨_, _, t, _, hu, ht, rfl, rfl⟩
    obtain ⟨u, rfl, rfl⟩ := takes_run.mp hu
    exact ⟨u, t, ht, rfl⟩
  · rintro ⟨u, t, ht, rfl⟩
    exact ⟨_, _, _, _, takes_run.mpr ⟨u, rfl, rfl⟩, ht, rfl, rfl⟩

theorem takes_word_cons {v : List Char} : (Pattern.sequence (.word v :: as)).Takes text kept ↔
    ∃ t : List Char, (Pattern.sequence as).Takes t kept ∧ text = v ++ t := by
  constructor
  · rintro ⟨_, _, t, _, hv, ht, rfl, rfl⟩
    obtain ⟨rfl, rfl⟩ := takes_word.mp hv
    exact ⟨t, ht, rfl⟩
  · rintro ⟨t, ht, rfl⟩
    exact ⟨_, _, _, _, takes_word.mpr ⟨rfl, rfl⟩, ht, rfl, rfl⟩

theorem takes_kept_cons {a : Pattern} : (Pattern.sequence (.kept a :: as)).Takes text kept ↔
    ∃ u ks t ks', a.Takes u ks ∧ (Pattern.sequence as).Takes t ks' ∧
      text = u ++ t ∧ kept = u :: (ks ++ ks') := by
  constructor
  · rintro ⟨u, _, t, ks', ⟨ks, hu, rfl⟩, ht, rfl, rfl⟩
    exact ⟨u, ks, t, ks', hu, ht, rfl, rfl⟩
  · rintro ⟨u, ks, t, ks', hu, ht, rfl, rfl⟩
    exact ⟨u, _, t, ks', ⟨ks, hu, rfl⟩, ht, rfl, rfl⟩

/-- The parts of a time that the pattern keeps. -/
def WrittenMeasure.parts (m : WrittenMeasure digit) : List (List Char) :=
  [m.value.text, m.unit.text]

theorem takes_measurePattern : (measurePattern digit).Takes text kept ↔
    ∃ m : WrittenMeasure digit, text = m.text ∧ kept = m.parts := by
  constructor
  · intro h₀
    obtain ⟨_, _, _, _, hvalue, h₁, rfl, rfl⟩ := takes_kept_cons.mp h₀
    obtain ⟨value, rfl, rfl⟩ := takes_numeralPattern.mp hvalue
    obtain ⟨gap, _, h₂, rfl⟩ := takes_run_cons.mp h₁
    obtain ⟨_, _, _, _, hunit, ⟨rfl, rfl⟩, rfl, rfl⟩ := takes_kept_cons.mp h₂
    obtain ⟨unit, rfl, rfl⟩ := takes_unitPattern.mp hunit
    exact ⟨⟨value, gap, unit⟩, by rw [WrittenMeasure.text, List.append_nil], rfl⟩
  · rintro ⟨m, rfl, rfl⟩
    refine takes_kept_cons.mpr ⟨_, _, _, _, takes_numeralPattern.mpr ⟨m.value, rfl, rfl⟩, ?_,
      rfl, rfl⟩
    refine takes_run_cons.mpr ⟨m.gap, _, ?_, rfl⟩
    exact takes_kept_cons.mpr ⟨_, _, [], [], takes_unitPattern.mpr ⟨m.unit, rfl, rfl⟩, ⟨rfl, rfl⟩,
      (List.append_nil _).symm, rfl⟩

theorem takes_measure_cons :
    (Pattern.sequence (measurePattern digit :: as)).Takes text kept ↔
      ∃ (m : WrittenMeasure digit) (t : List Char) (ks : List (List Char)),
        (Pattern.sequence as).Takes t ks ∧ text = m.text ++ t ∧ kept = m.parts ++ ks := by
  constructor
  · rintro ⟨_, _, t, ks, hm, ht, rfl, rfl⟩
    obtain ⟨m, rfl, rfl⟩ := takes_measurePattern.mp hm
    exact ⟨m, t, ks, ht, rfl, rfl⟩
  · rintro ⟨m, t, ks, ht, rfl, rfl⟩
    exact ⟨_, _, _, _, takes_measurePattern.mpr ⟨m, rfl, rfl⟩, ht, rfl, rfl⟩

/-- The parts of a line that the pattern keeps. -/
def Written.parts (w : Written digit) : List (List Char) :=
  w.name.chars :: (w.low.parts ++ (w.mid.parts ++ (w.high.parts ++ [])))

/-- The pattern takes a line up to its closing bracket. -/
theorem takes_linePatternOf : (linePatternOf digit).Takes text kept ↔
    ∃ w : Written digit, text = w.front ∧ kept = w.parts := by
  constructor
  · intro h₀
    obtain ⟨_, _, _, _, hname, h₁, rfl, rfl⟩ := takes_kept_cons.mp h₀
    obtain ⟨name, rfl, rfl⟩ := takes_run.mp hname
    obtain ⟨afterName, _, h₂, rfl⟩ := takes_run_cons.mp h₁
    obtain ⟨_, h₃, rfl⟩ := takes_word_cons.mp h₂
    obtain ⟨afterWord, _, h₄, rfl⟩ := takes_run_cons.mp h₃
    obtain ⟨_, h₅, rfl⟩ := takes_word_cons.mp h₄
    obtain ⟨low, _, _, h₆, rfl, rfl⟩ := takes_measure_cons.mp h₅
    obtain ⟨afterLow, _, h₇, rfl⟩ := takes_run_cons.mp h₆
    obtain ⟨mid, _, _, h₈, rfl, rfl⟩ := takes_measure_cons.mp h₇
    obtain ⟨afterMid, _, h₉, rfl⟩ := takes_run_cons.mp h₈
    obtain ⟨high, _, _, h₁₀, rfl, rfl⟩ := takes_measure_cons.mp h₉
    obtain ⟨_, ⟨rfl, rfl⟩, rfl⟩ := takes_word_cons.mp h₁₀
    exact ⟨⟨name, afterName, afterWord, low, afterLow, mid, afterMid, high, []⟩, rfl, rfl⟩
  · rintro ⟨w, rfl, rfl⟩
    refine takes_kept_cons.mpr ⟨_, [], _, _, takes_run.mpr ⟨w.name, rfl, rfl⟩, ?_, rfl, rfl⟩
    refine takes_run_cons.mpr ⟨w.afterName, _, ?_, rfl⟩
    refine takes_word_cons.mpr ⟨_, ?_, rfl⟩
    refine takes_run_cons.mpr ⟨w.afterWord, _, ?_, rfl⟩
    refine takes_word_cons.mpr ⟨_, ?_, rfl⟩
    refine takes_measure_cons.mpr ⟨w.low, _, _, ?_, rfl, rfl⟩
    refine takes_run_cons.mpr ⟨w.afterLow, _, ?_, rfl⟩
    refine takes_measure_cons.mpr ⟨w.mid, _, _, ?_, rfl, rfl⟩
    refine takes_run_cons.mpr ⟨w.afterMid, _, ?_, rfl⟩
    refine takes_measure_cons.mpr ⟨w.high, _, _, ?_, rfl, rfl⟩
    exact takes_word_cons.mpr ⟨[], ⟨rfl, rfl⟩, rfl⟩

/-! ### The timing of the parts -/

/-- A text is a numeral as a whole if and only if it is written with the digits 0 to 9. -/
theorem ofText?_eq_some_iff {s : List Char} {n : Numeral} :
    Numeral.ofText? s = some n ↔ ∃ v : WrittenNumeral isDigit, v.text = s ∧ v.numeral = n := by
  unfold Numeral.ofText?
  constructor
  · intro h
    split at h
    · next m htake =>
      cases h
      obtain ⟨v, hv, htext⟩ := exists_of_take? htake
      exact ⟨v, by rw [htext, List.append_nil], hv⟩
    · cases h
  · rintro ⟨v, rfl, rfl⟩
    have htake := take?_append v Text.stops_nil Text.stops_nil
    rw [List.append_nil] at htake
    rw [htake]

theorem ofSymbol?_text (u : UnitSpelling) : TimeUnit.ofSymbol? u.text = some u.unit := by
  cases u <;> rfl

theorem timeOfParts?_text (m : WrittenMeasure isDigit) :
    timeOfParts? m.value.text m.unit.text = some m.microseconds := by
  have hvalue : Numeral.ofText? m.value.text = some m.value.numeral :=
    ofText?_eq_some_iff.mpr ⟨m.value, rfl, rfl⟩
  rw [timeOfParts?, hvalue, ofSymbol?_text]
  rfl

/-- A time of the pattern is read only if it is written with the digits 0 to 9. -/
theorem exists_of_timeOfParts? {m : WrittenMeasure digit} {x : Float}
    (h : timeOfParts? m.value.text m.unit.text = some x) :
    ∃ m' : WrittenMeasure isDigit, m'.text = m.text ∧ m'.microseconds = x := by
  simp only [timeOfParts?, ofSymbol?_text, Option.bind_eq_bind, Option.bind_eq_some_iff,
    Option.some.injEq, exists_eq_left'] at h
  obtain ⟨n, hn, hx⟩ := h
  obtain ⟨v, hv, rfl⟩ := ofText?_eq_some_iff.mp hn
  cases hx
  exact ⟨⟨v, m.gap, m.unit⟩, by rw [WrittenMeasure.text, hv, ← WrittenMeasure.text], rfl⟩

theorem ofParts?_parts (w : Written isDigit) : ofParts? w.parts = some w.timing := by
  simp only [Written.parts, WrittenMeasure.parts, List.cons_append, List.nil_append, ofParts?,
    timeOfParts?_text]
  rfl

theorem exists_of_ofParts? {w : Written digit} {t : Timing} (h : ofParts? w.parts = some t) :
    ∃ w' : Written isDigit, w'.text = w.text ∧ w'.timing = t := by
  simp only [Written.parts, WrittenMeasure.parts, List.cons_append, List.nil_append, ofParts?,
    Option.bind_eq_bind, Option.bind_eq_some_iff] at h
  obtain ⟨low, hlow, mid, hmid, high, hhigh, ht⟩ := h
  cases ht
  obtain ⟨low, htlow, rfl⟩ := exists_of_timeOfParts? hlow
  obtain ⟨mid, htmid, rfl⟩ := exists_of_timeOfParts? hmid
  obtain ⟨high, hthigh, rfl⟩ := exists_of_timeOfParts? hhigh
  refine ⟨⟨w.name, w.afterName, w.afterWord, low, w.afterLow, mid, w.afterMid, high, w.rest⟩, ?_,
    rfl⟩
  rw [Written.text, Written.text, Written.front, Written.front, htlow, htmid, hthigh]

/-! ### The digits 0 to 9 among others -/

/-- A numeral as one of a wider class of digits. -/
def WrittenNumeral.widen (hd : IsDigitClass digit) (n : WrittenNumeral isDigit) :
    WrittenNumeral digit where
  whole := ⟨n.whole.chars, n.whole.ne_nil, fun c hc => hd.plain c (n.whole.all c hc)⟩
  part := n.part.map fun s => ⟨s.val, fun c hc => hd.plain c (s.property c hc)⟩

/-- A time as one of a wider class of digits. -/
def WrittenMeasure.widen (hd : IsDigitClass digit) (m : WrittenMeasure isDigit) :
    WrittenMeasure digit := ⟨m.value.widen hd, m.gap, m.unit⟩

/-- A line as one of a wider class of digits. -/
def Written.widen (hd : IsDigitClass digit) (w : Written isDigit) : Written digit :=
  ⟨w.name, w.afterName, w.afterWord, w.low.widen hd, w.afterLow, w.mid.widen hd, w.afterMid,
    w.high.widen hd, w.rest⟩

theorem WrittenNumeral.text_widen (hd : IsDigitClass digit) (n : WrittenNumeral isDigit) :
    (n.widen hd).text = n.text := by
  obtain ⟨whole, part⟩ := n
  cases part <;> rfl

theorem WrittenMeasure.text_widen (hd : IsDigitClass digit) (m : WrittenMeasure isDigit) :
    (m.widen hd).text = m.text := by
  rw [text, text, widen, WrittenNumeral.text_widen]

theorem Written.text_widen (hd : IsDigitClass digit) (w : Written isDigit) :
    (w.widen hd).text = w.text := by
  simp only [text, front, widen, WrittenMeasure.text_widen]

theorem Written.parts_widen (hd : IsDigitClass digit) (w : Written isDigit) :
    (w.widen hd).parts = w.parts := by
  simp only [parts, WrittenMeasure.parts, widen, WrittenMeasure.widen, WrittenNumeral.text_widen]

/-! ### The pattern and the grammar -/

/-- The preferred way of the pattern through a line, if there is one, is as the line is written. -/
theorem exists_of_take?_linePatternOf {s : List Char} {v : Text.Way}
    (h : (linePatternOf digit).take? s = some v) :
    ∃ w : Written digit, w.text = s ∧ v.parts = w.parts := by
  obtain ⟨htakes, htext⟩ := take?_mem h
  obtain ⟨w, hfront, hparts⟩ := takes_linePatternOf.mp htakes
  refine ⟨{ w with rest := v.rest }, ?_, hparts⟩
  rw [← htext, hfront]
  rfl

theorem take?_linePatternOf (hd : IsDigitClass digit) (w : Written digit) :
    ∃ v, (linePatternOf digit).take? w.text = some v ∧ v.parts = w.parts := by
  obtain ⟨v, hv⟩ := exists_take? (takes_linePatternOf.mpr ⟨w, rfl, rfl⟩) w.rest
  obtain ⟨w', htext, hparts⟩ := exists_of_take?_linePatternOf hv
  cases Written.text_injective hd htext
  exact ⟨v, hv, hparts⟩

/-- The pattern gives a timing for the lines of the grammar with the digits 0 to 9, whatever other
digits it takes. -/
theorem bind_take?_eq_some_iff (hd : IsDigitClass digit) {s : List Char} {t : Timing} :
    ((linePatternOf digit).take? s).bind (fun v => ofParts? v.parts) = some t ↔
      ∃ w : Written isDigit, w.text = s ∧ w.timing = t := by
  rw [Option.bind_eq_some_iff]
  constructor
  · rintro ⟨v, hv, ht⟩
    obtain ⟨w, rfl, hparts⟩ := exists_of_take?_linePatternOf hv
    rw [hparts] at ht
    exact exists_of_ofParts? ht
  · rintro ⟨w, rfl, rfl⟩
    obtain ⟨v, hv, hparts⟩ := take?_linePatternOf hd (w.widen hd)
    rw [Written.text_widen] at hv
    refine ⟨v, hv, ?_⟩
    rw [hparts, Written.parts_widen, ofParts?_parts]

/-- **Timing lines are exactly those of the grammar.** A line gives a timing if and only if it can
be written with a name, times with the digits 0 to 9 and their units, and the timing is the one
that is written; it can be written in one way only; and what the reader finds in a line, be it a
timing or none, is what the preferred way of the pattern gives, which takes the digits of all
scripts and refuses the numerals that are not made of 0 to 9. -/
theorem ofLine?_grammar :
    (∀ (line : List Char) (t : Timing),
      ofLine? line = some t ↔ ∃ w : Written isDigit, w.text = line ∧ w.timing = t) ∧
    Function.Injective (Written.text : Written isDigit → List Char) ∧
    ∀ line : List Char, ofLine? line = byPattern? line := by
  refine ⟨fun _ _ => ofLine?_eq_some_iff, Written.text_injective isDigitClass_isDigit,
    fun line => Option.ext fun t => ?_⟩
  rw [ofLine?_eq_some_iff, byPattern?, linePattern,
    bind_take?_eq_some_iff isDigitClass_isDecimalDigit]

end BenchReport.Timing
