import BenchReport.Proofs.Timing.Bytes
import Mathlib.Logic.Relation

/-!
# Reports that are joined

Two reports can be joined at a line feed, and the timings of the whole are those of the one and
then those of the other (`ofText_join`). Only one thing can go wrong at the seam: a timing line that
ends the first report takes a line with the mark that begins the second for its throughput. Where
this is not so (`Unattached`), every line has in the whole the role that it has in its own report
(`roleAt_append_left`, `roleAt_append_right`).

The pieces of a joined text are those of its parts, which is not true of its lines: a line feed at
the end of the first text comes to stand before another, and a carriage return there before a line
feed. But a report has the timings of its pieces as well (`ofText_eq_splitOn`), since neither a
carriage return at the end of a line nor an empty line makes a difference to it. A line of noise is
a report without timings that can be joined on both sides, so it can be put anywhere but between
what belongs together (`ofLines_more`).
-/

namespace BenchReport.Timing

variable {xs ys : List (List Char)} {line : List Char} {i : Nat}

/-- Whether no line of some lines is the throughput of a timing in the lines before them: the last
line before them gives no timing, or the first of them has no mark, or there is no such line. -/
def Unattached (xs ys : List (List Char)) : Prop :=
  ∀ x ∈ xs.getLast?, ∀ y ∈ ys.head?, ofLine? x = none ∨ ¬throughputMark <:+: y

instance : Decidable (Unattached xs ys) := by
  unfold Unattached
  infer_instance

/-! ### The roles of joined lines -/

/-- A line has the role that it has alone unless it has the mark and follows a timing line. -/
theorem roleAfter_eq_none {before : Option Role}
    (h : before ≠ some .timing ∨ ¬throughputMark <:+: line) :
    roleAfter before line = roleAfter none line := by
  have hbefore : ¬(before = some .timing ∧ throughputMark <:+: line) := by
    rintro ⟨htiming, hmark⟩
    rcases h with h | h
    · exact h htiming
    · exact h hmark
  simp [roleAfter, hbefore]

theorem roleAt_append_left (h : i < xs.length) : roleAt (xs ++ ys) i = roleAt xs i := by
  induction i with
  | zero => rw [roleAt, roleAt, List.getElem?_append_left h]
  | succ i ih => rw [roleAt, roleAt, List.getElem?_append_left h, ih (by omega)]

/-- The line before the seam is a timing line only if it gives a timing. -/
theorem roleBefore_seam (h : roleBefore (xs ++ ys) xs.length = some .timing) :
    ∃ x ∈ xs.getLast?, ofLine? x ≠ none := by
  obtain ⟨i, hi, hrole⟩ := roleBefore_eq_some_iff.mp h
  have hlt : i < xs.length := by omega
  have hline : xs[i]? = some xs[i] := List.getElem?_eq_getElem hlt
  rw [roleAt_append_left hlt, roleAt_eq_timing_iff hline, Option.isSome_iff_ne_none] at hrole
  refine ⟨xs[i], ?_, hrole.1⟩
  rw [List.getLast?_eq_getElem?, hi, Nat.add_sub_cancel]
  exact hline

theorem roleAt_append_right (h : Unattached xs ys) (j : Nat) :
    roleAt (xs ++ ys) (xs.length + j) = roleAt ys j := by
  induction j with
  | zero =>
    rw [Nat.add_zero, roleAt_eq_map, roleAt, List.getElem?_append_right le_rfl, Nat.sub_self]
    cases hy : ys[0]? with
    | none => rfl
    | some y =>
      rw [Option.map_some, Option.map_some, roleAfter_eq_none]
      by_contra hattached
      obtain ⟨hbefore, hmark⟩ := not_or.mp hattached
      obtain ⟨x, hx, hline⟩ := roleBefore_seam (not_not.mp hbefore)
      rcases h x hx y (by rwa [List.head?_eq_getElem?]) with hnone | hno
      · exact hline hnone
      · exact hmark hno
  | succ j ih =>
    rw [← Nat.add_assoc, roleAt, roleAt, ih, List.getElem?_append_right (by omega)]
    congr 2
    omega

/-! ### The timings of joined lines -/

theorem throughputAt_append_right (h : Unattached xs ys) (j : Nat) :
    throughputAt (xs ++ ys) (xs.length + j) = throughputAt ys j := by
  rw [throughputAt, throughputAt, roleAt_append_right h,
    List.getElem?_append_right (Nat.le_add_right _ _), Nat.add_sub_cancel_left]

theorem throughputAt_zero (lines : List (List Char)) : throughputAt lines 0 = none := by
  cases lines with
  | nil => rfl
  | cons line lines => simp [throughputAt, roleAt, roleAfter_eq_throughput_iff]

theorem throughputAt_of_le (h : xs.length ≤ i) : throughputAt xs i = none := by
  rw [throughputAt, roleAt_eq_none (List.getElem?_eq_none h)]
  rfl

/-- The lines after the seam make no difference to the throughput of the line before it, and of the
lines before that. -/
theorem throughputAt_append_left (h : Unattached xs ys) (hi : i ≤ xs.length) :
    throughputAt (xs ++ ys) i = throughputAt xs i := by
  rcases hi.lt_or_eq with hlt | rfl
  · rw [throughputAt, throughputAt, roleAt_append_left hlt, List.getElem?_append_left hlt]
  · rw [throughputAt_of_le le_rfl, ← throughputAt_zero ys]
    exact throughputAt_append_right h 0

theorem timingAt?_append_left (h : Unattached xs ys) (hi : i < xs.length) :
    timingAt? (xs ++ ys) i = timingAt? xs i := by
  rw [timingAt?, timingAt?, roleAt_append_left hi, List.getElem?_append_left hi,
    throughputAt_append_left h hi]

theorem timingAt?_append_right (h : Unattached xs ys) (j : Nat) :
    timingAt? (xs ++ ys) (xs.length + j) = timingAt? ys j := by
  rw [timingAt?, timingAt?, roleAt_append_right h, Nat.add_assoc, throughputAt_append_right h,
    List.getElem?_append_right (Nat.le_add_right _ _), Nat.add_sub_cancel_left]

/-- Joined lines give the timings of the one part and then those of the other. -/
theorem ofLines_append (h : Unattached xs ys) :
    ofLines (xs ++ ys) = ofLines xs ++ ofLines ys := by
  have hleft : (List.range xs.length).filterMap (timingAt? (xs ++ ys))
      = (List.range xs.length).filterMap (timingAt? xs) :=
    List.filterMap_congr fun i hi => timingAt?_append_left h (List.mem_range.mp hi)
  have hright : timingAt? (xs ++ ys) ∘ (xs.length + ·) = timingAt? ys :=
    funext (timingAt?_append_right h)
  rw [ofLines_eq_filterMap, ofLines_eq_filterMap, ofLines_eq_filterMap, List.length_append,
    List.range_add, List.filterMap_append, hleft, List.filterMap_map, hright]

/-! ### Noise -/

/-- A line that gives no timing and has no mark. -/
def IsNoise (line : List Char) : Prop := ofLine? line = none ∧ ¬throughputMark <:+: line

instance : DecidablePred IsNoise := fun line => by
  unfold IsNoise
  infer_instance

theorem isNoise_nil : IsNoise [] := by decide

/-- Noise belongs to no line before it. -/
theorem IsNoise.unattached (h : IsNoise line) (xs ys : List (List Char)) :
    Unattached xs (line :: ys) := by
  intro x _ y hy
  obtain rfl := Option.mem_some_iff.mp hy
  exact .inr h.2

theorem IsNoise.ofLines_cons (h : IsNoise line) (ys : List (List Char)) :
    ofLines (line :: ys) = ofLines ys := by
  have hunattached : Unattached [line] ys := by
    intro x hx y _
    obtain rfl := Option.mem_some_iff.mp hx
    exact .inl h.1
  have hnothing : timingAt? [line] 0 = none := by
    simp [timingAt?, h.1]
  rw [← List.singleton_append, ofLines_append hunattached, ofLines_eq_filterMap [line]]
  simp [hnothing]

/-- Lines with a line of noise more, which does not stand between a timing line and a line with the
mark. -/
inductive OneMore : List (List Char) → List (List Char) → Prop where
  | insert {xs ys : List (List Char)} {line : List Char} :
    IsNoise line → Unattached xs ys → OneMore (xs ++ ys) (xs ++ line :: ys)

/-- Lines with any number of lines of noise more. -/
def More : List (List Char) → List (List Char) → Prop := Relation.ReflTransGen OneMore

theorem OneMore.ofLines_eq {lines more : List (List Char)} (h : OneMore lines more) :
    ofLines more = ofLines lines := by
  obtain ⟨hnoise, hunattached⟩ := h
  rw [ofLines_append (hnoise.unattached _ _), hnoise.ofLines_cons, ofLines_append hunattached]

/-- Noise makes no difference to the timings. -/
theorem ofLines_more {lines more : List (List Char)} (h : More lines more) :
    ofLines more = ofLines lines := by
  induction h with
  | refl => rfl
  | tail _ hstep ih => rw [hstep.ofLines_eq, ih]

/-! ### The pieces of a text -/

/-- The lines of a text without the carriage returns at their ends. -/
def plainLines (text : List Char) : List (List Char) := (Text.lines text).map withoutReturns

theorem ofText_eq_plainLines (text : List Char) : ofText text = ofLines (plainLines text) :=
  (ofLines_map alike_withoutReturns _).symm

theorem map_withoutReturns_dropReturn (pieces : List (List Char)) :
    (pieces.map Text.dropReturn).map withoutReturns = pieces.map withoutReturns := by
  rw [List.map_map]
  exact List.map_congr_left fun piece _ => withoutReturns_dropReturn piece

/-- A text has the timings of its pieces. The last of them is empty if the text ends with a line
feed, and is no line then. -/
theorem ofText_eq_splitOn (text : List Char) : ofText text = ofLines (text.splitOn '\n') := by
  rw [ofText_eq_plainLines, plainLines, Text.lines, Text.splitOn_eq_cut, List.map_append,
    map_withoutReturns_dropReturn, ← List.map_append, ofLines_map alike_withoutReturns,
    Text.lastPiece]
  split
  · next hempty =>
    rw [hempty, List.append_nil, ofLines_append (isNoise_nil.unattached _ _),
      isNoise_nil.ofLines_cons]
    simp [ofLines_eq_filterMap []]
  · rfl

/-- The last piece of a text is its last line, or empty. -/
theorem getLast?_splitOn {text x : List Char} (h : x ∈ (text.splitOn '\n').getLast?) :
    x = [] ∨ x ∈ (Text.lines text).getLast? := by
  have hx : (Text.cut '\n' text).2 = x := by simpa [Text.splitOn_eq_cut] using h
  by_cases hempty : x = []
  · exact .inl hempty
  · right
    simp [Text.lines, Text.lastPiece, hx, hempty]

/-- The first piece of a text is its first line, with a carriage return perhaps, or empty. -/
theorem head?_splitOn {text y : List Char} (h : y ∈ (text.splitOn '\n').head?) :
    y = [] ∨ ∃ z ∈ (Text.lines text).head?, (throughputMark <:+: z ↔ throughputMark <:+: y) := by
  cases hpieces : (Text.cut '\n' text).1 with
  | nil =>
    have hy : (Text.cut '\n' text).2 = y := by simpa [Text.splitOn_eq_cut, hpieces] using h
    by_cases hempty : y = []
    · exact .inl hempty
    · refine .inr ⟨y, ?_, Iff.rfl⟩
      simp [Text.lines, Text.lastPiece, hpieces, hy, hempty]
  | cons piece pieces =>
    have hy : piece = y := by simpa [Text.splitOn_eq_cut, hpieces] using h
    subst hy
    refine .inr ⟨Text.dropReturn piece, by simp [Text.lines, hpieces], ?_⟩
    rw [← (alike_withoutReturns piece).mark_iff, ← withoutReturns_dropReturn,
      (alike_withoutReturns _).mark_iff]

/-- What holds of the lines at the seam of two texts holds of the pieces. -/
theorem unattached_splitOn {a b : List Char} (h : Unattached (Text.lines a) (Text.lines b)) :
    Unattached (a.splitOn '\n') (b.splitOn '\n') := by
  intro x hx y hy
  rcases getLast?_splitOn hx with rfl | hx
  · exact .inl isNoise_nil.1
  rcases head?_splitOn hy with rfl | ⟨z, hz, hmark⟩
  · exact .inr isNoise_nil.2
  · rw [← hmark]
    exact h x hx z hz

/-- **Joined reports have the timings of their parts.** Let two texts be joined at a line feed, the
first of them ending in whatever way. Unless its last line gives a timing and the first line of
the other has the mark, the timings are those of the first text followed by those of the second. So
lines of noise, any number of them and anywhere but between a timing line and a line with the mark,
leave the timings of a text as they are. -/
theorem ofText_join :
    (∀ a b : List Char, Unattached (Text.lines a) (Text.lines b) →
      ofText (a ++ '\n' :: b) = ofText a ++ ofText b) ∧
    ∀ a b : List Char, More (plainLines a) (plainLines b) → ofText b = ofText a := by
  constructor
  · intro a b h
    rw [ofText_eq_splitOn, List.splitOn_append_cons_self, ofLines_append (unattached_splitOn h),
      ← ofText_eq_splitOn, ← ofText_eq_splitOn]
  · intro a b h
    rw [ofText_eq_plainLines, ofLines_more h, ← ofText_eq_plainLines]

/-- A first text that ends in a lone carriage return, joined to one that begins with the mark. Noise
stands before the first text and after it. -/
theorem ofText_join_returns :
    let a := "a time: [1 ns 2 ns 3 ns]\r\n thrpt: 1\r".toList
    let b := "thrpt: 2\r\nb time: [1 ns 2 ns 3 ns]\r".toList
    let c := "first\r\na time: [1 ns 2 ns 3 ns]\n thrpt: 1\r\nlast\n".toList
    Unattached (Text.lines a) (Text.lines b) ∧
      ofText (a ++ '\n' :: b) = ofText a ++ ofText b ∧
      More (plainLines a) (plainLines c) ∧ ofText c = ofText a := by
  intro a b c
  have hunattached : Unattached (Text.lines a) (Text.lines b) := by decide +kernel
  have hfirst : OneMore (plainLines a) ("first".toList :: plainLines a) :=
    @OneMore.insert [] _ _ (by decide +kernel) (by decide +kernel)
  have hlast : OneMore ("first".toList :: plainLines a) (plainLines c) := by
    rw [show plainLines c = ("first".toList :: plainLines a) ++ ["last".toList] by decide +kernel]
    nth_rewrite 1 [← List.append_nil ("first".toList :: plainLines a)]
    exact .insert (by decide +kernel) (by decide +kernel)
  have hmore : More (plainLines a) (plainLines c) := .tail (.single hfirst) hlast
  exact ⟨hunattached, ofText_join.1 a b hunattached, hmore, ofText_join.2 a c hmore⟩

end BenchReport.Timing
