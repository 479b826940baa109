import BenchReport.Timing.Scanner
import Mathlib.Data.List.ReduceOption
import Mathlib.Logic.Function.Iterate

/-!
# One line of lookahead

What the calls of a scanner do with the lines of its source. A line that was drawn is tested for
being a timing line, or it is attached to a timing as its throughput, or it is kept until the next
call. A traced call notes each of these deeds with the place of the line among the answers of the
source, and comes to the same as a call that is not traced (`pull_nextTraced`).

The invariant `Accounts` ties a history of calls to the source: the lines that were dealt with, in
order, and the kept line after them are the lines among the answers that were drawn, each at its own
place. One call keeps it (`Accounts.call`), so any number of calls does. The source need not go on
answering none once it did: the answer after a timing line may be none, and a line may follow.
-/

namespace BenchReport.Timing

/-- What is done with a line that was drawn. -/
inductive Use where
  /-- It is tested for being a timing line. -/
  | test
  /-- It is attached to a timing as its throughput. -/
  | attach
  deriving Repr, DecidableEq

/-- Something done with a line. -/
structure Deed where
  /-- The place of the line among the answers of the source. -/
  place : Nat
  /-- The line. -/
  line : List Char
  /-- What is done with it. -/
  use : Use
  deriving Repr, DecidableEq

/-- The line of a deed at its place. -/
def Deed.placed (d : Deed) : Nat × List Char := (d.place, d.line)

/-- Whether a line is tested and is no timing line. -/
def Deed.isPassedOver (d : Deed) : Bool := d.use = .test && (ofLine? d.line).isNone

/-- A call and what it did. -/
structure Traced where
  /-- What was done, in order. -/
  deeds : List Deed
  /-- The number of answers that the source has given so far. -/
  drawn : Nat
  /-- The outcome of the call. -/
  pull : Pull

namespace Scanner

variable {s : Scanner} {place drawn i j : Nat} {source ahead : List (Option (List Char))}
  {t : Timing} {line : List Char}

/-! ### Traced calls -/

/-- Decides about the throughput of a timing by the next answer, which has this place. -/
def finishTraced (place : Nat) (t : Timing) : List (Option (List Char)) → Traced
  | [] => ⟨[], place + 1, ⟨some t, [], ⟨none, []⟩⟩⟩
  | none :: source => ⟨[], place + 1, ⟨some t, [], ⟨none, source⟩⟩⟩
  | some line :: source =>
    if isThroughput line then
      ⟨[⟨place, line, .attach⟩], place + 1, ⟨some (annotate t line), [], ⟨none, source⟩⟩⟩
    else ⟨[], place + 1, ⟨some t, [], ⟨some line, source⟩⟩⟩

/-- Looks for a timing line among the answers to come, the first of which has this place. -/
def searchTraced (place : Nat) : List (Option (List Char)) → Traced
  | [] => ⟨[], place + 1, ⟨none, [], ⟨none, []⟩⟩⟩
  | none :: source => ⟨[], place + 1, ⟨none, [], ⟨none, source⟩⟩⟩
  | some line :: source =>
    match ofLine? line with
    | some t =>
      let r := finishTraced (place + 1) t source
      { r with deeds := ⟨place, line, .test⟩ :: r.deeds }
    | none =>
      let r := searchTraced (place + 1) source
      ⟨⟨place, line, .test⟩ :: r.deeds, r.drawn,
        { r.pull with skipped := line :: r.pull.skipped }⟩

/-- The next timing, after so many answers. A kept line is the last of them. -/
def nextTraced (drawn : Nat) (s : Scanner) : Traced :=
  match s.pending with
  | none => searchTraced drawn s.source
  | some line => searchTraced (drawn - 1) (some line :: s.source)

theorem pull_finishTraced (place : Nat) (t : Timing) (source : List (Option (List Char))) :
    (finishTraced place t source).pull = finish t source := by
  cases source with
  | nil => rfl
  | cons a source =>
    cases a with
    | none => rfl
    | some line =>
      simp only [finishTraced, finish]
      split <;> rfl

theorem pull_searchTraced (place : Nat) (source : List (Option (List Char))) :
    (searchTraced place source).pull = search source := by
  induction source generalizing place with
  | nil => rfl
  | cons a source ih =>
    cases a with
    | none => rfl
    | some line =>
      simp only [searchTraced, search]
      cases ofLine? line with
      | none => simp only [ih]
      | some t => exact pull_finishTraced ..

/-- A traced call is a call. -/
theorem pull_nextTraced (drawn : Nat) (s : Scanner) : (s.nextTraced drawn).pull = s.next := by
  rw [nextTraced, next]
  cases s.pending with
  | none => exact pull_searchTraced ..
  | some line => exact pull_searchTraced ..

theorem skipped_searchTraced (place : Nat) (source : List (Option (List Char))) :
    (searchTraced place source).pull.skipped
      = ((searchTraced place source).deeds.filter Deed.isPassedOver).map (·.line) := by
  induction source generalizing place with
  | nil => rfl
  | cons a source ih =>
    cases a with
    | none => rfl
    | some line =>
      simp only [searchTraced]
      cases h : ofLine? line with
      | none => simp [Deed.isPassedOver, h, ih]
      | some t =>
        cases source with
        | nil => simp [finishTraced, Deed.isPassedOver, h]
        | cons a source =>
          cases a with
          | none => simp [finishTraced, Deed.isPassedOver, h]
          | some next =>
            simp only [finishTraced]
            split <;> simp [Deed.isPassedOver, h]

/-- A call passes over the lines that it tests in vain. -/
theorem skipped_nextTraced (drawn : Nat) (s : Scanner) :
    (s.nextTraced drawn).pull.skipped
      = ((s.nextTraced drawn).deeds.filter Deed.isPassedOver).map (·.line) := by
  unfold nextTraced
  split <;> exact skipped_searchTraced ..

/-! ### Lines at their places -/

/-- The lines among some answers with their places, if the first answer has this place. -/
def linesFrom (place : Nat) : List (Option (List Char)) → List (Nat × List Char)
  | [] => []
  | none :: source => linesFrom (place + 1) source
  | some line :: source => (place, line) :: linesFrom (place + 1) source

theorem map_snd_linesFrom (place : Nat) (source : List (Option (List Char))) :
    (linesFrom place source).map Prod.snd = source.reduceOption := by
  induction source generalizing place with
  | nil => rfl
  | cons a source ih => cases a <;> simp [linesFrom, ih]

theorem mem_linesFrom (h : (j, line) ∈ linesFrom place source) :
    ∃ k, j = place + k ∧ source[k]? = some (some line) := by
  induction source generalizing place with
  | nil => simp [linesFrom] at h
  | cons a source ih =>
    cases a with
    | none =>
      obtain ⟨k, rfl, hk⟩ := ih h
      exact ⟨k + 1, by omega, hk⟩
    | some first =>
      simp only [linesFrom, List.mem_cons, Prod.mk.injEq] at h
      rcases h with ⟨rfl, rfl⟩ | h
      · exact ⟨0, rfl, rfl⟩
      · obtain ⟨k, rfl, hk⟩ := ih h
        exact ⟨k + 1, by omega, hk⟩

/-- The places ascend, so no two lines have the same. -/
theorem linesFrom_ascending (place : Nat) (source : List (Option (List Char))) :
    ((linesFrom place source).map Prod.fst).Pairwise (· < ·) := by
  induction source generalizing place with
  | nil => exact .nil
  | cons a source ih =>
    cases a with
    | none => exact ih _
    | some first =>
      refine List.pairwise_cons.mpr ⟨fun j hj => ?_, ih _⟩
      obtain ⟨⟨j, line⟩, hmem, rfl⟩ := List.mem_map.mp hj
      obtain ⟨k, rfl, -⟩ := mem_linesFrom hmem
      simp only
      omega

theorem linesFrom_take_add (place i j : Nat) (source : List (Option (List Char))) :
    linesFrom place (source.take (i + j))
      = linesFrom place (source.take i) ++ linesFrom (place + i) ((source.drop i).take j) := by
  induction source generalizing place i with
  | nil => simp [linesFrom]
  | cons a source ih =>
    cases i with
    | zero => simp [linesFrom]
    | succ i =>
      have hplace : place + 1 + i = place + (i + 1) := by omega
      rw [Nat.add_right_comm, List.take_succ_cons, List.take_succ_cons, List.drop_succ_cons]
      cases a with
      | none => rw [linesFrom, linesFrom, ih, hplace]
      | some first => rw [linesFrom, linesFrom, ih, hplace, List.cons_append]

/-! ### One call -/

/-- The line that a scanner keeps after so many answers, of which it is the last. -/
def kept (drawn : Nat) (s : Scanner) : List (Nat × List Char) :=
  s.pending.toList.map fun line => (drawn - 1, line)

/-- What a call does that draws so many of the answers ahead, the first of which has this place. -/
structure DealsWith (place : Nat) (ahead : List (Option (List Char))) (count : Nat) (r : Traced) :
    Prop where
  drawn_eq : r.drawn = place + count
  source_eq : r.pull.scanner.source = ahead.drop count
  /-- Each line among these answers is dealt with or kept. -/
  lines_eq : r.deeds.map Deed.placed ++ kept r.drawn r.pull.scanner
    = linesFrom place (ahead.take count)
  /-- A line is attached to the timing of the line at the place before. -/
  attached : ∀ d ∈ r.deeds, d.use = .attach → ∃ e ∈ r.deeds, e.use = .test ∧
    d.place = e.place + 1 ∧ ∃ t, ofLine? e.line = some t ∧ r.pull.timing = some (annotate t d.line)
  /-- At most one answer is drawn after a timing line. -/
  found : ∀ u, r.pull.timing = some u → ∃ e ∈ r.deeds, e.use = .test ∧ r.drawn ≤ e.place + 2 ∧
    ∃ t, ofLine? e.line = some t ∧ (u = t ∨ ∃ d ∈ r.deeds, d.use = .attach ∧ u = annotate t d.line)
  /-- A call without a timing ends with the answer none. -/
  nothing : r.pull.timing = none → r.pull.scanner.pending = none ∧
    ∃ i, count = i + 1 ∧ ahead[i]?.join = none

theorem dealsWith_timingLine (h : ofLine? line = some t) (place : Nat)
    (source : List (Option (List Char))) :
    DealsWith place (some line :: source) 2 (searchTraced place (some line :: source)) := by
  simp only [searchTraced, h]
  cases source with
  | nil => constructor <;> simp [finishTraced, kept, linesFrom, Deed.placed, h]
  | cons a source =>
    cases a with
    | none => constructor <;> simp [finishTraced, kept, linesFrom, Deed.placed, h]
    | some next =>
      simp only [finishTraced]
      split <;> constructor <;> simp [kept, linesFrom, Deed.placed, h]

theorem DealsWith.cons_vain {count : Nat} (h : ofLine? line = none)
    (hrest : DealsWith (place + 1) source count (searchTraced (place + 1) source)) :
    DealsWith place (some line :: source) (count + 1)
      (searchTraced place (some line :: source)) := by
  simp only [searchTraced, h]
  generalize searchTraced (place + 1) source = r at hrest
  obtain ⟨hdrawn, hsource, hlines, hattached, hfound, hnothing⟩ := hrest
  constructor
  · simp only [hdrawn]
    omega
  · simpa using hsource
  · simpa [linesFrom, Deed.placed] using hlines
  · intro d hd huse
    rcases List.mem_cons.mp hd with rfl | hd
    · cases huse
    · obtain ⟨e, he, hrest⟩ := hattached d hd huse
      exact ⟨e, List.mem_cons_of_mem _ he, hrest⟩
  · intro u hu
    obtain ⟨e, he, hrest⟩ := hfound u hu
    refine ⟨e, List.mem_cons_of_mem _ he, ?_⟩
    simpa [h] using hrest
  · intro hnone
    obtain ⟨hpending, i, rfl, hi⟩ := hnothing hnone
    exact ⟨hpending, i + 1, rfl, by simpa using hi⟩

theorem exists_dealsWith (place : Nat) (ahead : List (Option (List Char))) :
    ∃ count, DealsWith place ahead count (searchTraced place ahead) := by
  induction ahead generalizing place with
  | nil => exact ⟨1, by constructor <;> simp [searchTraced, kept, linesFrom]⟩
  | cons a ahead ih =>
    cases a with
    | none => exact ⟨1, by constructor <;> simp [searchTraced, kept, linesFrom]⟩
    | some line =>
      cases h : ofLine? line with
      | some t => exact ⟨2, dealsWith_timingLine h place ahead⟩
      | none =>
        obtain ⟨count, hcount⟩ := ih (place + 1)
        exact ⟨count + 1, hcount.cons_vain h⟩

end Scanner

/-! ### Any number of calls -/

/-- What the calls of a scanner did so far. -/
structure History where
  /-- What was done, in order. -/
  deeds : List Deed
  /-- The number of answers that the source has given. -/
  drawn : Nat
  /-- The scanner now. -/
  scanner : Scanner

namespace History

variable {source : List (Option (List Char))} {h : History}

/-- Before the first call. -/
def start (source : List (Option (List Char))) : History := ⟨[], 0, .ofSource source⟩

/-- The next call. -/
def trace (h : History) : Traced := h.scanner.nextTraced h.drawn

/-- After the next call. -/
def call (h : History) : History := ⟨h.deeds ++ h.trace.deeds, h.trace.drawn, h.trace.pull.scanner⟩

/-- After so many calls. -/
def after (source : List (Option (List Char))) : Nat → History
  | 0 => start source
  | n + 1 => (after source n).call

theorem scanner_after (source : List (Option (List Char))) (n : Nat) :
    (after source n).scanner = (fun s => s.next.scanner)^[n] (Scanner.ofSource source) := by
  induction n with
  | zero => rfl
  | succ n ih =>
    rw [Function.iterate_succ_apply', ← ih, ← Scanner.pull_nextTraced (after source n).drawn]
    rfl

/-- The invariant: each line among the answers was dealt with or is kept, and the answers to come
are the others. -/
structure Accounts (source : List (Option (List Char))) (h : History) : Prop where
  source_eq : h.scanner.source = source.drop h.drawn
  lines_eq : h.deeds.map Deed.placed ++ Scanner.kept h.drawn h.scanner
    = Scanner.linesFrom 0 (source.take h.drawn)

/-- A call starts at the place after the lines that were dealt with. This is the place of the kept
line, if there is one. -/
theorem Accounts.exists_start (hacc : Accounts source h) :
    ∃ i, h.trace = Scanner.searchTraced i (source.drop i) ∧
      h.deeds.map Deed.placed = Scanner.linesFrom 0 (source.take i) ∧
      (h.drawn = i ∨ h.drawn = i + 1 ∧ source[i]?.join ≠ none) := by
  obtain ⟨hsource, hlines⟩ := hacc
  rw [trace, Scanner.nextTraced]
  cases hpending : h.scanner.pending with
  | none =>
    refine ⟨h.drawn, by rw [hsource], ?_, .inl rfl⟩
    simpa [Scanner.kept, hpending] using hlines
  | some line =>
    have hkept : Scanner.kept h.drawn h.scanner = [(h.drawn - 1, line)] := by
      simp [Scanner.kept, hpending]
    rw [hkept] at hlines
    have hmem : (h.drawn - 1, line) ∈ Scanner.linesFrom 0 (source.take h.drawn) := by
      rw [← hlines]
      simp
    obtain ⟨k, hk, hline⟩ := Scanner.mem_linesFrom hmem
    obtain ⟨hlt, hline⟩ : k < h.drawn ∧ source[k]? = some (some line) := by
      simpa [List.getElem?_take] using hline
    obtain ⟨hlength, hget⟩ := List.getElem?_eq_some_iff.mp hline
    have hdrawn : h.drawn = k + 1 := by omega
    have hdrop : source.drop k = some line :: source.drop (k + 1) := by
      rw [List.drop_eq_getElem_cons hlength, hget]
    -- the kept line is the last of the lines among the answers
    rw [hdrawn, Scanner.linesFrom_take_add, hdrop] at hlines
    refine ⟨k, ?_, ?_, .inr ⟨hdrawn, by simp [hline]⟩⟩
    · simp only [hsource, hdrawn, hdrop, Nat.add_sub_cancel]
    · simpa [Scanner.linesFrom] using hlines

theorem Accounts.call (hacc : Accounts source h) : Accounts source h.call := by
  obtain ⟨i, htrace, hdeeds, -⟩ := hacc.exists_start
  obtain ⟨count, hdeals⟩ := Scanner.exists_dealsWith i (source.drop i)
  rw [← htrace] at hdeals
  constructor
  · simp only [History.call, hdeals.source_eq, hdeals.drawn_eq, List.drop_drop]
  · simp only [History.call, List.map_append, List.append_assoc, hdeals.lines_eq]
    rw [hdeeds, hdeals.drawn_eq, Scanner.linesFrom_take_add, Nat.zero_add]

theorem accounts_after (source : List (Option (List Char))) (n : Nat) :
    Accounts source (after source n) := by
  induction n with
  | zero => exact ⟨rfl, rfl⟩
  | succ n ih => exact ih.call

/-- A line is attached to the timing of the line at the place before, which a call yielded. -/
theorem attached_after {n : Nat} {d : Deed} (hd : d ∈ (after source n).deeds)
    (huse : d.use = .attach) :
    ∃ e ∈ (after source n).deeds, e.use = .test ∧ d.place = e.place + 1 ∧
      ∃ t, ofLine? e.line = some t ∧
        ∃ k < n, (after source k).scanner.next.timing = some (annotate t d.line) := by
  induction n with
  | zero => simp [after, start] at hd
  | succ n ih =>
    rcases List.mem_append.mp hd with hd | hd
    · obtain ⟨e, he, htest, hplace, t, ht, k, hk, htiming⟩ := ih hd
      exact ⟨e, List.mem_append_left _ he, htest, hplace, t, ht, k, by omega, htiming⟩
    · obtain ⟨i, htrace, -, -⟩ := (accounts_after source n).exists_start
      obtain ⟨count, hdeals⟩ := Scanner.exists_dealsWith i (source.drop i)
      rw [← htrace] at hdeals
      obtain ⟨e, he, htest, hplace, t, ht, htiming⟩ := hdeals.attached d hd huse
      rw [trace, Scanner.pull_nextTraced] at htiming
      exact ⟨e, List.mem_append_right _ he, htest, hplace, t, ht, n, by omega, htiming⟩

end History

open History in
/-- **The calls deal with each line once, and keep at most one.** After any number of calls the
lines that were drawn are those that were dealt with and the kept line after them, each at a place
of its own. A line is dealt with by a test, or it is attached to the timing of the line at the place
before. The next call passes over the lines that it tests in vain; if it yields a timing, it has
drawn at most one answer after the line of the timing; if it yields none, no line is kept and the
last answer was none. The source may give any answers, lines after none as well. -/
theorem calls_deal_with_each_line_once (source : List (Option (List Char))) (n : Nat) :
    let h : History := after source n
    let r := h.trace
    let dealt := h.deeds.map Deed.placed ++ Scanner.kept h.drawn h.scanner
    -- the history is that of the scanner
    h.scanner = (fun s => s.next.scanner)^[n] (Scanner.ofSource source) ∧
    r.pull = h.scanner.next ∧
    r.pull.skipped = (r.deeds.filter Deed.isPassedOver).map (·.line) ∧
    -- the lines
    h.scanner.source = source.drop h.drawn ∧
    h.deeds.map (·.line) ++ h.scanner.pending.toList = (source.take h.drawn).reduceOption ∧
    (dealt.map Prod.fst).Pairwise (· < ·) ∧
    (∀ i line, (i, line) ∈ dealt → i < h.drawn ∧ source[i]? = some (some line)) ∧
    (∀ d ∈ h.deeds, d.use = .attach → ∃ e ∈ h.deeds, e.use = .test ∧ d.place = e.place + 1 ∧
      ∃ t, ofLine? e.line = some t ∧
        ∃ k < n, (after source k).scanner.next.timing = some (annotate t d.line)) ∧
    -- the next call
    (∀ u, r.pull.timing = some u → ∃ e ∈ r.deeds, e.use = .test ∧ r.drawn ≤ e.place + 2 ∧
      ∃ t, ofLine? e.line = some t ∧
        (u = t ∨ ∃ d ∈ r.deeds, d.use = .attach ∧ u = annotate t d.line)) ∧
    (r.pull.timing = none →
      r.pull.scanner.pending = none ∧ h.drawn < r.drawn ∧ source[r.drawn - 1]?.join = none) := by
  intro h r dealt
  have hacc := accounts_after source n
  have hdealt : dealt = Scanner.linesFrom 0 (source.take h.drawn) := hacc.lines_eq
  obtain ⟨i, htrace, -, hdrawn⟩ := hacc.exists_start
  change h.drawn = i ∨ h.drawn = i + 1 ∧ source[i]?.join ≠ none at hdrawn
  obtain ⟨count, hdeals⟩ := Scanner.exists_dealsWith i (source.drop i)
  rw [← htrace] at hdeals
  refine ⟨scanner_after source n, Scanner.pull_nextTraced .., Scanner.skipped_nextTraced ..,
    hacc.source_eq, ?_, ?_, ?_, fun d => attached_after, hdeals.found, ?_⟩
  · rw [← Scanner.map_snd_linesFrom 0, ← hdealt]
    simp [dealt, Scanner.kept, Deed.placed, Function.comp_def]
  · rw [hdealt]
    exact Scanner.linesFrom_ascending ..
  · intro j line hmem
    rw [hdealt] at hmem
    obtain ⟨k, hk, hline⟩ := Scanner.mem_linesFrom hmem
    rw [Nat.zero_add] at hk
    subst hk
    simpa [List.getElem?_take] using hline
  · intro hnone
    obtain ⟨hpending, j, hj, hanswer⟩ := hdeals.nothing hnone
    have hlast : r.drawn = i + j + 1 := by rw [hdeals.drawn_eq, hj, Nat.add_assoc]
    rw [List.getElem?_drop] at hanswer
    refine ⟨hpending, ?_, ?_⟩
    · rcases hdrawn with hdrawn | ⟨hdrawn, hline⟩
      · omega
      · have hne : j ≠ 0 := by
          rintro rfl
          exact hline hanswer
        omega
    · rw [hlast, Nat.add_sub_cancel]
      exact hanswer

/-- After none, the mark in the next line gives no throughput to the timing before. -/
example :
    let source := [some "a time: [1 ns 2 ns 3 ns]".toList, none, some "thrpt: 7".toList]
    (History.after source 2).deeds.map (fun d => (d.place, d.use)) = [(0, .test), (2, .test)] := by
  decide +kernel

end BenchReport.Timing
