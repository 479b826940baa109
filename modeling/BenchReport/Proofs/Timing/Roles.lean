import BenchReport.Timing.Scanner
import Mathlib.Data.List.Infix

/-!
# The role of each line in a report

The scanner draws its lines one by one and keeps at most one of them between two calls. The
specification knows no scanner: it gives each line of a finite report a role, from the first
line to the last. A line is a throughput line if the line before it is a timing line and the
mark occurs in it; it is a timing line if it is not a throughput line and gives a timing; any
other line is passed over. The timings of the report are those of its timing lines, in the
order of the lines, each with the throughput line that follows it, if one does
(`timingAt?`).

The invariant `StandsAt` ties a scanner between two calls to a place in the report: the lines
from that place on are still before it, the first of them perhaps kept, and this first line is
not a throughput line. A call that starts at a place yields the first timing from there on, and
leaves the scanner at a later place (`next_yields`). So the calls together yield the timings
of the report, and pass over the lines that are neither timing nor throughput lines.

A report makes no difference between lines that are `Alike`: that give the same timing by
themselves, have the mark or not, and are the same when trimmed.
-/

namespace BenchReport.Timing

variable {lines : List (List Char)} {i : Nat} {line : List Char} {t : Timing}

theorem occursIn_eq_true_iff {word s : List Char} : occursIn word s = true ↔ word <:+: s := by
  induction s with
  | nil => rw [occursIn, List.isEmpty_iff, List.infix_nil]
  | cons c r ih => rw [occursIn, Bool.or_eq_true, ih, List.isPrefixOf_iff_prefix, List.infix_cons_iff]

theorem isThroughput_eq_true_iff : isThroughput line = true ↔ throughputMark <:+: line :=
  occursIn_eq_true_iff

/-- A line alone gives no throughput. -/
theorem throughput_ofLine? (h : ofLine? line = some t) : t.throughput = none := by
  obtain ⟨_, -, rfl⟩ := Option.map_eq_some_iff.mp h
  rfl

/-! ### Roles -/

/-- What a line is in a report. -/
inductive Role where
  /-- It gives a timing. -/
  | timing
  /-- It gives the throughput of the timing before it. -/
  | throughput
  /-- It gives nothing. -/
  | other
  deriving Repr, DecidableEq

/-- The role of a line, by the role of the line before it, if there is one. -/
def roleAfter (before : Option Role) (line : List Char) : Role :=
  if before = some .timing ∧ throughputMark <:+: line then .throughput
  else if (ofLine? line).isSome then .timing
  else .other

/-- The role of the line at a place, if there is a line. -/
def roleAt (lines : List (List Char)) : Nat → Option Role
  | 0 => lines[0]?.map (roleAfter none)
  | i + 1 => lines[i + 1]?.map (roleAfter (roleAt lines i))

/-- The throughput that the line at a place gives. -/
def throughputAt (lines : List (List Char)) (i : Nat) : Option String :=
  if roleAt lines i = some .throughput then
    lines[i]?.map fun line => String.ofList (Text.trim line)
  else none

/-- The timing that the line at a place gives, with the throughput of the next line. -/
def timingAt? (lines : List (List Char)) (i : Nat) : Option Timing :=
  if roleAt lines i = some .timing then
    (lines[i]?.bind ofLine?).map fun t => { t with throughput := throughputAt lines (i + 1) }
  else none

/-- The line at a place if it gives nothing. -/
def otherAt? (lines : List (List Char)) (i : Nat) : Option (List Char) :=
  if roleAt lines i = some .other then lines[i]? else none

/-- The role of the line before a place, if there is one. -/
def roleBefore (lines : List (List Char)) : Nat → Option Role
  | 0 => none
  | i + 1 => roleAt lines i

theorem roleAt_eq_map (lines : List (List Char)) (i : Nat) :
    roleAt lines i = lines[i]?.map (roleAfter (roleBefore lines i)) := by
  cases i with
  | zero => rfl
  | succ i => rfl

theorem roleAt_eq_none (h : lines[i]? = none) : roleAt lines i = none := by
  rw [roleAt_eq_map, h, Option.map_none]

theorem roleAt_eq_some (h : lines[i]? = some line) :
    roleAt lines i = some (roleAfter (roleBefore lines i) line) := by
  rw [roleAt_eq_map, h, Option.map_some]

theorem roleBefore_eq_some_iff {role : Role} :
    roleBefore lines i = some role ↔ ∃ j, i = j + 1 ∧ roleAt lines j = some role := by
  cases i with
  | zero =>
    constructor
    · intro h
      cases h
    · rintro ⟨j, hj, -⟩
      cases hj
  | succ i =>
    constructor
    · intro h
      exact ⟨i, rfl, h⟩
    · rintro ⟨j, hj, h⟩
      cases hj
      exact h

theorem roleAfter_eq_throughput_iff {before : Option Role} :
    roleAfter before line = .throughput ↔ before = some .timing ∧ throughputMark <:+: line := by
  unfold roleAfter
  split
  · next h => exact iff_of_true rfl h
  · next h =>
    refine iff_of_false ?_ h
    split <;> exact Role.noConfusion

/-- A line is a throughput line if and only if it follows a timing line and has the mark. -/
theorem roleAt_eq_throughput_iff (h : lines[i]? = some line) :
    roleAt lines i = some .throughput ↔
      (∃ j, i = j + 1 ∧ roleAt lines j = some .timing) ∧ throughputMark <:+: line := by
  rw [roleAt_eq_some h, Option.some_inj, roleAfter_eq_throughput_iff, roleBefore_eq_some_iff]

/-- A line that is not a throughput line has the role that it has alone. -/
theorem roleAt_of_ne_throughput (h : lines[i]? = some line)
    (hrole : roleAt lines i ≠ some .throughput) :
    roleAt lines i = some (if (ofLine? line).isSome then .timing else .other) := by
  rw [roleAt_eq_some h] at hrole ⊢
  rw [ne_eq, Option.some_inj, roleAfter_eq_throughput_iff] at hrole
  rw [roleAfter, if_neg hrole]

/-- A line is a timing line if and only if it gives a timing and is not a throughput line. -/
theorem roleAt_eq_timing_iff (h : lines[i]? = some line) :
    roleAt lines i = some .timing ↔
      (ofLine? line).isSome = true ∧ roleAt lines i ≠ some .throughput := by
  constructor
  · intro hrole
    have hne : roleAt lines i ≠ some .throughput := by
      rw [hrole]
      intro e
      cases e
    refine ⟨?_, hne⟩
    by_contra hline
    rw [roleAt_of_ne_throughput h hne, if_neg hline] at hrole
    cases hrole
  · rintro ⟨hline, hne⟩
    rw [roleAt_of_ne_throughput h hne, if_pos hline]

theorem isSome_timingAt?_iff : (timingAt? lines i).isSome = true ↔ roleAt lines i = some .timing := by
  by_cases hrole : roleAt lines i = some .timing
  · refine iff_of_true ?_ hrole
    rw [timingAt?, if_pos hrole, Option.isSome_map]
    cases h : lines[i]? with
    | none =>
      rw [roleAt_eq_none h] at hrole
      cases hrole
    | some line => exact ((roleAt_eq_timing_iff h).mp hrole).1
  · rw [timingAt?, if_neg hrole]
    exact iff_of_false Bool.false_ne_true hrole

/-! ### What a report gives from a place on -/

/-- What the lines of a report give from a place on, in order. -/
def givenFrom {β : Type} (f : Nat → Option β) (lines : List (List Char)) (i : Nat) : List β :=
  (List.range' i (lines.length - i)).filterMap f

variable {β : Type} {f : Nat → Option β}

theorem givenFrom_of_le (h : lines.length ≤ i) : givenFrom f lines i = [] := by
  rw [givenFrom, Nat.sub_eq_zero_of_le h, List.range'_zero, List.filterMap_nil]

theorem givenFrom_eq_append (h : i < lines.length) :
    givenFrom f lines i = (f i).toList ++ givenFrom f lines (i + 1) := by
  have hlength : lines.length - i = lines.length - (i + 1) + 1 := by omega
  rw [givenFrom, givenFrom, hlength, List.range'_succ, List.filterMap_cons]
  cases f i <;> rfl

theorem lt_length_of_getElem? (h : lines[i]? = some line) : i < lines.length :=
  (List.getElem?_eq_some_iff.mp h).1

/-! ### One call -/

/-- The invariant: the lines from a place on are still before the scanner, and the first of
them is not a throughput line. -/
structure StandsAt (lines : List (List Char)) (i : Nat) (s : Scanner) : Prop where
  ahead : s.pending.toList.map some ++ s.source = (lines.drop i).map some
  not_throughput : roleAt lines i ≠ some .throughput

/-- What a call does that starts at a place: it yields the first timing from there on and the
scanner stands at a later place, or there is no timing any more; it passes over the lines that
give nothing in between. -/
inductive Yields (lines : List (List Char)) (i : Nat) (p : Pull) : Prop where
  /-- There is no timing any more. -/
  | nothing
    (yielded : p.timing = none)
    (timings : givenFrom (timingAt? lines) lines i = [])
    (others : givenFrom (otherAt? lines) lines i = p.skipped)
  /-- There is a timing, and the scanner stands at a later place. -/
  | timing (t : Timing) (j : Nat)
    (yielded : p.timing = some t)
    (timings : givenFrom (timingAt? lines) lines i = t :: givenFrom (timingAt? lines) lines j)
    (others :
      givenFrom (otherAt? lines) lines i = p.skipped ++ givenFrom (otherAt? lines) lines j)
    (stands : StandsAt lines j p.scanner)

theorem getElem?_of_drop {rest : List (List Char)} (h : lines.drop i = line :: rest) :
    lines[i]? = some line ∧ lines.drop (i + 1) = rest := by
  constructor
  · rw [← List.head?_drop, h, List.head?_cons]
  · rw [← List.tail_drop, h, List.tail_cons]

/-- What a timing line gives. -/
theorem givenFrom_timing (h : lines[i]? = some line) (hrole : roleAt lines i = some .timing)
    (ht : ofLine? line = some t) :
    givenFrom (timingAt? lines) lines i =
        { t with throughput := throughputAt lines (i + 1) } ::
          givenFrom (timingAt? lines) lines (i + 1) ∧
      givenFrom (otherAt? lines) lines i = givenFrom (otherAt? lines) lines (i + 1) := by
  have hi := lt_length_of_getElem? h
  have htiming : timingAt? lines i = some { t with throughput := throughputAt lines (i + 1) } := by
    rw [timingAt?, if_pos hrole, h, Option.bind_some, ht, Option.map_some]
  have hother : otherAt? lines i = none := by
    rw [otherAt?, hrole]
    rfl
  rw [givenFrom_eq_append hi, givenFrom_eq_append hi, htiming, hother]
  exact ⟨rfl, rfl⟩

/-- A throughput line gives nothing by itself. -/
theorem givenFrom_throughput (h : lines[i]? = some line)
    (hrole : roleAt lines i = some .throughput) :
    givenFrom (timingAt? lines) lines i = givenFrom (timingAt? lines) lines (i + 1) ∧
      givenFrom (otherAt? lines) lines i = givenFrom (otherAt? lines) lines (i + 1) := by
  have hi := lt_length_of_getElem? h
  rw [givenFrom_eq_append hi, givenFrom_eq_append hi, timingAt?, otherAt?, hrole]
  exact ⟨rfl, rfl⟩

/-- Any other line is passed over. -/
theorem givenFrom_other (h : lines[i]? = some line) (hrole : roleAt lines i = some .other) :
    givenFrom (timingAt? lines) lines i = givenFrom (timingAt? lines) lines (i + 1) ∧
      givenFrom (otherAt? lines) lines i = line :: givenFrom (otherAt? lines) lines (i + 1) := by
  have hi := lt_length_of_getElem? h
  rw [givenFrom_eq_append hi, givenFrom_eq_append hi, timingAt?, otherAt?, hrole, h]
  exact ⟨rfl, rfl⟩

theorem not_throughput_succ (hrole : roleAt lines i ≠ some .timing) :
    roleAt lines (i + 1) ≠ some .throughput := by
  intro hnext
  cases h : lines[i + 1]? with
  | none =>
    rw [roleAt_eq_none h] at hnext
    cases hnext
  | some line =>
    rw [roleAt_eq_some h, Option.some_inj, roleAfter_eq_throughput_iff] at hnext
    exact hrole hnext.1

/-- A timing line has been found: the next line, if there is one, decides about its
throughput. -/
theorem finish_yields (h : lines[i]? = some line) (hrole : roleAt lines i = some .timing)
    (ht : ofLine? line = some t) :
    Yields lines i (Scanner.finish t ((lines.drop (i + 1)).map some)) := by
  obtain ⟨htimings, hothers⟩ := givenFrom_timing h hrole ht
  cases hdrop : lines.drop (i + 1) with
  | nil =>
    have hnext : roleAt lines (i + 1) = none :=
      roleAt_eq_none (List.getElem?_eq_none (List.drop_eq_nil_iff.mp hdrop))
    have hnone : throughputAt lines (i + 1) = t.throughput := by
      rw [throughputAt, hnext, throughput_ofLine? ht]
      rfl
    rw [hnone] at htimings
    refine .timing t (i + 1) rfl htimings hothers ⟨?_, ?_⟩
    · rw [hdrop]
      rfl
    · rw [hnext]
      intro e
      cases e
  | cons next rest =>
    obtain ⟨hline, hrest⟩ := getElem?_of_drop hdrop
    have hnext := roleAt_eq_throughput_iff hline
    rw [List.map_cons, Scanner.finish]
    split
    · next hmark =>
      -- the next line belongs to the timing, and the line after it follows no timing line
      have hthroughput : roleAt lines (i + 1) = some .throughput :=
        hnext.mpr ⟨⟨i, rfl, hrole⟩, isThroughput_eq_true_iff.mp hmark⟩
      obtain ⟨htimings', hothers'⟩ := givenFrom_throughput hline hthroughput
      have hannotated : { t with throughput := throughputAt lines (i + 1) } = annotate t next := by
        rw [throughputAt, if_pos hthroughput, hline]
        rfl
      rw [hannotated, htimings'] at htimings
      rw [hothers'] at hothers
      refine .timing _ (i + 2) rfl htimings hothers ⟨?_, not_throughput_succ ?_⟩
      · rw [hrest]
        rfl
      · rw [hthroughput]
        intro e
        cases e
    · next hmark =>
      -- the next line is kept, and is the first to be looked at on the next call
      have hother : roleAt lines (i + 1) ≠ some .throughput :=
        fun e => hmark (isThroughput_eq_true_iff.mpr (hnext.mp e).2)
      have hnone : throughputAt lines (i + 1) = t.throughput := by
        rw [throughputAt, if_neg hother, throughput_ofLine? ht]
      rw [hnone] at htimings
      refine .timing t (i + 1) rfl htimings hothers ⟨?_, hother⟩
      rw [hdrop]
      rfl

/-- Looking for a timing line from a place on that is not a throughput line. -/
theorem search_yields (source : List (Option (List Char)))
    (hsource : source = (lines.drop i).map some) (hrole : roleAt lines i ≠ some .throughput) :
    Yields lines i (Scanner.search source) := by
  induction source generalizing i with
  | nil =>
    have hlength := List.drop_eq_nil_iff.mp (List.map_eq_nil_iff.mp hsource.symm)
    exact .nothing rfl (givenFrom_of_le hlength) (givenFrom_of_le hlength)
  | cons a source ih =>
    obtain ⟨line, rest, hdrop, rfl, rfl⟩ := List.map_eq_cons_iff.mp hsource.symm
    obtain ⟨hline, hrest⟩ := getElem?_of_drop hdrop
    have halone := roleAt_of_ne_throughput hline hrole
    rw [Scanner.search]
    split
    · next t ht =>
      rw [ht] at halone
      rw [← hrest]
      exact finish_yields hline halone ht
    · next hnone =>
      rw [hnone] at halone
      obtain ⟨htimings, hothers⟩ := givenFrom_other hline halone
      have hnext : roleAt lines (i + 1) ≠ some .throughput := by
        refine not_throughput_succ ?_
        rw [halone]
        intro e
        cases e
      cases ih (by rw [hrest]) hnext with
      | nothing hyielded htimings' hothers' =>
        refine .nothing hyielded ?_ ?_
        · rw [htimings, htimings']
        · rw [hothers, hothers']
      | timing t j hyielded htimings' hothers' hstands =>
        refine .timing t j hyielded ?_ ?_ hstands
        · rw [htimings, htimings']
        · rw [hothers, hothers']
          rfl

/-- A call yields the first timing from the place on where the scanner stands. -/
theorem next_yields {s : Scanner} (h : StandsAt lines i s) : Yields lines i s.next := by
  rw [Scanner.next]
  have hahead := h.ahead
  split
  · next hpending =>
    rw [hpending] at hahead
    exact search_yields _ hahead h.not_throughput
  · next hpending =>
    rw [hpending] at hahead
    exact search_yields _ hahead h.not_throughput

/-! ### All calls -/

theorem run_of_none {s : Scanner} (h : s.next.timing = none) : s.run = ([], s.next.skipped) := by
  rw [Scanner.run]
  split
  · next hnext _ => rw [hnext]
  · next hnext _ =>
    rw [hnext] at h
    cases h

theorem run_of_some {s : Scanner} (h : s.next.timing = some t) :
    s.run = (t :: s.next.scanner.run.1, s.next.skipped ++ s.next.scanner.run.2) := by
  rw [Scanner.run]
  split
  · next hnext _ =>
    rw [hnext] at h
    cases h
  · next hnext _ =>
    rw [hnext] at h ⊢
    cases h
    rfl

/-- The calls from a place on yield the timings from there on, and pass over the lines that give
nothing. -/
theorem run_eq_givenFrom {s : Scanner} (h : StandsAt lines i s) :
    s.run = (givenFrom (timingAt? lines) lines i, givenFrom (otherAt? lines) lines i) := by
  -- each call that yields a timing leaves the scanner with less before it
  induction hn : s.size using Nat.strongRecOn generalizing s i with
  | ind n ih =>
    cases next_yields h with
    | nothing hyielded htimings hothers =>
      rw [run_of_none hyielded, htimings, hothers]
    | timing t j hyielded htimings hothers hstands =>
      have hless : s.next.scanner.size < n := by
        rw [← hn]
        refine Scanner.size_next_lt ?_
        rw [hyielded]
        rfl
      rw [run_of_some hyielded, ih _ hless hstands rfl, htimings, hothers]

theorem standsAt_ofLines (lines : List (List Char)) : StandsAt lines 0 (Scanner.ofLines lines) := by
  refine ⟨rfl, ?_⟩
  intro hrole
  cases h : lines[0]? with
  | none =>
    rw [roleAt_eq_none h] at hrole
    cases hrole
  | some line =>
    obtain ⟨⟨j, hj, -⟩, -⟩ := (roleAt_eq_throughput_iff h).mp hrole
    cases hj

theorem run_ofLines (lines : List (List Char)) :
    (Scanner.ofLines lines).run =
      ((List.range lines.length).filterMap (timingAt? lines),
        (List.range lines.length).filterMap (otherAt? lines)) := by
  rw [run_eq_givenFrom (standsAt_ofLines lines), givenFrom, givenFrom, Nat.sub_zero,
    List.range_eq_range']

theorem ofLines_eq_filterMap (lines : List (List Char)) :
    ofLines lines = (List.range lines.length).filterMap (timingAt? lines) := by
  rw [ofLines, run_ofLines]

/-! ### Lines that no report tells apart -/

/-- Two lines between which a report makes no difference. -/
structure Alike (a b : List Char) : Prop where
  ofLine?_eq : ofLine? a = ofLine? b
  mark_iff : throughputMark <:+: a ↔ throughputMark <:+: b
  trim_eq : Text.trim a = Text.trim b

theorem Alike.roleAfter_eq {a b : List Char} (h : Alike a b) (before : Option Role) :
    roleAfter before a = roleAfter before b := by
  rw [roleAfter, roleAfter, h.ofLine?_eq]
  simp only [h.mark_iff]

section

variable {g : List Char → List Char}

theorem roleAt_map (h : ∀ line, Alike (g line) line) (lines : List (List Char)) (i : Nat) :
    roleAt (lines.map g) i = roleAt lines i := by
  have hafter : ∀ before, roleAfter before ∘ g = roleAfter before := by
    intro before
    funext line
    exact (h line).roleAfter_eq before
  induction i with
  | zero => rw [roleAt, roleAt, List.getElem?_map, Option.map_map, hafter]
  | succ i ih => rw [roleAt, roleAt, List.getElem?_map, Option.map_map, ih, hafter]

theorem throughputAt_map (h : ∀ line, Alike (g line) line) (lines : List (List Char)) (i : Nat) :
    throughputAt (lines.map g) i = throughputAt lines i := by
  rw [throughputAt, throughputAt, roleAt_map h, List.getElem?_map, Option.map_map]
  simp only [Function.comp_def, (h _).trim_eq]

theorem timingAt?_map (h : ∀ line, Alike (g line) line) (lines : List (List Char)) (i : Nat) :
    timingAt? (lines.map g) i = timingAt? lines i := by
  rw [timingAt?, timingAt?, roleAt_map h, throughputAt_map h, List.getElem?_map]
  cases lines[i]? with
  | none => rfl
  | some line => rw [Option.map_some, Option.bind_some, Option.bind_some, (h line).ofLine?_eq]

/-- Lines may be replaced by others that are alike. -/
theorem ofLines_map (h : ∀ line, Alike (g line) line) (lines : List (List Char)) :
    ofLines (lines.map g) = ofLines lines := by
  rw [ofLines_eq_filterMap, ofLines_eq_filterMap, List.length_map]
  exact congrArg (List.filterMap · _) (funext (timingAt?_map h lines))

end

/-! ### The timings of a report -/

/-- **Every timing line gives one timing, in the order of the lines.** A line is a throughput line
if and only if it follows a timing line and has the mark; it is a timing line if and only if it
gives a timing by itself and is not a throughput line; the timing lines are those that give the
report a timing; the timings of a report are those, in order, each with the throughput line that
follows it, trimmed, if one does. So a line that gives a timing by itself and none to the report
has the mark and follows a timing line. -/
theorem ofLines_by_roles (lines : List (List Char)) :
    (∀ i line, lines[i]? = some line →
      (roleAt lines i = some .throughput ↔
        (∃ j, i = j + 1 ∧ roleAt lines j = some .timing) ∧ throughputMark <:+: line) ∧
      (roleAt lines i = some .timing ↔
        (ofLine? line).isSome = true ∧ roleAt lines i ≠ some .throughput)) ∧
    (∀ i, (timingAt? lines i).isSome = true ↔ roleAt lines i = some .timing) ∧
    ofLines lines = (List.range lines.length).filterMap (timingAt? lines) ∧
    ∀ i line, lines[i]? = some line → (ofLine? line).isSome = true → timingAt? lines i = none →
      (∃ j, i = j + 1 ∧ roleAt lines j = some .timing) ∧ throughputMark <:+: line := by
  refine ⟨fun i line h => ⟨roleAt_eq_throughput_iff h, roleAt_eq_timing_iff h⟩,
    fun i => isSome_timingAt?_iff, ofLines_eq_filterMap lines, fun i line h hline hnone => ?_⟩
  rw [← roleAt_eq_throughput_iff h]
  by_contra hrole
  have hsome := isSome_timingAt?_iff.mpr ((roleAt_eq_timing_iff h).mpr ⟨hline, hrole⟩)
  rw [hnone] at hsome
  cases hsome

/-- A line that gives a timing by itself may give the throughput of another; the line after it
then stands by itself again. -/
theorem ofLines_by_roles_lost :
    let lines := ["a time: [1 ns 2 ns 3 ns]", "b time: [1 ns 2 ns 3 ns] thrpt:",
      "c time: [1 ns 2 ns 3 ns] thrpt:", " thrpt: 7 "].map String.toList
    ((ofLines lines).map fun t => (t.name, t.throughput)) =
        [("a", some "b time: [1 ns 2 ns 3 ns] thrpt:"), ("c", some "thrpt: 7")] ∧
      ∃ j, 1 = j + 1 ∧ roleAt lines j = some .timing := by
  intro lines
  obtain ⟨-, -, htimings, hlost⟩ := ofLines_by_roles lines
  constructor
  · rw [htimings]
    decide +kernel
  · exact (hlost 1 _ rfl (by decide +kernel) (by decide +kernel)).1

end BenchReport.Timing
