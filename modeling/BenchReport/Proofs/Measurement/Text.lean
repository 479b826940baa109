import BenchReport.Proofs.Json.Printed
import BenchReport.Proofs.Json.Rewriting
import BenchReport.Measurement.Text

/-!
# Which texts are measurements

A value is a measurement if it is a record of eight fields with values of their types, one of which
is a record of the six latencies (`Measurement.ofTree?`). A text that holds one value is read as the
measurement that the value is; if that has no threads it is refused as such, and any other value is
malformed. The ways to write a measurement that leave the values of its fields alone, in the record
itself or in that of the latencies, are read alike (`ofText_written`).
-/

namespace BenchReport

open Json (Blanks Item Layout Member Slot Tree exists_need_error fillAll_of_length_ne mapM_congr
  once? once?_append_cons valuesOf_append valuesOf_cons_of_ne)
open Relation (EqvGen)

/-! ### Latencies -/

namespace Latencies

/-- The names of the fields. -/
def names : List String := ["min", "max", "mean", "p50", "p95", "p99"]

/-- The latencies of six numbers. -/
def ofFields? : List Tree → Option Latencies
  | [min, max, mean, p50, p95, p99] => do
    return ⟨← min.real?, ← max.real?, ← mean.real?, ← p50.real?, ← p95.real?, ← p99.real?⟩
  | _ => none

/-- The latencies that a value is: an object in which each of the six names occurs exactly once, or
a list of six elements, the values being numbers that are not too large. -/
def ofTree? (t : Tree) : Option Latencies := (t.fields? names).bind ofFields?

/-- The slots of the latencies. -/
def layout : Layout schema where
  slots := [
    .real "min" (·.min) (fun d x => { d with min := some x }) fun _ _ => rfl,
    .real "max" (·.max) (fun d x => { d with max := some x }) fun _ _ => rfl,
    .real "mean" (·.mean) (fun d x => { d with mean := some x }) fun _ _ => rfl,
    .real "p50" (·.p50) (fun d x => { d with p50 := some x }) fun _ _ => rfl,
    .real "p95" (·.p95) (fun d x => { d with p95 := some x }) fun _ _ => rfl,
    .real "p99" (·.p99) (fun d x => { d with p99 := some x }) fun _ _ => rfl]
  fields := rfl
  nodup := by decide
  apart := by simp [Slot.Apart, Slot.real]
  start := by simp [Slot.real, schema]
  ext := by
    rintro ⟨⟩ ⟨⟩ h
    simpa [Slot.real] using h
  whole := by
    intro d h
    dsimp only [schema]
    refine exists_need_error fun _ h₁ => exists_need_error fun _ h₂ => exists_need_error fun _ h₃ =>
      exists_need_error fun _ h₄ => exists_need_error fun _ h₅ => exists_need_error fun _ h₆ => ?_
    simp [Slot.real, h₁, h₂, h₃, h₄, h₅, h₆] at h

theorem ofFields?_of_length_ne {ts : List Tree} (h : ts.length ≠ 6) : ofFields? ts = none := by
  unfold ofFields?
  split
  · exact absurd rfl h
  · rfl

theorem layout_ofFields? (ts : List Tree) : layout.ofFields? ts = ofFields? ts := by
  by_cases hlength : ts.length = 6
  · match ts, hlength with
    | [min, max, mean, p50, p95, p99], _ =>
      rw [Layout.ofFields?, ofFields?]
      simp only [layout, Json.fillAll, Slot.fill, Slot.real]
      obtain _ | _ := min.real?
      · rfl
      obtain _ | _ := max.real?
      · rfl
      obtain _ | _ := mean.real?
      · rfl
      obtain _ | _ := p50.real?
      · rfl
      obtain _ | _ := p95.real?
      · rfl
      obtain _ | _ := p99.real?
      · rfl
      rfl
  · rw [ofFields?_of_length_ne hlength, Layout.ofFields?, fillAll_of_length_ne hlength]
    rfl

theorem reader_means : schema.reader.Means ofTree? :=
  layout.reader_means.congr fun t => by
    rw [Layout.meaning, ofTree?]
    exact Option.bind_congr fun ts _ => layout_ofFields? ts

end Latencies

/-! ### Measurements -/

namespace Measurement

/-- The names of the fields. -/
def names : List String :=
  ["workload_type", "threads", "duration_secs", "total_operations", "successful_operations",
    "failed_operations", "throughput_ops_per_sec", "latencies_ms"]

/-- The measurement of eight values: a string, a whole number of 32 bits, four of 64 bits, a number
and the latencies. -/
def ofFields? : List Tree → Option Measurement
  | [workload, threads, duration, total, successful, failed, throughput, latencies] => do
    return ⟨← workload.string?, ← threads.word32?, ← duration.word64?, ← total.word64?,
      ← successful.word64?, ← failed.word64?, ← throughput.real?, ← Latencies.ofTree? latencies⟩
  | _ => none

/-- The measurement that a value is: an object in which each of the eight names occurs exactly
once, or a list of eight elements, with values of their types. -/
def ofTree? (t : Tree) : Option Measurement := (t.fields? names).bind ofFields?

/-- The slots of a measurement. -/
def layout : Layout schema where
  slots := [
    .text "workload_type" (·.workload) (fun d x => { d with workload := some x }) fun _ _ => rfl,
    .word32 "threads" (·.threads) (fun d x => { d with threads := some x }) fun _ _ => rfl,
    .word64 "duration_secs" (·.duration) (fun d x => { d with duration := some x }) fun _ _ => rfl,
    .word64 "total_operations" (·.total) (fun d x => { d with total := some x }) fun _ _ => rfl,
    .word64 "successful_operations" (·.successful) (fun d x => { d with successful := some x })
      fun _ _ => rfl,
    .word64 "failed_operations" (·.failed) (fun d x => { d with failed := some x }) fun _ _ => rfl,
    .real "throughput_ops_per_sec" (·.throughput) (fun d x => { d with throughput := some x })
      fun _ _ => rfl,
    ⟨"latencies_ms", Latencies, (·.latencies), fun d x => { d with latencies := some x },
      Latencies.schema.reader, Latencies.ofTree?, Latencies.reader_means, fun _ _ => rfl⟩]
  fields := rfl
  nodup := by decide
  apart := by simp [Slot.Apart, Slot.text, Slot.word32, Slot.word64, Slot.real]
  start := by simp [Slot.text, Slot.word32, Slot.word64, Slot.real, schema]
  ext := by
    rintro ⟨⟩ ⟨⟩ h
    simpa [Slot.text, Slot.word32, Slot.word64, Slot.real] using h
  whole := by
    intro d h
    dsimp only [schema]
    refine exists_need_error fun _ h₁ => exists_need_error fun _ h₂ => exists_need_error fun _ h₃ =>
      exists_need_error fun _ h₄ => exists_need_error fun _ h₅ => exists_need_error fun _ h₆ =>
      exists_need_error fun _ h₇ => exists_need_error fun _ h₈ => ?_
    simp [Slot.text, Slot.word32, Slot.word64, Slot.real, h₁, h₂, h₃, h₄, h₅, h₆, h₇, h₈] at h

theorem ofFields?_of_length_ne {ts : List Tree} (h : ts.length ≠ 8) : ofFields? ts = none := by
  unfold ofFields?
  split
  · exact absurd rfl h
  · rfl

theorem layout_ofFields? (ts : List Tree) : layout.ofFields? ts = ofFields? ts := by
  by_cases hlength : ts.length = 8
  · match ts, hlength with
    | [workload, threads, duration, total, successful, failed, throughput, latencies], _ =>
      rw [Layout.ofFields?, ofFields?]
      simp only [layout, Json.fillAll, Slot.fill, Slot.text, Slot.word32, Slot.word64, Slot.real]
      obtain _ | _ := workload.string?
      · rfl
      obtain _ | _ := threads.word32?
      · rfl
      obtain _ | _ := duration.word64?
      · rfl
      obtain _ | _ := total.word64?
      · rfl
      obtain _ | _ := successful.word64?
      · rfl
      obtain _ | _ := failed.word64?
      · rfl
      obtain _ | _ := throughput.real?
      · rfl
      obtain _ | _ := Latencies.ofTree? latencies
      · rfl
      rfl
  · rw [ofFields?_of_length_ne hlength, Layout.ofFields?, fillAll_of_length_ne hlength]
    rfl

theorem reader_means : schema.reader.Means ofTree? :=
  layout.reader_means.congr fun t => by
    rw [Layout.meaning, ofTree?]
    exact Option.bind_congr fun ts _ => layout_ofFields? ts

/-! ### Other ways to write a measurement -/

/-- One way to write a measurement in place of another. -/
inductive Rewritten : Tree → Tree → Prop
  /-- The record is written otherwise. -/
  | record {t t' : Tree} (h : Json.Rewritten names t t') : Rewritten t t'
  /-- The latencies are written otherwise, in an object. -/
  | latencies {before after : List (Member Tree)} {m : Member Tree} {t t' : Tree} {close : Blanks}
      (hname : m.name? = some "latencies_ms") (h : Json.Rewritten Latencies.names t t') :
      Rewritten (.object (before ++ { m with value := t } :: after) close)
        (.object (before ++ { m with value := t' } :: after) close)
  /-- The latencies are written otherwise, as the last element of a list. -/
  | lastLatencies {items : List (Item Tree)} {i : Item Tree} {t t' : Tree} {close : Blanks}
      (h : Json.Rewritten Latencies.names t t') :
      Rewritten (.list (items ++ [{ i with value := t }]) close)
        (.list (items ++ [{ i with value := t' }]) close)

/-- What is made of eight values depends on the latencies that the last of them is. -/
theorem ofFields?_append_singleton {t t' : Tree} (h : Latencies.ofTree? t = Latencies.ofTree? t')
    (ts : List Tree) : ofFields? (ts ++ [t]) = ofFields? (ts ++ [t']) := by
  by_cases hlength : ts.length = 7
  · match ts, hlength with
    | [_, _, _, _, _, _, _], _ => simp only [List.cons_append, List.nil_append, ofFields?, h]
  · rw [ofFields?_of_length_ne (by simpa using hlength),
      ofFields?_of_length_ne (by simpa using hlength)]

/-- The members make a measurement by the latencies that the value of their name is. -/
theorem bind_ofFields?_latencies {t t' : Tree} (h : Latencies.ofTree? t = Latencies.ofTree? t')
    (ms ms' : List (String × Tree)) :
    (names.mapM (once? · (ms ++ ("latencies_ms", t) :: ms'))).bind ofFields?
      = (names.mapM (once? · (ms ++ ("latencies_ms", t') :: ms'))).bind ofFields? := by
  have hnames : names = names.dropLast ++ ["latencies_ms"] := rfl
  have hothers : names.dropLast.mapM (once? · (ms ++ ("latencies_ms", t) :: ms'))
      = names.dropLast.mapM (once? · (ms ++ ("latencies_ms", t') :: ms')) := by
    refine mapM_congr fun name hname => ?_
    have hne : "latencies_ms" ≠ name := by
      rintro rfl
      revert hname
      decide
    rw [once?, once?, valuesOf_append, valuesOf_append, valuesOf_cons_of_ne hne,
      valuesOf_cons_of_ne hne]
  rw [hnames, List.mapM_append, List.mapM_append, hothers]
  cases names.dropLast.mapM (once? · (ms ++ ("latencies_ms", t') :: ms')) with
  | none => rfl
  | some ts =>
    simp only [List.mapM_cons, List.mapM_nil, once?_append_cons]
    split
    · exact ofFields?_append_singleton h ts
    · rfl

theorem Rewritten.ofTree?_eq {t t' : Tree} (h : Rewritten t t') : ofTree? t = ofTree? t' := by
  cases h with
  | record h => rw [ofTree?, ofTree?, h.fields?_eq]
  | @latencies before after m t t' close hname h =>
    have hlatencies : Latencies.ofTree? t = Latencies.ofTree? t' := by
      rw [Latencies.ofTree?, Latencies.ofTree?, h.fields?_eq]
    have hnamed (u : Tree) :
        Member.named? { m with value := u } = some ("latencies_ms", u) := by
      rw [Member.named?, show Member.name? { m with value := u } = m.name? from rfl, hname]
      rfl
    rw [ofTree?, ofTree?, Tree.fields?, Tree.fields?]
    simp only [List.mapM_append, List.mapM_cons, hnamed]
    cases before.mapM Member.named? with
    | none => rfl
    | some ms =>
      cases after.mapM Member.named? with
      | none => rfl
      | some ms' => exact bind_ofFields?_latencies hlatencies ms ms'
  | @lastLatencies items i t t' close h =>
    have hlatencies : Latencies.ofTree? t = Latencies.ofTree? t' := by
      rw [Latencies.ofTree?, Latencies.ofTree?, h.fields?_eq]
    rw [ofTree?, ofTree?, Tree.fields?, Tree.fields?]
    simp only [List.length_append, List.length_singleton, List.map_append, List.map_singleton]
    split
    · exact ofFields?_append_singleton hlatencies _
    · rfl

/-! ### Texts -/

/-- The text of a value with blanks before and after it. -/
def textOf (before : Blanks) (t : Tree) (after : Blanks) : List Char :=
  before.chars ++ (t.text ++ after.chars)

theorem ofText_eq_ok_iff (before : Blanks) (t : Tree) (after : Blanks) (r : Measurement) :
    ofText (textOf before t after) = .ok r ↔ ofTree? t = some r ∧ r.threads ≠ 0 := by
  have hparse (m : Measurement) := reader_means.parse_eq_ok_iff before t after (a := m)
  rw [ofText, textOf]
  cases h : Json.parse schema.reader (before.chars ++ (t.text ++ after.chars)) with
  | error l =>
    rw [← hparse r, h]
    simp
  | ok m =>
    rw [(hparse m).mp h]
    by_cases hthreads : m.threads = 0
    · simp only [hthreads, if_true, reduceCtorEq, Option.some.injEq, false_iff, not_and, not_not]
      rintro rfl
      exact hthreads
    · simp only [hthreads, if_false, Except.ok.injEq, Option.some.injEq]
      constructor
      · rintro rfl
        exact ⟨rfl, hthreads⟩
      · exact And.left

theorem ofText_eq_noThreads_iff (before : Blanks) (t : Tree) (after : Blanks) :
    ofText (textOf before t after) = .error .noThreads
      ↔ ∃ r, ofTree? t = some r ∧ r.threads = 0 := by
  have hparse (m : Measurement) := reader_means.parse_eq_ok_iff before t after (a := m)
  rw [ofText, textOf]
  cases h : Json.parse schema.reader (before.chars ++ (t.text ++ after.chars)) with
  | error l => simp [← hparse, h]
  | ok m => simp [(hparse m).mp h]

theorem ofText_eq_malformed_iff (before : Blanks) (t : Tree) (after : Blanks) :
    (∃ l, ofText (textOf before t after) = .error (.malformed l)) ↔ ofTree? t = none := by
  have hparse (m : Measurement) := reader_means.parse_eq_ok_iff before t after (a := m)
  rw [ofText, textOf]
  cases h : Json.parse schema.reader (before.chars ++ (t.text ++ after.chars)) with
  | error l => simp [Option.eq_none_iff_forall_ne_some, ← hparse, h]
  | ok m =>
    rw [(hparse m).mp h]
    simp only [reduceCtorEq, iff_false]
    rintro ⟨l, hl⟩
    split at hl <;> cases hl

/-- **Which texts are measurements.** The text of a value is read as the measurement that the value
is, unless that has no threads; it is refused for that reason exactly if it is a measurement without
threads; and it is malformed exactly if the value is no measurement. Another way to write the
measurement is read as the same. -/
theorem ofText_written (before : Blanks) (t : Tree) (after : Blanks) :
    (∀ r, ofText (textOf before t after) = .ok r ↔ ofTree? t = some r ∧ r.threads ≠ 0) ∧
    (ofText (textOf before t after) = .error .noThreads
      ↔ ∃ r, ofTree? t = some r ∧ r.threads = 0) ∧
    ((∃ l, ofText (textOf before t after) = .error (.malformed l)) ↔ ofTree? t = none) ∧
    ∀ before' t' after', EqvGen Rewritten t t' →
      ∀ r, ofText (textOf before t after) = .ok r ↔ ofText (textOf before' t' after') = .ok r := by
  refine ⟨ofText_eq_ok_iff before t after, ofText_eq_noThreads_iff before t after,
    ofText_eq_malformed_iff before t after, fun before' t' after' h r => ?_⟩
  have heq : ofTree? t = ofTree? t' := by
    induction h with
    | rel t t' h => exact h.ofTree?_eq
    | refl t => rfl
    | symm t t' _ ih => exact ih.symm
    | trans t u v _ _ ih ih' => exact ih.trans ih'
  rw [ofText_eq_ok_iff, ofText_eq_ok_iff, heq]

/-- The values of a measurement in the order of its fields. -/
def fewValues : List Tree :=
  [.ofString "OLTP", .ofNat 4, .ofNat 10, .ofNat 100, .ofNat 99, .ofNat 1, .ofNat 10,
    .ofMembers 1 (Latencies.names.map fun name => (name, .ofNat 7))]

theorem ofText_written_reversed_listed :
    ∃ r, ofText (textOf .none (.ofMembers 0 (names.zip fewValues).reverse) .none) = .ok r ∧
      ofText (textOf .none (.ofItems 0 fewValues) .none) = .ok r := by
  have hrewritten : EqvGen Rewritten (.ofMembers 0 (names.zip fewValues).reverse)
      (.ofItems 0 fewValues) := by
    have hfields : (Tree.ofMembers 0 (names.zip fewValues)).fields? names = some fewValues :=
      Json.fields?_of_members? (Tree.members?_ofMembers 0 _) (by decide)
    refine .trans _ (.ofMembers 0 (names.zip fewValues)) _ (.rel _ _ (.record (.permuted ?_)))
      (.rel _ _ (.record (.listed ?_)))
    · simp only [List.map_reverse]
      exact List.reverse_perm _
    · rw [List.map_map]
      exact hfields.trans (congrArg some (List.map_id _).symm)
  have hread : (ofTree? (.ofItems 0 fewValues)).map (·.threads) = some 4 := by decide +kernel
  obtain ⟨r, hr, hthreads⟩ := Option.map_eq_some_iff.mp hread
  obtain ⟨-, -, -, hsame⟩ :=
    ofText_written .none (.ofMembers 0 (names.zip fewValues).reverse) .none
  obtain ⟨hok, -⟩ := ofText_written .none (.ofItems 0 fewValues) .none
  have hlist := (hok r).mpr ⟨hr, by rw [hthreads]; decide⟩
  exact ⟨r, (hsame .none _ .none hrewritten r).mpr hlist, hlist⟩

end Measurement

end BenchReport
