import BenchReport.Measurement.Text
import BenchReport.Proofs.Json.Yielded

/-!
# The numbers of a measurement are finite

Whatever text is read as a measurement, its throughput and its latencies are finite numbers
(`Measurement.isFinite_of_ofText`): a number that is too large makes the text malformed. And it has
a thread (`Measurement.one_le_threads_of_ofText`).
-/

namespace BenchReport

open Json (Field Reader need_bind_eq_ok_iff)

namespace Latencies

/-- The real numbers of latencies. -/
def reals (l : Latencies) : List Float := [l.min, l.max, l.mean, l.p50, l.p95, l.p99]

/-- The real numbers that latencies in the making have. -/
def Draft.reals (d : Draft) : List Float :=
  [d.min, d.max, d.mean, d.p50, d.p95, d.p99].flatMap Option.toList

theorem reader_yields : schema.reader.Yields fun l => ∀ x ∈ l.reals, x.isFinite = true := by
  refine Json.Schema.reader_yields (fun d => ∀ x ∈ d.reals, x.isFinite = true) ?_ ?_ ?_
  · simp [schema, Draft.reals]
  · intro f hf d hd
    simp only [schema, List.mem_cons, List.not_mem_nil, or_false] at hf
    rcases hf with rfl | rfl | rfl | rfl | rfl | rfl <;>
      refine Field.of_yields Reader.real_yields fun x hx => ?_ <;>
      simp_all [Draft.reals, or_imp, forall_and]
  · intro d l hd hl
    simp only [schema, need_bind_eq_ok_iff] at hl
    obtain ⟨min, hmin, max, hmax, mean, hmean, p50, hp50, p95, hp95, p99, hp99, hl⟩ := hl
    cases hl
    simp_all [Draft.reals, reals, or_imp, forall_and]

end Latencies

namespace Measurement

/-- The real numbers of a measurement. -/
def reals (m : Measurement) : List Float := m.throughput :: m.latencies.reals

/-- The real numbers that a measurement in the making has. -/
def Draft.reals (d : Draft) : List Float :=
  d.throughput.toList ++ d.latencies.toList.flatMap Latencies.reals

theorem reader_yields : schema.reader.Yields fun m => ∀ x ∈ m.reals, x.isFinite = true := by
  refine Json.Schema.reader_yields (fun d => ∀ x ∈ d.reals, x.isFinite = true) ?_ ?_ ?_
  · simp [schema, Draft.reals]
  · intro f hf d hd
    have hother {β : Type} {name : String} {get : Draft → Option β} {set : Draft → β → Draft}
        {r : Reader β} (hset : ∀ b, (set d b).reals = d.reals) :
        ((Field.of name get set r).reader d).Yields fun d => ∀ x ∈ d.reals, x.isFinite = true :=
      Field.of_yields r.yields_true fun b _ => (hset b).symm ▸ hd
    simp only [schema, List.mem_cons, List.not_mem_nil, or_false] at hf
    rcases hf with rfl | rfl | rfl | rfl | rfl | rfl | rfl | rfl
    · exact hother fun _ => rfl
    · exact hother fun _ => rfl
    · exact hother fun _ => rfl
    · exact hother fun _ => rfl
    · exact hother fun _ => rfl
    · exact hother fun _ => rfl
    · refine Field.of_yields Reader.real_yields fun x hx => ?_
      simp_all [Draft.reals, or_imp, forall_and]
    · refine Field.of_yields Latencies.reader_yields fun l hl => ?_
      simp_all [Draft.reals, or_imp, forall_and]
  · intro d m hd hm
    simp only [schema, need_bind_eq_ok_iff] at hm
    obtain ⟨_, _, _, _, _, _, _, _, _, _, _, _, throughput, hthroughput, hm⟩ := hm
    obtain ⟨latencies, hlatencies, hm⟩ := hm
    cases hm
    simp_all [Draft.reals, reals, or_imp, forall_and]

/-! ### Measurements that were read -/

section Read

variable {text : List Char} {m : Measurement}

theorem parse_of_ofText (h : ofText text = .ok m) :
    Json.parse schema.reader text = .ok m ∧ m.threads ≠ 0 := by
  rw [ofText] at h
  split at h
  · cases h
  · next hparse =>
    split at h
    · cases h
    · next hthreads =>
      cases h
      exact ⟨hparse, hthreads⟩

/-- **The numbers of a measurement are finite**, whatever text it was read from. -/
theorem isFinite_of_ofText (h : ofText text = .ok m) : ∀ x ∈ m.reals, x.isFinite = true :=
  reader_yields.of_parse (parse_of_ofText h).1

theorem one_le_threads_of_ofText (h : ofText text = .ok m) : 1 ≤ m.threads := by
  rw [UInt32.le_iff_toNat_le]
  exact Nat.pos_of_ne_zero fun hzero => (parse_of_ofText h).2 (UInt32.toNat_inj.mp hzero)

/-- Each measurement that was read from some texts was read from one of them. -/
theorem exists_text {texts : List (List Char)} {ms : List Measurement}
    (htexts : texts.map ofText = ms.map .ok) (hm : m ∈ ms) : ∃ text, ofText text = .ok m := by
  have hmem : Except.ok m ∈ texts.map ofText := htexts ▸ List.mem_map_of_mem hm
  obtain ⟨text, -, htext⟩ := List.mem_map.mp hmem
  exact ⟨text, htext⟩

end Read

end Measurement

end BenchReport
