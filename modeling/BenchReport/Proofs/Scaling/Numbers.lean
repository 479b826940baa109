import BenchReport.Proofs.Decimal.Products
import BenchReport.Proofs.Snapshot.Readable

/-!
# The scaling holds numbers only

A measurement that was read from a text has a thread and a finite throughput, of any sign and size.
What a run is expected to reach is the throughput of the baseline by its threads and times those of
the run. Neither number of threads is zero or infinite, so the expectation is a number, though it may
be too large and become infinite. The throughput of the run is divided by the expectation only if
that is above zero, and is finite itself, so the quotient is a number as well, and so is the
percentage (`isNaN_point`). Only the kinds of the operands matter, and not their sizes.
-/

namespace BenchReport.Scaling

open Decimal (isNaN_mul_iff isNaN_div_iff isInf_iff isNaN_iff beq_zero_iff)

/-! ### Kinds of numbers -/

/-- Neither zero nor infinite nor undefined. -/
structure IsDivisor (x : Float) : Prop where
  isNaN_eq : x.isNaN = false
  isInf_eq : x.isInf = false
  beq_zero_eq : (x == 0.0) = false

/-- A number of threads is one to divide by. -/
theorem isDivisor_toFloat {n : UInt32} (h : 1 ≤ n) : IsDivisor n.toFloat := by
  have hpos : 0 < n.toNat := UInt32.le_iff_toNat_le.mp h
  have hunpack := Decimal.unpack_packed_ofNat hpos (n.toNat_lt.trans (by decide))
  have hpacked : n.toFloat
      = Decimal.packed (Float.Model.UnpackedFloat.ofNat .binary64 n.toNat) := rfl
  rw [← hpacked] at hunpack
  constructor <;> rw [Bool.eq_false_iff, ne_eq]
  · rw [isNaN_iff, hunpack]
    exact nofun
  · rw [isInf_iff, hunpack]
    exact nofun
  · rw [beq_zero_iff, hunpack]
    exact nofun

/-- What may be infinite but is a number remains one when it is multiplied by a divisor. -/
theorem IsDivisor.isNaN_mul {x y : Float} (hy : IsDivisor y) (hx : x.isNaN = false) :
    (x * y).isNaN = false := by
  rw [Bool.eq_false_iff, ne_eq, isNaN_mul_iff]
  simp only [hx, hy.isNaN_eq, hy.isInf_eq, hy.beq_zero_eq, Bool.false_eq_true, and_false, or_self,
    not_false_eq_true]

theorem IsDivisor.isNaN_div {x y : Float} (hy : IsDivisor y) (hx : x.isNaN = false) :
    (x / y).isNaN = false := by
  rw [Bool.eq_false_iff, ne_eq, isNaN_div_iff]
  simp only [hx, hy.isNaN_eq, hy.isInf_eq, hy.beq_zero_eq, Bool.false_eq_true, and_false, or_self,
    not_false_eq_true]

/-! ### Points -/

/-- The percentage of what is expected is a number, also if the expectation is infinite. -/
theorem isNaN_efficiency {throughput expected : Float} (hfinite : throughput.isFinite = true)
    (hexpected : expected.isNaN = false) : (efficiency throughput expected).isNaN = false := by
  unfold efficiency
  split
  · next hpos =>
    have hdivisor : IsDivisor 100.0 :=
      ⟨by decide +kernel, by decide +kernel, by decide +kernel⟩
    refine hdivisor.isNaN_mul ?_
    rw [Bool.eq_false_iff, ne_eq, isNaN_div_iff]
    simp only [hexpected, Decimal.isNaN_of_isFinite hfinite, Decimal.isInf_of_isFinite hfinite,
      Decimal.beq_zero_eq_false_of_pos hexpected hpos, Bool.false_eq_true, false_and, and_false,
      or_self, not_false_eq_true]
  · rfl

/-- The point of a run against a baseline, both with a thread and a finite throughput. -/
theorem isNaN_point {b m : Measurement} (hb : b.throughput.isFinite = true)
    (hbthreads : 1 ≤ b.threads) (hm : m.throughput.isFinite = true) (hmthreads : 1 ≤ m.threads) :
    (point (perThread b) m).expected.isNaN = false ∧
      (point (perThread b) m).efficiency.isNaN = false := by
  have hexpected : (perThread b * m.threads.toFloat).isNaN = false :=
    (isDivisor_toFloat hmthreads).isNaN_mul
      ((isDivisor_toFloat hbthreads).isNaN_div (Decimal.isNaN_of_isFinite hb))
  exact ⟨hexpected, isNaN_efficiency hm hexpected⟩

/-- **The scaling holds numbers only.** Let some texts be measurements. The expectation and the
efficiency of every run in their scaling are numbers, whatever the throughputs. -/
theorem scaling_has_numbers {texts : List (List Char)} {ms : List Measurement}
    (htexts : texts.map Measurement.ofText = ms.map .ok) :
    ∀ w ∈ ofGroups (byWorkload ms), ∀ p ∈ w.points,
      p.expected.isNaN = false ∧ p.efficiency.isNaN = false := by
  intro w hw p hp
  obtain ⟨b, hb, m, hm, rfl⟩ := exists_point_eq hw hp
  have hread (run : Measurement) (hrun : run ∈ ms) :
      run.throughput.isFinite = true ∧ 1 ≤ run.threads := by
    obtain ⟨text, htext⟩ := Measurement.exists_text htexts hrun
    exact ⟨Measurement.isFinite_of_ofText htext _ List.mem_cons_self,
      Measurement.one_le_threads_of_ofText htext⟩
  exact isNaN_point (hread b hb).1 (hread b hb).2 (hread m hm).1 (hread m hm).2

/-- The second of two runs with a throughput of `1e308` is expected to reach more than the greatest
number. What it reaches of that is a number nevertheless. -/
theorem scaling_has_numbers_great :
    ∃ ms, (Snapshot.pairTexts "1e308").map Measurement.ofText = ms.map .ok ∧
      ∃ w ∈ ofGroups (byWorkload ms), ∃ p ∈ w.points, p.expected.isInf = true ∧
        p.expected.isNaN = false ∧ p.efficiency.isNaN = false := by
  have hpair : Snapshot.pairWith "1e308" (fun a b =>
      ((points? [a, b]).getD []).any fun p => p.expected.isInf) = true := by decide +kernel
  obtain ⟨a, b, htexts, hkey, hthreads, hgreat⟩ := Snapshot.exists_of_pairWith hpair
  obtain ⟨p, hp, hinf⟩ := List.any_eq_true.mp hgreat
  refine ⟨[a, b], htexts, ?_⟩
  have hscaling : (Analysis.ofRecords ⟨.empty, [a, b]⟩).scaling = _ :=
    Snapshot.scaling_pair hkey hthreads
  cases hpoints : points? [a, b] with
  | none =>
    rw [hpoints] at hp
    exact absurd hp List.not_mem_nil
  | some points =>
    rw [hpoints] at hp hscaling
    have hw : ⟨a.key, points⟩ ∈ (Analysis.ofRecords ⟨.empty, [a, b]⟩).scaling := by
      rw [hscaling]
      exact List.mem_singleton.mpr rfl
    exact ⟨_, hw, p, hp, hinf, scaling_has_numbers htexts _ hw p hp⟩

end BenchReport.Scaling
