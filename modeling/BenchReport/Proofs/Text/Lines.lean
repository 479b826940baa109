import BenchReport.Proofs.Text.Mending
import BenchReport.Text.Lines
import Mathlib.Data.List.TakeWhile

/-!
# Cutting and mending

Bytes can be cut at a separator below 0x80 and each piece mended, or mended as a whole and then
cut at the character of the separator: the pieces are the same (`cut_mend`). And what a text
ends with, as long as it is of the class that is trimmed, makes no difference to the trimmed
text.
-/

namespace BenchReport.Text

/-! ### Cutting -/

section

variable {α : Type} [DecidableEq α] {sep : α}

theorem cut_of_not_mem {s : List α} (h : sep ∉ s) : cut sep s = ([], s) := by
  induction s with
  | nil => rfl
  | cons a r ih =>
    rw [List.mem_cons, not_or] at h
    rw [cut, ih h.2]
    exact if_neg (Ne.symm h.1)

theorem cut_append_cons_eq (s rest : List α) :
    cut sep (s ++ sep :: rest)
      = ((cut sep s).1 ++ (cut sep s).2 :: (cut sep rest).1, (cut sep rest).2) := by
  induction s with
  | nil =>
    rw [List.nil_append, cut]
    exact if_pos rfl
  | cons a s ih =>
    rw [List.cons_append, cut, ih, cut]
    by_cases ha : a = sep
    · simp [ha]
    · cases hpieces : (cut sep s).1 with
      | nil => simp [ha, hpieces]
      | cons piece pieces => simp [ha, hpieces]

theorem not_mem_cut (s : List α) :
    (∀ piece ∈ (cut sep s).1, sep ∉ piece) ∧ sep ∉ (cut sep s).2 := by
  induction s with
  | nil => simp [cut]
  | cons a r ih =>
    obtain ⟨hpieces, hlast⟩ := ih
    rw [cut]
    dsimp only
    split
    · simpa [hlast] using hpieces
    · next ha =>
      cases hcut : (cut sep r).1 with
      | nil => simp [hlast, Ne.symm ha]
      | cons piece pieces =>
        rw [hcut] at hpieces
        simpa [hlast, Ne.symm ha] using hpieces

/-- Cutting is splitting, with the last piece kept apart. -/
theorem splitOn_eq_cut (s : List α) : s.splitOn sep = (cut sep s).1 ++ [(cut sep s).2] := by
  induction s with
  | nil => rfl
  | cons a s ih =>
    rw [List.splitOn_cons_eq_if_modifyHead, ih, cut]
    by_cases ha : a = sep
    · simp [ha]
    · cases hpieces : (cut sep s).1 with
      | nil => simp [ha, hpieces]
      | cons piece pieces => simp [ha, hpieces]

/-- No separator stands in what was split at it. -/
theorem not_mem_of_mem_splitOn {s piece : List α} (h : piece ∈ s.splitOn sep) : sep ∉ piece := by
  rw [splitOn_eq_cut] at h
  rcases List.mem_append.mp h with h | h
  · exact (not_mem_cut s).1 piece h
  · obtain rfl := List.mem_singleton.mp h
    exact (not_mem_cut s).2

theorem cut_append_cons {piece : List α} (h : sep ∉ piece) (rest : List α) :
    cut sep (piece ++ sep :: rest) = (piece :: (cut sep rest).1, (cut sep rest).2) := by
  rw [cut_append_cons_eq, cut_of_not_mem h, List.nil_append]

end

/-- Cutting the mended bytes at a character below 0x80 is cutting the bytes, and mending each
piece. -/
theorem cut_mend {sep : UInt8} (h : sep < 0x80) (bytes : List UInt8) :
    cut (Char.ofNat sep.toNat) (Utf8.mend bytes) =
      ((cut sep bytes).1.map Utf8.mend, Utf8.mend (cut sep bytes).2) := by
  induction hn : bytes.length using Nat.strongRecOn generalizing bytes with
  | ind n ih =>
    by_cases hmem : sep ∈ bytes
    · obtain ⟨piece, rest, rfl, hpiece⟩ := List.eq_append_cons_of_mem hmem
      have hpiece' : Char.ofNat sep.toNat ∉ Utf8.mend piece :=
        fun hc => hpiece ((Utf8.mem_mend_iff h).mp hc)
      have hless : rest.length < n := by
        rw [← hn, List.length_append, List.length_cons]
        omega
      rw [Utf8.mend_append_cons h, cut_append_cons hpiece', cut_append_cons hpiece,
        ih _ hless rest rfl, List.map_cons]
    · have hmem' : Char.ofNat sep.toNat ∉ Utf8.mend bytes :=
        fun hc => hmem ((Utf8.mem_mend_iff h).mp hc)
      rw [cut_of_not_mem hmem', cut_of_not_mem hmem, List.map_nil]

theorem lastPiece_mend (bytes : List UInt8) :
    lastPiece (Utf8.mend bytes) = (lastPiece bytes).map Utf8.mend := by
  by_cases h : bytes = []
  · rw [lastPiece, lastPiece, if_pos h, if_pos (Utf8.mend_eq_nil_iff.mpr h), List.map_nil]
  · rw [lastPiece, lastPiece, if_neg h, if_neg (mt Utf8.mend_eq_nil_iff.mp h), List.map_cons,
      List.map_nil]

/-! ### Trimming -/

variable {p : Char → Bool} {r : List Char}

theorem trimEndBy_append (hr : ∀ c ∈ r, p c = true) (s : List Char) :
    trimEndBy p (s ++ r) = trimEndBy p s := by
  have hr' : ∀ c ∈ r.reverse, p c = true := fun c hc => hr c (List.mem_reverse.mp hc)
  rw [trimEndBy, trimEndBy, List.reverse_append, List.dropWhile_append_of_pos hr']

/-- What is trimmed away is of the class. -/
theorem exists_trimEndBy_append (p : Char → Bool) (s : List Char) :
    ∃ r, (∀ c ∈ r, p c = true) ∧ trimEndBy p s ++ r = s := by
  refine ⟨(s.reverse.takeWhile p).reverse, ?_, ?_⟩
  · intro c hc
    exact List.mem_takeWhile_imp (List.mem_reverse.mp hc)
  · rw [trimEndBy, ← List.reverse_append, List.takeWhile_append_dropWhile, List.reverse_reverse]

/-- Blanks at the end make no difference to the trimmed text. -/
theorem trim_append (hr : ∀ c ∈ r, isBlank c = true) (s : List Char) :
    trim (s ++ r) = trim s := by
  rw [trim, trim, trimStart, trimStart, List.dropWhile_append]
  split
  · next hempty =>
    rw [List.isEmpty_iff.mp hempty, List.dropWhile_eq_nil_iff.mpr hr]
  · exact trimEndBy_append hr _

/-- What ends a line is at most one carriage return. -/
theorem exists_dropReturn_append (line : List Char) :
    ∃ r, (∀ c ∈ r, (c == '\r') = true) ∧ dropReturn line ++ r = line := by
  unfold dropReturn
  split
  · next r hline =>
    refine ⟨['\r'], ?_, ?_⟩
    · intro c hc
      rw [List.mem_singleton.mp hc]
      rfl
    · rw [← List.reverse_cons, ← hline, List.reverse_reverse]
  · exact ⟨[], fun c hc => absurd hc List.not_mem_nil, List.append_nil line⟩

end BenchReport.Text
